import DeclaredSettings.Script.NamedType

/-!
Scripts: commands that make and copy settings and objects in registers, and steps on what a
register holds. A command that panics ends there; what it did before stays.
-/

namespace DeclaredSettings.Script

/-- What a register holds. -/
inductive Held where
  | settings (s : Settings)
  | object (named : NamedType) (s : Settings)

namespace Held

/-- The settings that are held. -/
def contents : Held → Settings
  | settings s => s
  | object _ s => s

/-- The settings that are held as such, and not by an object. -/
def plain? : Held → Option Settings
  | settings s => some s
  | object .. => none

/-- The text of what is held. -/
def text : Held → String
  | settings s => s.toValue.text
  | object named s => objectText named.type s

end Held

/-- What the registers hold. -/
abbrev Registers := List (String × Held)

/-- What a script has besides one register. -/
def surroundings (registers : Registers) : Surroundings where
  held name := (Entries.lookup name registers).map Held.contents
  plain name := (Entries.lookup name registers).bind Held.plain?

/-- What a command does with its register. -/
inductive Action where
  /-- Makes settings, or an object of a type, from a source or from nothing. -/
  | new (type : String) (source : Option Source)
  /-- Copies the settings of another register. -/
  | copy (other : String)
  /-- Does a step; `edit` is what it means for settings and `step` for an object. -/
  | step (edit : Edit) (step : Step)

/-- A command of a script. -/
structure Command where
  label : Value
  register : String
  action : Action

/-- What a new register holds, or why there is none. -/
def made (type : String) (given : Except SourceFault Settings) : Except Answer Held :=
  match given with
  | .error fault => .error fault.answer
  | .ok s =>
    if type = "Settings" then .ok (.settings s)
    else
      match NamedType.ofName? type with
      | some named => .ok (.object named s)
      | none => .error (.complaint .noSuchType)

/-- The label of a command on no object: no text counts as the empty one. -/
def Command.plainLabel (command : Command) : Value :=
  match command.label with
  | .str s => .str s
  | _ => .str ""

/-- The step of a command on what its register holds. The register itself is out of reach
of the sources meanwhile.
-/
def Command.runStep (command : Command) (edit : Edit) (step : Step) (held : Held)
    (others : Registers) : Held × List Entry :=
  let around := surroundings others
  match held with
  | .settings s =>
    let (answer, after) := edit.run around.held around.plain s
    let held := Held.settings after
    (held, [.finished 0 command.plainLabel answer (some held.text)])
  | .object named s =>
    let run := step.run around named 0 s
    let held := Held.object named run.settings
    let answer :=
      match run.ending with
      | .done answer => answer
      | .failed answer _ => answer
      | .panicked text => .panicked text
    (held, run.trace ++ [.finished 0 command.label answer (some held.text)])

/-- Runs a command, which changes its own register only. -/
def Command.run (registers : Registers) (command : Command) : Registers × List Entry :=
  let finished (answer : Answer) (state : Option String) : List Entry :=
    [.finished 0 command.plainLabel answer state]
  match command.action with
  | .new type source =>
    let given :=
      match source with
      | none => .ok .empty
      | some source => source.read (surroundings registers).held
    match made type given with
    | .ok held =>
      (Entries.insert command.register held registers, finished .nothing (some held.text))
    | .error answer => (registers, finished answer none)
  | .copy other =>
    match Entries.lookup other registers with
    | some held =>
      let copied := Held.settings held.contents
      (Entries.insert command.register copied registers,
        finished .nothing (some copied.text))
    | none => (registers, finished (.complaint .noSuchRegister) none)
  | .step edit step =>
    match Entries.lookup command.register registers with
    | none => (registers, finished (.complaint .noSuchRegister) none)
    | some held =>
      let (held, trace) :=
        command.runStep edit step held (Entries.erase command.register registers)
      (Entries.insert command.register held registers, trace)

/-- What happens when a script runs, in order. -/
def run (registers : Registers) : List Command → List Entry
  | [] => []
  | command :: commands =>
    let (registers, trace) := command.run registers
    trace ++ run registers commands

end DeclaredSettings.Script
