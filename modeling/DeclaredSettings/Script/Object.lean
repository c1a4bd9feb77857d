import DeclaredSettings.Object.Object
import DeclaredSettings.Script.Step

/-!
How steps on settings and on objects run. A run is a value: the settings after it, what
happened in order, and how it ended. A block keeps what was done in it however it ends.
-/

namespace DeclaredSettings.Script

/-- A type of objects that scripts can name, with the values that its further fields have
in a new object.
-/
structure NamedType where
  type : ObjectType
  otherFields : Value

/-- The text of an object: its type and its settings. -/
def objectText (t : ObjectType) (s : Settings) : String :=
  "<" ++ t.owner ++ " " ++ s.toValue.text ++ ">"

/-- Lays settings over an object's own, and logs how many. -/
def configured (t : ObjectType) (given s : Settings) : Settings × Event :=
  (s.merge given, .configuring t.owner given.size)

/-- Fills settings in, and logs how many were given. -/
def filledIn (t : ObjectType) (given s : Settings) : Settings × Event :=
  (s.reverseMerge given, .fillingIn t.owner given.size)

/-- Does a step on settings. -/
def Edit.run (held : String → Option Settings) (others : String → Option Settings)
    (s : Settings) : Edit → Answer × Settings
  | .get key => (.option (s.get key), s)
  | .containsKey key => (.truth (s.containsKey key), s)
  | .assign key value => ((s.assign key value).map .option id)
  | .insert key value => ((s.insert key value).map .option id)
  | .remove key => ((s.remove key).map .option id)
  | .merge source =>
    match source.read held with
    | .ok given => (.nothing, s.merge given)
    | .error fault => (fault.answer, s)
  | .reverseMerge source =>
    match source.read held with
    | .ok given => (.nothing, s.reverseMerge given)
    | .error fault => (fault.answer, s)
  | .keys => (.names s.keys, s)
  | .entries => (.pairs s.entries, s)
  | .size => (.count s.size, s)
  | .isEmpty => (.truth s.isEmpty, s)
  | .mapping => (.value s.toValue, s)
  | .text => (.text s.toValue.text, s)
  | .reload => (.nothing, s.reload)
  | .clear => (.nothing, .empty)
  | .same register =>
    match others register with
    | some other => (.truth (s.same other), s)
    | none => (.complaint .noSuchRegister, s)
  | .unknown => (.complaint .noSuchStep, s)

/-- How a step ends: it is done, it is done and its block fails, or it panics. -/
inductive Ending where
  | done (answer : Answer)
  | failed (answer : Answer) (error : String)
  | panicked (text : String)

/-- How a block ends. -/
inductive BlockEnding where
  | finished
  | failed (error : String)
  | panicked (text : String)

/-- What a run leaves: the settings after it, what happened, and how it ended. -/
structure Run (ε : Type) where
  settings : Settings
  trace : List Entry
  ending : ε

/-- What a script has besides the object that a step runs on. -/
structure Surroundings where
  /-- The settings in a register, plain ones and those of objects. -/
  held : String → Option Settings
  /-- The plain settings in a register. -/
  plain : String → Option Settings

/-- How a step ends that passes a failure of its block over. -/
def plainEnding (t : ObjectType) (run : Run BlockEnding) : Ending :=
  match run.ending with
  | .panicked text => .panicked text
  | _ => .done (.text (objectText t run.settings))

/-- How a step ends that answers with the failure of its block, and fails with it if
`propagate` says so.
-/
def tryEnding (t : ObjectType) (propagate : Bool) (run : Run BlockEnding) : Ending :=
  match run.ending with
  | .finished => .done (.attempt (.ok (objectText t run.settings)))
  | .failed error =>
    if propagate then .failed (.attempt (.error error)) error
    else .done (.attempt (.error error))
  | .panicked text => .panicked text

variable (around : Surroundings) (named : NamedType)

mutual

/-- Does a step on an object, at a depth of blocks. -/
def Step.run (depth : Nat) (s : Settings) : Step → Run Ending
  | .set key value =>
    let (current, after, events) := named.type.setThrough key value s
    ⟨after, events.map .logged, .done (.option current)⟩
  | .call method value =>
    match named.type.accessor? method with
    | some (declaring, ⟨_, .setter, key⟩) =>
      let (current, after, events) := declaring.setThrough key value s
      ⟨after, events.map .logged, .done (.option current)⟩
    | _ => ⟨s, [], .done .noAccessor⟩
  | .reader key =>
    match named.type.accessor? (Accessor.readerName key) with
    | some (_, ⟨_, .reader, key⟩) => ⟨s, [], .done (.option (s.get key))⟩
    | _ => ⟨s, [], .done .noAccessor⟩
  | .get key => ⟨s, [], .done (.option (s.get key))⟩
  | .mapping => ⟨s, [], .done (.value s.toValue)⟩
  | .basePart =>
    match named.type.base? with
    | some base => ⟨s, [], .done (.text (objectText base s))⟩
    | none => ⟨s, [], .done .nothing⟩
  | .otherFields => ⟨s, [], .done (.value named.otherFields)⟩
  | .schema key =>
    let schema := named.type.schema
    ⟨s, [], .done (.schema schema (schema.contains key))⟩
  | .settings edit =>
    let (answer, after) := edit.run around.held around.plain s
    ⟨after, [], .done answer⟩
  | .extract none => ⟨s, [], .done (.complaint .noSuchView)⟩
  | .extract (some view) =>
    match s.extract view with
    | .ok v => ⟨s, [], .done (.extracted v)⟩
    | .error why => ⟨s, [], .done (.error why)⟩
  | .safely (.ok v) => ⟨s, [], .done (.option (some v))⟩
  | .safely (.error error) => ⟨s, [.logged (.suppressed error)], .done (.option none)⟩
  | .dump values =>
    let dumped := (values ++ values.take 1).map fun v => Entry.logged (.dumped v.shown)
    ⟨s, dumped, .done .nothing⟩
  | .configure source =>
    match source.read around.held with
    | .error fault => ⟨s, [], .done fault.answer⟩
    | .ok given =>
      let (after, event) := configured named.type given s
      ⟨after, [.logged event], .done (.text (objectText named.type after))⟩
  | .reverseMerge source =>
    match source.read around.held with
    | .error fault => ⟨s, [], .done fault.answer⟩
    | .ok given =>
      let (after, event) := filledIn named.type given s
      ⟨after, [.logged event], .done (.text (objectText named.type after))⟩
  | .configureWith block =>
    let run := runBlock (depth + 1) s block
    ⟨run.settings, run.trace, plainEnding named.type run⟩
  | .configureFrom source block =>
    match source.read around.held with
    | .error fault => ⟨s, [], .done fault.answer⟩
    | .ok given =>
      let (after, event) := configured named.type given s
      let run := runBlock (depth + 1) after block
      ⟨run.settings, .logged event :: run.trace, plainEnding named.type run⟩
  | .tryConfigureWith propagate block =>
    let run := runBlock (depth + 1) s block
    ⟨run.settings, run.trace, tryEnding named.type propagate run⟩
  | .tryConfigureFrom propagate source block =>
    match source.read around.held with
    | .error fault => ⟨s, [], .done fault.answer⟩
    | .ok given =>
      let (after, event) := configured named.type given s
      let run := runBlock (depth + 1) after block
      ⟨run.settings, .logged event :: run.trace, tryEnding named.type propagate run⟩
  | .fail error => ⟨s, [], .failed .nothing error⟩
  | .panic text => ⟨s, [], .panicked text⟩
  | .unknown => ⟨s, [], .done (.complaint .noSuchStep)⟩

/-- Does the steps of a block until one fails or panics. A step that panics leaves no entry
of its own.
-/
def runBlock (depth : Nat) (s : Settings) : List (Value × Step) → Run BlockEnding
  | [] => ⟨s, [], .finished⟩
  | (label, step) :: block =>
    let first := step.run depth s
    let entry answer :=
      Entry.finished depth label answer (some (objectText named.type first.settings))
    match first.ending with
    | .done answer =>
      let others := runBlock depth first.settings block
      ⟨others.settings, first.trace ++ entry answer :: others.trace, others.ending⟩
    | .failed answer error =>
      ⟨first.settings, first.trace ++ [entry answer], .failed error⟩
    | .panicked text => ⟨first.settings, first.trace, .panicked text⟩

end

end DeclaredSettings.Script
