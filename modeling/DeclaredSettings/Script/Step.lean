import DeclaredSettings.Object.Event
import DeclaredSettings.Schema
import DeclaredSettings.Settings.Error

/-!
The steps of a script: what can be done with settings and with objects, where the settings
for a step come from, and what a step answers.
-/

namespace DeclaredSettings.Script

/-- Why a step of a script makes no sense. -/
inductive Complaint where
  | noSuchStep
  | noSuchRegister
  | noSuchType
  | noSuchSource
  | noSource
  | noSuchView
  deriving DecidableEq, Repr

/-- Where settings come from. -/
inductive Source where
  | json (text : String)
  | toml (text : String)
  | value (v : Value)
  /-- Pairs in any order. -/
  | pairs (entries : List (String × Value))
  /-- A mapping that is taken over as a whole. -/
  | mapping (m : Mapping)
  /-- A mapping whose entries are put in one by one. -/
  | entrywise (m : Mapping)
  /-- The settings in a register. -/
  | register (name : String)
  /-- No source is given. -/
  | missing
  /-- A source of no known kind is given. -/
  | unknown

/-- Why a source gives no settings. -/
inductive SourceFault where
  | complaint (why : Complaint)
  | error (why : Settings.Error)

/-- The settings of a source. Registers are looked up in `held`. -/
def Source.read (held : String → Option Settings) : Source → Except SourceFault Settings
  | json text => (Settings.ofJson text).mapError .error
  | toml text => (Settings.ofToml text).mapError .error
  | value v => (Settings.ofValue v).mapError .error
  | pairs entries => .ok (.ofPairs entries)
  | mapping m => .ok (.ofMapping m)
  | entrywise m => .ok (.ofPairs m.entries)
  | register name =>
    match held name with
    | some s => .ok s
    | none => .error (.complaint .noSuchRegister)
  | missing => .error (.complaint .noSource)
  | unknown => .error (.complaint .noSuchSource)

/-- A step on settings. -/
inductive Edit where
  | get (key : String)
  | containsKey (key : String)
  | assign (key : String) (value : Value)
  | insert (key : String) (value : Value)
  | remove (key : String)
  | merge (source : Source)
  | reverseMerge (source : Source)
  | keys
  | entries
  | size
  | isEmpty
  | mapping
  | text
  | reload
  | clear
  | same (register : String)
  | unknown

/-- A step on an object. A block is a list of steps, each under the label that the script
gives it, which may be any value.
-/
inductive Step where
  | set (key : String) (value : Value)
  /-- Calls the setter of this name. -/
  | call (method : String) (value : Value)
  /-- Calls the reader of this key. -/
  | reader (key : String)
  | get (key : String)
  | mapping
  | basePart
  | otherFields
  | schema (key : String)
  | settings (edit : Edit)
  | extract (view : Option View)
  /-- Asks for the result of something that may fail, passing a failure over. -/
  | safely (result : Except String Value)
  | dump (values : List Value)
  | configure (source : Source)
  | reverseMerge (source : Source)
  | configureWith (block : List (Value × Step))
  | configureFrom (source : Source) (block : List (Value × Step))
  /-- Runs a block that may fail, and fails with it if `propagate` says so. -/
  | tryConfigureWith (propagate : Bool) (block : List (Value × Step))
  | tryConfigureFrom (propagate : Bool) (source : Source)
      (block : List (Value × Step))
  | fail (error : String)
  | panic (text : String)
  | unknown

instance : Inhabited Step := ⟨.unknown⟩

/-- A block of steps on an object. -/
abbrev Block := List (Value × Step)

/-- What a step answers. -/
inductive Answer where
  | nothing
  | option (v : Option Value)
  | truth (b : Bool)
  | count (n : Nat)
  | names (names : List String)
  | pairs (entries : List (String × Value))
  | value (v : Value)
  | text (s : String)
  | schema (schema : Schema) (contains : Bool)
  | extracted (v : Value)
  | attempt (result : Except String String)
  | noAccessor
  | complaint (why : Complaint)
  | error (why : Settings.Error)
  | panicked (text : String)

/-- The answer of a step whose source gives no settings. -/
def SourceFault.answer : SourceFault → Answer
  | complaint why => .complaint why
  | error why => .error why

/-- What happens while a script runs. -/
inductive Entry where
  /-- A step is done: how deep it stands in blocks, its label, its answer, and the state
  after it, if there is one.
  -/
  | finished (depth : Nat) (label : Value) (answer : Answer)
      (state : Option String)
  | logged (event : Event)

end DeclaredSettings.Script
