import DeclaredSettings.Schema
import DeclaredSettings.Value.Entries

/-!
Schemas under the names of registers, and the steps that make and change them. A step
changes one register only, so schemas that were made from one another stay independent.
-/

namespace DeclaredSettings.Schema

/-- The schemas that are in use, by register. -/
abbrev Registry := List (String × Schema)

/-- A step on one register. -/
inductive Step where
  | new (owner : String) (names : List Name)
  | default
  | declare (names : List Name)
  | extend (parent : String) (owner : String) (names : List Name)
  | contains (spelling : String)
  | eq (other : String)
  | unknown
  deriving Repr

/-- Why a step cannot be done. -/
inductive Refusal where
  | noSuchRegister
  | noSuchStep
  deriving DecidableEq, Repr

/-- What a step answers. -/
inductive Answer where
  | done
  | truth (b : Bool)
  | refused (why : Refusal)
  deriving DecidableEq, Repr

/-- Does a step on a register. -/
def Step.run (registry : Registry) (on : String) : Step → Answer × Registry
  | .new owner names => (.done, Entries.insert on (.new owner names) registry)
  | .default => (.done, Entries.insert on .default registry)
  | .extend parent owner names =>
    match Entries.lookup parent registry with
    | none => (.refused .noSuchRegister, registry)
    | some schema =>
      (.done, Entries.insert on (schema.extend owner names) registry)
  | .declare names =>
    match Entries.lookup on registry with
    | none => (.refused .noSuchRegister, registry)
    | some schema => (.done, Entries.insert on (schema.declare names) registry)
  | .contains spelling =>
    match Entries.lookup on registry with
    | none => (.refused .noSuchRegister, registry)
    | some schema => (.truth (schema.contains spelling), registry)
  | .eq other =>
    match Entries.lookup on registry with
    | none => (.refused .noSuchRegister, registry)
    | some schema => (.truth (Entries.lookup other registry = some schema), registry)
  | .unknown =>
    match Entries.lookup on registry with
    | none => (.refused .noSuchRegister, registry)
    | some _ => (.refused .noSuchStep, registry)

/-- Does steps one after the other, and gives for each its answer and the register after
it.
-/
def runAll (registry : Registry) : List (String × Step) → List (Answer × Option Schema)
  | [] => []
  | (on, step) :: steps =>
    let (answer, registry) := step.run registry on
    (answer, Entries.lookup on registry) :: runAll registry steps

end DeclaredSettings.Schema
