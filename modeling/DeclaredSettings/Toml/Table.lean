import DeclaredSettings.Value

/-!
Tables while a TOML document is read. A table may be written in several places, and what may
still be added to it depends on how it came about.
-/

namespace DeclaredSettings.Toml

/-- How a table came about. -/
inductive Origin where
  /-- It has a heading of its own, or is the whole document or an inline table. -/
  | headed
  /-- It lies on the way to a table with a heading. -/
  | passed
  /-- It lies on the way of a dotted key. -/
  | dotted
  deriving DecidableEq, Repr

/-- What is under a key: a finished value, a table, or the tables of an array so far. -/
inductive Node where
  | leaf (v : Value)
  | table (origin : Origin) (entries : List (String × Node))
  | tables (elements : List (List (String × Node)))

/-- The entries of a table that can still grow. -/
abbrev Branch := List (String × Node)

/-- A table under a key, as a way leads through it. A way of a heading opens every table but
a finished one, and the last table of an array; a way of a dotted key stops at a table that
has a heading. A table that is missing is made.
-/
def through? (way : Origin) (branch : Branch) (key : String)
    (change : Origin → Branch → Option Branch) : Option Branch :=
  match Entries.lookup key branch with
  | none => do
    return Entries.insert key (.table way (← change way [])) branch
  | some (.leaf _) => none
  | some (.table origin entries) =>
    if way = .dotted && origin = .headed then none
    else do return Entries.insert key (.table origin (← change origin entries)) branch
  | some (.tables elements) =>
    match elements.getLast? with
    | none => none
    | some last => do
      let changed ← change .headed last
      return Entries.insert key (.tables (elements.dropLast ++ [changed])) branch

/-- Changes the table at the end of a way. -/
def along? (way : Origin) (change : Origin → Branch → Option Branch)
    : List String → Origin → Branch → Option Branch
  | [], origin, branch => change origin branch
  | key :: keys, _, branch => through? way branch key (along? way change keys)

/-- Puts a value under a key that is still free. -/
def assign? (key : String) (v : Value) (branch : Branch) : Option Branch :=
  match Entries.lookup key branch with
  | some _ => none
  | none => some (Entries.insert key (.leaf v) branch)

/-- Puts a value under a dotted key. Beyond the first part the table has to be one that
dotted keys made.
-/
def assignDotted? (way : List String) (key : String) (v : Value) (origin : Origin)
    (branch : Branch) : Option Branch :=
  along? .dotted
    (fun origin branch =>
      if way ≠ [] && origin ≠ .dotted then none else assign? key v branch)
    way origin branch

/-- Gives a table a heading, which it may not have had before. -/
def head? (key : String) (branch : Branch) : Option Branch :=
  match Entries.lookup key branch with
  | none => some (Entries.insert key (.table .headed []) branch)
  | some (.table .passed entries) =>
    some (Entries.insert key (.table .headed entries) branch)
  | some _ => none

/-- Adds a table to an array of tables. -/
def push? (key : String) (branch : Branch) : Option Branch :=
  match Entries.lookup key branch with
  | none => some (Entries.insert key (.tables [[]]) branch)
  | some (.tables elements) =>
    some (Entries.insert key (.tables (elements ++ [[]])) branch)
  | some _ => none

mutual

/-- What is under a key, as a value. -/
def Node.toValue : Node → Value
  | .leaf v => v
  | .table _ entries => .ofEntries (entryValues entries)
  | .tables elements => .arr (tableValues elements)

/-- The entries of a table, as values. -/
def entryValues : List (String × Node) → List (String × Value)
  | [] => []
  | (key, node) :: entries => (key, node.toValue) :: entryValues entries

/-- The tables of an array, as values. -/
def tableValues : List (List (String × Node)) → List Value
  | [] => []
  | entries :: elements => .ofEntries (entryValues entries) :: tableValues elements

end

end DeclaredSettings.Toml
