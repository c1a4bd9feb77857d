import DeclaredSettings.Name
import DeclaredSettings.Value

/-!
Settings: a finite map from canonical names to values. Each operation that takes a name
takes any spelling of it; the two ways of merging take the names of the other settings as
they are.
-/

namespace DeclaredSettings

/-- A mapping as it comes from outside: entries in ascending order of keys of any form. -/
structure Mapping where
  entries : List (String × Value)
  ascending : Entries.Ascending entries

/-- The mapping of these entries; of several with one key the last stays. -/
def Mapping.ofList (entries : List (String × Value)) : Mapping :=
  ⟨Entries.insertAll [] entries, Entries.ascending_insertAll Entries.ascending_nil entries⟩

/-- The mapping that a value is, if it is an object. -/
def Value.toMapping? : Value → Option Mapping
  | .obj entries => some (.ofList entries)
  | _ => none

/-- Values under canonical names, in ascending order of the names. -/
structure Settings extends Mapping where
  tidy : ∀ e ∈ entries, IsTidy e.1

namespace Settings

/-- No settings. -/
def empty : Settings :=
  ⟨⟨[], Entries.ascending_nil⟩, nofun⟩

/-- The value under a name. -/
def get (s : Settings) (key : String) : Option Value :=
  Entries.lookup (canonical key) s.entries

/-- Whether there is a value under a name; a stored null is one. -/
def containsKey (s : Settings) (key : String) : Bool :=
  (s.get key).isSome

/-- The settings with a value put under a name, null too. -/
def put (s : Settings) (key : String) (value : Value) : Settings where
  entries := Entries.insert (canonical key) value s.entries
  ascending := Entries.ascending_insert s.ascending _ _
  tidy e he := by
    rcases Entries.mem_insert he with rfl | he
    · exact isTidy_canonical key
    · exact s.tidy e he

/-- The settings without a name. -/
def erase (s : Settings) (key : String) : Settings where
  entries := Entries.erase (canonical key) s.entries
  ascending := Entries.ascending_erase s.ascending _
  tidy e he := s.tidy e (List.mem_filter.mp he).1

/-- Puts a value under a name, and returns what was there. -/
def insert (s : Settings) (key : String) (value : Value) : Option Value × Settings :=
  (s.get key, s.put key value)

/-- Puts a value under a name unless it is null, and returns what is there then. -/
def assign (s : Settings) (key : String) (value : Value) : Option Value × Settings :=
  let after := if value.isNull then s else s.put key value
  (after.get key, after)

/-- Takes a name out, and returns what was there. -/
def remove (s : Settings) (key : String) : Option Value × Settings :=
  (s.get key, s.erase key)

/-- Lays other settings over these: every value of the other ones replaces. -/
def merge (s other : Settings) : Settings where
  entries := Entries.insertAll s.entries other.entries
  ascending := Entries.ascending_insertAll s.ascending _
  tidy e he := (Entries.mem_insertAll he).elim (s.tidy e) (other.tidy e)

/-- Fills in from other settings: only names that are not yet there are taken. -/
def reverseMerge (s other : Settings) : Settings where
  entries := Entries.fillAll s.entries other.entries
  ascending := Entries.ascending_fillAll s.ascending _
  tidy e he := (Entries.mem_fillAll he).elim (s.tidy e) (other.tidy e)

/-- The names in ascending order. -/
def keys (s : Settings) : List String :=
  s.entries.map (·.1)

/-- The number of names. -/
def size (s : Settings) : Nat :=
  s.entries.length

/-- Whether there are no settings. -/
def isEmpty (s : Settings) : Bool :=
  s.entries.isEmpty

/-- The settings as an object. -/
def toValue (s : Settings) : Value :=
  .obj s.entries

/-- Equality of settings, by equality of values. -/
def same (s other : Settings) : Bool :=
  s.toValue == other.toValue

/-- The settings of a list of pairs, put in one after the other. -/
def ofPairs (pairs : List (String × Value)) : Settings :=
  pairs.foldl (fun s e => s.put e.1 e.2) empty

/-- Whether a key is its own canonical spelling, seen by its length in bytes alone. -/
def isShortestSpelling (key : String) : Bool :=
  (canonical key).utf8ByteSize = key.utf8ByteSize

/-- The settings of a mapping. It is taken over as it is if no key can be shortened, and
entry by entry, in the order of the keys as they come, if one can.
-/
def ofMapping (m : Mapping) : Settings :=
  if h : ∀ e ∈ m.entries, isShortestSpelling e.1 then
    { m with
      tidy := fun e he => by
        have := canonical_eq_of_size_eq (of_decide_eq_true (h e he))
        exact this ▸ isTidy_canonical e.1 }
  else ofPairs m.entries

/-- The settings of an object, written out and read in again. -/
def reload (s : Settings) : Settings :=
  ofMapping s.toMapping

end Settings

end DeclaredSettings
