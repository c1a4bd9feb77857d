import Mathlib.Logic.Function.Basic
import DeclaredSettings.Settings
import DeclaredSettings.Proofs.Entries.LookupLaws
import DeclaredSettings.Proofs.Name.SymbolSpelling

/-! Settings seen as a map from stored names to values. Every operation has an equation
for this map, and the map determines the settings.
-/

namespace DeclaredSettings.Settings

/-- The value stored under a name, which is taken as it is and not as a spelling. -/
def valueAt (s : Settings) (name : String) : Option Value :=
  Entries.lookup name s.entries

/-- A look-up by a spelling finds what is stored under its canonical form. -/
theorem get_eq_valueAt (s : Settings) (key : String)
    : s.get key = s.valueAt (canonical key) :=
  rfl

theorem isTidy_of_mem_keys {s : Settings} {name : String} (h : name ∈ s.keys)
    : IsTidy name := by
  obtain ⟨e, he, rfl⟩ := List.mem_map.mp h
  exact s.tidy e he

theorem mem_keys_iff (s : Settings) (name : String)
    : name ∈ s.keys ↔ (s.valueAt name).isSome :=
  Entries.mem_keys_iff_lookup s.ascending

theorem keys_ascending (s : Settings) : s.keys.Pairwise (· < ·) :=
  List.pairwise_map.mpr s.ascending

theorem keys_nodup (s : Settings) : s.keys.Nodup := by
  apply s.keys_ascending.imp
  intro key other hlt heq
  exact String.lt_irrefl other (heq ▸ hlt)

theorem mem_entries_iff (s : Settings) (name : String) (value : Value)
    : (name, value) ∈ s.entries ↔ s.valueAt name = some value :=
  ⟨Entries.lookup_of_mem s.ascending, Entries.mem_of_lookup⟩

/-- Every spelling of a listed name finds the value that is listed with it. -/
theorem get_of_mem {s : Settings} {spelling key : String} {value : Value}
    (hspelling : canonical spelling = key) (h : (key, value) ∈ s.entries)
    : s.get spelling = some value := by
  rw [get_eq_valueAt, hspelling]
  exact (s.mem_entries_iff key value).mp h

/-- Erasing by any spelling of a listed name takes out the name's entry alone. -/
theorem entries_erase_of_split {s : Settings} {front back : List (String × Value)}
    {spelling key : String} {value : Value} (hspelling : canonical spelling = key)
    (h : s.entries = front ++ (key, value) :: back)
    : (s.erase spelling).entries = front ++ back := by
  have hascending := s.ascending
  rw [h] at hascending
  have herase : (s.erase spelling).entries = Entries.erase key s.entries := by
    simp only [erase, hspelling]
  rw [herase, h]
  exact Entries.erase_of_split hascending

theorem eq_of_entries_eq {s other : Settings} (h : s.entries = other.entries)
    : s = other := by
  obtain ⟨⟨_, _⟩, _⟩ := s
  obtain ⟨⟨_, _⟩, _⟩ := other
  cases h
  rfl

/-- Settings that store the same values are the same settings. -/
theorem eq_of_valueAt_eq {s other : Settings}
    (h : ∀ name, s.valueAt name = other.valueAt name)
    : s = other :=
  eq_of_entries_eq (Entries.eq_of_lookup_eq s.ascending other.ascending h)

/-- Settings in which every spelling finds the same are the same settings: a name that no
spelling reaches is not tidy, and nothing is stored under it.
-/
theorem eq_of_get_eq {s other : Settings} (h : ∀ key, s.get key = other.get key)
    : s = other := by
  refine eq_of_valueAt_eq fun name => ?_
  by_cases htidy : IsTidy name
  · have hkey := h (":" ++ name)
    rwa [get_eq_valueAt, get_eq_valueAt, canonical_symbol htidy] at hkey
  · have hnone : ∀ t : Settings, t.valueAt name = none := by
      intro t
      rw [← Option.not_isSome_iff_eq_none, ← mem_keys_iff]
      exact fun hmem => htidy (isTidy_of_mem_keys hmem)
    rw [hnone s, hnone other]

-----------------------------------------------------------------------------------------
-- What each operation stores
-----------------------------------------------------------------------------------------

/-- No settings store nothing. -/
@[simp]
theorem valueAt_empty (name : String) : empty.valueAt name = none :=
  rfl

/-- Putting a value changes the map at the canonical name alone. -/
theorem valueAt_put (s : Settings) (key : String) (value : Value)
    : (s.put key value).valueAt
      = Function.update s.valueAt (canonical key) (some value) := by
  funext name
  rw [Function.update_apply]
  exact Entries.lookup_insert s.ascending (canonical key) name value

/-- Erasing changes the map at the canonical name alone. -/
theorem valueAt_erase (s : Settings) (key : String)
    : (s.erase key).valueAt = Function.update s.valueAt (canonical key) none := by
  funext name
  rw [Function.update_apply]
  exact Entries.lookup_erase s.entries (canonical key) name

/-- After laying other settings over, their value counts wherever they have one. -/
theorem valueAt_merge (s other : Settings) (name : String)
    : (s.merge other).valueAt name = (other.valueAt name).or (s.valueAt name) :=
  Entries.lookup_insertAll_ascending s.ascending other.ascending name

/-- After filling in, the own value counts wherever there is one. -/
theorem valueAt_reverseMerge (s other : Settings) (name : String)
    : (s.reverseMerge other).valueAt name = (s.valueAt name).or (other.valueAt name) :=
  Entries.lookup_fillAll s.ascending name other.entries

end DeclaredSettings.Settings
