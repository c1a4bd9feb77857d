import Mathlib.Data.List.Forall2
import DeclaredSettings.Script.Object
import DeclaredSettings.Proofs.Settings.StoredValues

/-! Settings refine a map from canonical names to values. Each operation answers what it
would answer on the map and leaves the settings of the map that it would leave, whatever
spellings, values and sources a run of operations uses.
-/

namespace DeclaredSettings

/-- A map from stored names to values, without order and without spellings. -/
abbrev NameMap := String → Option Value

/-- Settings that show a map to the outside: the values under their names, and what is
listed in order.
-/
structure Settings.Shows (s : Settings) (map : NameMap) : Prop where
  stored : s.valueAt = map
  named : ∀ name, name ∈ s.keys ↔ (map name).isSome
  listed : ∀ name value, (name, value) ∈ s.entries ↔ map name = some value
  ascending : s.keys.Pairwise (· < ·)
  spelt : ∀ name ∈ s.keys, ∃ spelling, canonical spelling = name
  counted : s.size = s.keys.length

/-- Settings show the map of their stored values, since their entries ascend and are tidy.
-/
theorem Settings.shows_of_valueAt_eq {s : Settings} {map : NameMap}
    (h : s.valueAt = map)
    : s.Shows map where
  stored := h
  named name := h ▸ s.mem_keys_iff name
  listed name value := h ▸ s.mem_entries_iff name value
  ascending := s.keys_ascending
  spelt name hname := (exists_canonical_iff name).mpr (isTidy_of_mem_keys hname)
  counted := by rw [keys, List.length_map, size]

namespace Script

/-- The edits that look up names or change what is stored under them. -/
inductive Operation where
  | get (key : String)
  | containsKey (key : String)
  | assign (key : String) (value : Value)
  | insert (key : String) (value : Value)
  | remove (key : String)
  | merge (source : Source)
  | reverseMerge (source : Source)

namespace Operation

/-- The operation as an edit of settings. -/
def edit : Operation → Edit
  | get key => .get key
  | containsKey key => .containsKey key
  | assign key value => .assign key value
  | insert key value => .insert key value
  | remove key => .remove key
  | merge source => .merge source
  | reverseMerge source => .reverseMerge source

/-- What an operation answers on a map, and the map that it leaves. Every spelling acts at
its canonical form, and a source that gives no settings changes nothing.
-/
def onMap (held : String → Option Settings) (map : NameMap)
    : Operation → Answer × NameMap
  | get key => (.option (map (canonical key)), map)
  | containsKey key => (.truth (map (canonical key)).isSome, map)
  | assign key value =>
    if value.isNull then (.option (map (canonical key)), map)
    else (.option (some value), Function.update map (canonical key) (some value))
  | insert key value =>
    (.option (map (canonical key)), Function.update map (canonical key) (some value))
  | remove key =>
    (.option (map (canonical key)), Function.update map (canonical key) none)
  | merge source =>
    match source.read held with
    | .ok given => (.nothing, fun name => (given.valueAt name).or (map name))
    | .error fault => (fault.answer, map)
  | reverseMerge source =>
    match source.read held with
    | .ok given => (.nothing, fun name => (map name).or (given.valueAt name))
    | .error fault => (fault.answer, map)

variable (held others : String → Option Settings)

/-- The answers of some operations on settings in order, with the settings after each. -/
def runAll (s : Settings) : List Operation → List (Answer × Settings)
  | [] => []
  | operation :: rest =>
    let done := operation.edit.run held others s
    done :: runAll done.2 rest

/-- The answers of some operations on a map in order, with the map after each. -/
def onMapAll (map : NameMap) : List Operation → List (Answer × NameMap)
  | [] => []
  | operation :: rest =>
    let expected := operation.onMap held map
    expected :: onMapAll expected.2 rest

/-- One operation on settings answers and leaves what it does on the map of their stored
values, by cases on the operation and the equation for what it stores.
-/
theorem run_edit_onMap (s : Settings) (operation : Operation)
    : (operation.edit.run held others s).1 = (operation.onMap held s.valueAt).1
      ∧ (operation.edit.run held others s).2.valueAt
        = (operation.onMap held s.valueAt).2 := by
  cases operation with
  | get key => exact ⟨rfl, rfl⟩
  | containsKey key => exact ⟨rfl, rfl⟩
  | assign key value =>
      cases hnull : value.isNull with
      | true =>
          simp only [edit, onMap, Edit.run, Settings.assign, hnull, if_true]
          exact ⟨rfl, rfl⟩
      | false =>
          have hfound : (s.put key value).get key = some value := by
            rw [Settings.get_eq_valueAt, Settings.valueAt_put, Function.update_self]
          simp only [edit, onMap, Edit.run, Settings.assign, hnull, Bool.false_eq_true,
            if_false]
          exact ⟨congrArg Answer.option hfound, s.valueAt_put key value⟩
  | insert key value =>
      simp only [edit, onMap, Edit.run, Settings.insert, Prod.map, id]
      exact ⟨rfl, s.valueAt_put key value⟩
  | remove key =>
      simp only [edit, onMap, Edit.run, Settings.remove, Prod.map, id]
      exact ⟨rfl, s.valueAt_erase key⟩
  | merge source =>
      cases hread : source.read held with
      | ok given =>
          simp only [edit, onMap, Edit.run, hread]
          exact ⟨trivial, funext fun name => s.valueAt_merge given name⟩
      | error fault =>
          simp only [edit, onMap, Edit.run, hread]
          exact ⟨trivial, trivial⟩
  | reverseMerge source =>
      cases hread : source.read held with
      | ok given =>
          simp only [edit, onMap, Edit.run, hread]
          exact ⟨trivial, funext fun name => s.valueAt_reverseMerge given name⟩
      | error fault =>
          simp only [edit, onMap, Edit.run, hread]
          exact ⟨trivial, trivial⟩

/-- A run of operations on settings that store a map answers step by step what the run on
the map answers, and shows its maps, by induction on the run.
-/
theorem runAll_onMapAll {s : Settings} {map : NameMap} (h : s.valueAt = map)
    (operations : List Operation)
    : List.Forall₂ (fun done expected => done.1 = expected.1 ∧ done.2.Shows expected.2)
        (runAll held others s operations) (onMapAll held map operations) := by
  induction operations generalizing s map with
  | nil => exact .nil
  | cons operation rest ih =>
      subst h
      obtain ⟨hanswer, hstored⟩ := run_edit_onMap held others s operation
      exact .cons ⟨hanswer, Settings.shows_of_valueAt_eq hstored⟩ (ih hstored)

/-- Settings refine the map of their stored values: at the start and after every operation
of any run they show the map that the same operations lead to, and every answer is the
map's.
-/
theorem operations_refine_map (s : Settings) (operations : List Operation)
    : s.Shows s.valueAt
      ∧ List.Forall₂
          (fun done expected => done.1 = expected.1 ∧ done.2.Shows expected.2)
          (runAll held others s operations) (onMapAll held s.valueAt operations) :=
  ⟨Settings.shows_of_valueAt_eq rfl, runAll_onMapAll held others rfl operations⟩

end Operation

end Script

end DeclaredSettings
