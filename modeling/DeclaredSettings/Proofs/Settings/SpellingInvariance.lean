import Mathlib.Data.List.Forall2
import Mathlib.Data.List.Nodup
import Mathlib.Data.List.Perm.Basic
import DeclaredSettings.Schema
import DeclaredSettings.Proofs.Settings.StoredValues

/-! Settings do not know how a key was spelt: an operation depends on the canonical form of
its key alone. Settings made of pairs do not depend on the order of the pairs either, where
no two of these have keys with one canonical form.
-/

namespace DeclaredSettings

namespace Settings

variable {key other : String}

-----------------------------------------------------------------------------------------
-- Operations with one key
-----------------------------------------------------------------------------------------

/-- A look-up depends on the canonical form of its key. -/
theorem get_congr (h : canonical key = canonical other) (s : Settings)
    : s.get key = s.get other := by
  rw [get_eq_valueAt, get_eq_valueAt, h]

theorem containsKey_congr (h : canonical key = canonical other) (s : Settings)
    : s.containsKey key = s.containsKey other := by
  rw [containsKey, containsKey, get_congr h]

theorem put_congr (h : canonical key = canonical other) (s : Settings) (value : Value)
    : s.put key value = s.put other value := by
  refine eq_of_valueAt_eq fun name => ?_
  rw [valueAt_put, valueAt_put, h]

theorem insert_congr (h : canonical key = canonical other) (s : Settings) (value : Value)
    : s.insert key value = s.insert other value := by
  rw [insert, insert, get_congr h, put_congr h]

theorem assign_congr (h : canonical key = canonical other) (s : Settings) (value : Value)
    : s.assign key value = s.assign other value := by
  rw [assign, assign, put_congr h]
  exact congrArg (·, _) (get_congr h _)

theorem remove_congr (h : canonical key = canonical other) (s : Settings)
    : s.remove key = s.remove other := by
  have herase : s.erase key = s.erase other := by
    refine eq_of_valueAt_eq fun name => ?_
    rw [valueAt_erase, valueAt_erase, h]
  rw [remove, remove, get_congr h, herase]

/-- Two values that are put under different names may be put in either order. -/
theorem put_comm (h : canonical key ≠ canonical other) (s : Settings)
    (value otherValue : Value)
    : (s.put key value).put other otherValue = (s.put other otherValue).put key value := by
  refine eq_of_valueAt_eq fun name => ?_
  rw [valueAt_put, valueAt_put, valueAt_put, valueAt_put, Function.update_comm h.symm]

-----------------------------------------------------------------------------------------
-- Settings of many pairs
-----------------------------------------------------------------------------------------

/-- Pairs with keys of one canonical form and one value each. -/
def SamePair (e f : String × Value) : Prop :=
  canonical e.1 = canonical f.1 ∧ e.2 = f.2

/-- Settings of pairs depend on the canonical forms of the keys, by induction on the pairs.
-/
theorem ofPairs_congr {pairs others : List (String × Value)}
    (h : List.Forall₂ SamePair pairs others)
    : ofPairs pairs = ofPairs others := by
  have hfrom : ∀ s : Settings,
      pairs.foldl (fun s e => s.put e.1 e.2) s
        = others.foldl (fun s e => s.put e.1 e.2) s := by
    induction h with
    | nil => exact fun s => rfl
    | @cons e f pairs others hpair _ ih =>
        intro s
        rw [List.foldl_cons, List.foldl_cons, put_congr hpair.1, hpair.2]
        exact ih _
  exact hfrom empty

/-- Such pairs have keys of the same canonical forms, by induction on the pairs. -/
theorem map_canonical_eq {pairs others : List (String × Value)}
    (h : List.Forall₂ SamePair pairs others)
    : pairs.map (canonical ·.1) = others.map (canonical ·.1) := by
  induction h with
  | nil => rfl
  | cons hpair _ ih => rw [List.map_cons, List.map_cons, hpair.1, ih]

/-- No two pairs have keys of one canonical form. -/
def ApartKeys (pairs : List (String × Value)) : Prop :=
  (pairs.map (canonical ·.1)).Nodup

/-- Settings of such pairs do not depend on their order, since any two may be swapped. -/
theorem ofPairs_perm {pairs others : List (String × Value)} (h : ApartKeys pairs)
    (hperm : pairs.Perm others)
    : ofPairs pairs = ofPairs others := by
  refine hperm.foldl_eq' (fun e he f hf s => ?_) empty
  by_cases heq : e = f
  · rw [heq]
  · have hne : canonical e.1 ≠ canonical f.1 := fun hsame =>
      heq (List.inj_on_of_nodup_map h he hf hsame)
    exact put_comm hne s e.2 f.2

/-- The entries of settings of pairs: the pairs put in one after the other under the
canonical forms of their keys; by induction on the pairs.
-/
theorem entries_ofPairs (pairs : List (String × Value))
    : (ofPairs pairs).entries
      = Entries.insertAll [] (pairs.map fun e => (canonical e.1, e.2)) := by
  have hfrom : ∀ s : Settings,
      (pairs.foldl (fun s e => s.put e.1 e.2) s).entries
        = Entries.insertAll s.entries (pairs.map fun e => (canonical e.1, e.2)) := by
    induction pairs with
    | nil => exact fun s => rfl
    | cons e pairs ih => exact fun s => ih (s.put e.1 e.2)
  exact hfrom empty

/-- Pairs of a mapping whose keys are canonical already are put in as they are. -/
theorem entries_ofPairs_of_canonical {m : Mapping}
    (h : ∀ e ∈ m.entries, canonical e.1 = e.1)
    : (ofPairs m.entries).entries = m.entries := by
  have hspelt : m.entries.map (fun e => (canonical e.1, e.2)) = m.entries := by
    conv_rhs => rw [← List.map_id m.entries]
    refine List.map_congr_left fun e he => ?_
    rw [h e he, id]
  rw [entries_ofPairs, hspelt, Entries.insertAll_nil_of_ascending m.ascending]

/-- Settings of a mapping are those of its pairs, also where it is taken over as it is:
there every key is its own canonical form.
-/
theorem ofMapping_eq_ofPairs (m : Mapping) : ofMapping m = ofPairs m.entries := by
  unfold ofMapping
  split
  · next hshortest =>
    have hentries : (ofPairs m.entries).entries = m.entries :=
      entries_ofPairs_of_canonical fun e he =>
        canonical_eq_of_size_eq (of_decide_eq_true (hshortest e he))
    exact eq_of_entries_eq hentries.symm
  · rfl

/-- Respelt pairs become a mapping that holds just these, in the order of their new keys: no
two of the keys are the same, since no two have one canonical form.
-/
theorem ofList_perm {pairs : List (String × Value)} (h : ApartKeys pairs)
    : (Mapping.ofList pairs).entries.Perm pairs := by
  refine Entries.insertAll_perm (List.Nodup.of_map canonical ?_)
  rwa [List.nil_append, List.map_map]

/-- Settings of a mapping with keys of different canonical forms are those of the mapping of
the same pairs under respelt keys, although these stand in another order.
-/
theorem ofPairs_respelt {m : Mapping} {pairs : List (String × Value)}
    (hapart : ApartKeys m.entries) (hpairs : List.Forall₂ SamePair m.entries pairs)
    : ofPairs m.entries = ofPairs (Mapping.ofList pairs).entries := by
  have hrespelt : ApartKeys pairs := by
    rw [ApartKeys, ← map_canonical_eq hpairs]
    exact hapart
  rw [ofPairs_congr hpairs, ofPairs_perm hrespelt (ofList_perm hrespelt).symm]

end Settings

theorem Schema.contains_congr {key other : String} (h : canonical key = canonical other)
    (schema : Schema)
    : schema.contains key = schema.contains other := by
  simp only [contains, Name.agrees, h]

end DeclaredSettings
