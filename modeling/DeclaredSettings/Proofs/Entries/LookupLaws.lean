import DeclaredSettings.Value.Entries

/-! Look-ups decide everything about entries in ascending order: they determine the list,
and each way of bringing in many entries has an equation for what is found afterwards.
-/

namespace DeclaredSettings.Entries

variable {α : Type u}

-----------------------------------------------------------------------------------------
-- Look-ups and the entries that are listed
-----------------------------------------------------------------------------------------

/-- A found value is listed under its key, by induction on the entries. -/
theorem mem_of_lookup {key : String} {value : α} {entries : List (String × α)}
    (h : lookup key entries = some value)
    : (key, value) ∈ entries := by
  induction entries with
  | nil => simp [lookup] at h
  | cons first rest ih =>
      obtain ⟨k, v⟩ := first
      simp only [lookup] at h
      split at h
      · next heq =>
        obtain rfl := Option.some.inj h
        exact heq ▸ List.mem_cons_self
      · exact List.mem_cons_of_mem _ (ih h)

/-- The first entry is found under its key. -/
@[simp]
theorem lookup_first (first : String × α) (rest : List (String × α))
    : lookup first.1 (first :: rest) = some first.2 := by
  simp [lookup]

/-- Nothing is found below the first key, since the other keys are greater still. -/
theorem lookup_of_lt {key : String} {first : String × α} {rest : List (String × α)}
    (h : Ascending (first :: rest)) (hlt : key < first.1)
    : lookup key (first :: rest) = none := by
  apply lookup_eq_none
  intro e he heq
  rcases List.mem_cons.mp he with rfl | he
  · exact String.lt_irrefl _ (heq ▸ hlt)
  · have hfirst := (List.pairwise_cons.mp h).1 e he
    exact String.lt_irrefl _ (heq ▸ String.lt_trans hlt hfirst)

/-- The first key is not found again behind its entry. -/
theorem lookup_rest_of_first {first : String × α} {rest : List (String × α)}
    (h : Ascending (first :: rest))
    : lookup first.1 rest = none := by
  apply lookup_eq_none
  intro e he heq
  exact String.lt_irrefl _ (heq ▸ (List.pairwise_cons.mp h).1 e he)

theorem lookup_of_mem {key : String} {value : α} {entries : List (String × α)}
    (h : Ascending entries) (hmem : (key, value) ∈ entries)
    : lookup key entries = some value := by
  induction entries with
  | nil => exact absurd hmem List.not_mem_nil
  | cons first rest ih =>
      obtain ⟨hfirst, hrest⟩ := List.pairwise_cons.mp h
      rcases List.mem_cons.mp hmem with rfl | hmem
      · simp [lookup]
      · have hne : first.1 ≠ key := by
          intro heq
          exact String.lt_irrefl _ (heq ▸ hfirst _ hmem)
        simp only [lookup, hne, if_false]
        exact ih hrest hmem

theorem mem_keys_iff_lookup {key : String} {entries : List (String × α)}
    (h : Ascending entries)
    : key ∈ entries.map (·.1) ↔ (lookup key entries).isSome := by
  constructor
  · intro hmem
    obtain ⟨e, he, rfl⟩ := List.mem_map.mp hmem
    have hfound : lookup e.1 entries = some e.2 := lookup_of_mem h he
    simp [hfound]
  · intro hsome
    obtain ⟨value, hvalue⟩ := Option.isSome_iff_exists.mp hsome
    exact List.mem_map.mpr ⟨_, mem_of_lookup hvalue, rfl⟩

/-- Of two lists with the same look-ups neither begins with a smaller key than the other,
since that key would be found in one list only.
-/
theorem not_lt_first_of_lookup_eq {e f : String × α} {left right : List (String × α)}
    (hr : Ascending (f :: right))
    (h : lookup e.1 (e :: left) = lookup e.1 (f :: right))
    : ¬ e.1 < f.1 := by
  intro hlt
  rw [lookup_first, lookup_of_lt hr hlt] at h
  exact Option.some_ne_none _ h

/-- Ascending entries with the same look-ups are the same list, by induction on both: the
first entries agree, and neither key is found behind them.
-/
theorem eq_of_lookup_eq {left right : List (String × α)} (hl : Ascending left)
    (hr : Ascending right) (h : ∀ key, lookup key left = lookup key right)
    : left = right := by
  induction left generalizing right with
  | nil =>
      cases right with
      | nil => rfl
      | cons f right =>
          have hf := h f.1
          simp [lookup] at hf
  | cons e left ih =>
      cases right with
      | nil =>
          have he := h e.1
          simp [lookup] at he
      | cons f right =>
          have hle := not_lt_first_of_lookup_eq hr (h e.1)
          have hge := not_lt_first_of_lookup_eq hl (h f.1).symm
          have hkey : e.1 = f.1 :=
            Classical.byContradiction fun hne => hge (lt_of_not_lt_of_ne hle hne)
          have hvalue : e.2 = f.2 := by
            have hfirst := h e.1
            rw [lookup_first, hkey, lookup_first] at hfirst
            exact Option.some.inj hfirst
          have hrest : left = right := by
            refine ih (List.pairwise_cons.mp hl).2 (List.pairwise_cons.mp hr).2 ?_
            intro key
            by_cases hfirst : f.1 = key
            · subst hfirst
              rw [lookup_rest_of_first hr, ← hkey, lookup_rest_of_first hl]
            · simpa [lookup, hkey, hfirst] using h key
          rw [Prod.ext hkey hvalue, hrest]

/-- Erasing a listed key takes out its entry and leaves the others where they are, since
no other entry has the key.
-/
theorem erase_of_split {front back : List (String × α)} {key : String} {value : α}
    (h : Ascending (front ++ (key, value) :: back))
    : erase key (front ++ (key, value) :: back) = front ++ back := by
  obtain ⟨_, hentry, hfront⟩ := List.pairwise_append.mp h
  have hback := (List.pairwise_cons.mp hentry).1
  have hkept : ∀ {side : List (String × α)},
      (∀ e ∈ side, e.1 ≠ key) → side.filter (fun e => e.1 ≠ key) = side := by
    intro side hside
    exact List.filter_eq_self.mpr fun e he => by simpa using hside e he
  have hbefore : ∀ e ∈ front, e.1 ≠ key := by
    intro e he heq
    exact String.lt_irrefl _ (heq ▸ hfront e he (key, value) List.mem_cons_self)
  have hafter : ∀ e ∈ back, e.1 ≠ key := by
    intro e he heq
    exact String.lt_irrefl _ (heq ▸ hback e he)
  simp only [erase, List.filter_append, hkept hbefore]
  rw [List.filter_cons_of_neg (by simp), hkept hafter]

-----------------------------------------------------------------------------------------
-- Look-ups after many entries are brought in
-----------------------------------------------------------------------------------------

/-- A look-up in two lists one behind the other finds the first list's value first. -/
theorem lookup_append (key : String) (left right : List (String × α))
    : lookup key (left ++ right) = (lookup key left).or (lookup key right) := by
  induction left with
  | nil => rfl
  | cons e left ih =>
      simp only [List.cons_append, lookup]
      split
      · rfl
      · exact ih

/-- The order of ascending entries does not matter to a look-up: no key is there twice. -/
theorem lookup_reverse {entries : List (String × α)} (h : Ascending entries)
    (key : String)
    : lookup key entries.reverse = lookup key entries := by
  induction entries with
  | nil => rfl
  | cons e rest ih =>
      rw [List.reverse_cons, lookup_append, ih (List.pairwise_cons.mp h).2]
      by_cases hkey : e.1 = key
      · subst hkey
        simp [lookup_rest_of_first h, lookup]
      · simp [lookup, hkey]

/-- After many insertions a look-up finds the value given last for its key, and what was
there before if none is given.
-/
theorem lookup_insertAll {base : List (String × α)} (h : Ascending base) (key : String)
    (given : List (String × α))
    : lookup key (insertAll base given)
      = (lookup key given.reverse).or (lookup key base) := by
  induction given generalizing base with
  | nil => rfl
  | cons e rest ih =>
      have hstep : lookup key (insertAll base (e :: rest))
          = (lookup key rest.reverse).or (lookup key (insert e.1 e.2 base)) :=
        ih (ascending_insert h e.1 e.2)
      rw [hstep, lookup_insert h, List.reverse_cons, lookup_append, Option.or_assoc]
      by_cases hkey : key = e.1
      · simp [lookup, hkey]
      · simp [lookup, hkey, Ne.symm hkey]

/-- After ascending entries are put in, a look-up finds theirs first. -/
theorem lookup_insertAll_ascending {base given : List (String × α)}
    (h : Ascending base) (hg : Ascending given) (key : String)
    : lookup key (insertAll base given) = (lookup key given).or (lookup key base) := by
  rw [lookup_insertAll h, lookup_reverse hg]

/-- Ascending entries that are put in where there are none stay as they are. -/
theorem insertAll_nil_of_ascending {given : List (String × α)} (h : Ascending given)
    : insertAll [] given = given := by
  refine eq_of_lookup_eq (ascending_insertAll ascending_nil given) h fun key => ?_
  rw [lookup_insertAll_ascending ascending_nil h]
  exact Option.or_none

/-- After entries are filled in, a look-up finds what was there before first. -/
theorem lookup_fillAll {base : List (String × α)} (h : Ascending base) (key : String)
    (given : List (String × α))
    : lookup key (fillAll base given) = (lookup key base).or (lookup key given) := by
  induction given generalizing base with
  | nil => simp [fillAll, lookup]
  | cons e rest ih =>
      by_cases hheld : (lookup e.1 base).isSome
      · have hstep : fillAll base (e :: rest) = fillAll base rest := by
          simp [fillAll, hheld]
        rw [hstep, ih h]
        by_cases hkey : e.1 = key
        · -- the key was there already, so neither side looks further
          obtain ⟨value, hvalue⟩ := Option.isSome_iff_exists.mp (hkey ▸ hheld)
          simp [hvalue]
        · simp [lookup, hkey]
      · have hstep : fillAll base (e :: rest) = fillAll (insert e.1 e.2 base) rest := by
          simp [fillAll, hheld]
        rw [hstep, ih (ascending_insert h e.1 e.2), lookup_insert h]
        by_cases hkey : key = e.1
        · have hnone : lookup key base = none := by
            simpa [hkey] using hheld
          simp [lookup, hkey, hkey ▸ hnone]
        · simp [lookup, hkey, Ne.symm hkey]

-----------------------------------------------------------------------------------------
-- Entries that are only rearranged
-----------------------------------------------------------------------------------------

/-- An entry with a new key comes in beside those that are there. -/
theorem insert_perm {key : String} {entries : List (String × α)}
    (h : ∀ e ∈ entries, e.1 ≠ key) (value : α)
    : (insert key value entries).Perm ((key, value) :: entries) := by
  induction entries with
  | nil => exact .refl _
  | cons first rest ih =>
      obtain ⟨hfirst, hrest⟩ := List.forall_mem_cons.mp h
      obtain ⟨k, v⟩ := first
      simp only [insert]
      split
      · exact .refl _
      · split
        · next _ heq => exact absurd heq.symm hfirst
        · exact ((ih hrest).cons (k, v)).trans (.swap _ _ _)

/-- Entries with new keys, none of them twice, come in beside those that are there, by
induction on them.
-/
theorem insertAll_perm {base given : List (String × α)}
    (h : ((base ++ given).map (·.1)).Nodup)
    : (insertAll base given).Perm (base ++ given) := by
  induction given generalizing base with
  | nil =>
      rw [List.append_nil]
      exact .refl _
  | cons first rest ih =>
      obtain ⟨k, v⟩ := first
      have hmiddle : (base ++ (k, v) :: rest).Perm (((k, v) :: base) ++ rest) :=
        List.perm_middle
      have hnodup := (hmiddle.map (·.1)).nodup_iff.mp h
      have hnew : ∀ e ∈ base, e.1 ≠ k := by
        intro e he heq
        exact (List.nodup_cons.mp hnodup).1
          (List.mem_map.mpr ⟨e, List.mem_append_left _ he, heq⟩)
      have hinsert := (insert_perm hnew v).append_right rest
      have hrest := ih ((hinsert.map (·.1)).nodup_iff.mpr hnodup)
      exact (hrest.trans hinsert).trans hmiddle.symm

end DeclaredSettings.Entries
