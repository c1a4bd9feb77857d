/-!
Entries of a mapping as a list of key and value, in ascending order of the keys. Each
operation comes with the equation of what a later look-up finds.
-/

namespace DeclaredSettings.Entries

variable {α : Type u}

/-- The keys ascend strictly, in code-point order; so none occurs twice. -/
def Ascending (entries : List (String × α)) : Prop :=
  entries.Pairwise fun a b => a.1 < b.1

/-- The value of the first entry with this key. -/
def lookup (key : String) : List (String × α) → Option α
  | [] => none
  | (k, v) :: rest => if k = key then some v else lookup key rest

/-- Puts a value at a key: in place of the entry that has the key, or else in front of the
first greater key.
-/
def insert (key : String) (value : α) : List (String × α) → List (String × α)
  | [] => [(key, value)]
  | (k, v) :: rest =>
    if key < k then (key, value) :: (k, v) :: rest
    else if key = k then (key, value) :: rest
    else (k, v) :: insert key value rest

/-- Takes out every entry with this key. -/
def erase (key : String) (entries : List (String × α)) : List (String × α) :=
  entries.filter fun e => e.1 ≠ key

/-- Puts the values in one after the other, so the last one given for a key stays. -/
def insertAll (base given : List (String × α)) : List (String × α) :=
  given.foldl (fun entries e => insert e.1 e.2 entries) base

/-- Puts in those values whose keys are not yet there, one after the other. -/
def fillAll (base given : List (String × α)) : List (String × α) :=
  given.foldl
    (fun entries e =>
      if (lookup e.1 entries).isSome then entries else insert e.1 e.2 entries)
    base

/-- No keys ascend. -/
theorem ascending_nil : Ascending ([] : List (String × α)) :=
  .nil

/-- An inserted key is the only new one. -/
theorem mem_insert {key : String} {value : α} {entries : List (String × α)}
    {e : String × α} (h : e ∈ insert key value entries)
    : e = (key, value) ∨ e ∈ entries := by
  induction entries with
  | nil => simpa [insert] using h
  | cons first rest ih =>
      obtain ⟨k, v⟩ := first
      simp only [insert] at h
      split at h
      · simpa using h
      · split at h
        · rcases List.mem_cons.mp h with h | h
          · exact .inl h
          · exact .inr (List.mem_cons_of_mem _ h)
        · rcases List.mem_cons.mp h with h | h
          · exact .inr (h ▸ List.mem_cons_self)
          · exact (ih h).imp id (List.mem_cons_of_mem _)

/-- Of two keys that are not below one another the two are one. -/
theorem lt_of_not_lt_of_ne {a b : String} (hle : ¬ a < b) (hne : a ≠ b) : b < a := by
  rcases String.le_total a b with h | h
  · exact absurd (String.le_antisymm h (String.not_lt.mp hle)) hne
  · exact String.not_le.mp fun h' => hne (String.le_antisymm h' h)

/-- Inserting keeps the order, by induction on the entries. -/
theorem ascending_insert {entries : List (String × α)} (h : Ascending entries)
    (key : String) (value : α)
    : Ascending (insert key value entries) := by
  induction entries with
  | nil => exact .cons nofun .nil
  | cons first rest ih =>
      obtain ⟨k, v⟩ := first
      obtain ⟨hfirst, hrest⟩ := List.pairwise_cons.mp h
      simp only [insert]
      split
      · next hlt =>
        refine .cons (fun e he => ?_) h
        rcases List.mem_cons.mp he with rfl | he
        · exact hlt
        · exact String.lt_trans hlt (hfirst e he)
      · split
        · next _ heq =>
          subst heq
          exact .cons hfirst hrest
        · next hlt hne =>
          refine .cons (fun e he => ?_) (ih hrest)
          rcases mem_insert he with rfl | he
          · exact lt_of_not_lt_of_ne hlt hne
          · exact hfirst e he

/-- Erasing keeps the order, since a part of an ascending list ascends. -/
theorem ascending_erase {entries : List (String × α)} (h : Ascending entries)
    (key : String)
    : Ascending (erase key entries) :=
  List.Pairwise.filter _ h

/-- Inserting many keeps the order. -/
theorem ascending_insertAll {base : List (String × α)} (h : Ascending base)
    (given : List (String × α))
    : Ascending (insertAll base given) := by
  induction given generalizing base with
  | nil => exact h
  | cons e rest ih => exact ih (ascending_insert h e.1 e.2)

/-- Filling in keeps the order. -/
theorem ascending_fillAll {base : List (String × α)} (h : Ascending base)
    (given : List (String × α))
    : Ascending (fillAll base given) := by
  induction given generalizing base with
  | nil => exact h
  | cons e rest ih =>
      simp only [fillAll, List.foldl_cons]
      split
      · exact ih h
      · exact ih (ascending_insert h e.1 e.2)

/-- What stands in the mapping after many insertions stood there before or was given. -/
theorem mem_insertAll {base given : List (String × α)} {e : String × α}
    (h : e ∈ insertAll base given)
    : e ∈ base ∨ e ∈ given := by
  induction given generalizing base with
  | nil => exact .inl h
  | cons first rest ih =>
      rcases ih h with h | h
      · rcases mem_insert h with rfl | h
        · exact .inr List.mem_cons_self
        · exact .inl h
      · exact .inr (List.mem_cons_of_mem _ h)

/-- What stands in the mapping after filling in stood there before or was given. -/
theorem mem_fillAll {base given : List (String × α)} {e : String × α}
    (h : e ∈ fillAll base given)
    : e ∈ base ∨ e ∈ given := by
  induction given generalizing base with
  | nil => exact .inl h
  | cons first rest ih =>
      simp only [fillAll, List.foldl_cons] at h
      split at h
      · exact (ih h).imp id (List.mem_cons_of_mem _)
      · rcases ih h with h | h
        · rcases mem_insert h with rfl | h
          · exact .inr List.mem_cons_self
          · exact .inl h
        · exact .inr (List.mem_cons_of_mem _ h)

/-- A look-up finds nothing where the key is not listed. -/
theorem lookup_eq_none {key : String} {entries : List (String × α)}
    (h : ∀ e ∈ entries, e.1 ≠ key)
    : lookup key entries = none := by
  induction entries with
  | nil => rfl
  | cons e rest ih =>
      simp only [lookup, h e List.mem_cons_self, if_false]
      exact ih fun e he => h e (List.mem_cons_of_mem _ he)

/-- What a look-up finds after an insertion: the new value at its key, and elsewhere what
was there.
-/
theorem lookup_insert {entries : List (String × α)} (h : Ascending entries)
    (key other : String) (value : α)
    : lookup other (insert key value entries)
      = if other = key then some value else lookup other entries := by
  induction entries with
  | nil => simp only [insert, lookup, eq_comm]
  | cons first rest ih =>
      obtain ⟨k, v⟩ := first
      obtain ⟨hfirst, hrest⟩ := List.pairwise_cons.mp h
      simp only [insert]
      split
      · simp only [lookup, eq_comm]
      · split
        · next _ heq =>
          subst heq
          simp only [lookup]
          grind
        · next hlt hne =>
          simp only [lookup, ih hrest]
          grind

/-- What a look-up finds after an erasure. -/
theorem lookup_erase (entries : List (String × α)) (key other : String)
    : lookup other (erase key entries)
      = if other = key then none else lookup other entries := by
  induction entries with
  | nil => simp [erase, lookup]
  | cons first rest ih =>
      obtain ⟨k, v⟩ := first
      simp only [erase] at ih ⊢
      simp only [List.filter_cons]
      split <;> grind [lookup]

end DeclaredSettings.Entries
