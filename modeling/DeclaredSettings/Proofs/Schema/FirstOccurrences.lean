import Mathlib.Data.List.Induction
import Mathlib.Data.List.Nodup
import DeclaredSettings.Proofs.Schema.DeclaredNames

/-! Declaring keeps names at their first occurrence. Names come in one by one, each if it is
not there yet; what is listed in the end is the whole list of names without repetitions, no
matter in how many goes they were declared.
-/

namespace DeclaredSettings

-----------------------------------------------------------------------------------------
-- Lists without repetitions, item by item
-----------------------------------------------------------------------------------------

section Lists

variable {α : Type u} [BEq α] [LawfulBEq α]

/-- A last item that occurs before is no first occurrence. -/
theorem eraseDups_concat_of_mem {items : List α} {last : α} (h : last ∈ items)
    : (items ++ [last]).eraseDups = items.eraseDups := by
  have hnone : [last].removeAll items = [] := by simp [List.removeAll, h]
  rw [List.eraseDups_append, hnone, List.eraseDups_nil, List.append_nil]

/-- A last item that does not occur before is one. -/
theorem eraseDups_concat_of_not_mem {items : List α} {last : α} (h : last ∉ items)
    : (items ++ [last]).eraseDups = items.eraseDups ++ [last] := by
  have hlast : [last].removeAll items = [last] := by simp [List.removeAll, h]
  rw [List.eraseDups_append, hlast, List.eraseDups_cons, List.filter_nil,
    List.eraseDups_nil]

/-- First occurrences do not repeat, by induction from the front on. -/
theorem nodup_eraseDups (items : List α) : items.eraseDups.Nodup := by
  induction items using List.reverseRecOn with
  | nil => exact List.nodup_nil
  | append_singleton items last ih =>
      by_cases h : last ∈ items
      · rw [eraseDups_concat_of_mem h]
        exact ih
      · rw [eraseDups_concat_of_not_mem h, ← List.concat_eq_append]
        exact List.Nodup.concat (mt List.mem_eraseDups.mp h) ih

/-- A list in which nothing repeats consists of first occurrences. -/
theorem eraseDups_of_nodup {items : List α} (h : items.Nodup) : items.eraseDups = items := by
  induction items using List.reverseRecOn with
  | nil => rfl
  | append_singleton items last ih =>
      obtain ⟨hitems, _, hapart⟩ := List.nodup_append.mp h
      have hlast : last ∉ items := fun hmem => hapart last hmem last List.mem_cons_self rfl
      rw [eraseDups_concat_of_not_mem hlast, ih hitems]

/-- Behind other items, a list in which nothing repeats adds what is not among these. -/
theorem eraseDups_append_of_nodup (items : List α) {added : List α} (h : added.Nodup)
    : (items ++ added).eraseDups
      = items.eraseDups ++ added.filter fun a => !items.contains a := by
  rw [List.eraseDups_append, List.removeAll, eraseDups_of_nodup (h.filter _)]

/-- Behind other items, only the first occurrences of what is added matter; by induction from
the front on.
-/
theorem eraseDups_append_eraseDups (items added : List α)
    : (items ++ added.eraseDups).eraseDups = (items ++ added).eraseDups := by
  induction added using List.reverseRecOn with
  | nil => rw [List.eraseDups_nil]
  | append_singleton added last ih =>
      by_cases hlast : last ∈ added
      · have hmem : last ∈ items ++ added := List.mem_append_right _ hlast
        rw [eraseDups_concat_of_mem hlast, ← List.append_assoc,
          eraseDups_concat_of_mem hmem, ih]
      · rw [eraseDups_concat_of_not_mem hlast, ← List.append_assoc, ← List.append_assoc]
        -- an item that is new among what is added may still be among the items in front
        by_cases hmem : last ∈ items
        · rw [eraseDups_concat_of_mem (List.mem_append_left _ hmem),
            eraseDups_concat_of_mem (List.mem_append_left _ hmem), ih]
        · have hfresh : last ∉ items ++ added := by simp [hmem, hlast]
          have hfreshFirst : last ∉ items ++ added.eraseDups := by simp [hmem, hlast]
          rw [eraseDups_concat_of_not_mem hfresh, eraseDups_concat_of_not_mem hfreshFirst, ih]

/-- In front of other items, only first occurrences matter as well. -/
theorem eraseDups_eraseDups_append (items added : List α)
    : (items.eraseDups ++ added).eraseDups = (items ++ added).eraseDups := by
  have hadded : added.removeAll items.eraseDups = added.removeAll items := by
    simp [List.removeAll]
  rw [List.eraseDups_append, List.eraseDups_append, hadded,
    eraseDups_of_nodup (nodup_eraseDups items)]

/-- Where different items are taken to different ones, so are first occurrences to first
occurrences.
-/
theorem eraseDups_map {β : Type v} [BEq β] [LawfulBEq β] {f : α → β}
    (hf : Function.Injective f) (items : List α)
    : (items.map f).eraseDups = items.eraseDups.map f := by
  induction items using List.reverseRecOn with
  | nil => rfl
  | append_singleton items last ih =>
      rw [List.map_append, List.map_singleton]
      by_cases h : last ∈ items
      · rw [eraseDups_concat_of_mem h, eraseDups_concat_of_mem (List.mem_map_of_mem h), ih]
      · have hfresh : f last ∉ items.map f := by simpa [hf.eq_iff] using h
        rw [eraseDups_concat_of_not_mem h, eraseDups_concat_of_not_mem hfresh, ih,
          List.map_append, List.map_singleton]

end Lists

namespace Schema

-----------------------------------------------------------------------------------------
-- Declaring
-----------------------------------------------------------------------------------------

/-- Adding a name to first occurrences gives those of the longer list. -/
theorem names_declareName {schema : Schema} {earlier : List Name}
    (h : schema.names = earlier.eraseDups) (name : Name)
    : (schema.declareName name).names = (earlier ++ [name]).eraseDups := by
  unfold declareName
  split
  · next hlisted =>
    rw [h, List.mem_eraseDups] at hlisted
    rw [eraseDups_concat_of_mem hlisted, h]
  · next hfresh =>
    rw [h, List.mem_eraseDups] at hfresh
    rw [eraseDups_concat_of_not_mem hfresh, ← h]

/-- Declaring names puts them behind those that came earlier, each at its first occurrence; by
induction on the names.
-/
theorem names_declare {schema : Schema} {earlier : List Name}
    (h : schema.names = earlier.eraseDups) (names : List Name)
    : (schema.declare names).names = (earlier ++ names).eraseDups := by
  induction names generalizing schema earlier with
  | nil => rw [List.append_nil, ← h, declare, List.foldl_nil]
  | cons first rest ih =>
      rw [List.append_cons]
      exact ih (names_declareName h first)

theorem declare_append (schema : Schema) (front back : List Name)
    : schema.declare (front ++ back) = (schema.declare front).declare back :=
  List.foldl_append

theorem names_prefix_declare (schema : Schema) (names : List Name)
    : schema.names <+: (schema.declare names).names := by
  induction names generalizing schema with
  | nil => exact List.prefix_refl _
  | cons first rest ih =>
      have hfirst : schema.names <+: (schema.declareName first).names := by
        unfold declareName
        split
        · exact List.prefix_refl _
        · exact List.prefix_append _ _
      exact hfirst.trans (ih _)

/-- Declaring what is listed already changes nothing, by induction on the names. -/
theorem declare_of_subset {schema : Schema} {names : List Name}
    (h : ∀ name ∈ names, name ∈ schema.names)
    : schema.declare names = schema := by
  induction names with
  | nil => rfl
  | cons first rest ih =>
      obtain ⟨hfirst, hrest⟩ := List.forall_mem_cons.mp h
      rw [declare, List.foldl_cons, declareName, if_pos hfirst]
      exact ih hrest

end Schema

end DeclaredSettings
