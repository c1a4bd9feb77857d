import DeclaredSettings.Proofs.Derive.FieldOptions

/-! The field of a struct that keeps the settings: the one that is marked, or else the first
that is named `settings`.
-/

namespace DeclaredSettings.Derive

open Outcome

-----------------------------------------------------------------------------------------
-- The field that keeps the settings
-----------------------------------------------------------------------------------------

/-- A field together with the role as which it is marked. -/
def Field.withRole (field : Field) : Field × Role :=
  (field, field.markedAs)

/-- The marked ones of some fields. -/
def markedFields (fields : List Field) : List Field :=
  fields.filter fun field => field.markedAs ≠ .plain

theorem mem_markedFields {fields : List Field} {field : Field}
    : field ∈ markedFields fields ↔ field ∈ fields ∧ field.markedAs ≠ .plain := by
  rw [markedFields, List.mem_filter, decide_eq_true_eq]

/-- The storage that a field is among others, of which some stand in front of it: it is
marked, or no field is and it is the first that is named `settings`.
-/
inductive KeepsSettings (fields front : List Field) (field : Field) : Storage → Prop
  | base (marked : field.markedAs = .base)
    : KeepsSettings fields front field (.base field.name field.type)
  | settings (marked : field.markedAs = .settings)
    : KeepsSettings fields front field (.settings field.name)
  | named (unmarked : ∀ other ∈ fields, other.markedAs = .plain)
    (named : field.name = .plain "settings")
    (first : ∀ earlier ∈ front, earlier.name ≠ .plain "settings")
    : KeepsSettings fields front field (.settings field.name)

/-- The name of the field that a storage is. -/
def Storage.fieldName : Storage → Ident
  | .settings field => field
  | .base field _ => field

theorem KeepsSettings.fieldName_eq {fields front : List Field} {field : Field}
    {storage : Storage} (h : KeepsSettings fields front field storage)
    : storage.fieldName = field.name := by
  cases h with
  | base | settings | named => rfl

/-- The marked fields with their roles. -/
theorem filter_withRole (fields : List Field)
    : (fields.map Field.withRole).filter (fun f => f.2 ≠ .plain)
      = (markedFields fields).map Field.withRole := by
  rw [List.filter_map]
  rfl

/-- The first field that is named `settings`, with its role. -/
theorem find?_withRole (fields : List Field)
    : (fields.map Field.withRole).find? (fun f => f.1.name = .plain "settings")
      = (fields.find? fun field => field.name = .plain "settings").map Field.withRole := by
  rw [List.find?_map]
  rfl

/-- Fields of which at most one is marked, and one is marked or named `settings`. -/
structure HasStorage (fields : List Field) : Prop where
  oneMarked : (markedFields fields).length ≤ 1
  stored : ∃ field ∈ fields, field.markedAs ≠ .plain ∨ field.name = .plain "settings"

/-- What is wrong with fields that keep no settings, or of which two would. -/
inductive StorageFault (nameSpan : Span) (fields : List Field) : Refusal → Prop
  | twoMarked {first second : Field} {others : List Field}
    (marked : markedFields fields = first :: second :: others)
    : StorageFault nameSpan fields (.fault .twoMarked second.span)
  | noStorage (unmarked : ∀ field ∈ fields, field.markedAs = .plain)
    (unnamed : ∀ field ∈ fields, field.name ≠ .plain "settings")
    : StorageFault nameSpan fields (.fault .noStorage nameSpan)

theorem markedFields_eq_nil {fields : List Field}
    : markedFields fields = [] ↔ ∀ field ∈ fields, field.markedAs = .plain := by
  simp [markedFields]

variable {nameSpan : Span} {fields : List Field}

/-- The field that keeps the settings is found where there is one. -/
theorem HasStorage.found (h : HasStorage fields) (nameSpan : Span)
    : ∃ front field back role,
        storageField nameSpan (fields.map Field.withRole) = .ok (field, role)
        ∧ fields = front ++ field :: back
        ∧ KeepsSettings fields front field (storageOf field role) := by
  unfold storageField
  rw [filter_withRole]
  cases hmarked : markedFields fields with
  | nil =>
      have hunmarked := markedFields_eq_nil.mp hmarked
      rw [find?_withRole]
      cases hfind : fields.find? fun field => field.name = .plain "settings" with
      | none =>
          obtain ⟨field, hmem, hrole | hname⟩ := h.stored
          · exact absurd (hunmarked field hmem) hrole
          · exact absurd (decide_eq_true hname) (List.find?_eq_none.mp hfind field hmem)
      | some field =>
          obtain ⟨hname, front, back, hsplit, hfront⟩ :=
            List.find?_eq_some_iff_append.mp hfind
          refine ⟨front, field, back, .settings, rfl, hsplit,
            .named hunmarked (of_decide_eq_true hname) fun earlier hearlier => ?_⟩
          simpa using hfront earlier hearlier
  | cons field others =>
      obtain rfl : others = [] := by
        have hone := h.oneMarked
        rw [hmarked, List.length_cons] at hone
        exact List.eq_nil_of_length_eq_zero (by omega)
      obtain ⟨hmem, hrole⟩ := mem_markedFields.mp (hmarked ▸ List.mem_singleton_self field)
      obtain ⟨front, back, hsplit⟩ := List.append_of_mem hmem
      refine ⟨front, field, back, field.markedAs, rfl, hsplit, ?_⟩
      cases hfound : field.markedAs with
      | plain => exact absurd hfound hrole
      | settings => exact .settings hfound
      | base => exact .base hfound

/-- Where there is none, or more than one, this is reported. -/
theorem StorageFault.refused {refusal : Refusal} (h : StorageFault nameSpan fields refusal)
    : storageField nameSpan (fields.map Field.withRole) = .error refusal := by
  unfold storageField
  rw [filter_withRole]
  cases h with
  | twoMarked marked =>
      rw [marked]
      rfl
  | noStorage unmarked unnamed =>
      have hnone : (fields.find? fun field => field.name = .plain "settings") = none :=
        List.find?_eq_none.mpr fun field hmem hname =>
          unnamed field hmem (of_decide_eq_true hname)
      rw [markedFields_eq_nil.mpr unmarked, find?_withRole, hnone]
      rfl

/-- There is nothing else. -/
theorem hasStorage_or_fault (nameSpan : Span) (fields : List Field)
    : HasStorage fields ∨ ∃ refusal, StorageFault nameSpan fields refusal := by
  match hmarked : markedFields fields with
  | [] =>
      have hunmarked := markedFields_eq_nil.mp hmarked
      by_cases hnamed : ∃ field ∈ fields, field.name = .plain "settings"
      · obtain ⟨field, hmem, hname⟩ := hnamed
        exact .inl ⟨by rw [hmarked]; exact Nat.zero_le 1, field, hmem, .inr hname⟩
      · exact .inr ⟨_, .noStorage hunmarked fun field hmem hname => hnamed ⟨field, hmem, hname⟩⟩
  | [field] =>
      obtain ⟨hmem, hrole⟩ := mem_markedFields.mp (hmarked ▸ List.mem_singleton_self field)
      exact .inl ⟨by rw [hmarked]; exact Nat.le_refl 1, field, hmem, .inl hrole⟩
  | first :: second :: others => exact .inr ⟨_, .twoMarked hmarked⟩

-----------------------------------------------------------------------------------------
-- All fields
-----------------------------------------------------------------------------------------

/-- Reads the roles of fields, one after the other. -/
def withRoles (fields : List Field) : Except Refusal (List (Field × Role)) :=
  fields.mapM fun field => do .ok (field, ← field.role)

/-- Where the options of all fields are well formed all roles are read, by induction on the
fields.
-/
theorem withRoles_of_wellFormed {fields : List Field}
    (h : ∀ field ∈ fields, fieldKind.WellFormed field.attributes)
    : withRoles fields = .ok (fields.map Field.withRole) := by
  induction fields with
  | nil => rfl
  | cons field others ih =>
      obtain ⟨hfield, hothers⟩ := List.forall_mem_cons.mp h
      unfold withRoles at ih ⊢
      rw [List.mapM_cons, Field.role_eq_ok_iff.mpr ⟨hfield, rfl⟩, ih hothers]
      rfl

/-- The first fault in the options of fields is reported. -/
theorem withRoles_of_fault {before after : List Field} {field : Field} {refusal : Refusal}
    (hbefore : ∀ earlier ∈ before, fieldKind.WellFormed earlier.attributes)
    (hfault : fieldKind.FirstFault field.attributes refusal)
    : withRoles (before ++ field :: after) = .error refusal := by
  refine mapM_eq_error.mpr ⟨before, field, after, rfl, fun earlier hearlier => ?_, ?_⟩
  · rw [Field.role_eq_ok_iff.mpr ⟨hbefore earlier hearlier, rfl⟩]
    exact ⟨_, rfl⟩
  · rw [Field.role_eq_error_iff.mpr hfault]
    rfl

/-- The options of all fields are well formed, or those of a first one have a fault; by
induction on the fields.
-/
theorem fields_wellFormed_or_fault (fields : List Field)
    : (∀ field ∈ fields, fieldKind.WellFormed field.attributes)
      ∨ ∃ before field after refusal,
        fields = before ++ field :: after
        ∧ (∀ earlier ∈ before, fieldKind.WellFormed earlier.attributes)
        ∧ fieldKind.FirstFault field.attributes refusal := by
  induction fields with
  | nil => exact .inl nofun
  | cons field others ih =>
      rcases fieldTaking.decides_attributes field.attributes with
        hfield | ⟨refusal, hfault⟩
      · rcases ih with hothers | ⟨before, broken, after, refusal, rfl, hbefore, hfault⟩
        · exact .inl (List.forall_mem_cons.mpr ⟨hfield, hothers⟩)
        · exact .inr ⟨field :: before, broken, after, refusal, rfl,
            List.forall_mem_cons.mpr ⟨hfield, hbefore⟩, hfault⟩
      · exact .inr ⟨[], field, others, refusal, rfl, nofun, hfault⟩

end DeclaredSettings.Derive
