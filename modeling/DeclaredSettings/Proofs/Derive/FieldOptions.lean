import DeclaredSettings.Proofs.Derive.OptionLists

/-! The options of a field: words that mark it as the one that keeps the settings, or the
base. It may be marked twice with one role, but not with both.
-/

namespace DeclaredSettings.Derive

open Outcome

-----------------------------------------------------------------------------------------
-- Marks that fit together
-----------------------------------------------------------------------------------------

/-- Marks that are not of both roles. -/
def OneRole (marks : List Role) : Prop :=
  ¬ (.settings ∈ marks ∧ .base ∈ marks)

theorem OneRole.front {front back : List Role} (h : OneRole (front ++ back))
    : OneRole front :=
  fun ⟨hsettings, hbase⟩ =>
    h ⟨List.mem_append_left _ hsettings, List.mem_append_left _ hbase⟩

/-- The role that some marks give: the first of them. -/
def roleOf (marks : List Role) : Role :=
  marks.head?.getD .plain

/-- Without marks a field is plain, and with marks its role is one of them. -/
theorem roleOf_eq_plain_or_mem (marks : List Role)
    : roleOf marks = .plain ∧ marks = [] ∨ roleOf marks ∈ marks := by
  cases marks with
  | nil => exact .inl ⟨rfl, rfl⟩
  | cons mark others => exact .inr List.mem_cons_self

/-- One more mark fits if and only if there is none yet or it is of the same role. -/
theorem oneRole_concat_iff {next : Role} {marks : List Role} (hfit : OneRole marks)
    (hmarks : .plain ∉ marks) (hnext : next ≠ .plain)
    : OneRole (marks ++ [next]) ↔ roleOf marks = .plain ∨ roleOf marks = next := by
  have hlast : next ∈ marks ++ [next] := List.mem_append_right _ (List.mem_singleton_self _)
  rcases roleOf_eq_plain_or_mem marks with ⟨hplain, rfl⟩ | hmem
  · refine iff_of_true (fun ⟨hsettings, hbase⟩ => ?_) (.inl hplain)
    exact nomatch (List.mem_singleton.mp hsettings).trans (List.mem_singleton.mp hbase).symm
  · have hrole : roleOf marks ≠ .plain := fun hplain => hmarks (hplain ▸ hmem)
    constructor
    · intro hone
      by_contra hother
      -- then the two are the two roles there are
      have hfirst : roleOf marks ∈ marks ++ [next] := List.mem_append_left _ hmem
      cases hfound : roleOf marks <;> cases next <;> simp_all [OneRole]
    · rintro (hplain | rfl)
      · exact absurd hplain hrole
      · have hsame : ∀ role ∈ marks ++ [roleOf marks], role ∈ marks := by
          intro role h
          rcases List.mem_append.mp h with h | h
          · exact h
          · exact List.mem_singleton.mp h ▸ hmem
        exact fun ⟨hsettings, hbase⟩ => hfit ⟨hsame _ hsettings, hsame _ hbase⟩

/-- A mark that fits behind others is their role. -/
theorem roleOf_concat {next : Role} {marks : List Role}
    (h : roleOf marks = .plain ∨ roleOf marks = next) (hmarks : .plain ∉ marks)
    : roleOf (marks ++ [next]) = next := by
  cases marks with
  | nil => rfl
  | cons mark others =>
      rcases h with hplain | hsame
      · obtain rfl : mark = .plain := hplain
        exact absurd List.mem_cons_self hmarks
      · exact hsame

-----------------------------------------------------------------------------------------
-- Options of fields and what is none
-----------------------------------------------------------------------------------------

/-- One word that marks a field. -/
inductive IsFieldOption : List Tree → Prop
  | mk {token : Tree} {role : Role} (marks : token.mark? = some role) : IsFieldOption [token]

/-- What is wrong where an option of a field, behind others that make some marks, and a comma
or the end should be.
-/
inductive FieldFault (closing : Span) (marks : List Role) : List Tree → Refusal → Prop
  | noPath {tokens : List Tree} {refusal : Refusal} (fault : PathFault closing tokens refusal)
    : FieldFault closing marks tokens refusal
  | unknown {front rest : List Tree} {path : OptionPath} (isPath : IsPath front path)
    (ends : ¬ GoesOn rest) (noSettings : path.is "settings" = false)
    (noBase : path.is "base" = false)
    : FieldFault closing marks (front ++ rest) (.fault .unknownFieldOption path.place)
  | bothRoles {token : Tree} {role : Role} {rest : List Tree}
    (marked : token.mark? = some role) (ends : ¬ GoesOn rest)
    (clash : ¬ OneRole (marks ++ [role]))
    : FieldFault closing marks (token :: rest) (.fault .bothRoles token.span)
  | noComma {token next : Tree} {role : Role} {rest : List Tree}
    (marked : token.mark? = some role) (ends : ¬ GoesOn (next :: rest))
    (fit : OneRole (marks ++ [role])) (noComma : NoComma next)
    : FieldFault closing marks (token :: next :: rest) (.fault .commaExpected next.span)

/-- The options of fields. They fit together if they mark the field with one role. -/
def fieldKind : OptionKind where
  IsOption := IsFieldOption
  Fit := OneRole
  Fault := FieldFault
  fit_nil := nofun
  fit_front := OneRole.front

/-- The marks that the attributes of a field make. -/
def Field.marks (field : Field) : List Role :=
  marksOf (field.attributes.flatMap Attribute.options)

/-- The role as which these mark the field. -/
def Field.markedAs (field : Field) : Role :=
  roleOf field.marks

-----------------------------------------------------------------------------------------
-- Taking them
-----------------------------------------------------------------------------------------

/-- The words that mark a field. -/
theorem mark?_eq_some_iff {token : Tree} {role : Role}
    : token.mark? = some role
      ↔ ∃ word place,
          token = .ident (.plain word) place
          ∧ (word = "settings" ∧ role = .settings ∨ word = "base" ∧ role = .base) := by
  constructor
  · intro h
    unfold Tree.mark? at h
    split at h
    · next found place =>
      split at h
      · next hsettings =>
        exact ⟨_, place, by rw [hsettings], .inl ⟨rfl, (Option.some.inj h).symm⟩⟩
      · split at h
        · next hbase => exact ⟨_, place, by rw [hbase], .inr ⟨rfl, (Option.some.inj h).symm⟩⟩
        · exact nomatch h
    · exact nomatch h
  · rintro ⟨_, place, rfl, ⟨rfl, rfl⟩ | ⟨rfl, rfl⟩⟩
    · rfl
    · rfl

theorem ne_plain_of_mark? {token : Tree} {role : Role} (h : token.mark? = some role)
    : role ≠ .plain := by
  obtain ⟨_, _, _, ⟨_, rfl⟩ | ⟨_, rfl⟩⟩ := mark?_eq_some_iff.mp h
  · exact nofun
  · exact nofun

variable {closing : Span} {role : Role}

/-- A word that marks a field is refused if the field has the other role. -/
theorem nextOption_mark {token : Tree} {next : Role} {rest : List Tree}
    (h : token.mark? = some next) (hends : ¬ GoesOn rest)
    : nextOption closing (fieldOption closing) role (token :: rest)
      = if role = .plain ∨ role = next then pastComma next rest
        else .error (.fault .bothRoles token.span) := by
  obtain ⟨word, place, rfl, hword⟩ := mark?_eq_some_iff.mp h
  have hoption : fieldOption closing role ⟨some (.plain word), place⟩ rest
      = if role ≠ .plain && role ≠ next then .error (.fault .bothRoles place)
        else .ok (next, rest) := by
    unfold fieldOption
    rcases hword with ⟨rfl, rfl⟩ | ⟨rfl, rfl⟩
    · rw [if_pos (OptionPath.is_word _ _)]
    · rw [if_neg (OptionPath.is_other (by decide) _), if_pos (OptionPath.is_word _ _)]
  rw [nextOption_of_word hends, hoption]
  by_cases hrole : role = .plain ∨ role = next
  · rw [if_pos hrole, if_neg (by simpa [or_iff_not_imp_left] using hrole)]
    rfl
  · rw [if_neg hrole, if_pos (by simpa [not_or] using hrole)]
    rfl

/-- What is wrong where an option of a field should be is reported. -/
theorem FieldFault.refused {marks : List Role} {tokens : List Tree} {refusal : Refusal}
    (h : FieldFault closing marks tokens refusal) (hmarks : .plain ∉ marks)
    (hfit : OneRole marks)
    : nextOption closing (fieldOption closing) (roleOf marks) tokens = .error refusal := by
  cases h with
  | noPath fault => exact nextOption_of_pathFault fault
  | unknown isPath ends noSettings noBase =>
      rw [nextOption_of_isPath isPath ends]
      unfold fieldOption
      rw [noSettings, noBase]
      rfl
  | bothRoles marked ends clash =>
      rw [oneRole_concat_iff hfit hmarks (ne_plain_of_mark? marked)] at clash
      rw [nextOption_mark marked ends, if_neg clash]
  | noComma marked ends fit noComma =>
      rw [oneRole_concat_iff hfit hmarks (ne_plain_of_mark? marked)] at fit
      rw [nextOption_mark marked ends, if_pos fit, pastComma_eq_error noComma]

/-- A word that marks a field is an option that fits, with a comma or the end behind it, or
else something is wrong.
-/
theorem marked_begins_or_fault {marks : List Role} {token : Tree} {next : Role}
    {rest : List Tree} (h : token.mark? = some next) (hends : ¬ GoesOn rest)
    : fieldKind.Begins marks (token :: rest)
      ∨ ∃ refusal, FieldFault closing marks (token :: rest) refusal := by
  by_cases hfit : OneRole (marks ++ [next])
  · rcases behindComma_or_noComma rest with ⟨behind, hcomma⟩ | ⟨other, others, rfl, hcomma⟩
    · have hmarks : marksOf [token] = [next] := List.filterMap_cons_some h
      exact .inl ⟨[token], rest, behind, rfl, .mk h, hmarks.symm ▸ hfit, hcomma⟩
    · exact .inr ⟨_, .noComma h hends hfit hcomma⟩
  · exact .inr ⟨_, .bothRoles h hends hfit⟩

/-- The options of fields are taken as their kind says, while the role is that of the marks
which are made.
-/
theorem fieldTaking
    : fieldKind.Taking fieldOption .plain
        (fun role marks => .plain ∉ marks ∧ role = roleOf marks) (fun _ => True) where
  starts := ⟨List.not_mem_nil, rfl⟩
  accepts := by
    rintro closing role marks tokens rest behind ⟨hmarks, rfl⟩ ⟨marked⟩ hfit hcomma
    have hnext := ne_plain_of_mark? marked
    rw [marksOf, List.filterMap_cons_some marked, List.filterMap_nil] at hfit ⊢
    have hrole := (oneRole_concat_iff (OneRole.front hfit) hmarks hnext).mp hfit
    refine ⟨_, ?_, ?_, (roleOf_concat hrole hmarks).symm⟩
    · rw [List.singleton_append, nextOption_mark marked hcomma.not_goesOn, if_pos hrole,
        pastComma_eq_ok hcomma]
    · intro hplain
      rcases List.mem_append.mp hplain with h | h
      · exact hmarks h
      · exact hnext (List.mem_singleton.mp h).symm
  refuses := by
    rintro closing role marks tokens refusal ⟨hmarks, rfl⟩ hfit hfault _
    exact FieldFault.refused hfault hmarks hfit
  decides closing {marks} tokens _ := by
    rcases exists_path_or_fault closing tokens with
      ⟨front, rest, path, rfl, hpath, hends⟩ | ⟨refusal, hfault⟩
    · by_cases hsettings : path.is "settings" = true
      · obtain ⟨word, rfl⟩ := hpath.eq_ident hsettings
        exact marked_begins_or_fault rfl hends
      · by_cases hbase : path.is "base" = true
        · obtain ⟨word, rfl⟩ := hpath.eq_ident hbase
          exact marked_begins_or_fault rfl hends
        · exact .inr ⟨_, .unknown hpath hends (Bool.not_eq_true _ ▸ hsettings)
            (Bool.not_eq_true _ ▸ hbase)⟩
    · exact .inr ⟨refusal, .noPath hfault⟩

variable {field : Field}

/-- A field whose options are well formed has the role as which these mark it. -/
theorem Field.role_eq_ok_iff
    : field.role = .ok role
      ↔ fieldKind.WellFormed field.attributes ∧ role = field.markedAs := by
  constructor
  · intro h
    have hformed := (fieldTaking.accepts_iff fun _ => trivial).mp ⟨role, h⟩
    obtain ⟨final, hfinal, _, hrole⟩ := fieldTaking.accepts_attributes hformed
    obtain rfl := Except.ok.inj (h.symm.trans hfinal)
    exact ⟨hformed, hrole⟩
  · rintro ⟨hformed, rfl⟩
    obtain ⟨final, hfinal, _, hrole⟩ := fieldTaking.accepts_attributes hformed
    rw [Field.role, hfinal, hrole]
    rfl

/-- Of any other the first fault in its options is reported. -/
theorem Field.role_eq_error_iff {refusal : Refusal}
    : field.role = .error refusal ↔ fieldKind.FirstFault field.attributes refusal :=
  fieldTaking.refuses_iff fun _ => trivial

end DeclaredSettings.Derive
