import DeclaredSettings.Proofs.Derive.FieldOptions
import DeclaredSettings.Proofs.Derive.KeyListFaults

/-! Where unusable names are reported. A refusal because of a name comes from a list of keys
and is put at the token that writes the name, unless reading breaks off because the name
hides a keyword. A name that hides another identifier is not reported at all.
-/

namespace DeclaredSettings.Derive

open Outcome

/-- Whether a refusal is about a name, and not about the syntax or the fields of an item. -/
def Refusal.isAboutName : Refusal → Bool
  | .fault (.badName _) _ => true
  | .fault _ _ => false
  | .brokenIdent _ => true

-----------------------------------------------------------------------------------------
-- What is not about names
-----------------------------------------------------------------------------------------

section Options

variable {closing : Span} {refusal : Refusal}

/-- What is no path is reported without regard to names. -/
theorem PathFault.isAboutName_eq {tokens : List Tree} (h : PathFault closing tokens refusal)
    : refusal.isAboutName = false := by
  have hcause : ∀ (tokens : List Tree) (place : Span),
      (Refusal.fault (noPathCause tokens) place).isAboutName = false := by
    intro tokens place
    unfold noPathCause
    split
    · rfl
    · split <;> rfl
  cases h with
  | relative | absolute => exact hcause _ _
  | segment => rfl

theorem optionPath_refusal {cs : List Tree} (h : optionPath closing cs = .error refusal)
    : refusal.isAboutName = false := by
  rcases exists_path_or_fault closing cs with
    ⟨front, rest, path, rfl, hpath, hends⟩ | ⟨other, hfault⟩
  · exact nomatch (hpath.read hends).symm.trans h
  · obtain rfl := Except.error.inj ((optionPath_of_fault hfault).symm.trans h)
    exact hfault.isAboutName_eq

/-- What stands in a list of keys and is no name is refused without regard to names too. -/
theorem writtenKeys_refusal {tokens : List Tree}
    (h : writtenKeys closing tokens = .error refusal)
    : refusal.isAboutName = false := by
  rcases commaList_or_keyFault tokens with
    hlist | ⟨front, rest, other, rfl, hfront, hfault⟩
  · exact nomatch (writtenKeys_of_commaList hlist closing).symm.trans h
  · have hrefused := writtenKeys_of_commaEnded hfront (hfault.refused closing)
    obtain rfl := Except.error.inj (hrefused.symm.trans h)
    cases hfault with
    | noName | noComma => rfl

/-- Options are refused in one of these ways: at a path, by an option, at a missing comma. -/
theorem foldOptions_eq_error {σ : Type}
    {option : σ → OptionPath → List Tree → Except Refusal (σ × List Tree)} {count : Nat}
    {state : σ} {token : Tree} {cs : List Tree}
    (h : foldOptions closing option (count + 1) state (token :: cs) = .error refusal)
    : refusal.isAboutName = false
      ∨ ∃ path behind,
          optionPath closing (token :: cs) = .ok (path, behind)
          ∧ (option state path behind = .error refusal
            ∨ ∃ next joined span others,
                option state path behind = .ok (next, .mark ',' joined span :: others)
                ∧ foldOptions closing option count next others = .error refusal) := by
  unfold foldOptions at h
  rcases bind_eq_error.mp h with hpath | ⟨⟨path, behind⟩, hpath, h⟩
  · exact .inl (optionPath_refusal hpath)
  · rcases bind_eq_error.mp h with hoption | ⟨⟨next, rest⟩, hoption, h⟩
    · exact .inr ⟨path, behind, hpath, .inl hoption⟩
    · dsimp only at h
      split at h
      · exact nomatch h
      · exact .inr ⟨path, behind, hpath, .inr ⟨_, _, _, _, hoption, h⟩⟩
      · rw [← Except.error.inj h]
        exact .inl rfl

/-- Attributes are refused as such, or because of the options of one of them; by induction
on the attributes.
-/
theorem foldAttributes_eq_error {σ : Type}
    {option : Span → σ → OptionPath → List Tree → Except Refusal (σ × List Tree)}
    {attributes : List Attribute} {state : σ}
    (h : foldAttributes option state attributes = .error refusal)
    : refusal.isAboutName = false
      ∨ ∃ a ∈ attributes, ∃ closing next,
          foldOptions closing (option closing) a.options.length next a.options
            = .error refusal := by
  induction attributes generalizing state with
  | nil => exact nomatch h
  | cons first others ih =>
      have hlater : ∀ {next : σ}, foldAttributes option next others = .error refusal
          → refusal.isAboutName = false
            ∨ ∃ a ∈ first :: others, ∃ closing next,
                foldOptions closing (option closing) a.options.length next a.options
                  = .error refusal := by
        intro next hnext
        rcases ih hnext with hother | ⟨a, ha, hrefused⟩
        · exact .inl hother
        · exact .inr ⟨a, List.mem_cons_of_mem _ ha, hrefused⟩
      unfold foldAttributes at h
      split at h
      · next hdsl =>
        split at h
        · obtain rfl := Except.error.inj h
          exact .inl rfl
        · obtain rfl := Except.error.inj h
          exact .inl rfl
        · next tokens closing hcontent =>
          rcases bind_eq_error.mp h with hrefused | ⟨next, _, hothers⟩
          · have htokens : first.options = tokens := by
              rw [Attribute.options, hcontent]
              exact if_pos hdsl
            rw [← htokens] at hrefused
            exact .inr ⟨first, List.mem_cons_self, closing, state, hrefused⟩
          · exact hlater hothers
      · exact hlater h

end Options

-----------------------------------------------------------------------------------------
-- What is about names
-----------------------------------------------------------------------------------------

/-- A refusal of a name that a token in a list of keys writes. Either it reports the name at
this token, or reading broke off because the name hides a keyword.
-/
def Refusal.BlamesToken (refusal : Refusal) (content : List Tree) : Prop :=
  ∃ token ∈ content, ∃ name,
    token.keyName? = some name
    ∧ (refusal = .fault (.badName name) token.span ∧ ¬ IsUsable name ∧ ¬ HidesIdent name
      ∨ refusal = .brokenIdent name
        ∧ HidesIdent name
        ∧ (soleIdent? name).any Ident.isKeyword = true)

theorem setterIdent_eq_error {name : String} {place : Span} {refusal : Refusal}
    (h : setterIdent name place = .error refusal)
    : refusal = .fault (.badName name) place ∧ ¬ IsUsable name ∧ ¬ HidesIdent name
      ∨ refusal = .brokenIdent name
        ∧ HidesIdent name
        ∧ (soleIdent? name).any Ident.isKeyword = true := by
  by_cases husable : IsUsable name
  · rw [setterIdent_of_isUsable husable] at h
    exact nomatch h
  by_cases hhides : HidesIdent name
  · obtain ⟨found, hfound, hsetter⟩ := setterIdent_of_hidesIdent hhides place
    rw [hsetter] at h
    split at h
    · next hkeyword =>
      refine .inr ⟨(Except.error.inj h).symm, hhides, ?_⟩
      rw [hfound]
      exact hkeyword
    · exact nomatch h
  · rw [setterIdent_of_neither husable hhides] at h
    exact .inl ⟨(Except.error.inj h).symm, husable, hhides⟩

/-- A name that has no setter is written by a token of its list. -/
theorem blames_mapM_declared {closing : Span} {content : List Tree}
    {written : List WrittenKey} {refusal : Refusal}
    (hwritten : writtenKeys closing content = .ok written)
    (h : written.mapM WrittenKey.declared = .error refusal)
    : refusal.BlamesToken content := by
  obtain ⟨front, key, back, hsplit, _, hkey⟩ := mapM_eq_error.mp h
  have hmem : key ∈ content.filterMap Tree.writtenKey? := by
    rw [← eq_filterMap_of_writtenKeys hwritten, hsplit]
    exact List.mem_append_right _ List.mem_cons_self
  obtain ⟨token, htoken, hname, hplace⟩ := exists_token_of_mem_written hmem
  rcases bind_eq_error.mp hkey with hident | ⟨_, _, hkey⟩
  · rw [hplace] at hident
    exact ⟨token, htoken, key.name, hname, setterIdent_eq_error hident⟩
  · exact nomatch hkey

/-- An option of a struct that is no list of keys is refused without regard to names: it is
the path of the library, or unknown.
-/
theorem structOption_refusal {closing : Span} {options : StructOptions} {path : OptionPath}
    {cs : List Tree} {refusal : Refusal} (hkeys : ¬ path.is "keys" = true)
    (h : structOption closing options path cs = .error refusal)
    : refusal.isAboutName = false := by
  unfold structOption at h
  rw [if_neg hkeys] at h
  split at h
  · split at h
    · split at h
      · split at h
        · obtain rfl := Except.error.inj h
          rfl
        · split at h
          · exact nomatch h
          · obtain rfl := Except.error.inj h
            rfl
      · obtain rfl := Except.error.inj h
        rfl
    · obtain rfl := Except.error.inj h
      rfl
  · obtain rfl := Except.error.inj h
    rfl

section Struct

variable {refusal : Refusal} (habout : refusal.isAboutName = true)
include habout

/-- An option of a struct that is refused because of a name is a list of keys that has it. -/
theorem blames_structOption {closing : Span} {options : StructOptions} {path : OptionPath}
    {cs : List Tree} (h : structOption closing options path cs = .error refusal)
    : path.is "keys" = true
      ∧ ∃ content opening inner rest,
          cs = .group .parenthesis content opening inner :: rest
          ∧ refusal.BlamesToken content := by
  by_cases hkeys : path.is "keys" = true
  · unfold structOption at h
    rw [if_pos hkeys] at h
    split at h
    · next content opening inner rest =>
      refine ⟨hkeys, content, opening, inner, rest, rfl, ?_⟩
      rcases bind_eq_error.mp h with hwritten | ⟨written, hwritten, h⟩
      · exact absurd ((writtenKeys_refusal hwritten).symm.trans habout) Bool.false_ne_true
      · rcases bind_eq_error.mp h with hdeclared | ⟨_, _, h⟩
        · exact blames_mapM_declared hwritten hdeclared
        · exact nomatch h
    · obtain rfl := Except.error.inj h
      exact nomatch habout
  · exact absurd ((structOption_refusal hkeys h).symm.trans habout) Bool.false_ne_true

/-- Options that are refused because of a name have it in a list of keys, by induction on
their number.
-/
theorem blames_foldOptions {closing : Span} {count : Nat} {options : StructOptions}
    {cs : List Tree}
    (h : foldOptions closing (structOption closing) count options cs = .error refusal)
    : ∃ content ∈ keyLists cs, refusal.BlamesToken content := by
  induction count generalizing options cs with
  | zero => exact nomatch h
  | succ count ih =>
      cases cs with
      | nil => exact nomatch h
      | cons token cs =>
          rcases foldOptions_eq_error h with hother | ⟨path, behind, hpath, hrefused | hlater⟩
          · exact absurd (hother.symm.trans habout) Bool.false_ne_true
          · obtain ⟨hkeys, content, opening, inner, rest, rfl, hblames⟩ :=
              blames_structOption habout hrefused
            obtain ⟨span, hcs⟩ := eq_cons_of_optionPath hpath hkeys
            refine ⟨content, ?_, hblames⟩
            rw [hcs, keyLists, if_pos rfl]
            exact List.mem_cons_self
          · obtain ⟨next, joined, span, others, hnext, hothers⟩ := hlater
            obtain ⟨content, hcontent, hblames⟩ := ih hothers
            obtain ⟨lists, hsplit, _⟩ := keyLists_of_structOption hpath hnext
            refine ⟨content, ?_, hblames⟩
            rw [hsplit]
            exact List.mem_append_right _ hcontent

end Struct

-----------------------------------------------------------------------------------------
-- Fields
-----------------------------------------------------------------------------------------

section Fields

variable {refusal : Refusal}

/-- The options of a field are refused without regard to names. -/
theorem Field.role_refusal {field : Field} (h : field.role = .error refusal)
    : refusal.isAboutName = false := by
  obtain ⟨front, a, back, _, _, _, hfault⟩ := Field.role_eq_error_iff.mp h
  cases hfault with
  | missing | value => rfl
  | option _ _ _ _ fault =>
      cases fault with
      | noPath fault => exact fault.isAboutName_eq
      | unknown | bothRoles | noComma => rfl

theorem storageField_refusal {nameSpan : Span} {fields : List (Field × Role)}
    (h : storageField nameSpan fields = .error refusal)
    : refusal.isAboutName = false := by
  unfold storageField at h
  split at h
  · exact nomatch h
  · obtain rfl := Except.error.inj h
    rfl
  · split at h
    · exact nomatch h
    · obtain rfl := Except.error.inj h
      rfl

end Fields

-----------------------------------------------------------------------------------------
-- Items
-----------------------------------------------------------------------------------------

namespace Declaration

/-- An item that is refused because of a name has it in a list of keys. -/
theorem blames_ofItem {item : Item} {refusal : Refusal}
    (habout : refusal.isAboutName = true) (h : ofItem item = .error refusal)
    : ∃ content ∈ item.keyLists, refusal.BlamesToken content := by
  unfold ofItem at h
  split at h
  · obtain rfl := Except.error.inj h
    exact nomatch habout
  · obtain rfl := Except.error.inj h
    exact nomatch habout
  · obtain rfl := Except.error.inj h
    exact nomatch habout
  · rcases bind_eq_error.mp h with hoptions | ⟨_, _, h⟩
    · rcases foldAttributes_eq_error hoptions with hother | ⟨a, ha, closing, next, hrefused⟩
      · exact absurd (hother.symm.trans habout) Bool.false_ne_true
      · obtain ⟨content, hcontent, hblames⟩ := blames_foldOptions habout hrefused
        exact ⟨content, List.mem_flatMap.mpr ⟨a, ha, hcontent⟩, hblames⟩
    · -- fields and their roles are refused without regard to names
      have hother : refusal.isAboutName = false := by
        rcases bind_eq_error.mp h with hroles | ⟨_, _, h⟩
        · obtain ⟨_, field, _, _, _, hfield⟩ := mapM_eq_error.mp hroles
          rcases bind_eq_error.mp hfield with hrole | ⟨_, _, hfield⟩
          · exact Field.role_refusal hrole
          · exact nomatch hfield
        · rcases bind_eq_error.mp h with hstorage | ⟨_, _, h⟩
          · exact storageField_refusal hstorage
          · exact nomatch h
      exact absurd (hother.symm.trans habout) Bool.false_ne_true

end Declaration

end DeclaredSettings.Derive
