import DeclaredSettings.Proofs.Derive.OptionLists
import DeclaredSettings.Proofs.Derive.UsableNames

/-! What is wrong in a list of keys is found in two passes: first a token that is no name or
no comma, and then a name that no method can have. In each the first from the left is
reported.
-/

namespace DeclaredSettings.Derive

open Outcome

-----------------------------------------------------------------------------------------
-- Lists of keys and what is none
-----------------------------------------------------------------------------------------

/-- What is wrong in a list of keys: a key that is none, or else the first name that is not
usable.
-/
inductive KeyListFault : List Tree → Refusal → Prop
  | key {front rest : List Tree} {refusal : Refusal} (keys : CommaEnded IsKey front)
    (fault : KeyFault rest refusal)
    : KeyListFault (front ++ rest) refusal
  | badName {before after : List Tree} {token : Tree} {name : String}
    (keys : CommaList IsKey (before ++ token :: after))
    (usable : ∀ earlier ∈ keyNames before, IsUsable earlier)
    (writes : token.keyName? = some name) (unusable : ¬ IsUsable name)
    : KeyListFault (before ++ token :: after) (.fault (.badName name) token.span)

-----------------------------------------------------------------------------------------
-- Reading them
-----------------------------------------------------------------------------------------

/-- Usable names are declared. -/
theorem declared_of_isUsable {tokens : List Tree}
    (h : ∀ name ∈ keyNames tokens, IsUsable name)
    : ∀ key ∈ tokens.filterMap Tree.writtenKey?, ∃ declared, key.declared = .ok declared := by
  intro key hkey
  obtain ⟨token, htoken, hwrites, _⟩ := exists_token_of_mem_written hkey
  have husable := h key.name (List.mem_filterMap.mpr ⟨token, htoken, hwrites⟩)
  exact ⟨_, by rw [WrittenKey.declared, setterIdent_of_isUsable husable]; rfl⟩

/-- A list of keys is read and its names are declared if all of them are usable. -/
theorem exists_declared {tokens : List Tree} (h : CommaList IsKey tokens)
    (husable : ∀ name ∈ keyNames tokens, IsUsable name) (closing : Span)
    : ∃ written declared,
        writtenKeys closing tokens = .ok written
        ∧ written.mapM WrittenKey.declared = .ok declared := by
  obtain ⟨declared, hdeclared⟩ := exists_mapM_eq_ok (declared_of_isUsable husable)
  exact ⟨_, declared, writtenKeys_of_commaList h closing, hdeclared⟩

/-- Whether what is reported is a name that hides an identifier. -/
def Refusal.BlamesHidden (refusal : Refusal) : Prop :=
  ∃ name place, refusal = .fault (.badName name) place ∧ HidesIdent name

/-- What is wrong in a list of keys is reported, when it is read or when its names are
checked, unless it is a name that hides an identifier.
-/
theorem KeyListFault.refused {tokens : List Tree} {refusal : Refusal}
    (h : KeyListFault tokens refusal) (hshown : ¬ refusal.BlamesHidden) (closing : Span)
    : (writtenKeys closing tokens >>= fun written => written.mapM WrittenKey.declared)
      = .error refusal := by
  cases h with
  | key keys fault =>
      rw [writtenKeys_of_commaEnded keys (fault.refused closing)]
      rfl
  | @badName before after token name keys usable writes unusable =>
      have hhides : ¬ HidesIdent name := fun hhides => hshown ⟨name, _, rfl, hhides⟩
      rw [writtenKeys_of_commaList keys]
      refine mapM_eq_error.mpr ⟨before.filterMap Tree.writtenKey?,
        ⟨name, token.span⟩, after.filterMap Tree.writtenKey?, ?_,
        declared_of_isUsable usable, ?_⟩
      · rw [List.filterMap_append,
          List.filterMap_cons_some (Tree.writtenKey?_of_some writes)]
      · rw [WrittenKey.declared, setterIdent_of_neither unusable hhides]
        rfl

-----------------------------------------------------------------------------------------
-- There is nothing else
-----------------------------------------------------------------------------------------

/-- Whether a token writes a name that is not usable. -/
def Tree.misnames (token : Tree) : Bool :=
  token.keyName?.any fun name => !decide (IsUsable name)

theorem misnames_iff {token : Tree}
    : token.misnames = true ↔ ∃ name, token.keyName? = some name ∧ ¬ IsUsable name := by
  unfold Tree.misnames
  cases token.keyName? with
  | none => simp
  | some name => simp

theorem isUsable_of_not_misnames {tokens : List Tree}
    (h : ∀ token ∈ tokens, ¬ token.misnames = true)
    : ∀ name ∈ keyNames tokens, IsUsable name := by
  intro name hname
  obtain ⟨token, htoken, hwrites⟩ := List.mem_filterMap.mp hname
  by_contra hunusable
  exact h token htoken (misnames_iff.mpr ⟨name, hwrites, hunusable⟩)

/-- Tokens are a list of usable keys, or something is wrong in them. -/
theorem keys_or_keyListFault (tokens : List Tree)
    : (CommaList IsKey tokens ∧ ∀ name ∈ keyNames tokens, IsUsable name)
      ∨ ∃ refusal, KeyListFault tokens refusal := by
  rcases commaList_or_keyFault tokens with
    hlist | ⟨front, rest, refusal, rfl, hfront, hfault⟩
  · cases hfind : tokens.find? Tree.misnames with
    | none =>
        exact .inl ⟨hlist, isUsable_of_not_misnames (List.find?_eq_none.mp hfind)⟩
    | some token =>
        obtain ⟨hbad, before, after, rfl, hbefore⟩ := List.find?_eq_some_iff_append.mp hfind
        obtain ⟨name, hwrites, hunusable⟩ := misnames_iff.mp hbad
        refine .inr ⟨_, .badName hlist (isUsable_of_not_misnames ?_) hwrites hunusable⟩
        exact fun earlier hearlier => by simpa using hbefore earlier hearlier
  · exact .inr ⟨refusal, .key hfront hfault⟩

end DeclaredSettings.Derive
