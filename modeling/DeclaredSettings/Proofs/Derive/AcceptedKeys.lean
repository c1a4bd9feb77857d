import DeclaredSettings.Derive.Declaration
import DeclaredSettings.Proofs.Outcome.Sequencing

/-! What a checked declaration knows of its names. Options are read one after the other, so
what holds at first and is kept by every option holds of all that the attributes say.
-/

namespace DeclaredSettings.Derive

open Outcome

-----------------------------------------------------------------------------------------
-- Reading options keeps an invariant
-----------------------------------------------------------------------------------------

section Folding

variable {σ : Type} (Holds : σ → Prop)

/-- What every option keeps is kept by the options in one pair of parentheses, by induction
on their number.
-/
theorem foldOptions_keeps {closing : Span}
    {option : σ → OptionPath → List Tree → Except Refusal (σ × List Tree)}
    (hoption
      : ∀ state path cs next rest,
          Holds state → option state path cs = .ok (next, rest) → Holds next)
    {count : Nat} {state final : σ} {cs : List Tree} (hstate : Holds state)
    (h : foldOptions closing option count state cs = .ok final)
    : Holds final := by
  induction count generalizing state cs with
  | zero =>
      obtain rfl := Except.ok.inj h
      exact hstate
  | succ count ih =>
      unfold foldOptions at h
      split at h
      · obtain rfl := Except.ok.inj h
        exact hstate
      · obtain ⟨⟨path, behind⟩, _, h⟩ := bind_eq_ok.mp h
        obtain ⟨⟨next, rest⟩, hnext, h⟩ := bind_eq_ok.mp h
        have hkept := hoption _ _ _ _ _ hstate hnext
        simp only at h
        split at h
        · obtain rfl := Except.ok.inj h
          exact hkept
        · exact ih hkept h
        · exact nomatch h

/-- It is kept by the options of all attributes, by induction on these. -/
theorem foldAttributes_keeps
    {option : Span → σ → OptionPath → List Tree → Except Refusal (σ × List Tree)}
    (hoption
      : ∀ closing state path cs next rest,
          Holds state → option closing state path cs = .ok (next, rest) → Holds next)
    {attributes : List Attribute} {state final : σ} (hstate : Holds state)
    (h : foldAttributes option state attributes = .ok final)
    : Holds final := by
  induction attributes generalizing state with
  | nil =>
      obtain rfl := Except.ok.inj h
      exact hstate
  | cons first others ih =>
      unfold foldAttributes at h
      split at h
      · split at h
        · exact nomatch h
        · exact nomatch h
        · obtain ⟨next, hnext, hothers⟩ := bind_eq_ok.mp h
          exact ih (foldOptions_keeps Holds (hoption _) hstate hnext) hothers
      · exact ih hstate h

end Folding

-----------------------------------------------------------------------------------------
-- Every name has its setter
-----------------------------------------------------------------------------------------

/-- A name whose setter has the identifier that the check of names gives. -/
def DeclaredKey.Checked (key : DeclaredKey) : Prop :=
  ∃ place, setterIdent key.name place = .ok key.ident

/-- A name that is added is the only one to come in. -/
theorem mem_of_mem_addKey {keys : List DeclaredKey} {added key : DeclaredKey}
    (h : key ∈ addKey keys added)
    : key ∈ keys ∨ key = added := by
  unfold addKey at h
  split at h
  · exact .inl h
  · simpa using h

theorem checked_foldl_addKey {keys added : List DeclaredKey}
    (hkeys : ∀ key ∈ keys, key.Checked) (hadded : ∀ key ∈ added, key.Checked)
    : ∀ key ∈ added.foldl addKey keys, key.Checked := by
  refine List.foldlRecOn (motive := fun keys => ∀ key ∈ keys, key.Checked) added addKey
    hkeys fun _ hsofar first hfirst key hkey => ?_
  rcases mem_of_mem_addKey hkey with hkey | rfl
  · exact hsofar key hkey
  · exact hadded key hfirst

theorem WrittenKey.checked_of_declared {written : WrittenKey} {key : DeclaredKey}
    (h : written.declared = .ok key)
    : key.Checked := by
  obtain ⟨ident, hident, heq⟩ := bind_eq_ok.mp h
  obtain rfl := Except.ok.inj heq
  exact ⟨written.place, hident⟩

/-- An option of a struct leaves all names checked: a list of names is checked name by name,
and the path of the library adds none.
-/
theorem checked_structOption {closing : Span} {options next : StructOptions}
    {path : OptionPath} {cs rest : List Tree}
    (hoptions : ∀ key ∈ options.keys, key.Checked)
    (h : structOption closing options path cs = .ok (next, rest))
    : ∀ key ∈ next.keys, key.Checked := by
  unfold structOption at h
  split at h
  · split at h
    · obtain ⟨written, _, h⟩ := bind_eq_ok.mp h
      obtain ⟨declared, hdeclared, heq⟩ := bind_eq_ok.mp h
      obtain ⟨rfl, rfl⟩ := Prod.mk.inj (Except.ok.inj heq)
      refine checked_foldl_addKey hoptions fun key hkey => ?_
      obtain ⟨_, _, hkey⟩ := exists_mem_of_forall₂ (forall₂_of_mapM_eq_ok hdeclared) hkey
      exact WrittenKey.checked_of_declared hkey
    · exact nomatch h
  · split at h
    · split at h
      · split at h
        · split at h
          · exact nomatch h
          · split at h
            · obtain ⟨rfl, rfl⟩ := Prod.mk.inj (Except.ok.inj h)
              exact hoptions
            · exact nomatch h
        · exact nomatch h
      · exact nomatch h
    · exact nomatch h

/-- All names of an accepted item are checked. -/
theorem Declaration.checked_of_ofItem {item : Item} {d : Declaration}
    (h : Declaration.ofItem item = .ok d)
    : ∀ key ∈ d.keys, key.Checked := by
  unfold Declaration.ofItem at h
  split at h
  · exact nomatch h
  · exact nomatch h
  · exact nomatch h
  · obtain ⟨options, hoptions, h⟩ := bind_eq_ok.mp h
    obtain ⟨withRoles, _, h⟩ := bind_eq_ok.mp h
    obtain ⟨⟨field, role⟩, _, heq⟩ := bind_eq_ok.mp h
    obtain rfl := Except.ok.inj heq
    have hnone : ∀ key ∈ ([] : List DeclaredKey), key.Checked :=
      fun _ hkey => absurd hkey List.not_mem_nil
    exact foldAttributes_keeps (fun options => ∀ key ∈ options.keys, key.Checked)
      (fun _ _ _ _ _ _ => checked_structOption) hnone hoptions

end DeclaredSettings.Derive
