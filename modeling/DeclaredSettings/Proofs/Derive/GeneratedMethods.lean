import DeclaredSettings.Derive.Expansion
import DeclaredSettings.Proofs.Derive.AcceptedKeys
import DeclaredSettings.Proofs.Derive.SoleIdentifier
import Mathlib.Algebra.Order.BigOperators.Group.List
import Mathlib.Algebra.Order.Group.Nat

/-! The methods that are generated for an accepted declaration are the accessors of its
layer. A reader must be an identifier, so the names of a declaration that is expanded
consist of characters of identifiers, and each setter is called by the name that it sets.
-/

namespace DeclaredSettings.Derive

open Outcome Text

-----------------------------------------------------------------------------------------
-- Names consist of characters of identifiers
-----------------------------------------------------------------------------------------

/-- The name of a reader has the characters of the name that it reads. -/
theorem mem_readerName {name : String} {c : Char} (h : c ∈ name.toList)
    : c ∈ (Accessor.readerName name).toList := by
  rw [Accessor.readerName, String.toList_append]
  exact List.mem_append_right _ h

/-- Names of which each has a reader that is an identifier or one of the names consist of
characters of identifiers. The name of a reader is longer than what it reads, so the
induction is on how much the longest name is longer than a name.
-/
theorem identifierChars_of_readers {names : List String}
    (h
      : ∀ name ∈ names,
          Accessor.readerName name ∈ names
          ∨ isIdentifier (Accessor.readerName name).toList = true)
    : ∀ name ∈ names, ∀ c ∈ name.toList, isIdentifierContinue c = true := by
  obtain ⟨bound, hbound⟩ : ∃ bound, ∀ name ∈ names, name.length ≤ bound :=
    ⟨(names.map String.length).sum, fun name hname =>
      List.le_sum_of_mem (List.mem_map_of_mem hname)⟩
  have hlonger : ∀ name, (Accessor.readerName name).length = name.length + 4 := by
    intro name
    rw [Accessor.readerName, String.length_append, Nat.add_comm]
    rfl
  have hall : ∀ shorter name, name ∈ names → bound ≤ name.length + shorter
      → ∀ c ∈ name.toList, isIdentifierContinue c = true := by
    intro shorter
    induction shorter with
    | zero =>
        intro name hname hlength c hc
        rcases h name hname with hreader | hreader
        · have := hbound _ hreader
          have := hlonger name
          omega
        · exact isIdentifierContinue_of_mem hreader c (mem_readerName hc)
    | succ shorter ih =>
        intro name hname hlength c hc
        rcases h name hname with hreader | hreader
        · have := hlonger name
          exact ih _ hreader (by omega) c (mem_readerName hc)
        · exact isIdentifierContinue_of_mem hreader c (mem_readerName hc)
  exact fun name hname => hall bound name hname (Nat.le_add_left _ _)

/-- A checked name of characters of identifiers is an identifier, and that of its setter. -/
theorem DeclaredKey.Checked.ident_name {key : DeclaredKey} (h : key.Checked)
    (hname : ∀ c ∈ key.name.toList, isIdentifierContinue c = true)
    : isIdentifier key.name.toList = true ∧ key.ident.name = key.name := by
  obtain ⟨place, h⟩ := h
  unfold setterIdent at h
  split at h
  · exact nomatch h
  · split at h
    · exact nomatch h
    · next ident hsole =>
      obtain ⟨hidentifier, rfl⟩ := soleIdent?_of_identifierChars hname hsole
      refine ⟨hidentifier, ?_⟩
      rw [if_pos hidentifier] at h
      split at h <;> rw [← Except.ok.inj h]
      rfl

namespace Declaration

-----------------------------------------------------------------------------------------
-- Methods and accessors
-----------------------------------------------------------------------------------------

/-- The methods of a name are its setter and, unless a setter is called so, its reader,
which then is an identifier.
-/
theorem methodsOf_eq_ok {names : List String} {key : DeclaredKey} {methods : List Method}
    (h : methodsOf names key = .ok methods)
    : (Accessor.readerName key.name ∈ names
        ∨ isIdentifier (Accessor.readerName key.name).toList = true)
      ∧ methods = ⟨key.ident, .setter, key.name⟩ ::
        if Accessor.readerName key.name ∈ names then []
        else [⟨.plain (Accessor.readerName key.name), .reader, key.name⟩] := by
  unfold methodsOf at h
  split at h
  · next hlisted => exact ⟨.inl hlisted, by rw [if_pos hlisted, Except.ok.inj h]⟩
  · next hfresh =>
    obtain ⟨ident, hident, heq⟩ := bind_eq_ok.mp h
    simp only [readerIdent] at hident
    split at hident
    · next hidentifier =>
      rw [← Except.ok.inj heq, ← Except.ok.inj hident, if_neg hfresh]
      exact ⟨.inr hidentifier, rfl⟩
    · exact nomatch hident

end Declaration

/-- The accessor that a generated method is. It is called by the name of its identifier,
whether this is raw or not.
-/
def Method.accessor (method : Method) : Accessor :=
  ⟨method.ident.name, method.kind, method.key⟩

namespace Declaration

/-- The methods of names, one list for each, are their accessors; by induction on the names.
-/
theorem map_accessor_flatten {names : List String} {keys : List DeclaredKey}
    {lists : List (List Method)} (hkeys : ∀ key ∈ keys, key.ident.name = key.name)
    (h : List.Forall₂ (fun key methods => methodsOf names key = .ok methods) keys lists)
    : lists.flatten.map Method.accessor
      = (keys.map (·.name)).flatMap (Accessor.ofKey names) := by
  induction h with
  | nil => rfl
  | @cons key methods keys lists hmethods _ ih =>
      have hident := hkeys key List.mem_cons_self
      have hothers := ih fun other hother => hkeys other (List.mem_cons_of_mem _ hother)
      rw [List.flatten_cons, List.map_append, hothers, List.map_cons, List.flatMap_cons,
        (methodsOf_eq_ok hmethods).2, Accessor.ofKey]
      split <;> simp [Method.accessor, Ident.plain, hident]

/-- A declaration of an accepted item for which code is generated. -/
structure Expanded (d : Declaration) : Prop where
  accepted : ∃ item, ofItem item = .ok d
  generated : ∃ code, expansion d = .ok code

namespace Expanded

variable {d : Declaration}

theorem exists_methods (h : d.Expanded)
    : ∃ lists,
        List.Forall₂ (fun key methods => methodsOf d.names key = .ok methods) d.keys lists
        ∧ d.methods = .ok lists.flatten := by
  obtain ⟨code, hcode⟩ := h.generated
  obtain ⟨methods, hmethods, _⟩ := bind_eq_ok.mp hcode
  obtain ⟨lists, hlists, heq⟩ := bind_eq_ok.mp hmethods
  exact ⟨lists, forall₂_of_mapM_eq_ok hlists, hmethods.trans heq.symm⟩

/-- The names of a declaration that can be expanded consist of characters of identifiers,
since all their readers do.
-/
theorem identifierChars (h : d.Expanded)
    : ∀ name ∈ d.names, ∀ c ∈ name.toList, isIdentifierContinue c = true := by
  obtain ⟨lists, hlists, _⟩ := h.exists_methods
  refine identifierChars_of_readers fun name hname => ?_
  obtain ⟨key, hkey, rfl⟩ := List.mem_map.mp hname
  obtain ⟨methods, _, hmethods⟩ := exists_mem_of_forall₂ hlists.flip hkey
  exact (methodsOf_eq_ok hmethods).1

/-- Each of its names is an identifier, and that of its setter. -/
theorem ident_name (h : d.Expanded)
    : ∀ key ∈ d.keys, isIdentifier key.name.toList = true ∧ key.ident.name = key.name := by
  intro key hkey
  obtain ⟨item, hitem⟩ := h.accepted
  exact (checked_of_ofItem hitem key hkey).ident_name
    (h.identifierChars key.name (List.mem_map_of_mem hkey))

/-- Its names are canonical spellings of themselves. -/
theorem canonical_name (h : d.Expanded) {name : String} (hname : name ∈ d.names)
    : canonical name = name :=
  canonical_of_identifierChars (h.identifierChars name hname)

/-- The methods that are generated for it are the accessors of its layer. -/
theorem methods_eq_accessors (h : d.Expanded)
    : ∃ methods, d.methods = .ok methods
        ∧ methods.map Method.accessor = d.layer.accessors := by
  obtain ⟨lists, hlists, hmethods⟩ := h.exists_methods
  exact ⟨lists.flatten, hmethods,
    map_accessor_flatten (fun key hkey => (h.ident_name key hkey).2) hlists⟩

end Expanded

end Declaration

end DeclaredSettings.Derive
