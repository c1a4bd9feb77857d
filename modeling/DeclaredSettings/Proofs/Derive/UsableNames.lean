import DeclaredSettings.Proofs.Derive.GeneratedMethods
import DeclaredSettings.Proofs.Derive.IdentifierTokens
import DeclaredSettings.Proofs.Derive.KeyLists

/-! Which names can be declared, and which declarations can be expanded. A name is checked by
the tokens in it, but the name of its reader is made of its text. The two agree on all names
but those that are no identifiers and still have an identifier for their only token.
-/

namespace DeclaredSettings.Derive

open Outcome Text

-----------------------------------------------------------------------------------------
-- Three kinds of names
-----------------------------------------------------------------------------------------

/-- A name that methods can have: an identifier that may be raw. -/
def IsUsable (name : String) : Prop :=
  isIdentifier name.toList = true ∧ name ∉ neverRaw

instance (name : String) : Decidable (IsUsable name) :=
  inferInstanceAs (Decidable (_ ∧ _))

/-- A name that is no identifier though the lexer finds one identifier in it and nothing
else, because it has a comment or blanks besides or is written as a raw one.
-/
def HidesIdent (name : String) : Prop :=
  isIdentifier name.toList = false ∧ (soleIdent? name).isSome = true

instance (name : String) : Decidable (HidesIdent name) :=
  inferInstanceAs (Decidable (_ ∧ _))

/-- The names that cannot be raw are identifiers, so none of them hides one. -/
theorem HidesIdent.not_mem_neverRaw {name : String} (h : HidesIdent name)
    : name ∉ neverRaw := by
  intro hraw
  have hidentifiers : neverRaw.all (fun name => isIdentifier name.toList) = true := by decide
  exact Bool.false_ne_true (h.1.symm.trans (List.all_eq_true.mp hidentifiers name hraw))

/-- The setter of a usable name has this name, and is raw if it is a keyword. -/
theorem setterIdent_of_isUsable {name : String} (h : IsUsable name) (place : Span)
    : setterIdent name place = .ok ⟨(Ident.plain name).isKeyword, name⟩ := by
  rw [setterIdent, if_neg h.2, soleIdent?_of_isIdentifier h.1]
  dsimp only
  rw [if_pos h.1]
  cases (Ident.plain name).isKeyword with
  | true => rfl
  | false => rfl

/-- The setter of a name that hides an identifier is this identifier, and there is none if
it is a keyword.
-/
theorem setterIdent_of_hidesIdent {name : String} (h : HidesIdent name) (place : Span)
    : ∃ found,
        soleIdent? name = some found
        ∧ setterIdent name place
          = if found.isKeyword then .error (.brokenIdent name) else .ok found := by
  obtain ⟨found, hfound⟩ := Option.isSome_iff_exists.mp h.2
  refine ⟨found, hfound, ?_⟩
  have hno : ¬ isIdentifier name.toList = true := by
    rw [h.1]
    exact Bool.false_ne_true
  rw [setterIdent, if_neg h.not_mem_neverRaw, hfound]
  dsimp only
  rw [if_neg hno]

/-- All other names are reported at their place. -/
theorem setterIdent_of_neither {name : String} (husable : ¬ IsUsable name)
    (hhides : ¬ HidesIdent name) (place : Span)
    : setterIdent name place = .error (.fault (.badName name) place) := by
  unfold setterIdent
  split
  · rfl
  · next hraw =>
    have hno : isIdentifier name.toList = false := by
      rw [← Bool.not_eq_true]
      exact fun hidentifier => husable ⟨hidentifier, hraw⟩
    split
    · rfl
    · next found hfound => exact absurd ⟨hno, by rw [hfound]; rfl⟩ hhides

theorem DeclaredKey.Checked.usable_or_hides {key : DeclaredKey} (h : key.Checked)
    : IsUsable key.name ∨ HidesIdent key.name := by
  obtain ⟨place, h⟩ := h
  by_contra hneither
  obtain ⟨husable, hhides⟩ := not_or.mp hneither
  rw [setterIdent_of_neither husable hhides] at h
  exact nomatch h

-----------------------------------------------------------------------------------------
-- Expanding a declaration
-----------------------------------------------------------------------------------------

theorem isIdentifier_readerName {name : String} (h : isIdentifier name.toList = true)
    : isIdentifier (Accessor.readerName name).toList = true := by
  have hbehind : ("et_".toList ++ name.toList).all isIdentifierContinue = true := by
    rw [List.all_append, List.all_eq_true.mpr (isIdentifierContinue_of_mem h)]
    decide
  have hstart : isIdentifierStart 'g' = true := by decide
  rw [Accessor.readerName, String.toList_append]
  exact Bool.and_eq_true_iff.mpr ⟨hstart, hbehind⟩

theorem HidesIdent.isIdentifier_readerName {name : String} (h : HidesIdent name)
    : isIdentifier (Accessor.readerName name).toList = false := by
  rw [← Bool.not_eq_true]
  intro hreader
  have hchars : ∀ c ∈ name.toList, isIdentifierContinue c = true :=
    fun c hc => isIdentifierContinue_of_mem hreader c (mem_readerName hc)
  obtain ⟨found, hfound⟩ := Option.isSome_iff_exists.mp h.2
  have hidentifier := (soleIdent?_of_identifierChars hchars hfound).1
  exact Bool.false_ne_true (h.1.symm.trans hidentifier)

namespace Declaration

/-- What the methods of a declaration are called: the setters by the names that they set,
raw where these are keywords, so that no two are called alike, and the readers by
identifiers.
-/
structure CallsByName (d : Declaration) : Prop where
  setters : ∀ key ∈ d.keys, key.ident = ⟨(Ident.plain key.name).isKeyword, key.name⟩
  distinct : (d.keys.map (·.ident.name)).Nodup
  readers : ∀ key ∈ d.keys, isIdentifier (Accessor.readerName key.name).toList = true

/-- The methods of a key fail only at a reader that is no identifier. -/
theorem methodsOf_eq_error {names : List String} {key : DeclaredKey} {text : String}
    (h : methodsOf names key = .error text)
    : text = Accessor.readerName key.name
      ∧ isIdentifier (Accessor.readerName key.name).toList = false := by
  unfold methodsOf at h
  dsimp only at h
  split at h
  · exact nomatch h
  · rcases bind_eq_error.mp h with hreader | ⟨_, _, h⟩
    · unfold readerIdent at hreader
      dsimp only at hreader
      split at hreader
      · exact nomatch hreader
      · next hno => exact ⟨(Except.error.inj hreader).symm, Bool.not_eq_true _ ▸ hno⟩
    · exact nomatch h

theorem exists_methods_of_isUsable {d : Declaration} (h : ∀ name ∈ d.names, IsUsable name)
    : ∃ methods, d.methods = .ok methods := by
  have hkeys : ∀ key ∈ d.keys, ∃ methods, methodsOf d.names key = .ok methods := by
    intro key hkey
    have husable := h key.name (List.mem_map_of_mem hkey)
    cases hmethods : methodsOf d.names key with
    | ok methods => exact ⟨methods, rfl⟩
    | error text =>
        have hno := (methodsOf_eq_error hmethods).2
        rw [isIdentifier_readerName husable.1] at hno
        exact nomatch hno
  obtain ⟨lists, hlists⟩ := exists_mapM_eq_ok hkeys
  exact ⟨lists.flatten, by rw [methods, hlists]; rfl⟩

variable {item : Item} {d : Declaration}

theorem usable_or_hides_of_ofItem (h : ofItem item = .ok d)
    : ∀ name ∈ d.names, IsUsable name ∨ HidesIdent name := by
  intro name hname
  obtain ⟨key, hkey, rfl⟩ := List.mem_map.mp hname
  exact (checked_of_ofItem h key hkey).usable_or_hides

/-- An accepted item can be expanded if and only if all its names are usable. -/
theorem exists_expansion_iff (h : ofItem item = .ok d)
    : (∃ code, expansion d = .ok code) ↔ ∀ name ∈ d.names, IsUsable name := by
  constructor
  · intro hgenerated name hname
    have hexpanded : d.Expanded := ⟨⟨item, h⟩, hgenerated⟩
    obtain ⟨key, hkey, rfl⟩ := List.mem_map.mp hname
    rcases (checked_of_ofItem h key hkey).usable_or_hides with husable | hhides
    · exact husable
    · have hidentifier := (hexpanded.ident_name key hkey).1
      rw [hhides.1] at hidentifier
      exact nomatch hidentifier
  · intro husable
    obtain ⟨methods, hmethods⟩ := exists_methods_of_isUsable husable
    exact ⟨_, by rw [expansion, hmethods]; rfl⟩

/-- If it cannot, the reason is the reader of the first name that hides an identifier and has
a reader; names in front are usable, or setters are called like their readers.
-/
theorem hides_of_expansion_eq_error (h : ofItem item = .ok d) {text : String}
    (hexpansion : expansion d = .error text)
    : ∃ front key back,
        d.keys = front ++ key :: back
        ∧ (∀ earlier ∈ front,
            IsUsable earlier.name ∨ Accessor.readerName earlier.name ∈ d.names)
        ∧ HidesIdent key.name
        ∧ text = Accessor.readerName key.name := by
  have hmethods : d.keys.mapM (methodsOf d.names) = .error text := by
    rcases bind_eq_error.mp hexpansion with hmethods | ⟨_, _, hcode⟩
    · rcases bind_eq_error.mp hmethods with hlists | ⟨_, _, hlists⟩
      · exact hlists
      · exact nomatch hlists
    · exact nomatch hcode
  obtain ⟨front, key, back, hsplit, hfront, hkey⟩ := mapM_eq_error.mp hmethods
  have hmem : ∀ other ∈ front ++ key :: back, IsUsable other.name ∨ HidesIdent other.name :=
    hsplit ▸ fun other hother => (checked_of_ofItem h other hother).usable_or_hides
  obtain ⟨rfl, hno⟩ := methodsOf_eq_error hkey
  -- a reader that was generated is an identifier, so its name hides none
  refine ⟨front, key, back, hsplit, fun earlier hearlier => ?_, ?_, rfl⟩
  · obtain ⟨methods, hok⟩ := hfront earlier hearlier
    rcases (methodsOf_eq_ok hok).1 with htaken | hreader
    · exact .inr htaken
    · rcases hmem earlier (List.mem_append_left _ hearlier) with husable | hhides
      · exact .inl husable
      · exact absurd (hhides.isIdentifier_readerName.symm.trans hreader) Bool.false_ne_true
  · rcases hmem key (by simp) with husable | hhides
    · rw [isIdentifier_readerName husable.1] at hno
      exact nomatch hno
    · exact hhides

/-- If it can, its methods are called by name. -/
theorem callsByName_of_isUsable (h : ofItem item = .ok d)
    (husable : ∀ name ∈ d.names, IsUsable name)
    : d.CallsByName := by
  have hsetters : ∀ key ∈ d.keys,
      key.ident = ⟨(Ident.plain key.name).isKeyword, key.name⟩ := by
    intro key hkey
    obtain ⟨place, hchecked⟩ := checked_of_ofItem h key hkey
    rw [setterIdent_of_isUsable (husable key.name (List.mem_map_of_mem hkey))] at hchecked
    exact (Except.ok.inj hchecked).symm
  refine ⟨hsetters, ?_, fun key hkey => ?_⟩
  · have hnames : d.keys.map (·.ident.name) = d.names :=
      List.map_congr_left fun key hkey => by rw [hsetters key hkey]
    rw [hnames, names_of_ofItem h]
    exact nodup_eraseDups _
  · exact isIdentifier_readerName (husable key.name (List.mem_map_of_mem hkey)).1

end Declaration

end DeclaredSettings.Derive
