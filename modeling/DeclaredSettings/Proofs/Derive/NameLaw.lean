import DeclaredSettings.Proofs.Derive.InheritedAccessors
import DeclaredSettings.Proofs.Derive.NameRefusals

/-! What becomes of the names that an item writes. A usable name gets a setter and a reader
of its own, and a name in which there is not one identifier is reported at its token. In
between are the names that hide an identifier: the item is accepted with them, and cannot be
expanded.
-/

namespace DeclaredSettings.Derive.Declaration

open Outcome

/-- What becomes of the names that an accepted item writes. -/
structure NameLaw (item : Item) (d : Declaration) : Prop where
  /-- All are usable or hide an identifier. -/
  kinds : ∀ name ∈ item.writtenNames, IsUsable name ∨ HidesIdent name
  /-- The item can be expanded if and only if they are usable. -/
  expands : (∃ code, expansion d = .ok code) ↔ ∀ name ∈ item.writtenNames, IsUsable name
  /-- Then the methods are called by the names, no two setters alike. -/
  called : (∀ name ∈ item.writtenNames, IsUsable name) → d.CallsByName
  /-- A name that hides an identifier has this for its setter, not its own. -/
  hidden
    : ∀ key ∈ d.keys, HidesIdent key.name → soleIdent? key.name = some key.ident
  /-- Expanding fails at the reader of the first such name that has a reader. -/
  stuck
    : ∀ text,
        expansion d = .error text
        → ∃ front key back,
            d.keys = front ++ key :: back
            ∧ (∀ earlier ∈ front,
                IsUsable earlier.name ∨ Accessor.readerName earlier.name ∈ d.names)
            ∧ HidesIdent key.name
            ∧ text = Accessor.readerName key.name

/-- The setter of a checked name that hides an identifier is this identifier. -/
theorem setter_of_hidesIdent {key : DeclaredKey} (h : key.Checked)
    (hhides : HidesIdent key.name)
    : soleIdent? key.name = some key.ident := by
  obtain ⟨place, h⟩ := h
  obtain ⟨found, hfound, hsetter⟩ := setterIdent_of_hidesIdent hhides place
  rw [hsetter] at h
  split at h
  · exact nomatch h
  · rw [hfound, Except.ok.inj h]

/-- An item is accepted only with names that are usable or hide an identifier, and can be
expanded only with usable ones. If it is refused because of a name, then at the token that
writes the name, or because this hides a keyword.
-/
theorem name_law (item : Item)
    : (∀ d, ofItem item = .ok d → NameLaw item d)
      ∧ ∀ refusal,
          ofItem item = .error refusal
          → refusal.isAboutName = true
          → ∃ content ∈ item.keyLists, refusal.BlamesToken content := by
  refine ⟨fun d h => ?_, fun refusal h habout => blames_ofItem habout h⟩
  have hmem : ∀ name, name ∈ item.writtenNames ↔ name ∈ d.names := by
    intro name
    rw [names_of_ofItem h, List.mem_eraseDups]
  have husable : (∀ name ∈ item.writtenNames, IsUsable name)
      ↔ ∀ name ∈ d.names, IsUsable name :=
    forall_congr' fun name => by rw [hmem]
  exact {
    kinds := fun name hname => usable_or_hides_of_ofItem h name ((hmem name).mp hname)
    expands := (exists_expansion_iff h).trans husable.symm
    called := fun hall => callsByName_of_isUsable h (husable.mp hall)
    hidden := fun key hkey => setter_of_hidesIdent (checked_of_ofItem h key hkey)
    stuck := fun text => hides_of_expansion_eq_error h }

/-- The item of a struct with settings of its own that has one list of keys. -/
def oneListItem (tokens : List Tree) : Item where
  attributes :=
    [ObjectType.dslAttribute [.ident (.plain "keys") ⟨0, 0⟩,
      .group .parenthesis tokens ⟨0, 0⟩ ⟨0, 0⟩]]
  visibility := []
  name := .plain "T"
  nameSpan := ⟨0, 0⟩
  generics := none
  kind := .named [⟨[], .plain "settings", ⟨0, 0⟩, [.token "Settings"]⟩]

/-- The item of `#[dsl(keys(type, fat))] struct T { settings: Settings }`. -/
def keywordItem : Item :=
  oneListItem [.ident (.plain "type") ⟨0, 0⟩, .mark ',' false ⟨0, 0⟩,
    .ident (.plain "fat") ⟨0, 0⟩]

/-- The law at a keyword and a name: both are usable, and the setter of the keyword is raw.
-/
theorem name_law_keyword
    : ∃ d,
        ofItem keywordItem = .ok d
        ∧ (∀ name ∈ keywordItem.writtenNames, IsUsable name)
        ∧ (∃ code, expansion d = .ok code)
        ∧ d.keys = [⟨"type", ⟨true, "type"⟩⟩, ⟨"fat", .plain "fat"⟩]
        ∧ d.CallsByName := by
  have haccepted : ofItem keywordItem = .ok
      ⟨.plain "T", [], [⟨"type", ⟨true, "type"⟩⟩, ⟨"fat", .plain "fat"⟩],
        .settings (.plain "settings"), [], none⟩ :=
    rfl
  have husable : ∀ name ∈ keywordItem.writtenNames, IsUsable name := by
    unfold IsUsable
    decide
  have hlaw := (name_law keywordItem).1 _ haccepted
  exact ⟨_, haccepted, husable, hlaw.expands.mpr husable, rfl, hlaw.called husable⟩

/-- The item of `#[dsl(keys("r#a", a))] struct T { settings: Settings }`. -/
def rawLiteralItem : Item :=
  oneListItem [.literal "\"r#a\"".toList ⟨0, 0⟩, .mark ',' false ⟨0, 0⟩,
    .ident (.plain "a") ⟨0, 0⟩]

/-- Not every item that is accepted can be expanded, and different names can have setters of
one name: a literal may spell a raw identifier.
-/
theorem raw_literal_accepted
    : ∃ d,
        ofItem rawLiteralItem = .ok d
        ∧ d.keys = [⟨"r#a", ⟨true, "a"⟩⟩, ⟨"a", .plain "a"⟩]
        ∧ ¬ ∃ code, expansion d = .ok code := by
  have hread : (ofItem rawLiteralItem).toOption.map (·.keys)
      = some [⟨"r#a", ⟨true, "a"⟩⟩, ⟨"a", .plain "a"⟩] := by
    decide +kernel
  obtain ⟨d, hd, hkeys⟩ := Option.map_eq_some_iff.mp hread
  have haccepted := toOption_eq_some.mp hd
  refine ⟨d, haccepted, hkeys, fun hexpansion => ?_⟩
  have hname : "r#a" ∈ d.names := by
    rw [names, hkeys]
    exact List.mem_cons_self
  have husable := (exists_expansion_iff haccepted).mp hexpansion "r#a" hname
  have hhash := Text.isIdentifierContinue_of_mem husable.1 '#' (by decide)
  exact ne_sign hhash (by decide) rfl

end DeclaredSettings.Derive.Declaration
