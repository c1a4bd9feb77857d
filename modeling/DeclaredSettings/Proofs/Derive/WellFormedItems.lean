import DeclaredSettings.Proofs.Derive.NameRefusals
import DeclaredSettings.Proofs.Derive.StorageFields
import DeclaredSettings.Proofs.Derive.StructOptions

/-! Which items are accepted: structs with named fields whose attributes hold options, and
nothing else, and of whose fields one keeps the settings. Of an accepted item no field is
lost, and of any other the first fault is reported.
-/

namespace DeclaredSettings.Derive

open Outcome

-----------------------------------------------------------------------------------------
-- Items that are accepted, and others
-----------------------------------------------------------------------------------------

namespace Item

/-- A struct without generic parameters and with named fields, whose attributes and whose
fields' attributes hold options and nothing else, and of whose fields one keeps the settings.
-/
structure WellFormed (item : Item) (fields : List Field) : Prop where
  notGeneric : item.generics = none
  isNamed : item.kind = .named fields
  options : structKind.WellFormed item.attributes
  fieldOptions : ∀ field ∈ fields, fieldKind.WellFormed field.attributes
  storage : HasStorage fields

/-- The first thing that is wrong with an item: generic parameters, its kind, the options in
its attributes, those in the attributes of its fields from the first to the last, and the
choice of the field that keeps the settings.
-/
inductive FirstFault (item : Item) : Refusal → Prop
  | generic {place : Span} (generic : item.generics = some place)
    : FirstFault item (.fault .generic place)
  | unnamedFields {keyword : Span} (notGeneric : item.generics = none)
    (isUnnamed : item.kind = .unnamed keyword)
    : FirstFault item (.fault .unnamedFields keyword)
  | notAStruct (notGeneric : item.generics = none) (isOther : item.kind = .other)
    : FirstFault item (.fault .notAStruct item.nameSpan)
  | option {fields : List Field} {refusal : Refusal} (notGeneric : item.generics = none)
    (isNamed : item.kind = .named fields)
    (fault : structKind.FirstFault item.attributes refusal)
    : FirstFault item refusal
  | fieldOption {before after : List Field} {field : Field} {refusal : Refusal}
    (notGeneric : item.generics = none)
    (isNamed : item.kind = .named (before ++ field :: after))
    (options : structKind.WellFormed item.attributes)
    (earlier : ∀ other ∈ before, fieldKind.WellFormed other.attributes)
    (fault : fieldKind.FirstFault field.attributes refusal)
    : FirstFault item refusal
  | storage {fields : List Field} {refusal : Refusal} (notGeneric : item.generics = none)
    (isNamed : item.kind = .named fields)
    (options : structKind.WellFormed item.attributes)
    (fieldOptions : ∀ field ∈ fields, fieldKind.WellFormed field.attributes)
    (fault : StorageFault item.nameSpan fields refusal)
    : FirstFault item refusal

/-- Whether the first thing that is wrong with an item is a name that hides an identifier. -/
def StopsAtHidden (item : Item) : Prop :=
  ∃ refusal, item.FirstFault refusal ∧ refusal.BlamesHidden

end Item

-----------------------------------------------------------------------------------------
-- Names that are a first fault
-----------------------------------------------------------------------------------------

section Names

variable {closing : Span} {tokens : List Tree} {name : String} {place : Span}

theorem PathFault.ne_badName
    : ¬ PathFault closing tokens (.fault (.badName name) place) :=
  fun h => Bool.noConfusion (PathFault.isAboutName_eq h)

/-- A name that is wrong in a list of keys is one of its names. -/
theorem KeyListFault.mem_keyNames (h : KeyListFault tokens (.fault (.badName name) place))
    : name ∈ keyNames tokens := by
  cases h with
  | key keys fault => cases fault
  | badName keys usable writes unusable => exact List.mem_filterMap.mpr ⟨_, by simp, writes⟩

/-- A name that is wrong where an option of a struct should be is in a list of keys there. -/
theorem StructFault.exists_keyList
    (h : StructFault closing tokens (.fault (.badName name) place))
    : ∃ content ∈ keyLists tokens, name ∈ keyNames content := by
  cases h with
  | noPath fault => exact absurd fault PathFault.ne_badName
  | badKeys fault =>
      refine ⟨_, ?_, fault.mem_keyNames⟩
      rw [keyLists, if_pos rfl]
      exact List.mem_cons_self

/-- No name is wrong where an option of a field should be. -/
theorem FieldFault.ne_badName {marks : List Role}
    : ¬ FieldFault closing marks tokens (.fault (.badName name) place) := by
  intro h
  cases h with
  | noPath fault => exact PathFault.ne_badName fault

/-- The lists of keys behind some tokens are among those of all, by induction on the tokens.
-/
theorem keyLists_subset (front : List Tree) {back : List Tree}
    : keyLists back ⊆ keyLists (front ++ back) := by
  have hcons : ∀ (token : Tree) (others : List Tree),
      keyLists others ⊆ keyLists (token :: others) := by
    intro token others
    conv_rhs => unfold keyLists
    split
    · next heq =>
      obtain ⟨_, rfl⟩ := List.cons.inj heq
      split
      · exact List.subset_cons_self _ _
      · exact List.Subset.refl _
    · next heq =>
      obtain ⟨_, rfl⟩ := List.cons.inj heq
      exact List.Subset.refl _
    · next heq => exact nomatch heq
  induction front with
  | nil => exact List.Subset.refl _
  | cons token front ih => exact List.Subset.trans ih (hcons token (front ++ back))

/-- A name that is the first thing wrong with an item is one that the item writes. -/
theorem Item.FirstFault.mem_writtenNames {item : Item}
    (h : item.FirstFault (.fault (.badName name) place))
    : name ∈ item.writtenNames := by
  cases h with
  | option notGeneric isNamed fault =>
      obtain ⟨front, a, back, hattributes, _, hdsl, hfault⟩ := fault
      cases hfault with
      | @option ahead tokens closing refusal content options fit more fault =>
          obtain ⟨names, hnames, hname⟩ := StructFault.exists_keyList fault
          have hlist : names ∈ Derive.keyLists a.options := by
            rw [Attribute.options_of_list hdsl content]
            exact keyLists_subset ahead hnames
          have ha : a ∈ item.attributes := by simp [hattributes]
          exact List.mem_flatMap.mpr ⟨names, List.mem_flatMap.mpr ⟨a, ha, hlist⟩, hname⟩
  | fieldOption notGeneric isNamed options earlier fault =>
      obtain ⟨front, a, back, _, _, _, hfault⟩ := fault
      cases hfault with
      | option content options fit more fault => exact absurd fault FieldFault.ne_badName
  | storage notGeneric isNamed options fieldOptions fault => cases fault

theorem Item.not_stopsAtHidden {item : Item}
    (h : ∀ name ∈ item.writtenNames, ¬ HidesIdent name)
    : ¬ item.StopsAtHidden := by
  rintro ⟨_, hfault, name, place, rfl, hhides⟩
  exact h name hfault.mem_writtenNames hhides

end Names

namespace Declaration

variable {item : Item} {fields : List Field} {d : Declaration}

/-- The declaration that an item is if a field of some role keeps the settings. -/
def keptBy (item : Item) (options : StructOptions) (fields : List Field) (field : Field)
    (role : Role) : Declaration where
  ident := item.name
  visibility := item.visibility
  keys := options.keys
  storage := storageOf field role
  defaulted := (fields.map (·.name)).filter (· ≠ field.name)
  libraryPath := options.libraryPath

/-- Of a struct with named fields first the options are read, then the roles of its fields,
and then the field is chosen that keeps the settings.
-/
theorem ofItem_of_named (hgeneric : item.generics = none) (hnamed : item.kind = .named fields)
    : ofItem item
      = structOptions item.attributes >>= fun options =>
          withRoles fields >>= fun found =>
            storageField item.nameSpan found >>= fun (field, role) =>
              .ok (keptBy item options fields field role) := by
  unfold ofItem
  rw [hgeneric, hnamed]
  rfl

/-- What is kept of the fields of a struct: one keeps the settings, and all others get their
default values, in order. Together they are all fields, and each is there once.
-/
structure Keeps (d : Declaration) (fields : List Field) : Prop where
  chosen : ∃ front field back,
    fields = front ++ field :: back
    ∧ KeepsSettings fields front field d.storage
    ∧ d.defaulted = (front ++ back).map (·.name)
  complete : (d.storage.fieldName :: d.defaulted).Perm (fields.map (·.name))
  distinct : (d.storage.fieldName :: d.defaulted).Nodup

/-- Where names are distinct, those other than one stand in front of it and behind it. -/
theorem filter_ne_of_nodup {front back : List Ident} {name : Ident}
    (h : (front ++ name :: back).Nodup)
    : (front ++ name :: back).filter (· ≠ name) = front ++ back := by
  obtain ⟨_, hname, hfront⟩ := List.nodup_append.mp h
  rw [List.filter_append, List.filter_cons_of_neg (by simp)]
  congr 1
  · exact List.filter_eq_self.mpr fun other hother =>
      decide_eq_true (hfront other hother name List.mem_cons_self)
  · exact List.filter_eq_self.mpr fun other hother =>
      decide_eq_true fun heq => (List.nodup_cons.mp hname).1 (heq ▸ hother)

/-- A declaration keeps the fields among which one keeps the settings. -/
theorem keeps_keptBy {options : StructOptions} {front back : List Field} {field : Field}
    {role : Role}
    (h : KeepsSettings (front ++ field :: back) front field (storageOf field role))
    (hdistinct : ((front ++ field :: back).map (·.name)).Nodup)
    : (keptBy item options (front ++ field :: back) field role).Keeps
        (front ++ field :: back) := by
  have hsplit : (front ++ field :: back).map (·.name)
      = front.map (·.name) ++ field.name :: back.map (·.name) := by
    rw [List.map_append, List.map_cons]
  have hdefaulted : (keptBy item options (front ++ field :: back) field role).defaulted
      = (front ++ back).map (·.name) := by
    rw [keptBy, hsplit, filter_ne_of_nodup (hsplit ▸ hdistinct), List.map_append]
  have hcomplete : (field.name :: (front ++ back).map (·.name)).Perm
      ((front ++ field :: back).map (·.name)) := by
    rw [hsplit, List.map_append]
    exact List.perm_middle.symm
  exact {
    chosen := ⟨front, field, back, rfl, h, hdefaulted⟩
    complete := by rwa [hdefaulted, keptBy, h.fieldName_eq]
    distinct := by
      rw [hdefaulted, keptBy, h.fieldName_eq]
      exact hcomplete.nodup_iff.mpr hdistinct }

/-- What is accepted of a struct keeps its fields. -/
theorem keeps_of_ofItem (h : ofItem item = .ok d) (hnamed : item.kind = .named fields)
    (hdistinct : (fields.map (·.name)).Nodup)
    : d.Keeps fields := by
  cases hgeneric : item.generics with
  | some place =>
      rw [ofItem, hgeneric] at h
      exact nomatch h
  | none =>
      rw [ofItem_of_named hgeneric hnamed] at h
      obtain ⟨options, _, h⟩ := bind_eq_ok.mp h
      obtain ⟨found, hfound, h⟩ := bind_eq_ok.mp h
      rcases fields_wellFormed_or_fault fields with
        hfields | ⟨before, field, after, refusal, rfl, hbefore, hfault⟩
      · obtain rfl := Except.ok.inj ((withRoles_of_wellFormed hfields).symm.trans hfound)
        rcases hasStorage_or_fault item.nameSpan fields with hstorage | ⟨refusal, hfault⟩
        · obtain ⟨front, field, back, role, hchosen, rfl, hkeeps⟩ :=
            hstorage.found item.nameSpan
          rw [hchosen] at h
          obtain rfl := Except.ok.inj h
          exact keeps_keptBy hkeeps hdistinct
        · rw [hfault.refused] at h
          exact nomatch h
      · exact nomatch (withRoles_of_fault hbefore hfault).symm.trans hfound

/-- A well-formed item is accepted. -/
theorem exists_ofItem_of_wellFormed (h : item.WellFormed fields)
    : ∃ d, ofItem item = .ok d := by
  obtain ⟨options, hoptions, _⟩ := structTaking.accepts_attributes h.options
  obtain ⟨front, field, back, role, hchosen, _⟩ := h.storage.found item.nameSpan
  refine ⟨keptBy item options fields field role, ?_⟩
  rw [ofItem_of_named h.notGeneric h.isNamed, structOptions, hoptions,
    withRoles_of_wellFormed h.fieldOptions]
  simp only [bind, Except.bind, hchosen]

/-- The first thing that is wrong with an item is reported, unless it is a name that hides an
identifier.
-/
theorem ofItem_of_firstFault {refusal : Refusal} (h : item.FirstFault refusal)
    (hshown : ¬ refusal.BlamesHidden)
    : ofItem item = .error refusal := by
  cases h with
  | generic generic =>
      unfold ofItem
      rw [generic]
  | unnamedFields notGeneric isUnnamed =>
      unfold ofItem
      rw [notGeneric, isUnnamed]
  | notAStruct notGeneric isOther =>
      unfold ofItem
      rw [notGeneric, isOther]
  | option notGeneric isNamed fault =>
      rw [ofItem_of_named notGeneric isNamed, structOptions,
        structTaking.refuses_attributes fault hshown]
      rfl
  | fieldOption notGeneric isNamed options earlier fault =>
      obtain ⟨found, hoptions, _⟩ := structTaking.accepts_attributes options
      rw [ofItem_of_named notGeneric isNamed, structOptions, hoptions,
        withRoles_of_fault earlier fault]
      rfl
  | storage notGeneric isNamed options fieldOptions fault =>
      obtain ⟨found, hoptions, _⟩ := structTaking.accepts_attributes options
      rw [ofItem_of_named notGeneric isNamed, structOptions, hoptions,
        withRoles_of_wellFormed fieldOptions]
      simp only [bind, Except.bind, fault.refused]

/-- An item is well formed, or there is a first thing that is wrong with it. -/
theorem wellFormed_or_firstFault (item : Item)
    : (∃ fields, item.WellFormed fields) ∨ ∃ refusal, item.FirstFault refusal := by
  cases hgeneric : item.generics with
  | some place => exact .inr ⟨_, .generic hgeneric⟩
  | none =>
      cases hkind : item.kind with
      | unnamed keyword => exact .inr ⟨_, .unnamedFields hgeneric hkind⟩
      | other => exact .inr ⟨_, .notAStruct hgeneric hkind⟩
      | named fields =>
          rcases structTaking.decides_attributes item.attributes with hoptions | ⟨refusal, hfault⟩
          · rcases fields_wellFormed_or_fault fields with
              hfields | ⟨before, field, after, refusal, rfl, hbefore, hfault⟩
            · rcases hasStorage_or_fault item.nameSpan fields with
                hstorage | ⟨refusal, hfault⟩
              · exact .inl ⟨fields, hgeneric, hkind, hoptions, hfields, hstorage⟩
              · exact .inr ⟨refusal, .storage hgeneric hkind hoptions hfields hfault⟩
            · exact .inr ⟨refusal, .fieldOption hgeneric hkind hoptions hbefore hfault⟩
          · exact .inr ⟨refusal, .option hgeneric hkind hfault⟩

/-- What an item comes to. If it is accepted, its declaration keeps its fields, as long as
their names are distinct. If it is well formed, it is accepted. Unless the first thing that is
wrong with it is a name that hides an identifier, it is accepted only then, and what is
reported is the first thing that is wrong.
-/
structure Judged (item : Item) : Prop where
  kept : ∀ d fields,
    ofItem item = .ok d
    → item.kind = .named fields
    → (fields.map (·.name)).Nodup
    → d.Keeps fields
  formed : ∀ fields, item.WellFormed fields → ∃ d, ofItem item = .ok d
  accepted : ¬ item.StopsAtHidden
    → ((∃ d, ofItem item = .ok d) ↔ ∃ fields, item.WellFormed fields)
  refused : ¬ item.StopsAtHidden
    → ∀ refusal, ofItem item = .error refusal ↔ item.FirstFault refusal
  /-- Only a name that the item writes can be in the way. -/
  shown : (∀ name ∈ item.writtenNames, ¬ HidesIdent name) → ¬ item.StopsAtHidden

/-- All items come to this. -/
theorem ofItem_judged (item : Item) : Judged item := by
  have hreported : ¬ item.StopsAtHidden
      → ∀ refusal, item.FirstFault refusal → ofItem item = .error refusal :=
    fun hshown refusal hfault =>
      ofItem_of_firstFault hfault fun hhidden => hshown ⟨refusal, hfault, hhidden⟩
  constructor
  case kept => exact fun d fields => keeps_of_ofItem
  case formed => exact fun fields => exists_ofItem_of_wellFormed
  case accepted =>
    intro hshown
    constructor
    · rintro ⟨d, hd⟩
      rcases wellFormed_or_firstFault item with hformed | ⟨refusal, hfault⟩
      · exact hformed
      · exact nomatch hd.symm.trans (hreported hshown refusal hfault)
    · rintro ⟨fields, hformed⟩
      exact exists_ofItem_of_wellFormed hformed
  case refused =>
    intro hshown refusal
    constructor
    · intro hrefused
      rcases wellFormed_or_firstFault item with ⟨fields, hformed⟩ | ⟨other, hfault⟩
      · obtain ⟨d, hd⟩ := exists_ofItem_of_wellFormed hformed
        exact nomatch hd.symm.trans hrefused
      · have hother := hreported hshown other hfault
        obtain rfl := Except.error.inj (hother.symm.trans hrefused)
        exact hfault
    · exact hreported hshown refusal
  case shown => exact Item.not_stopsAtHidden

/-- The item of `struct T { base: B, settings: Settings, more: C }` with some options of the
struct and of its first field.
-/
def baseFieldItem (options fieldOptions : List Tree) : Item where
  attributes := [⟨some (.plain "dsl"), ⟨0, 0⟩, .list options ⟨0, 0⟩⟩]
  visibility := []
  name := .plain "T"
  nameSpan := ⟨0, 0⟩
  generics := none
  kind := .named [
    ⟨[⟨some (.plain "dsl"), ⟨0, 0⟩, .list fieldOptions ⟨0, 0⟩⟩], .plain "base", ⟨0, 0⟩,
      [.token "B"]⟩,
    ⟨[], .plain "settings", ⟨0, 0⟩, [.token "Settings"]⟩,
    ⟨[], .plain "more", ⟨0, 0⟩, [.token "C"]⟩]

/-- With `#[dsl(keys(a))]` on the struct and `#[dsl(base)]` on the field. -/
def markedBaseItem : Item :=
  baseFieldItem
    [.ident (.plain "keys") ⟨0, 0⟩,
      .group .parenthesis [.ident (.plain "a") ⟨0, 0⟩] ⟨0, 0⟩ ⟨0, 0⟩]
    [.ident (.plain "base") ⟨0, 0⟩]

/-- With `#[dsl(x)]` on the struct and `#[dsl(base, settings)]` on the field. -/
def twoFaultsItem : Item :=
  baseFieldItem [.ident (.plain "x") ⟨1, 2⟩]
    [.ident (.plain "base") ⟨3, 7⟩, .mark ',' false ⟨7, 8⟩, .ident (.plain "settings") ⟨8, 16⟩]

/-- The first of these items is accepted, and the marked field keeps the settings in place of
the one that is named so; of the second the fault on the struct is reported.
-/
theorem ofItem_judged_base_field
    : (∃ d fields,
        ofItem markedBaseItem = .ok d
        ∧ markedBaseItem.WellFormed fields
        ∧ d.Keeps fields
        ∧ d.storage.fieldName = .plain "base"
        ∧ d.defaulted = [.plain "settings", .plain "more"])
      ∧ twoFaultsItem.FirstFault (.fault .unknownOption ⟨1, 2⟩) := by
  constructor
  · have hjudged := ofItem_judged markedBaseItem
    have hshown := hjudged.shown (by decide)
    obtain ⟨fields, hformed⟩ := (hjudged.accepted hshown).mp ⟨_, rfl⟩
    have hdistinct : (fields.map (·.name)).Nodup := by
      obtain rfl := Item.Kind.named.inj hformed.isNamed
      decide
    exact ⟨_, fields, rfl, hformed, hjudged.kept _ _ rfl hformed.isNamed hdistinct, rfl, rfl⟩
  · have hjudged := ofItem_judged twoFaultsItem
    exact (hjudged.refused (hjudged.shown (by decide)) _).mp rfl

/-- Options need not stand in parentheses: brackets of any kind will do. -/
theorem options_in_brackets_accepted
    : ∃ item d,
        Item.ofSource? "#[dsl[keys(a)]]struct T\x7bsettings:S\x7d".toList = some item
        ∧ ofItem item = .ok d
        ∧ d.names = ["a"] := by
  have hread : ((Item.ofSource? "#[dsl[keys(a)]]struct T\x7bsettings:S\x7d".toList).bind
      fun item => (ofItem item).toOption.map (·.names)) = some ["a"] := by
    decide +kernel
  obtain ⟨item, hitem, hitemRead⟩ := Option.bind_eq_some_iff.mp hread
  obtain ⟨d, hd, hnames⟩ := Option.map_eq_some_iff.mp hitemRead
  exact ⟨item, d, hitem, toOption_eq_some.mp hd, hnames⟩

end Declaration

end DeclaredSettings.Derive
