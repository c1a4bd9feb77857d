import DeclaredSettings.Proofs.Derive.GeneratedCode

/-! What the method of a listed name means on a type that is derived from items, each on the
type in front of it. It is the setter of the nearest type that declares the name, unless a
nearer type has a reader called like it: the rule that keeps such a reader out looks at the
names of one type only.
-/

namespace DeclaredSettings

open Derive

/-- Types of objects that are derived from items: the first from an item with settings of
its own, and every other one from an item with a base field, whose type stands for the type
in front of it in the module of the item.
-/
inductive ObjectType.Derived (program : Program) : ObjectType → Prop
  | root {d : Declaration} {field : Ident} (expanded : d.Expanded)
    (storage : d.storage = .settings field)
    : Derived program (.root d.layer)
  | sub {d : Declaration} {field : Ident} {type : List Code} {base : ObjectType}
    {module : List String} (expanded : d.Expanded) (storage : d.storage = .base field type)
    (named : program module type = some base) (derived : base.Derived program)
    : Derived program (.sub d.layer base)

namespace ObjectType

variable {program : Program}

/-- Every type of the chain is made by an expanded declaration in its module, by induction on
the derivation.
-/
theorem Derived.exists_declaration {t : ObjectType} (h : t.Derived program)
    : ∀ bringing ∈ t.chain, ∃ (d : Declaration) (module : List String),
        d.Expanded ∧ d.objectType? (program module) = some bringing := by
  induction h with
  | @root d field expanded storage =>
      intro bringing hbringing
      obtain rfl := List.mem_singleton.mp hbringing
      exact ⟨d, [], expanded, by rw [Declaration.objectType?, storage]⟩
  | @sub d field type base module expanded storage named _ ih =>
      intro bringing hbringing
      rcases List.mem_cons.mp hbringing with rfl | hbringing
      · refine ⟨d, module, expanded, ?_⟩
        simp only [Declaration.objectType?, storage, named, Option.map_some]
      · exact ih bringing hbringing

/-- The names that the types of the chain declare are canonical spellings. -/
theorem Derived.canonical_of_mem_keys {t bringing : ObjectType} (h : t.Derived program)
    (hbringing : bringing ∈ t.chain) {key : String} (hkey : key ∈ bringing.layer.keys)
    : canonical key = key := by
  obtain ⟨d, module, hexpanded, hmade⟩ := h.exists_declaration bringing hbringing
  exact hexpanded.canonical_name (by rwa [Declaration.layer_of_objectType? hmade] at hkey)

/-- The schema of a derived type lists the names of its chain as they are, since these are
canonical spellings of themselves.
-/
theorem Derived.exists_declaring {t : ObjectType} (h : t.Derived program) {name : Name}
    (hname : name ∈ t.schema.names)
    : ∃ declaring ∈ t.chain, name.text ∈ declaring.layer.keys := by
  obtain ⟨declaring, hdeclaring, key, hkey, rfl⟩ := mem_names_schema.mp hname
  have hcanonical : (Name.of key).text = key := h.canonical_of_mem_keys hdeclaring hkey
  exact ⟨declaring, hdeclaring, hcanonical.symm ▸ hkey⟩

/-- A type has no reader called like a name. -/
def ReadsNone (t : ObjectType) (method : String) : Prop :=
  ∀ read ∈ t.layer.keys, Accessor.readerName read ≠ method

/-- How a type comes by a name that a type of its chain declares and no `nearer` one does.
On the declaring type its method is the setter. On the type itself it is this setter where
no nearer type has a reader called like it, and else the nearest of such readers.
-/
structure Inherits (t : ObjectType) (key : String) (nearer : List ObjectType)
    (declaring : ObjectType)
    : Prop where
  inChain : ∃ farther, t.chain = nearer ++ declaring :: farther
  declared : key ∈ declaring.layer.keys
  undeclared : ∀ other ∈ nearer, key ∉ other.layer.keys
  own : declaring.accessor? key = some (declaring, ⟨key, .setter, key⟩)
  kept
    : (∀ other ∈ nearer, other.ReadsNone key)
      → t.accessor? key = some (declaring, ⟨key, .setter, key⟩)
  taken
    : ∀ front taking back read,
        nearer = front ++ taking :: back
        → (∀ other ∈ front, other.ReadsNone key)
        → read ∈ taking.layer.keys
        → Accessor.readerName read = key
        → t.accessor? key = some (taking, ⟨key, .reader, read⟩)

/-- The nearest type that declares a name passes it on in this way, by the accessors of each
layer in front.
-/
theorem inherits_of_split {t declaring : ObjectType} {nearer farther : List ObjectType}
    {key : String} (hchain : t.chain = nearer ++ declaring :: farther)
    (hdeclared : key ∈ declaring.layer.keys)
    (hundeclared : ∀ other ∈ nearer, key ∉ other.layer.keys)
    : t.Inherits key nearer declaring where
  inChain := ⟨farther, hchain⟩
  declared := hdeclared
  undeclared := hundeclared
  own := accessor?_of_find? (Accessor.find?_ofKeys_of_mem hdeclared)
  kept hreaders :=
    accessor?_of_split hchain
      (fun other hother =>
        Accessor.find?_ofKeys_eq_none (hundeclared other hother) (hreaders other hother))
      (Accessor.find?_ofKeys_of_mem hdeclared)
  taken := by
    rintro front taking back read rfl hfront hread rfl
    have hchain : t.chain = front ++ taking :: (back ++ declaring :: farther) := by
      simpa using hchain
    refine accessor?_of_split hchain (fun other hother => ?_) ?_
    · exact Accessor.find?_ofKeys_eq_none
        (hundeclared other (List.mem_append_left _ hother)) (hfront other hother)
    · exact Accessor.find?_ofKeys_readerName hread
        (hundeclared taking (List.mem_append_right _ List.mem_cons_self))

/-- On a derived type every listed name is inherited so from the nearest type that declares
it, and the accessors of every type of the chain are the methods in the code that is
generated for its declaration, which makes the type.
-/
theorem derived_inherits {t : ObjectType} (h : t.Derived program)
    : (∀ bringing ∈ t.chain, ∃ (d : Declaration) (module : List String) (code : TypeCode),
          d.Generates (program module) bringing code
          ∧ d.layer = bringing.layer
          ∧ code.methods.map Method.accessor = bringing.layer.accessors)
      ∧ ∀ name ∈ t.schema.names, ∃ nearer declaring,
          t.Inherits name.text nearer declaring := by
  constructor
  · intro bringing hbringing
    obtain ⟨d, module, hexpanded, hstands⟩ := h.exists_declaration bringing hbringing
    obtain ⟨code, hcode⟩ := hexpanded.exists_generates hstands
    have hlayer := Declaration.layer_of_objectType? hstands
    exact ⟨d, module, code, hcode, hlayer.symm, hlayer ▸ hcode.map_accessor⟩
  · intro name hname
    obtain ⟨found, hfound, hkey⟩ := h.exists_declaring hname
    have hsome : (t.chain.find? (name.text ∈ ·.layer.keys)).isSome := by
      rw [List.find?_isSome]
      exact ⟨found, hfound, by simpa using hkey⟩
    obtain ⟨declaring, hnearest⟩ := Option.isSome_iff_exists.mp hsome
    obtain ⟨hdeclared, nearer, farther, hchain, hundeclared⟩ :=
      List.find?_eq_some_iff_append.mp hnearest
    exact ⟨nearer, declaring, inherits_of_split hchain (by simpa using hdeclared)
      fun other hother => by simpa using hundeclared other hother⟩

-----------------------------------------------------------------------------------------
-- A reader that takes the place of an inherited setter
-----------------------------------------------------------------------------------------

/-- The attribute `#[dsl(...)]` with some tokens in its parentheses. -/
def dslAttribute (tokens : List Tree) : Attribute :=
  ⟨some (.plain "dsl"), ⟨2, 5⟩, .list tokens ⟨0, 0⟩⟩

/-- The item of a struct that declares one name and has one field. -/
def oneNameItem (owner key : String) (field : Field) : Item where
  attributes :=
    [dslAttribute [.ident (.plain "keys") ⟨0, 0⟩,
      .group .parenthesis [.ident (.plain key) ⟨0, 0⟩] ⟨0, 0⟩ ⟨0, 0⟩]]
  visibility := []
  name := .plain owner
  nameSpan := ⟨0, 0⟩
  generics := none
  kind := .named [field]

/-- The declaration of `#[dsl(keys(get_x))] struct T0 { settings: Settings }`. -/
def getXDeclaration : Declaration :=
  ⟨.plain "T0", [], [⟨"get_x", .plain "get_x"⟩], .settings (.plain "settings"), [], none⟩

/-- The declaration of `#[dsl(keys(x))] struct T1 { #[dsl(base)] parent: T0 }`. -/
def xDeclaration : Declaration :=
  ⟨.plain "T1", [], [⟨"x", .plain "x"⟩], .base (.plain "parent") [.token "T0"], [], none⟩

theorem expanded_getXDeclaration : getXDeclaration.Expanded where
  accepted :=
    ⟨oneNameItem "T0" "get_x" ⟨[], .plain "settings", ⟨0, 0⟩, [.token "Settings"]⟩, rfl⟩
  generated := ⟨_, rfl⟩

theorem expanded_xDeclaration : xDeclaration.Expanded where
  accepted :=
    ⟨oneNameItem "T1" "x"
      ⟨[dslAttribute [.ident (.plain "base") ⟨0, 0⟩]], .plain "parent", ⟨0, 0⟩,
        [.token "T0"]⟩, rfl⟩
  generated := ⟨_, rfl⟩

/-- The type of the first declaration. -/
def getXType : ObjectType :=
  .root getXDeclaration.layer

/-- The type of the second one, on it. -/
def xType : ObjectType :=
  .sub xDeclaration.layer getXType

/-- A program in which `T0` stands for the first type everywhere. -/
def xProgram : Program :=
  fun _ type => if type = [.token "T0"] then some getXType else none

theorem derived_xType : xType.Derived xProgram := by
  have hnamed : xProgram [] [.token "T0"] = some getXType := rfl
  exact .sub expanded_xDeclaration rfl hnamed (.root expanded_getXDeclaration rfl)

/-- The law for the name `get_x` on the second type: the first one declares it, and the
second is nearer.
-/
theorem derived_inherits_get_x
    : xType.Derived xProgram
      ∧ Name.of "get_x" ∈ xType.schema.names
      ∧ xType.Inherits "get_x" [xType] getXType := by
  have hlisted : Name.of "get_x" ∈ xType.schema.names := by decide
  obtain ⟨nearer, declaring, hinherits⟩ :=
    (derived_inherits derived_xType).2 (.of "get_x") hlisted
  obtain ⟨farther, hchain⟩ := hinherits.inChain
  have hchain : [xType, getXType] = nearer ++ declaring :: farther := hchain
  have hundeclared : "get_x" ∉ xType.layer.keys := by decide
  match nearer with
  | [] =>
      obtain ⟨rfl, _⟩ := List.cons.inj hchain
      exact absurd hinherits.declared hundeclared
  | [first] =>
      obtain ⟨rfl, hbases⟩ := List.cons.inj hchain
      obtain ⟨rfl, _⟩ := List.cons.inj hbases
      exact ⟨derived_xType, hlisted, hinherits⟩
  | first :: second :: others =>
      have hlength := congrArg List.length hchain
      simp at hlength

/-- Not every listed name of a derived type means a setter there: the second type lists
`get_x` with the first, where it means the setter of `get_x`, but on the second it means
the reader of `x`.
-/
theorem inherited_setter_replaced
    : xType.Derived xProgram
      ∧ Name.of "get_x" ∈ xType.schema.names
      ∧ getXType.accessor? "get_x" = some (getXType, ⟨"get_x", .setter, "get_x"⟩)
      ∧ xType.accessor? "get_x" = some (xType, ⟨"get_x", .reader, "x"⟩) := by
  refine ⟨derived_xType, ?_⟩
  decide

end ObjectType

end DeclaredSettings
