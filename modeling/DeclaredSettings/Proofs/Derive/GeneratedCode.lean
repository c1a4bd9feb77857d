import DeclaredSettings.Derive.TypeMeaning
import DeclaredSettings.Proofs.Derive.CodeReading
import DeclaredSettings.Proofs.Derive.UsableNames
import DeclaredSettings.Proofs.Object.ObjectParts

/-! What the code does that is generated for an accepted item. It is read back, with all its
methods, and makes the type of objects that the declaration stands for: its schema is that of
the type, and its functions put the settings of an object where they are, and find them there.
So the library sets and gets names through the code as it does through the type.
-/

namespace DeclaredSettings.Derive

open Outcome Text

-----------------------------------------------------------------------------------------
-- The code is read back
-----------------------------------------------------------------------------------------

/-- The token of an identifier is read as this identifier. -/
theorem Code.ident?_ident {i : Ident} (h : isIdentifier i.name.toList = true)
    (hraw : i.raw = true → i.name ∉ neverRaw)
    : (Code.ident i).ident? = some i := by
  rw [Code.ident, Code.ident?, ident?_text h hraw]

namespace Declaration

/-- The methods of a usable name are legible, since its setter is called by it. -/
theorem legible_of_methodsOf {names : List String} {key : DeclaredKey}
    {methods : List Method} (husable : IsUsable key.name)
    (hsetter : key.ident = ⟨(Ident.plain key.name).isKeyword, key.name⟩)
    (h : methodsOf names key = .ok methods)
    : ∀ method ∈ methods, method.IsLegible := by
  rw [(methodsOf_eq_ok h).2]
  intro method hmethod
  rcases List.mem_cons.mp hmethod with rfl | hreader
  · rw [Method.IsLegible, hsetter]
    exact Code.ident?_ident husable.1 fun _ => husable.2
  · split at hreader
    · exact absurd hreader List.not_mem_nil
    · rw [List.mem_singleton.mp hreader]
      exact Code.ident?_ident (isIdentifier_readerName husable.1) nofun

variable {d : Declaration}

namespace Expanded

/-- All methods of an expanded declaration are legible. -/
theorem isLegible (h : d.Expanded) {methods : List Method} (hmethods : d.methods = .ok methods)
    : ∀ method ∈ methods, method.IsLegible := by
  obtain ⟨item, hitem⟩ := h.accepted
  have husable := (exists_expansion_iff hitem).mp h.generated
  obtain ⟨lists, hlists, heq⟩ := h.exists_methods
  obtain rfl := Except.ok.inj (hmethods.symm.trans heq)
  intro method hmethod
  obtain ⟨list, hlist, hmem⟩ := List.mem_flatten.mp hmethod
  obtain ⟨key, hkey, hof⟩ := exists_mem_of_forall₂ hlists hlist
  exact legible_of_methodsOf (husable key.name (List.mem_map_of_mem hkey))
    ((callsByName_of_isUsable hitem husable).setters key hkey) hof method hmem

/-- The code that is generated for a declaration is read as what the declaration says, with
all its methods.
-/
theorem typeCode? (h : d.Expanded) {code : List Code} (hcode : expansion d = .ok code)
    : ∃ methods,
        d.methods = .ok methods
        ∧ Derive.typeCode? d.runtimePath d.visibility code = some (d.typeCode methods) := by
  obtain ⟨methods, hmethods, heq⟩ := bind_eq_ok.mp hcode
  rw [← Except.ok.inj heq]
  exact ⟨methods, hmethods, typeCode?_expansion d (h.isLegible hmethods)⟩

end Expanded

end Declaration

-----------------------------------------------------------------------------------------
-- The code does what its type does
-----------------------------------------------------------------------------------------

/-- Code that makes a type of objects: its functions give the schema of the type, new objects
of it, and the settings of its objects, to read and to change them.
-/
structure TypeCode.Makes (code : TypeCode) (scope : Scope) (t : ObjectType) : Prop where
  type : code.objectType? scope = some t
  schema : code.schema.schema? scope = some t.schema
  fromSettings : ∀ s, code.fromSettings? scope s = some (.ofSettings t s)
  settings
    : ∀ object : Object,
        object.type = t
        → code.settingsAt? code.read object = some object.settings
  settingsMut
    : ∀ object : Object,
        object.type = t
        → code.settingsAt? code.changed object = some object.settings
          ∧ ∀ after,
              code.withSettingsAt? code.changed after object
              = some (object.withSettings after)

namespace Declaration

variable {d : Declaration} {scope : Scope} {t : ObjectType}

/-- A declaration makes a type with settings of its own, or one on the type that the tokens of
its base stand for.
-/
theorem objectType?_eq_some (h : d.objectType? scope = some t)
    : (∃ field, d.storage = .settings field ∧ t = .root d.layer)
      ∨ ∃ field type base,
          d.storage = .base field type ∧ scope type = some base ∧ t = .sub d.layer base := by
  unfold objectType? at h
  split at h
  · next field hstorage => exact .inl ⟨field, hstorage, (Option.some.inj h).symm⟩
  · next field type hstorage =>
    obtain ⟨base, hbase, rfl⟩ := Option.map_eq_some_iff.mp h
    exact .inr ⟨field, type, base, hstorage, hbase, rfl⟩

/-- The type that a declaration makes has its layer outermost. -/
theorem layer_of_objectType? (h : d.objectType? scope = some t) : t.layer = d.layer := by
  obtain ⟨_, _, rfl⟩ | ⟨_, _, _, _, _, rfl⟩ := objectType?_eq_some h <;> rfl

/-- The expression for the schema of a declaration gives the schema of its type. -/
theorem schema?_schemaExpr (h : d.objectType? scope = some t)
    : d.schemaExpr.schema? scope = some t.schema := by
  obtain ⟨field, hstorage, rfl⟩ | ⟨field, type, base, hstorage, hbase, rfl⟩ :=
    objectType?_eq_some h
  · rw [schemaExpr, hstorage]
    rfl
  · rw [schemaExpr, hstorage]
    exact congrArg (Option.map _) hbase

/-- What the code of a declaration says that keeps settings in a field. -/
theorem typeCode_of_settings {field : Ident} (h : d.storage = .settings field)
    (methods : List Method)
    : d.typeCode methods
      = { name := d.ident.text
          schema := .new d.ident.text d.names
          filling := .settings field.text
          defaulted := d.defaulted.map Ident.text
          read := .own field.text
          changed := .own field.text
          methods
          target := none } := by
  simp only [typeCode, objectCode, schemaExpr, filling, place, target, h]

/-- What the code of a declaration says that keeps settings in an object of its base. -/
theorem typeCode_of_base {field : Ident} {type : List Code} (h : d.storage = .base field type)
    (methods : List Method)
    : d.typeCode methods
      = { name := d.ident.text
          schema := .extend type d.ident.text d.names
          filling := .object field.text type
          defaulted := d.defaulted.map Ident.text
          read := .inside field.text
          changed := .inside field.text
          methods
          target := some ⟨type, field.text⟩ } := by
  simp only [typeCode, objectCode, schemaExpr, filling, place, target, h]

/-- Code that keeps settings in a field makes a type with settings of its own. -/
theorem makes_of_settings {field : Ident} (h : d.storage = .settings field)
    (hstands : d.objectType? scope = some (.root d.layer)) (methods : List Method)
    : (d.typeCode methods).Makes scope (.root d.layer) := by
  have hschema : (d.typeCode methods).schema.schema? scope
      = some (ObjectType.root d.layer).schema :=
    schema?_schemaExpr hstands
  rw [typeCode_of_settings h] at hschema ⊢
  constructor
  case type => rfl
  case schema => exact hschema
  case fromSettings => exact fun s => rfl
  case settings =>
    intro object hobject
    obtain ⟨own, rfl⟩ := Object.eq_root_of_type hobject
    exact if_pos rfl
  case settingsMut =>
    intro object hobject
    obtain ⟨own, rfl⟩ := Object.eq_root_of_type hobject
    exact ⟨if_pos rfl, fun after => if_pos rfl⟩

/-- Code that keeps settings in an object of the base makes a type on the base. -/
theorem makes_of_base {field : Ident} {type : List Code} {base : ObjectType}
    (h : d.storage = .base field type) (hbase : scope type = some base)
    (hstands : d.objectType? scope = some (.sub d.layer base)) (methods : List Method)
    : (d.typeCode methods).Makes scope (.sub d.layer base) := by
  have hschema : (d.typeCode methods).schema.schema? scope
      = some (ObjectType.sub d.layer base).schema :=
    schema?_schemaExpr hstands
  -- the target is found through the field that is filled, and in an object of the base
  have htype : (d.typeCode methods).objectType? scope = some (.sub d.layer base) := by
    simp only [typeCode_of_base h, TypeCode.objectType?, hbase, Filling.field, and_self,
      if_true, Option.bind_eq_bind, Option.bind_some]
    rfl
  rw [typeCode_of_base h] at htype hschema ⊢
  constructor
  case type => exact htype
  case schema => exact hschema
  case fromSettings =>
    intro s
    simp only [TypeCode.fromSettings?, htype, hbase, if_true, Option.bind_eq_bind,
      Option.bind_some]
    rfl
  case settings =>
    intro object hobject
    obtain ⟨inner, rfl, _⟩ := Object.eq_sub_of_type hobject
    exact if_pos rfl
  case settingsMut =>
    intro object hobject
    obtain ⟨inner, rfl, _⟩ := Object.eq_sub_of_type hobject
    exact ⟨if_pos rfl, fun after => if_pos rfl⟩

/-- The code of a declaration makes its type, wherever this keeps its settings. -/
theorem makes (h : d.objectType? scope = some t) (methods : List Method)
    : (d.typeCode methods).Makes scope t := by
  obtain ⟨field, hstorage, rfl⟩ | ⟨field, type, base, hstorage, hbase, rfl⟩ :=
    objectType?_eq_some h
  · exact makes_of_settings hstorage h methods
  · exact makes_of_base hstorage hbase h methods

/-- The code that is generated for a declaration which makes a type of objects, read back
with its methods.
-/
structure Generates (d : Declaration) (scope : Scope) (t : ObjectType) (code : TypeCode)
    : Prop where
  expanded : d.Expanded
  stands : d.objectType? scope = some t
  read
    : ∃ tokens,
        expansion d = .ok tokens ∧ typeCode? d.runtimePath d.visibility tokens = some code
  methods : d.methods = .ok code.methods
  makes : code.Makes scope t

/-- There is such code for every expanded declaration. -/
theorem Expanded.exists_generates (h : d.Expanded) (hstands : d.objectType? scope = some t)
    : ∃ code, d.Generates scope t code := by
  obtain ⟨tokens, htokens⟩ := h.generated
  obtain ⟨methods, hmethods, hread⟩ := h.typeCode? htokens
  exact ⟨d.typeCode methods, h, hstands, ⟨tokens, htokens, hread⟩, hmethods,
    Declaration.makes hstands methods⟩

/-- Its methods are the accessors of the layer of the declaration. -/
theorem Generates.map_accessor {code : TypeCode} (h : d.Generates scope t code)
    : code.methods.map Method.accessor = d.layer.accessors := by
  obtain ⟨methods, hmethods, haccessors⟩ := h.expanded.methods_eq_accessors
  rwa [Except.ok.inj (h.methods.symm.trans hmethods)]

end Declaration

namespace TypeCode.Makes

variable {code : TypeCode} {scope : Scope} {t : ObjectType} {object : Object}

/-- Setting a name through the code is setting it through an object of its type. -/
theorem set?_eq (h : code.Makes scope t) (hobject : object.type = t) (key : String)
    (value : Value)
    : code.set? scope key value object = some (object.set key value) := by
  obtain ⟨hfound, hchanged⟩ := h.settingsMut object hobject
  simp only [TypeCode.set?, h.schema, hfound, hchanged, Option.bind_eq_bind, Option.bind_some,
    Object.set, ObjectType.setThrough, hobject, ObjectType.owner_schema]
  rfl

/-- Getting a name through the code is getting it through the object. -/
theorem get?_eq (h : code.Makes scope t) (hobject : object.type = t) (key : String)
    : code.get? key object = some (object.get key) := by
  simp only [TypeCode.get?, h.settings object hobject, Option.bind_eq_bind, Option.bind_some]
  rfl

/-- So a setter that is called sets its name. -/
theorem call?_setter (h : code.Makes scope t) (hobject : object.type = t) {method : Method}
    (hkind : method.kind = .setter) (value : Value)
    : code.call? scope method value object = some (object.set method.key value) := by
  rw [call?, hkind]
  exact h.set?_eq hobject method.key value

/-- A reader that is called gets its name, and leaves the object as it is. -/
theorem call?_reader (h : code.Makes scope t) (hobject : object.type = t) {method : Method}
    (hkind : method.kind = .reader) (value : Value)
    : code.call? scope method value object = some ⟨object.get method.key, [], object⟩ := by
  simp only [call?, hkind, h.get?_eq hobject, Option.bind_eq_bind, Option.bind_some]
  rfl

end TypeCode.Makes

end DeclaredSettings.Derive
