import DeclaredSettings.Proofs.Derive.InheritedAccessors
import DeclaredSettings.Script.Object

/-! Generated accessors do what can be done with any name. The code of a setter, called on the
part of an object whose type declares the name, sets the name as on the object itself, and
that of the reader gets it. Neither is ever reported as undeclared, since the name is listed
by the declaring type and by every type on it.
-/

namespace DeclaredSettings

open Derive Script

namespace ObjectType

/-- The names that are declared along the chain of a type, from the type itself on. -/
def declared (t : ObjectType) : List String :=
  t.chain.flatMap (·.layer.keys)

/-- A derived type lists the spellings of the names that are declared along its chain, since
these are canonical.
-/
theorem Derived.contains_iff {program : Program} {t : ObjectType} (h : t.Derived program)
    (key : String)
    : t.schema.contains key = true ↔ canonical key ∈ t.declared := by
  rw [Schema.contains_iff, mem_names_schema, declared, List.mem_flatMap]
  constructor
  · rintro ⟨bringing, hbringing, name, hname, hkey⟩
    -- schemas canonicalise what is declared, which is the name itself
    have hcanonical := h.canonical_of_mem_keys hbringing hname
    have hspelling : canonical key = canonical name := congrArg Name.text hkey
    exact ⟨bringing, hbringing, by rwa [hspelling, hcanonical]⟩
  · rintro ⟨bringing, hbringing, hname⟩
    have hcanonical := h.canonical_of_mem_keys hbringing hname
    exact ⟨bringing, hbringing, canonical key, hname, Name.ext hcanonical.symm⟩

/-- How a method in the code of one type acts on objects of a type that has it in its chain,
where `call` is what the code does when the method is called.
-/
structure ActsThrough (t bringing : ObjectType) (method : Method)
    (call : Value → Object → Option Object.Result)
    : Prop where
  /-- The setter is the setting of its name, and nothing is logged. -/
  setter
    : method.kind = .setter
      → ∀ around fields otherFields depth s value,
          (Step.call method.ident.name value).run around ⟨bringing, otherFields⟩ depth s
            = (Step.set method.key value).run around ⟨t, fields⟩ depth s
          ∧ ((Step.set method.key value).run around ⟨t, fields⟩ depth s).trace = []
  reader
    : method.kind = .reader
      → ∀ around fields otherFields depth s,
          (Step.reader method.key).run around ⟨bringing, otherFields⟩ depth s
          = (Step.get method.key).run around ⟨t, fields⟩ depth s
  /-- Called on the part of an object that has the setter, it sets the name on the whole
  object, and all parts show the same settings afterwards.
  -/
  setterOnPart
    : method.kind = .setter
      → ∀ (object part : Object) depth value,
          object.type = t
          → object.parts[depth]? = some part
          → part.type = bringing
          → object.onPart (call value) depth = some (object.set method.key value)
            ∧ (object.set method.key value).events = []
            ∧ ∀ seen ∈ (object.set method.key value).object.parts,
                seen.settings = (object.settings.assign method.key value).2
  /-- Called on the part that has the reader, it gets the name of the whole object. -/
  readerOnPart
    : method.kind = .reader
      → ∀ (object part : Object) depth value,
          object.type = t
          → object.parts[depth]? = some part
          → part.type = bringing
          → object.onPart (call value) depth = some ⟨object.get method.key, [], object⟩

variable {t bringing : ObjectType} {method : Method} {code : TypeCode} {scope : Scope}

/-- The setter of a declared name acts as setting the name. -/
theorem actsThrough_of_setter (hmakes : code.Makes scope bringing)
    (hbringing : bringing ∈ t.chain) (hkey : method.key ∈ bringing.layer.keys)
    (hsetter : method.accessor = ⟨method.key, .setter, method.key⟩)
    : t.ActsThrough bringing method (code.call? scope method) := by
  obtain ⟨hname, hkind, _⟩ := Accessor.mk.inj hsetter
  constructor
  case setter =>
    intro _ around fields otherFields depth s value
    have hfound := accessor?_of_find? (Accessor.find?_ofKeys_of_mem hkey)
    have hown := contains_of_mem_keys bringing.mem_chain_self hkey
    have hlisted := contains_of_mem_keys hbringing hkey
    constructor
    · simp only [Step.run, hname, hfound, setThrough_of_contains hown,
        setThrough_of_contains hlisted]
    · simp only [Step.run, setThrough_of_contains hlisted, List.map_nil]
  case setterOnPart =>
    rintro _ object part depth value _ hpart rfl
    have hcall := hmakes.call?_setter rfl hkind value
    obtain ⟨hset, hquiet⟩ := Object.onPart_of_set hpart hkey hcall
    exact ⟨hset, hquiet, fun seen hseen => Object.settings_of_mem_parts_set hseen⟩
  case reader | readerOnPart =>
    intro hreader
    exact nomatch hreader.symm.trans hkind

/-- The reader of a declared name acts as getting the name. -/
theorem actsThrough_of_reader (hmakes : code.Makes scope bringing)
    (hkey : method.key ∈ bringing.layer.keys)
    (hfresh : Accessor.readerName method.key ∉ bringing.layer.keys)
    (hkind : method.kind = .reader)
    : t.ActsThrough bringing method (code.call? scope method) := by
  constructor
  case reader =>
    intro _ around fields otherFields depth s
    have hfound := accessor?_of_find? (Accessor.find?_ofKeys_readerName hkey hfresh)
    simp only [Step.run, hfound]
  case readerOnPart =>
    rintro _ object part depth value _ hpart rfl
    exact Object.onPart_of_get hpart (hmakes.call?_reader rfl hkind value)
  case setter | setterOnPart =>
    intro hsetter
    exact nomatch hsetter.symm.trans hkind

/-- What is done through a type of objects with a name that is given, and with the names
that accessors are generated for.
-/
structure ActsAsSet (program : Program) (t : ObjectType) : Prop where
  /-- Setting a name reports it if and only if it is not declared along the chain, be the
  value null or not.
  -/
  set
    : ∀ around fields depth s key value,
        (Step.set key value).run around ⟨t, fields⟩ depth s
        = ⟨(s.assign key value).2,
            if canonical key ∈ t.declared then []
            else [.logged (.undeclared t.owner key)],
            .done (.option (s.assign key value).1)⟩
  owner : t.schema.owner = t.owner
  /-- A new object holds the settings that it is given. -/
  created
    : ∀ s, (Object.ofSettings t s).type = t ∧ (Object.ofSettings t s).settings = s
  /-- Objects have a part for each type of the chain, and setting a name through the whole
  object is the step that sets it. The object is of the same type afterwards.
  -/
  objects
    : ∀ object : Object,
        object.type = t
        → object.parts.map Object.type = t.chain
          ∧ ∀ around fields depth key value,
              (Step.set key value).run around ⟨t, fields⟩ depth object.settings
                = ⟨(object.set key value).object.settings,
                    (object.set key value).events.map .logged,
                    .done (.option (object.set key value).value)⟩
              ∧ (object.set key value).object.type = t
  declarations
    : ∀ bringing ∈ t.chain, ∃ (d : Declaration) (module : List String),
        d.Expanded ∧ d.objectType? (program module) = some bringing
  /-- The functions in the code that is generated for each of these set and get names as the
  type does, and its methods act as these do on the whole object.
  -/
  methods
    : ∀ bringing ∈ t.chain, ∀ (d : Declaration) (module : List String),
        d.Expanded
        → d.objectType? (program module) = some bringing
        → ∃ code,
            d.Generates (program module) bringing code
            ∧ (∀ key value (object : Object),
                object.type = bringing
                → code.set? (program module) key value object = some (object.set key value)
                  ∧ code.get? key object = some (object.get key))
            ∧ ∀ method ∈ code.methods,
                t.ActsThrough bringing method (code.call? (program module) method)

/-- On a derived type the undeclared names are exactly those that are reported, and the
methods that are generated for each type of the chain set and get their names as the
object itself does.
-/
theorem derived_acts_as_set {program : Program} (h : t.Derived program)
    : t.ActsAsSet program := by
  constructor
  case set =>
    intro around fields depth s key value
    by_cases hlisted : t.schema.contains key = true
    · rw [if_pos ((h.contains_iff key).mp hlisted)]
      simp only [Step.run, setThrough_of_contains hlisted, List.map_nil]
    · rw [if_neg (mt (h.contains_iff key).mpr hlisted)]
      simp only [Step.run, setThrough, if_neg hlisted, List.map_cons, List.map_nil]
  case owner => exact t.owner_schema
  case created => exact fun s => ⟨Object.type_ofSettings t s, Object.settings_ofSettings t s⟩
  case objects =>
    rintro object rfl
    refine ⟨object.map_type_parts, fun around fields depth key value => ⟨?_, ?_⟩⟩
    · simp only [Step.run, Object.set, Object.settings_withSettings]
    · exact Object.type_withSettings object _
  case declarations => exact h.exists_declaration
  case methods =>
    intro bringing hbringing d module hexpanded hstands
    obtain ⟨code, hcode⟩ := hexpanded.exists_generates hstands
    refine ⟨code, hcode, fun key value object hobject => ?_, fun method hmethod => ?_⟩
    · exact ⟨hcode.makes.set?_eq hobject key value, hcode.makes.get?_eq hobject key⟩
    · have haccessor : method.accessor ∈ bringing.layer.accessors := by
        rw [Declaration.layer_of_objectType? hcode.stands, ← hcode.map_accessor]
        exact List.mem_map_of_mem hmethod
      obtain ⟨key, hkey, hsetter | ⟨hfresh, hreader⟩⟩ := Accessor.mem_ofKeys.mp haccessor
      · obtain ⟨_, _, rfl⟩ := Accessor.mk.inj hsetter
        exact actsThrough_of_setter hcode.makes hbringing hkey hsetter
      · obtain ⟨_, hkind, rfl⟩ := Accessor.mk.inj hreader
        exact actsThrough_of_reader hcode.makes hkey hfresh hkind

/-- An object of the second type of two, with a part of the first. -/
def xObject : Object :=
  .sub xDeclaration.layer (.root getXDeclaration.layer (.ofPairs [("x", .int 1)]))

/-- The law for this object. A name that neither type declares is reported with the second
type, although it is only read. The first type has a setter and a reader for `get_x` in its
code: called on the part, they act as on the whole.
-/
theorem derived_acts_as_set_on_part
    : xType.Derived xProgram
      ∧ ((Step.set ":y" .null).run ⟨fun _ => none, fun _ => none⟩ ⟨xType, .null⟩ 0
            xObject.settings).trace
        = [.logged (.undeclared "T1" ":y")]
      ∧ ∃ code setter reader,
          getXDeclaration.Generates (xProgram []) getXType code
          ∧ code.methods = [setter, reader]
          ∧ xObject.onPart (code.call? (xProgram []) setter (.int 2)) 1
            = some (xObject.set "get_x" (.int 2))
          ∧ xObject.onPart (code.call? (xProgram []) reader .null) 1
            = some ⟨xObject.get "get_x", [], xObject⟩ := by
  have hlaw := derived_acts_as_set derived_xType
  have hbase : getXType ∈ xType.chain := by decide
  have hstands : getXDeclaration.objectType? (xProgram []) = some getXType := rfl
  obtain ⟨code, hcode, _, hmethods⟩ :=
    hlaw.methods getXType hbase getXDeclaration [] expanded_getXDeclaration hstands
  have hlisted : code.methods
      = [⟨.plain "get_x", .setter, "get_x"⟩, ⟨.plain "get_get_x", .reader, "get_x"⟩] :=
    (Except.ok.inj hcode.methods).symm
  rw [hlisted] at hmethods
  have hsetter := hmethods _ List.mem_cons_self
  have hreader := hmethods _ (List.mem_cons_of_mem _ List.mem_cons_self)
  refine ⟨derived_xType, ?_, code, _, _, hcode, hlisted, ?_, ?_⟩
  · have hfresh : canonical ":y" ∉ xType.declared := by decide
    rw [hlaw.set, if_neg hfresh]
    rfl
  · exact (hsetter.setterOnPart rfl xObject _ 1 (.int 2) rfl rfl rfl).1
  · exact hreader.readerOnPart rfl xObject _ 1 .null rfl rfl rfl

end ObjectType

end DeclaredSettings
