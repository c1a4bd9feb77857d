import DeclaredSettings.Proofs.Derive.GeneratedCode
import DeclaredSettings.Proofs.Derive.SourceAttributes
import DeclaredSettings.Proofs.Schema.FirstOccurrences

/-! The schema of a type lists what its declaration writes, and is the value of the expression
that is generated for it. Names are brought to canonical form and freed from repetitions when a
declaration is read, and again when its schema is made; the second time changes nothing, since
a name that has a setter is canonical.
-/

namespace DeclaredSettings

namespace Derive

open Outcome

-----------------------------------------------------------------------------------------
-- Declared names are canonical
-----------------------------------------------------------------------------------------

/-- The tokens in lists of keys are tokens of the options, by induction on these. -/
theorem allSpelled_of_mem_keyLists {cs : List Tree} (hcs : AllSpelled cs)
    {content : List Tree} (h : content ∈ keyLists cs)
    : AllSpelled content := by
  fun_induction keyLists cs with
  | case1 span inner opening closing rest ih =>
      obtain ⟨_, hbehind⟩ := List.forall_mem_cons.mp hcs
      obtain ⟨hgroup, hrest⟩ := List.forall_mem_cons.mp hbehind
      rcases List.mem_cons.mp h with rfl | h
      · cases hgroup with
        | group hcontent => exact hcontent
      · exact ih hrest h
  | case2 word span inner opening closing rest hword ih =>
      obtain ⟨_, hbehind⟩ := List.forall_mem_cons.mp hcs
      exact ih (List.forall_mem_cons.mp hbehind).2 h
  | case3 token rest _ ih => exact ih (List.forall_mem_cons.mp hcs).2 h
  | case4 => exact absurd h List.not_mem_nil

/-- A name that a token writes and that has a setter is canonical: an identifier consists of
characters of identifiers, and in a literal canonicalising leaves no more than one colon,
with which no setter begins.
-/
theorem canonical_of_keyName? {token : Tree} (hspelled : token.Spelled) {name : String}
    (hname : token.keyName? = some name) (hsetter : (soleIdent? name).isSome = true)
    : canonical name = name := by
  cases token with
  | ident found span =>
      obtain rfl := Option.some.inj hname
      cases hspelled with
      | ident hidentifier =>
          exact canonical_of_identifierChars (Text.isIdentifierContinue_of_mem hidentifier)
  | literal text span =>
      obtain ⟨value, _, rfl⟩ := Option.map_eq_some_iff.mp hname
      refine (canonical_eq_self_iff _).mpr ⟨isTidy_canonical value, fun hsymbol => ?_⟩
      rw [soleIdent?_of_isSymbol hsymbol] at hsetter
      exact nomatch hsetter
  | mark => exact nomatch hname
  | group => exact nomatch hname

/-- A checked name is one identifier for the lexer, and determines its setter. -/
theorem DeclaredKey.Checked.setter {key : DeclaredKey} (h : key.Checked)
    : (soleIdent? key.name).isSome = true
      ∧ ∀ place, setterIdent key.name place = .ok key.ident := by
  obtain ⟨place, h⟩ := h
  unfold setterIdent at h ⊢
  split at h
  · exact nomatch h
  · next hraw =>
    split at h
    · exact nomatch h
    · next ident hsole =>
      refine ⟨by rw [hsole]; rfl, fun other => ?_⟩
      rw [if_neg hraw]
      exact h

/-- Checked names are the same keys if they are the same names, by induction on them. -/
theorem keys_eq_of_names_eq {keys others : List DeclaredKey}
    (hkeys : ∀ key ∈ keys, key.Checked) (hothers : ∀ key ∈ others, key.Checked)
    (h : keys.map (·.name) = others.map (·.name))
    : keys = others := by
  induction keys generalizing others with
  | nil => exact (List.map_eq_nil_iff.mp h.symm).symm
  | cons key rest ih =>
      cases others with
      | nil => exact nomatch h
      | cons other more =>
          obtain ⟨name, ident⟩ := key
          obtain ⟨otherName, otherIdent⟩ := other
          obtain ⟨rfl, hnames⟩ : name = otherName ∧ _ := List.cons.inj h
          obtain ⟨hkey, hrest⟩ := List.forall_mem_cons.mp hkeys
          obtain ⟨hother, hmore⟩ := List.forall_mem_cons.mp hothers
          -- the place where a name is checked does not show in its setter, so any one will do
          have hident := (hkey.setter.2 ⟨0, 0⟩).symm.trans (hother.setter.2 ⟨0, 0⟩)
          obtain rfl : ident = otherIdent := Except.ok.inj hident
          rw [ih hrest hmore hnames]

namespace Declaration

variable {source : List Char} {item : Item} {d : Declaration}

/-- The names of a declaration that is read from a text are canonical. -/
theorem canonical_of_ofItem (hsource : Item.ofSource? source = some item)
    (h : ofItem item = .ok d)
    : ∀ name ∈ d.names, canonical name = name := by
  intro name hname
  obtain ⟨key, hkey, rfl⟩ := List.mem_map.mp hname
  rw [names_of_ofItem h, List.mem_eraseDups] at hname
  obtain ⟨content, hcontent, htoken⟩ := List.mem_flatMap.mp hname
  obtain ⟨a, ha, hlist⟩ := List.mem_flatMap.mp hcontent
  obtain ⟨token, hmem, hwritten⟩ := List.mem_filterMap.mp htoken
  have hoptions : AllSpelled a.options := by
    have hspelled := Item.spelled_of_ofSource? hsource a ha
    unfold Attribute.options
    split
    · next tokens closing heq =>
      rw [heq] at hspelled
      split
      · exact hspelled
      · nofun
    · nofun
  exact canonical_of_keyName? (allSpelled_of_mem_keyLists hoptions hlist token hmem) hwritten
    (checked_of_ofItem h key hkey).setter.1

/-- The names of a declaration do not repeat. -/
theorem nodup_names (h : ofItem item = .ok d) : d.names.Nodup :=
  names_of_ofItem h ▸ nodup_eraseDups _

end Declaration

end Derive

-----------------------------------------------------------------------------------------
-- Schemas that list canonical names
-----------------------------------------------------------------------------------------

namespace Schema

/-- Declaring canonical names puts them behind what was listed, each at its first occurrence.
-/
theorem map_text_declare {schema : Schema} {keys : List String} (h : schema.names.Nodup)
    (hkeys : ∀ key ∈ keys, canonical key = key)
    : (schema.declare (keys.map .of)).names.map Name.text
      = (schema.names.map Name.text ++ keys).eraseDups := by
  have hinjective : Function.Injective Name.text := fun _ _ => Name.ext
  have htexts : (keys.map Name.of).map Name.text = keys := by
    rw [List.map_map]
    exact (List.map_congr_left hkeys).trans (List.map_id keys)
  rw [names_declare (eraseDups_of_nodup h).symm, ← eraseDups_map hinjective, List.map_append,
    htexts]

end Schema

open Derive

namespace ObjectType

/-- No type lists a name twice, by induction on the type. -/
theorem nodup_names_schema (t : ObjectType) : t.schema.names.Nodup := by
  induction t with
  | root layer =>
      have hnone : (⟨layer.owner, []⟩ : Schema).names = [].eraseDups := rfl
      rw [schema, Schema.new, Schema.names_declare hnone]
      exact nodup_eraseDups _
  | sub layer base ih =>
      have hbase : (⟨layer.owner, base.schema.names⟩ : Schema).names
          = base.schema.names.eraseDups :=
        (eraseDups_of_nodup ih).symm
      rw [schema, Schema.extend, Schema.names_declare hbase]
      exact nodup_eraseDups _

variable {layer : Layer}

/-- A type with settings of its own lists its names, each at its first occurrence. -/
theorem map_text_schema_root (h : ∀ key ∈ layer.keys, canonical key = key)
    : (root layer).schema.names.map Name.text = layer.keys.eraseDups :=
  Schema.map_text_declare List.nodup_nil h

/-- A type on a base lists the names of the base in front of its own. -/
theorem map_text_schema_sub (base : ObjectType)
    (h : ∀ key ∈ layer.keys, canonical key = key)
    : (sub layer base).schema.names.map Name.text
      = (base.schema.names.map Name.text ++ layer.keys).eraseDups :=
  Schema.map_text_declare base.nodup_names_schema h

/-- Types of objects whose declarations are read from texts, with the items of these from
the first base on. The first item has settings of its own, and every other one a base field,
whose type stands for the type in front of it in the module of the item.
-/
inductive ReadFrom (program : Program) : ObjectType → List Item → Prop
  | root {source : List Char} {item : Item} {d : Declaration} {field : Ident}
    (read : Item.ofSource? source = some item) (accepted : Declaration.ofItem item = .ok d)
    (storage : d.storage = .settings field)
    : ReadFrom program (.root d.layer) [item]
  | sub {source : List Char} {item : Item} {d : Declaration} {field : Ident}
    {type : List Code} {base : ObjectType} {items : List Item} {module : List String}
    (read : Item.ofSource? source = some item) (accepted : Declaration.ofItem item = .ok d)
    (storage : d.storage = .base field type) (named : program module type = some base)
    (bases : base.ReadFrom program items)
    : ReadFrom program (.sub d.layer base) (items ++ [item])

/-- The schema of a type lists the names that the items of its chain write, each at its
first occurrence; by induction on the chain.
-/
theorem ReadFrom.names_schema {program : Program} {t : ObjectType} {items : List Item}
    (h : t.ReadFrom program items)
    : t.schema.names.map Name.text = (items.flatMap Item.writtenNames).eraseDups := by
  induction h with
  | @root source item d field read accepted storage =>
      rw [map_text_schema_root (Declaration.canonical_of_ofItem read accepted),
        List.flatMap_singleton, ← Declaration.names_of_ofItem accepted]
      exact eraseDups_of_nodup (Declaration.nodup_names accepted)
  | @sub source item d field type base items module read accepted storage _ _ ih =>
      calc (ObjectType.sub d.layer base).schema.names.map Name.text
        _ = ((items.flatMap Item.writtenNames).eraseDups
              ++ item.writtenNames.eraseDups).eraseDups := by
          rw [map_text_schema_sub base (Declaration.canonical_of_ofItem read accepted), ih,
            ← Declaration.names_of_ofItem accepted]
          rfl
        _ = ((items ++ [item]).flatMap Item.writtenNames).eraseDups := by
          rw [eraseDups_append_eraseDups, eraseDups_eraseDups_append, List.flatMap_append,
            List.flatMap_singleton]

end ObjectType

namespace Derive.Declaration

/-- How the keys of a declaration and the schema of its type agree with the item. -/
structure Agrees (item : Item) (d : Declaration) : Prop where
  /-- The names are those that the item writes, each at its first occurrence. -/
  names : d.names = item.writtenNames.eraseDups
  /-- Nothing but the written names in order makes a difference to the keys. -/
  keys
    : ∀ other : Item, ∀ otherDeclaration,
        other.writtenNames = item.writtenNames
        → ofItem other = .ok otherDeclaration
        → otherDeclaration.keys = d.keys
  /-- The names stand for themselves. -/
  canonical : ∀ name ∈ d.names, canonical name = name
  /-- The expression for the schema is read as a new one of the owner and the names, or as an
  extension of the schema of the base type by them.
  -/
  emitted : schemaExpr? d.runtimePath (schemaCode d) = some d.schemaExpr
  /-- It is what all the generated code says of the schema. -/
  generated
    : ∀ tokens,
        expansion d = .ok tokens
        → ∃ code,
            typeCode? d.runtimePath d.visibility tokens = some code
            ∧ code.schema = d.schemaExpr
  /-- Where the item stands in a program, its value is the schema of the type that is made. -/
  value
    : ∀ (scope : Scope) (t : ObjectType),
        d.objectType? scope = some t
        → d.schemaExpr.schema? scope = some t.schema ∧ t.schema.owner = d.ident.text
  /-- A type with settings of its own lists the names. -/
  own
    : ∀ field,
        d.storage = .settings field
        → (ObjectType.root d.layer).schema.names.map Name.text = d.names
  /-- A type on a base lists the names of the base and then those that are not among them. -/
  onBase
    : ∀ field type,
        d.storage = .base field type
        → ∀ base : ObjectType,
            (ObjectType.sub d.layer base).schema.names.map Name.text
              = base.schema.names.map Name.text
                ++ d.names.filter (· ∉ base.schema.names.map Name.text)
  /-- So along a chain it lists what all the items write, from the first base on. -/
  chain
    : ∀ field type,
        d.storage = .base field type
        → ∀ (program : Program) (module : List String) (base : ObjectType)
            (items : List Item),
            program module type = some base
            → base.ReadFrom program items
            → (ObjectType.sub d.layer base).schema.names.map Name.text
              = ((items ++ [item]).flatMap Item.writtenNames).eraseDups

/-- The schema of the type of an accepted item lists exactly what the item declares, be it
on a base or not, and so does the expression that is emitted for it.
-/
theorem agrees_of_ofItem {source : List Char} {item : Item} {d : Declaration}
    (hsource : Item.ofSource? source = some item) (h : ofItem item = .ok d)
    : Agrees item d where
  names := names_of_ofItem h
  keys other otherDeclaration hwritten hother := by
    refine keys_eq_of_names_eq (checked_of_ofItem hother) (checked_of_ofItem h) ?_
    exact (names_of_ofItem hother).trans (hwritten ▸ (names_of_ofItem h).symm)
  canonical := canonical_of_ofItem hsource h
  emitted := schemaExpr?_schemaCode d
  generated tokens htokens := by
    have hexpanded : d.Expanded := ⟨⟨item, h⟩, ⟨tokens, htokens⟩⟩
    obtain ⟨methods, _, hread⟩ := hexpanded.typeCode? htokens
    exact ⟨d.typeCode methods, hread, rfl⟩
  value scope t hstands := by
    refine ⟨schema?_schemaExpr hstands, ?_⟩
    rw [t.owner_schema, ObjectType.owner, layer_of_objectType? hstands]
    rfl
  own field hstorage := by
    rw [ObjectType.map_text_schema_root (canonical_of_ofItem hsource h)]
    exact eraseDups_of_nodup (nodup_names h)
  onBase field type hstorage base := by
    have hlisted : (ObjectType.sub d.layer base).schema.names.map Name.text
        = (base.schema.names.map Name.text ++ d.names).eraseDups :=
      ObjectType.map_text_schema_sub base (canonical_of_ofItem hsource h)
    have hbase : (base.schema.names.map Name.text).Nodup :=
      base.nodup_names_schema.map fun _ _ => Name.ext
    rw [hlisted, eraseDups_append_of_nodup _ (nodup_names h), eraseDups_of_nodup hbase]
    simp only [List.contains_eq_mem, decide_not]
  chain field type hstorage program module base items hnamed hbase :=
    (ObjectType.ReadFrom.sub hsource h hstorage hnamed hbase).names_schema

/-- A struct on a base that declares two names, one of them with a colon in a literal. -/
def basedText : String :=
  "#[dsl(keys(b,\":a\"))]struct T\x7b#[dsl(base)]p:P\x7d"

/-- Whether settings are kept in a base. -/
def isBased (d : Declaration) : Bool :=
  match d.storage with
  | .base _ _ => true
  | .settings _ => false

/-- The law at this text, where the base lists one of the names: in the value of the emitted
expression the other one comes behind it.
-/
theorem agrees_of_ofItem_on_base
    : ∃ item d schema,
        Item.ofSource? basedText.toList = some item
        ∧ ofItem item = .ok d
        ∧ Agrees item d
        ∧ (schemaExpr? d.runtimePath (schemaCode d)).bind
            (·.schema? fun _ => some (.root ⟨"P", ["a"]⟩))
          = some schema
        ∧ schema.names.map Name.text = ["a", "b"] := by
  have hread : ((Item.ofSource? basedText.toList).bind fun item =>
      (ofItem item).toOption.map fun d => (d.names, d.isBased)) = some (["b", "a"], true) := by
    decide +kernel
  obtain ⟨item, hitem, hitemRead⟩ := Option.bind_eq_some_iff.mp hread
  obtain ⟨d, hd, heq⟩ := Option.map_eq_some_iff.mp hitemRead
  obtain ⟨hnames, hbased⟩ := Prod.mk.inj heq
  have haccepted : ofItem item = .ok d := Outcome.toOption_eq_some.mp hd
  have hagrees := agrees_of_ofItem hitem haccepted
  unfold isBased at hbased
  split at hbased
  · next field type hstorage =>
    let base : ObjectType := .root ⟨"P", ["a"]⟩
    have hstands : d.objectType? (fun _ => some base) = some (.sub d.layer base) := by
      rw [objectType?, hstorage]
      rfl
    refine ⟨item, d, (ObjectType.sub d.layer base).schema, hitem, haccepted, hagrees, ?_, ?_⟩
    · rw [hagrees.emitted]
      exact (hagrees.value _ _ hstands).1
    · rw [hagrees.onBase field type hstorage base, hnames]
      decide
  · exact nomatch hbased

end Derive.Declaration

end DeclaredSettings
