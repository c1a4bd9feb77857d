import DeclaredSettings.Derive.TypeCode
import DeclaredSettings.Proofs.Derive.StringLiterals

/-! Generated code is read back. Each piece that is written for a declaration, from the list of
its names up to all of its implementations, is read as what the declaration says; so nothing
is lost on the way and nothing else is said.
-/

namespace DeclaredSettings.Derive

open Code

namespace Code

-----------------------------------------------------------------------------------------
-- Pieces of code
-----------------------------------------------------------------------------------------

theorem behind?_eq_some {front code rest : List Code}
    : behind? front code = some rest ↔ code = front ++ rest := by
  fun_induction behind? front code with
  | case1 code => simp
  | case2 => simp
  | case3 first front code ih => simpa using ih
  | case4 first front other code hother =>
      simp only [List.cons_append, List.cons.injEq, reduceCtorEq, false_iff, not_and]
      exact fun heq => absurd heq.symm hother

@[simp]
theorem behind?_append (front rest : List Code) : behind? front (front ++ rest) = some rest :=
  behind?_eq_some.mpr rfl

@[simp]
theorem between?_append (front back code : List Code)
    : between? front back (front ++ (code ++ back)) = some code := by
  simp [between?]

@[simp]
theorem block?_append (heading content rest : List Code)
    : block? heading (heading ++ braces content :: rest) = some (content, rest) := by
  simp [block?, braces]

@[simp]
theorem arguments?_append (function arguments : List Code)
    : arguments? function (function ++ [parens arguments]) = some arguments := by
  simp [arguments?, parens]

/-- Items that are read one after the other are all read, by induction on them. -/
theorem many?_flatMap {α β : Type} {item? : List Code → Option (β × List Code)}
    {write : α → List Code} {read : α → β} {items : List α}
    (h
      : ∀ item ∈ items, ∀ rest,
          item? (write item ++ rest) = some (read item, rest) ∧ write item ≠ [])
    {count : Nat} (hcount : (items.flatMap write).length ≤ count)
    : many? item? count (items.flatMap write) = some (items.map read) := by
  induction items generalizing count with
  | nil => cases count <;> rfl
  | cons first items ih =>
      obtain ⟨hfirst, hitems⟩ := List.forall_mem_cons.mp h
      obtain ⟨hread, hsome⟩ := hfirst (items.flatMap write)
      obtain ⟨token, code, hcode⟩ := List.exists_cons_of_ne_nil hsome
      rw [List.flatMap_cons, List.length_append] at hcount
      have hlength := List.length_pos_iff.mpr hsome
      obtain ⟨count, rfl⟩ := Nat.exists_eq_add_one_of_ne_zero (n := count) (by omega)
      have hrest : many? item? count (items.flatMap write) = some (items.map read) :=
        ih hitems (by omega)
      rw [List.flatMap_cons]
      rw [hcode, List.cons_append] at hread ⊢
      rw [many?, hread]
      simp [hrest]

@[simp]
theorem literal?_string (s : String) : (string s).literal? = some s := by
  rw [string, literal?, String.toList_ofList, stringValue?_stringChars]

/-- Literals with commas between them are read as their strings, by induction on these. -/
theorem literals?_separated (names : List String)
    : literals? (separated (names.map fun name => [string name])) = some names := by
  induction names with
  | nil => rfl
  | cons first names ih =>
      cases names with
      | nil => simp [separated, literals?]
      | cons second names =>
          have hcode : separated ((first :: second :: names).map fun name => [string name])
              = string first :: token ","
                :: separated ((second :: names).map fun name => [string name]) := by
            simp [separated]
          rw [hcode, literals?, ih, literal?_string]
          rfl

end Code

variable (d : Declaration)

-----------------------------------------------------------------------------------------
-- Schemas
-----------------------------------------------------------------------------------------

@[simp]
theorem blockNames?_namesBlock : blockNames? (namesBlock d) = some d.names := by
  simp [namesBlock, braces, brackets, blockNames?, literals?_separated]

/-- What the expression for the schema of a declaration says. -/
def Declaration.schemaExpr : SchemaExpr :=
  match d.storage with
  | .settings _ => .new d.ident.text d.names
  | .base _ type => .extend type d.ident.text d.names

/-- The function that extends a schema is not the one that makes a new one: the names of the
two are different.
-/
theorem append_extending_ne (library front : List Code)
    : front ++ extending library ≠ inLibrary library "AttributeSchema :: new" := by
  have hextend : words ". extend" = [token "."] ++ [token "extend"] := rfl
  have hnew : inLibrary library "AttributeSchema :: new"
      = library ++ [token "::", token "AttributeSchema", token "::"] ++ [token "new"] :=
    (List.append_assoc library [_, _, _] [_]).symm
  rw [extending, hextend, hnew, ← List.append_assoc, ← List.append_assoc]
  exact fun heq => absurd (List.append_inj_right' heq rfl) (by decide)

/-- The expression for the schema is read as that of the owner and all declared names. -/
theorem schemaExpr?_schemaCode
    : schemaExpr? d.runtimePath (schemaCode d) = some d.schemaExpr := by
  have harguments : schemaArguments? (parens [string d.ident.text, token ",", namesBlock d])
      = some (d.ident.text, d.names) := by
    simp [schemaArguments?, parens]
  unfold schemaCode Declaration.schemaExpr
  cases d.storage with
  | settings field =>
      simp only [schemaExpr?, runtime, List.getLast?_concat, List.dropLast_concat, if_true,
        Option.bind_eq_bind, Option.bind_some, harguments]
      rfl
  | base field type =>
      have hcode : token "<" :: type ++ token "as" :: runtime d "DslObject > :: schema"
            ++ [parens []] ++ words ". extend"
            ++ [parens [string d.ident.text, token ",", namesBlock d]]
          = ([token "<"] ++ (type ++ extending d.runtimePath))
            ++ [parens [string d.ident.text, token ",", namesBlock d]] := by
        simp [runtime, extending]
      have hne := append_extending_ne d.runtimePath ([token "<"] ++ type)
      rw [List.append_assoc] at hne
      simp only [hcode, schemaExpr?, List.getLast?_concat, List.dropLast_concat, if_neg hne,
        Option.bind_eq_bind, Option.bind_some, harguments, between?_append]
      rfl

-----------------------------------------------------------------------------------------
-- Fields
-----------------------------------------------------------------------------------------

theorem field?_ident (mark : String) (field : Ident)
    : field? mark (words (mark ++ " self .") ++ [ident field]) = some field.text := by
  simp [field?, ident]

/-- A call is not a field. -/
theorem field?_append_parens (mark : String) (code arguments : List Code)
    : field? mark (code ++ [parens arguments]) = none := by
  unfold field?
  split
  · next field heq =>
    have hlast := congrArg List.getLast? (behind?_eq_some.mp heq)
    simp [parens] at hlast
  · rfl

/-- Where the settings of an object of a declaration are. -/
def Declaration.place : Place :=
  match d.storage with
  | .settings field => .own field.text
  | .base field _ => .inside field.text

/-- The expression for the settings is read as the place where the declaration keeps them,
whether it is to read or to change them.
-/
theorem place?_settingsCode (mark method : String)
    : place? d.runtimePath mark method (settingsCode d mark method) = some d.place := by
  unfold settingsCode Declaration.place
  cases d.storage with
  | settings field => simp only [place?, field?_ident]
  | base field type =>
      simp only [place?, runtime, field?_append_parens, arguments?_append, field?_ident,
        Option.bind_eq_bind, Option.bind_some]
      rfl

/-- What is put into the field that keeps the settings of a new object of a declaration. -/
def Declaration.filling : Filling :=
  match d.storage with
  | .settings field => .settings field.text
  | .base field type => .object field.text type

/-- What fills the first field of a new object is read, if the base of the schema is known.
-/
theorem filling?_storageInit (rest : List Code)
    : filling? d.runtimePath d.schemaExpr.base? (storageInit d ++ token "," :: rest)
      = some (d.filling, rest) := by
  unfold storageInit Declaration.filling Declaration.schemaExpr
  cases d.storage with
  | settings field =>
      have hcode : words ": settings" ++ token "," :: rest = words ": settings ," ++ rest := rfl
      simp only [List.cons_append, ident, SchemaExpr.base?, filling?, hcode, behind?_append,
        Option.bind_eq_bind, Option.bind_some]
      rfl
  | base field type =>
      let made :=
        token ":" :: token "<" :: type
          ++ token "as" :: inLibrary d.runtimePath "DslObject > :: from_settings"
          ++ [parens [token "settings"], token ","]
      have hcode : ident field :: token ":" :: token "<" :: type ++ token "as"
            :: runtime d "DslObject > :: from_settings" ++ [parens [token "settings"]]
            ++ token "," :: rest
          = token field.text :: (made ++ rest) := by
        simp [runtime, ident, made]
      rw [hcode]
      simp only [SchemaExpr.base?, filling?, made, behind?_append, Option.bind_eq_bind,
        Option.bind_some]
      rfl

theorem defaulted?_defaultInit (field : Ident) (rest : List Code)
    : defaulted? (defaultInit field ++ rest) = some (field.text, rest) := by
  have hcode : defaultInit field ++ rest
      = token field.text
        :: (words ": :: core :: default :: Default :: default" ++ [parens [], token ","]
          ++ rest) := by
    simp [defaultInit, ident]
  rw [hcode, defaulted?, behind?_append]
  rfl

/-- The fields of a new object are read: the one with the settings, and all others. -/
theorem fields?_objectFields
    : fields? d.runtimePath d.schemaExpr.base?
        (storageInit d ++ token "," :: d.defaulted.flatMap defaultInit)
      = some (d.filling, d.defaulted.map Ident.text) := by
  have hdefaulted : many? defaulted? (d.defaulted.flatMap defaultInit).length
      (d.defaulted.flatMap defaultInit) = some (d.defaulted.map Ident.text) :=
    many?_flatMap
      (fun field _ rest => ⟨defaulted?_defaultInit field rest, List.cons_ne_nil _ _⟩)
      (Nat.le_refl _)
  simp only [fields?, filling?_storageInit, Option.bind_eq_bind, Option.bind_some,
    hdefaulted]
  rfl

-----------------------------------------------------------------------------------------
-- Methods
-----------------------------------------------------------------------------------------

/-- Code behind something is not the code with an item in front, if the item is found in it
for the first time.
-/
theorem append_ne_of_not_mem {front back rest more : List Code} {mark : Code}
    (hsome : front ≠ []) (hfront : mark ∉ front)
    : front ++ (back ++ mark :: rest) ≠ back ++ [mark] ++ more := by
  intro heq
  have hplace := congrArg (List.idxOf mark) heq
  have hlength := List.length_pos_iff.mpr hsome
  simp only [List.idxOf_append, hfront, List.mem_append, List.mem_singleton, or_true, if_true,
    if_false, List.idxOf_cons_self] at hplace
  split at hplace <;> omega

/-- The code of a function is found behind its keyword, whatever attributes stand in front; by
induction on these.
-/
theorem behindKeyword?_attributes (visibility rest : List Code)
    (attributes : List (List Code))
    : behindKeyword? visibility
        (attributes.flatMap (fun content => [token "#", brackets content])
          ++ (visibility ++ token "fn" :: rest))
      = some rest := by
  induction attributes with
  | nil =>
      have hcode : visibility ++ token "fn" :: rest = visibility ++ [token "fn"] ++ rest := by
        simp
      rw [List.flatMap_nil, List.nil_append, hcode]
      unfold behindKeyword?
      split
      · next heq => rw [← heq, behind?_append]
      · rw [behind?_append]
  | cons content attributes ih =>
      have hnone : behind? (visibility ++ [token "fn"])
          (token "#" :: brackets content
            :: (attributes.flatMap (fun content => [token "#", brackets content])
              ++ (visibility ++ token "fn" :: rest)))
          = none := by
        rw [Option.eq_none_iff_forall_not_mem]
        intro more hmore
        have hsome : token "#" :: brackets content
            :: attributes.flatMap (fun content => [token "#", brackets content]) ≠ [] :=
          List.cons_ne_nil _ _
        refine append_ne_of_not_mem hsome ?_ (behind?_eq_some.mp hmore)
        simp [brackets]
      have hcode : (content :: attributes).flatMap (fun content => [token "#", brackets content])
            ++ (visibility ++ token "fn" :: rest)
          = token "#" :: brackets content
            :: (attributes.flatMap (fun content => [token "#", brackets content])
              ++ (visibility ++ token "fn" :: rest)) := by
        simp
      rw [brackets] at hcode hnone
      rw [hcode, behindKeyword?, hnone]
      exact ih

section Methods

variable (library : List Code)

/-- A setter takes the object to change, and a reader does not. -/
theorem words_reader_ne_setter (rest : List Code)
    : words "& self" ≠ words "& mut self , value : impl :: core :: convert :: Into <" ++ rest := by
  intro heq
  have hsecond : some (token "self") = some (token "mut") := congrArg (·[1]?) heq
  exact absurd hsecond (by decide)

/-- What a setter does is read from its code. -/
theorem action?_setter (key : String)
    : action? library
        (words "& mut self , value : impl :: core :: convert :: Into <"
          ++ inLibrary library "__Value > ,")
        (inLibrary library "DslObject :: set"
          ++ [parens (words "self ," ++ string key :: words ", value")])
      = some (.setter, key) := by
  have hgiven : between? (words "self ,") (words ", value")
      (words "self ," ++ string key :: words ", value") = some [string key] :=
    between?_append _ _ [string key]
  simp only [action?, if_true, arguments?_append, hgiven, Option.bind_eq_bind,
    Option.bind_some, literal?_string]
  rfl

/-- What a reader does is read from its code. -/
theorem action?_reader (key : String)
    : action? library (words "& self")
        (inLibrary library "DslObject :: get" ++ [parens (words "self ," ++ [string key])])
      = some (.reader, key) := by
  simp only [action?, words_reader_ne_setter, if_false, if_true, arguments?_append,
    behind?_append, Option.bind_eq_bind, Option.bind_some, literal?_string]
  rfl

end Methods

/-- The identifier of a method is read from its token. -/
def Method.IsLegible (method : Method) : Prop :=
  (Code.ident method.ident).ident? = some method.ident

/-- A function with any attributes in front is read as the method that its parts say. -/
theorem method?_of_parts {library : List Code} (visibility : List Code) {method : Method}
    (h : method.IsLegible) (attributes : List (List Code)) {parameters body : List Code}
    (haction : action? library parameters body = some (method.kind, method.key))
    (rest : List Code)
    : method? library visibility
        (attributes.flatMap (fun content => [token "#", brackets content])
          ++ (visibility ++ token "fn" :: ident method.ident :: parens parameters
            :: (words "-> :: core :: option :: Option < &" ++ inLibrary library "__Value >"
              ++ braces body :: rest)))
      = some (method, rest) := by
  have hname : (ident method.ident).ident? = some method.ident := h
  simp only [method?, behindKeyword?_attributes, Option.bind_eq_bind, Option.bind_some, parens,
    block?_append, haction, hname]
  rfl

/-- A method is read from its code as it is: its identifier, its kind and its key. -/
theorem method?_methodCode {method : Method} (h : method.IsLegible) (rest : List Code)
    : method? d.runtimePath d.visibility (methodCode d method ++ rest)
      = some (method, rest) := by
  obtain ⟨name, kind, key⟩ := method
  cases kind with
  | setter =>
      have hread := method?_of_parts d.visibility h
        [words "doc =" ++ [string (documentation ⟨name, .setter, key⟩)]]
        (action?_setter d.runtimePath key) rest
      simpa [methodCode, documented, optionalValue, runtime] using hread
  | reader =>
      have hread := method?_of_parts d.visibility h
        [words "doc =" ++ [string (documentation ⟨name, .reader, key⟩)],
          [token "must_use"]]
        (action?_reader d.runtimePath key) rest
      simpa [methodCode, documented, optionalValue, runtime] using hread

theorem methodCode_ne_nil (method : Method) : methodCode d method ≠ [] := by
  obtain ⟨name, kind, key⟩ := method
  cases kind <;> simp [methodCode, documented]

/-- The methods in an implementation are all read, in order. -/
theorem methods?_flatMap {methods : List Method} (h : ∀ method ∈ methods, method.IsLegible)
    : methods? d.runtimePath d.visibility (methods.flatMap (methodCode d)) = some methods := by
  have hread : methods? d.runtimePath d.visibility (methods.flatMap (methodCode d))
      = some (methods.map id) :=
    many?_flatMap
      (fun method hmethod rest =>
        ⟨method?_methodCode d (h method hmethod) rest, methodCode_ne_nil d method⟩)
      (Nat.le_refl _)
  rwa [List.map_id] at hread

-----------------------------------------------------------------------------------------
-- Implementations
-----------------------------------------------------------------------------------------

/-- An implementation for a type is read up to its end. -/
theorem block?_impl (heading content rest : List Code) (name : Ident)
    : block? (heading ++ [token name.text]) (heading ++ [ident name, braces content] ++ rest)
      = some (content, rest) := by
  have hcode : heading ++ [ident name, braces content] ++ rest
      = heading ++ [token name.text] ++ braces content :: rest := by
    simp [ident]
  rw [hcode, block?_append]

/-- An implementation of a trait is not one of a type's own, since its heading goes on behind
the second token.
-/
theorem block?_of_trait (name : String) (second third : String) (rest : List Code)
    : block? [token "impl", token name]
        (token "impl" :: token second :: token third :: rest)
      = none := by
  simp only [block?, behind?]
  split_ifs <;> rfl

/-- The methods of a type's own are read from the implementation that holds them, and where
there is none there are no methods.
-/
theorem ownMethods?_accessorImpl {methods : List Method}
    (h : ∀ method ∈ methods, method.IsLegible) (second third : String) (rest : List Code)
    : ownMethods? d.runtimePath d.visibility d.ident.text
        (accessorImpl d methods ++ token "impl" :: token second :: token third :: rest)
      = some (methods, token "impl" :: token second :: token third :: rest) := by
  unfold ownMethods? accessorImpl
  cases methods with
  | nil =>
      rw [List.isEmpty_nil, if_pos rfl, List.nil_append, block?_of_trait]
  | cons first others =>
      have hblock := block?_impl [token "impl"] ((first :: others).flatMap (methodCode d))
        (token "impl" :: token second :: token third :: rest) d.ident
      simp only [List.singleton_append] at hblock
      rw [List.isEmpty_cons, if_neg Bool.false_ne_true, hblock]
      simp only [methods?_flatMap d h, Option.bind_eq_bind, Option.bind_some]
      rfl

/-- What is kept once it has been asked for is read. -/
theorem once?_schemaFunction (expression : List Code)
    : once? d.runtimePath
        (words "static SCHEMA : :: std :: sync :: OnceLock <"
          ++ runtime d "AttributeSchema > = :: std :: sync :: OnceLock :: new"
          ++ [parens []] ++ words "; SCHEMA . get_or_init"
          ++ [parens (token "||" :: expression)])
      = some expression := by
  simp only [once?, runtime, arguments?_append, Option.bind_eq_bind, Option.bind_some]
  exact behind?_append [token "||"] expression

/-- What the implementation of the object of a declaration says. -/
def Declaration.objectCode : TypeCode where
  name := d.ident.text
  schema := d.schemaExpr
  filling := d.filling
  defaulted := d.defaulted.map Ident.text
  read := d.place
  changed := d.place
  methods := []
  target := none

/-- The implementation of the object is read, function by function. -/
theorem objectCode?_objectImpl
    : objectCode? d.runtimePath d.ident.text
        (schemaFunction d ++ fromSettingsFunction d ++ settingsFunction d
          ++ settingsMutFunction d)
      = some d.objectCode := by
  have hcode : schemaFunction d ++ fromSettingsFunction d ++ settingsFunction d
        ++ settingsMutFunction d
      = words "fn schema" ++ [parens []] ++ words "-> & 'static"
          ++ inLibrary d.runtimePath "AttributeSchema"
        ++ braces (words "static SCHEMA : :: std :: sync :: OnceLock <"
          ++ runtime d "AttributeSchema > = :: std :: sync :: OnceLock :: new"
          ++ [parens []] ++ words "; SCHEMA . get_or_init"
          ++ [parens (token "||" :: schemaCode d)])
        :: (words "fn from_settings" ++ [parens (words "settings :"
            ++ inLibrary d.runtimePath "Settings")] ++ words "-> Self"
          ++ braces ([token "Self"]
            ++ braces (storageInit d ++ token "," :: d.defaulted.flatMap defaultInit) :: [])
          :: (words "fn settings" ++ [parens (words "& self")] ++ words "-> &"
              ++ inLibrary d.runtimePath "Settings"
            ++ braces (settingsCode d "&" "settings")
            :: (words "fn settings_mut" ++ [parens (words "& mut self")] ++ words "-> & mut"
                ++ inLibrary d.runtimePath "Settings"
              ++ braces (settingsCode d "& mut" "settings_mut") :: []))) := by
    simp [schemaFunction, fromSettingsFunction, settingsFunction, settingsMutFunction, runtime]
  simp only [hcode, objectCode?, block?_append, once?_schemaFunction, schemaExpr?_schemaCode,
    fields?_objectFields, place?_settingsCode, Option.bind_eq_bind, Option.bind_some]
  rfl

/-- The type and the field through which the methods of the base of a declaration are found.
-/
def Declaration.target : Option Target :=
  match d.storage with
  | .settings _ => none
  | .base field type => some ⟨type, field.text⟩

theorem sharedTarget?_derefContent (field : Ident) (type : List Code)
    : sharedTarget? (derefContent field type) = some ⟨type, field.text⟩ := by
  let function := words "; fn deref" ++ [parens (words "& self")] ++ words "-> & Self :: Target"
  have hcode : derefContent field type
      = words "type Target =" ++ (type ++ function)
        ++ [braces (words "& self ." ++ [ident field])] := by
    simp [derefContent, function]
  have hfield : field? "&" (words "& self ." ++ [ident field]) = some field.text :=
    field?_ident "&" field
  simp only [sharedTarget?, hcode, braces, List.getLast?_concat, List.dropLast_concat, function,
    between?_append, Option.bind_eq_bind, Option.bind_some, hfield]
  rfl

theorem changedField?_derefMutContent (field : Ident)
    : changedField? (derefMutContent field) = some field.text := by
  have hfield := field?_ident "& mut" field
  simp only [changedField?, derefMutContent, block?_append]
  exact hfield

/-- The implementations through which the methods of the base are found are read, and where
there are none there is no base.
-/
theorem target?_derefImpls
    : target? d.ident.text (derefImpls d) = some d.target := by
  cases hstorage : d.storage with
  | settings field => simp only [target?, derefImpls, Declaration.target, hstorage, if_true]
  | base field type =>
      have hcode : derefImpls d
          = words "impl :: core :: ops :: Deref for"
              ++ [ident d.ident, braces (derefContent field type)]
            ++ (words "impl :: core :: ops :: DerefMut for"
              ++ [ident d.ident, braces (derefMutContent field)] ++ []) := by
        simp [derefImpls, hstorage]
      have hsome : derefImpls d ≠ [] := by
        rw [hcode]
        exact List.cons_ne_nil _ _
      rw [target?, if_neg hsome]
      simp only [hcode, block?_impl, Option.bind_eq_bind, Option.bind_some,
        sharedTarget?_derefContent, changedField?_derefMutContent, and_self, if_true,
        Declaration.target, hstorage]

/-- What the code that is generated for a declaration says, with some methods. -/
def Declaration.typeCode (methods : List Method) : TypeCode :=
  { d.objectCode with methods, target := d.target }

/-- All code that is generated for a declaration is read back: what it says of the type is
what the declaration says, and the methods are those that were to be generated.
-/
theorem typeCode?_expansion {methods : List Method}
    (h : ∀ method ∈ methods, method.IsLegible)
    : typeCode? d.runtimePath d.visibility
        (objectImpl d ++ accessorImpl d methods ++ defaultImpl d ++ displayImpl d
          ++ sourceImpl d ++ derefImpls d)
      = some (d.typeCode methods) := by
  have hcode : objectImpl d ++ accessorImpl d methods ++ defaultImpl d ++ displayImpl d
        ++ sourceImpl d ++ derefImpls d
      = token "impl" :: inLibrary d.runtimePath "DslObject for"
        ++ ident d.ident
          :: braces (schemaFunction d ++ fromSettingsFunction d ++ settingsFunction d
            ++ settingsMutFunction d)
          :: (accessorImpl d methods ++ (defaultImpl d ++ (displayImpl d
            ++ (sourceImpl d ++ derefImpls d)))) := by
    simp [objectImpl, runtime]
  have hmethods : ownMethods? d.runtimePath d.visibility d.ident.text
      (accessorImpl d methods ++ (defaultImpl d ++ (displayImpl d
        ++ (sourceImpl d ++ derefImpls d))))
      = some (methods, defaultImpl d ++ (displayImpl d ++ (sourceImpl d ++ derefImpls d))) :=
    ownMethods?_accessorImpl d h "::" "core" _
  have hdefault : block? (words "impl :: core :: default :: Default for"
      ++ [token d.ident.text]) (defaultImpl d ++ (displayImpl d
        ++ (sourceImpl d ++ derefImpls d))) = some (_, _) :=
    block?_impl _ _ _ d.ident
  have hdisplay : block? (words "impl :: core :: fmt :: Display for" ++ [token d.ident.text])
      (displayImpl d ++ (sourceImpl d ++ derefImpls d)) = some (_, _) :=
    block?_impl _ _ _ d.ident
  have hsource : block? (token "impl" :: inLibrary d.runtimePath "SettingsSource for"
      ++ [token d.ident.text]) (sourceImpl d ++ derefImpls d) = some (_, _) :=
    block?_impl _ _ _ d.ident
  simp only [typeCode?, hcode, behind?_append, Option.bind_eq_bind, Option.bind_some, ident,
    braces, objectCode?_objectImpl, hmethods, hdefault, hdisplay, hsource,
    target?_derefImpls]
  rfl

end DeclaredSettings.Derive
