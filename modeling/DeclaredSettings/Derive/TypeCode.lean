import DeclaredSettings.Derive.Expansion

/-!
What the code that is generated for a type says. It is read from the front: the
implementation of the object, the one of the methods, those of the traits of the language,
and those through which the methods of a base are found.
-/

namespace DeclaredSettings.Derive

namespace Code

/-! ### Pieces of code -/

/-- The code behind some code in front, if it starts with this. -/
def behind? : List Code → List Code → Option (List Code)
  | [], code => some code
  | _ :: _, [] => none
  | first :: front, other :: code => if first = other then behind? front code else none

/-- The code between some code in front and some at the end. -/
def between? (front back code : List Code) : Option (List Code) := do
  let rest ← behind? front code
  let reversed ← behind? back.reverse rest.reverse
  return reversed.reverse

/-- The code in the braces behind a heading, and what stands behind them. -/
def block? (heading code : List Code) : Option (List Code × List Code) :=
  match behind? heading code with
  | some (group .brace content :: rest) => some (content, rest)
  | _ => none

/-- What a call of a function is given. -/
def arguments? (function code : List Code) : Option (List Code) :=
  match behind? function code with
  | some [group .parenthesis arguments] => some arguments
  | _ => none

/-- Item after item up to the end of the code, at most `count` of them. -/
def many? {α : Type} (item? : List Code → Option (α × List Code))
    : Nat → List Code → Option (List α)
  | _, [] => some []
  | 0, _ :: _ => none
  | count + 1, first :: code => do
    let (item, rest) ← item? (first :: code)
    return item :: (← many? item? count rest)

/-- The string that a token is the literal of. -/
def literal? : Code → Option String
  | token text => stringValue? text.toList
  | _ => none

/-- The strings of literals with commas between them. -/
def literals? : List Code → Option (List String)
  | [] => some []
  | [item] => do return [← literal? item]
  | item :: token "," :: items => do return (← literal? item) :: (← literals? items)
  | _ => none

/-- The identifier that a token is. -/
def ident? : Code → Option Ident
  | token text =>
    match Derive.ident? text.toList with
    | some (ident, []) => some ident
    | _ => none
  | _ => none

end Code

open Code

/-! ### What is read -/

/-- An expression for a schema. -/
inductive SchemaExpr where
  /-- A new schema. -/
  | new (owner : String) (names : List String)
  /-- An extension of the schema of a type. -/
  | extend (type : List Code) (owner : String) (names : List String)
  deriving DecidableEq, Repr

/-- Where an object has its settings, by the name of a field. -/
inductive Place where
  /-- In this field. -/
  | own (field : String)
  /-- In the object that this field holds. -/
  | inside (field : String)
  deriving DecidableEq, Repr

/-- What is put into the field that keeps the settings of a new object. -/
inductive Filling where
  /-- The settings themselves. -/
  | settings (field : String)
  /-- A new object of a type that holds them. -/
  | object (field : String) (type : List Code)
  deriving DecidableEq, Repr

/-- The type whose methods are found through another one, and the field that holds an object
of it.
-/
structure Target where
  type : List Code
  field : String
  deriving DecidableEq, Repr

/-- What the code that is generated for a type says. -/
structure TypeCode where
  name : String
  schema : SchemaExpr
  filling : Filling
  /-- The fields of a new object that get their default values. -/
  defaulted : List String
  /-- Where settings are read. -/
  read : Place
  /-- Where settings are changed. -/
  changed : Place
  methods : List Method
  target : Option Target
  deriving DecidableEq, Repr

section

variable (library : List Code)

/-! ### Schemas -/

/-- The names in a block that lists them. The type of the list says how many there are. -/
def blockNames? : Code → Option (List String)
  | group .brace content =>
    match behind? (words "let names :") content with
    | some (group .bracket type :: token "=" :: group .bracket items :: rest) => do
      let names ← literals? items
      let count := Decimal.natText names.length
      if type = words ("& 'static str ; " ++ count ++ "usize") ∧ rest = words "; names" then
        some names
      else none
    | _ => none
  | _ => none

/-- The owner and the names that a function of schemas is given. -/
def schemaArguments? : Code → Option (String × List String)
  | group .parenthesis [owner, token ",", names] => do
    return (← owner.literal?, ← blockNames? names)
  | _ => none

/-- What stands behind a type so that its schema is extended. -/
def extending : List Code :=
  token "as" :: inLibrary library "DslObject > :: schema" ++ [parens []] ++ words ". extend"

/-- What an expression for a schema says. -/
def schemaExpr? (code : List Code) : Option SchemaExpr := do
  let (owner, names) ← schemaArguments? (← code.getLast?)
  let function := code.dropLast
  if function = inLibrary library "AttributeSchema :: new" then
    return .new owner names
  else
    return .extend (← between? [token "<"] (extending library) function) owner names

/-! ### Fields -/

/-- The field of an object that is borrowed by some mark. -/
def field? (mark : String) (code : List Code) : Option String :=
  match behind? (words (mark ++ " self .")) code with
  | some [token field] => some field
  | _ => none

/-- Where the settings are that a function gives: in a field, or where the function of the
library finds them in a field.
-/
def place? (mark method : String) (code : List Code) : Option Place :=
  match field? mark code with
  | some field => some (.own field)
  | none => do
    let inner ← arguments? (inLibrary library ("DslObject :: " ++ method)) code
    return .inside (← field? mark inner)

/-- What is put into the first field of a new object, and the code behind it. A field that
holds an object of a type gets a new one of it.
-/
def filling? (base? : Option (List Code)) : List Code → Option (Filling × List Code)
  | token field :: code =>
    match base? with
    | none => do return (.settings field, ← behind? (words ": settings ,") code)
    | some type => do
      let made :=
        token ":" :: token "<" :: type
          ++ token "as" :: inLibrary library "DslObject > :: from_settings"
          ++ [parens [token "settings"], token ","]
      return (.object field type, ← behind? made code)
  | _ => none

/-- A field that gets its default value, and the code behind it. -/
def defaulted? : List Code → Option (String × List Code)
  | token field :: code => do
    let default :=
      words ": :: core :: default :: Default :: default" ++ [parens [], token ","]
    return (field, ← behind? default code)
  | _ => none

/-- How the fields of a new object are filled. -/
def fields? (base? : Option (List Code)) (code : List Code)
    : Option (Filling × List String) := do
  let (filling, rest) ← filling? library base? code
  return (filling, ← many? defaulted? rest.length rest)

/-! ### Methods -/

/-- What a method does, by what it takes and what it calls: whether it sets or gets, and
which name.
-/
def action? (parameters body : List Code) : Option (Accessor.Kind × String) :=
  let given :=
    words "& mut self , value : impl :: core :: convert :: Into <"
      ++ inLibrary library "__Value > ,"
  if parameters = given then do
    let arguments ← arguments? (inLibrary library "DslObject :: set") body
    match ← between? (words "self ,") (words ", value") arguments with
    | [key] => return (.setter, ← key.literal?)
    | _ => none
  else if parameters = words "& self" then do
    let arguments ← arguments? (inLibrary library "DslObject :: get") body
    match ← behind? (words "self ,") arguments with
    | [key] => return (.reader, ← key.literal?)
    | _ => none
  else none

/-- The code behind the keyword of a function with a visibility, in front of which any
attributes may stand.
-/
def behindKeyword? (visibility : List Code) : List Code → Option (List Code)
  | token "#" :: group .bracket content :: code =>
    match behind? (visibility ++ [token "fn"]) (token "#" :: group .bracket content :: code) with
    | some rest => some rest
    | none => behindKeyword? visibility code
  | code => behind? (visibility ++ [token "fn"]) code

/-- A method that gives an optional value, and the code behind it. -/
def method? (visibility code : List Code) : Option (Method × List Code) := do
  match ← behindKeyword? visibility code with
  | name :: group .parenthesis parameters :: rest =>
    let result := words "-> :: core :: option :: Option < &" ++ inLibrary library "__Value >"
    let (body, behind) ← block? result rest
    let (kind, key) ← action? library parameters body
    return (⟨← name.ident?, kind, key⟩, behind)
  | _ => none

/-- The methods that the code of an implementation holds. -/
def methods? (visibility code : List Code) : Option (List Method) :=
  many? (method? library visibility) code.length code

/-- The methods in the implementation of a type's own, if the code starts with one, and the
code behind it.
-/
def ownMethods? (visibility : List Code) (name : String) (code : List Code)
    : Option (List Method × List Code) :=
  match block? [token "impl", token name] code with
  | some (content, rest) => do return (← methods? library visibility content, rest)
  | none => some ([], code)

/-! ### Implementations -/

/-- The expression that a function keeps the value of once it has been asked for. -/
def once? (code : List Code) : Option (List Code) := do
  let cell :=
    words "static SCHEMA : :: std :: sync :: OnceLock <"
      ++ inLibrary library "AttributeSchema > = :: std :: sync :: OnceLock :: new"
      ++ [parens []] ++ words "; SCHEMA . get_or_init"
  behind? [token "||"] (← arguments? cell code)

/-- The type whose schema an expression extends. -/
def SchemaExpr.base? : SchemaExpr → Option (List Code)
  | new _ _ => none
  | extend type _ _ => some type

/-- What the implementation of the object says about a type of some name, apart from the
methods of its own and of its base.
-/
def objectCode? (name : String) (code : List Code) : Option TypeCode := do
  let (schemaBody, code) ←
    block? (words "fn schema" ++ [parens []] ++ words "-> & 'static"
      ++ inLibrary library "AttributeSchema") code
  let (fromSettingsBody, code) ←
    block? (words "fn from_settings" ++ [parens (words "settings :"
      ++ inLibrary library "Settings")] ++ words "-> Self") code
  let (settingsBody, code) ←
    block? (words "fn settings" ++ [parens (words "& self")] ++ words "-> &"
      ++ inLibrary library "Settings") code
  let (settingsMutBody, code) ←
    block? (words "fn settings_mut" ++ [parens (words "& mut self")] ++ words "-> & mut"
      ++ inLibrary library "Settings") code
  let schema ← schemaExpr? library (← once? library schemaBody)
  match ← block? [token "Self"] fromSettingsBody, code with
  | (fields, []), [] =>
    let (filling, defaulted) ← fields? library schema.base? fields
    return {
      name, schema, filling, defaulted
      read := ← place? library "&" "settings" settingsBody
      changed := ← place? library "& mut" "settings_mut" settingsMutBody
      methods := []
      target := none }
  | _, _ => none

/-- The type and the field in the content of the implementation through which a base is read.
-/
def sharedTarget? (content : List Code) : Option Target := do
  let function := words "; fn deref" ++ [parens (words "& self")] ++ words "-> & Self :: Target"
  match ← content.getLast? with
  | group .brace body =>
    return {
      type := ← between? (words "type Target =") function content.dropLast
      field := ← field? "&" body }
  | _ => none

/-- The field in the content of the implementation through which a base is changed. -/
def changedField? (content : List Code) : Option String :=
  let function :=
    words "fn deref_mut" ++ [parens (words "& mut self")] ++ words "-> & mut Self :: Target"
  match block? function content with
  | some (body, []) => field? "& mut" body
  | _ => none

/-- The type and the field through which methods of a base are found, if the code says so. It
is the same field to read and to change an object of the base.
-/
def target? (name : String) (code : List Code) : Option (Option Target) :=
  if code = [] then some none
  else do
    let (shared, code) ← block? (words "impl :: core :: ops :: Deref for" ++ [token name]) code
    let (changed, code) ←
      block? (words "impl :: core :: ops :: DerefMut for" ++ [token name]) code
    let target ← sharedTarget? shared
    if code = [] ∧ changedField? changed = some target.field then some (some target) else none

/-- What the code says that is generated for a type with a visibility. The implementations
for default values, for display and for use as a source are passed over.
-/
def typeCode? (visibility code : List Code) : Option TypeCode := do
  match ← behind? (token "impl" :: inLibrary library "DslObject for") code with
  | token name :: group .brace content :: code =>
    let object ← objectCode? library name content
    let (methods, code) ← ownMethods? library visibility name code
    let (_, code) ←
      block? (words "impl :: core :: default :: Default for" ++ [token name]) code
    let (_, code) ← block? (words "impl :: core :: fmt :: Display for" ++ [token name]) code
    let (_, code) ←
      block? (token "impl" :: inLibrary library "SettingsSource for" ++ [token name]) code
    return { object with methods, target := ← target? name code }
  | _ => none

end

end DeclaredSettings.Derive
