import DeclaredSettings.Derive.Declaration
import DeclaredSettings.Object.ObjectType

/-!
What is generated for a declaration: the methods of its names, and the implementations that
make its type an object with settings.
-/

namespace DeclaredSettings.Derive

/-- A generated method. -/
structure Method where
  ident : Ident
  kind : Accessor.Kind
  /-- The declared name that it sets or reads. -/
  key : String
  deriving DecidableEq, Repr

namespace Declaration

/-- The declared names. -/
def names (d : Declaration) : List String :=
  d.keys.map (·.name)

/-- The identifier of the reader of a name, if it can be one. -/
def readerIdent (name : String) : Except String Ident :=
  let text := Accessor.readerName name
  if Text.isIdentifier text.toList then .ok (.plain text) else .error text

/-- The methods of one name. A setter of the same name keeps the reader out; a reader whose
name is no identifier is an error.
-/
def methodsOf (names : List String) (key : DeclaredKey) : Except String (List Method) :=
  let setter : Method := ⟨key.ident, .setter, key.name⟩
  if Accessor.readerName key.name ∈ names then .ok [setter]
  else do
    let ident ← readerIdent key.name
    .ok [setter, ⟨ident, .reader, key.name⟩]

/-- The methods of all names, in order of declaration. -/
def methods (d : Declaration) : Except String (List Method) := do
  let lists ← d.keys.mapM (methodsOf d.names)
  .ok lists.flatten

/-- What the type adds to its base. -/
def layer (d : Declaration) : Layer :=
  ⟨d.ident.text, d.names⟩

/-- The path under which generated code finds the library. -/
def runtimePath (d : Declaration) : List Code :=
  d.libraryPath.getD [.token "::", .token "dsl_object"]

end Declaration

open Code

/-- Items of a list with commas between them. -/
def separated (items : List (List Code)) : List Code :=
  (items.intersperse [token ","]).flatten

/-- An item of the library that is found under a path. -/
def inLibrary (library : List Code) (rest : String) : List Code :=
  library ++ token "::" :: words rest

variable (d : Declaration)

/-- An item of the library. -/
def runtime (rest : String) : List Code :=
  inLibrary d.runtimePath rest

/-- The block that holds the declared names. -/
def namesBlock : Code :=
  braces (words "let names :"
    ++ [brackets (words ("& 'static str ; " ++ Decimal.natText d.names.length ++ "usize"))]
    ++ [token "=", brackets (separated (d.names.map fun name => [string name]))]
    ++ words "; names")

/-- The expression for the schema of the type: one of its own, or an extension of the
schema of its base.
-/
def schemaCode : List Code :=
  let owner := string d.ident.text
  match d.storage with
  | .settings _ =>
    runtime d "AttributeSchema :: new" ++ [parens [owner, token ",", namesBlock d]]
  | .base _ type =>
    token "<" :: type ++ token "as" :: runtime d "DslObject > :: schema" ++ [parens []]
      ++ words ". extend" ++ [parens [owner, token ",", namesBlock d]]

/-- How a new object fills the field with the settings. -/
def storageInit : List Code :=
  match d.storage with
  | .settings field => ident field :: words ": settings"
  | .base field type =>
    ident field :: token ":" :: token "<" :: type ++ token "as"
      :: runtime d "DslObject > :: from_settings" ++ [parens [token "settings"]]

/-- The expression for the settings of an object, to read (`mark` is `&`) or to change
(`& mut`).
-/
def settingsCode (mark : String) (method : String) : List Code :=
  match d.storage with
  | .settings field => words (mark ++ " self .") ++ [ident field]
  | .base field _ =>
    runtime d ("DslObject :: " ++ method)
      ++ [parens (words (mark ++ " self .") ++ [ident field])]

/-- The function for the schema of the type, which is made when it is first asked for. -/
def schemaFunction : List Code :=
  words "fn schema" ++ [parens []] ++ words "-> & 'static" ++ runtime d "AttributeSchema"
    ++ [braces (words "static SCHEMA : :: std :: sync :: OnceLock <"
      ++ runtime d "AttributeSchema > = :: std :: sync :: OnceLock :: new"
      ++ [parens []] ++ words "; SCHEMA . get_or_init"
      ++ [parens (token "||" :: schemaCode d)])]

/-- How a new object fills a field with its default value. -/
def defaultInit (field : Ident) : List Code :=
  ident field :: words ": :: core :: default :: Default :: default" ++ [parens [], token ","]

/-- The function that makes a new object of some settings. -/
def fromSettingsFunction : List Code :=
  words "fn from_settings" ++ [parens (words "settings :" ++ runtime d "Settings")]
    ++ words "-> Self"
    ++ [braces [token "Self",
      braces (storageInit d ++ token "," :: d.defaulted.flatMap defaultInit)]]

/-- The function for the settings of an object, to read them. -/
def settingsFunction : List Code :=
  words "fn settings" ++ [parens (words "& self")] ++ words "-> &" ++ runtime d "Settings"
    ++ [braces (settingsCode d "&" "settings")]

/-- The function for the settings of an object, to change them. -/
def settingsMutFunction : List Code :=
  words "fn settings_mut" ++ [parens (words "& mut self")] ++ words "-> & mut"
    ++ runtime d "Settings" ++ [braces (settingsCode d "& mut" "settings_mut")]

/-- The implementation of the object itself. -/
def objectImpl : List Code :=
  token "impl" :: runtime d "DslObject for"
    ++ [ident d.ident, braces (schemaFunction d ++ fromSettingsFunction d
      ++ settingsFunction d ++ settingsMutFunction d)]

/-- An attribute with documentation. -/
def documented (text : String) : List Code :=
  [token "#", brackets (words "doc =" ++ [string text])]

/-- The type of an optional value. -/
def optionalValue : List Code :=
  words "-> :: core :: option :: Option < &" ++ runtime d "__Value >"

/-- What the documentation of a method says. -/
def documentation (method : Method) : String :=
  match method.kind with
  | .setter =>
    "Sets `" ++ method.key ++ "` unless `value` is null, returning the current value. "
      ++ "Pass `()` to read without writing."
  | .reader => "Current value of `" ++ method.key ++ "`, if set."

/-- One method. -/
def methodCode (method : Method) : List Code :=
  match method.kind with
  | .setter =>
    documented (documentation method)
      ++ d.visibility ++ [token "fn", ident method.ident]
      ++ [parens (words "& mut self , value : impl :: core :: convert :: Into <"
        ++ runtime d "__Value > ,")]
      ++ optionalValue d
      ++ [braces (runtime d "DslObject :: set"
        ++ [parens (words "self ," ++ string method.key :: words ", value")])]
  | .reader =>
    documented (documentation method)
      ++ [token "#", brackets [token "must_use"]]
      ++ d.visibility ++ [token "fn", ident method.ident, parens (words "& self")]
      ++ optionalValue d
      ++ [braces (runtime d "DslObject :: get"
        ++ [parens (words "self ," ++ [string method.key])])]

/-- The implementation with the methods, if there are any. -/
def accessorImpl (methods : List Method) : List Code :=
  if methods.isEmpty then []
  else [token "impl", ident d.ident, braces (methods.flatMap (methodCode d))]

/-- The implementation for default values. -/
def defaultImpl : List Code :=
  words "impl :: core :: default :: Default for"
    ++ [ident d.ident, braces (words "fn default" ++ [parens []] ++ words "-> Self"
      ++ [braces (words "< Self as" ++ runtime d "DslObject > :: from_settings"
        ++ [parens (runtime d "Settings :: new" ++ [parens []])])])]

/-- The implementation for display. -/
def displayImpl : List Code :=
  words "impl :: core :: fmt :: Display for"
    ++ [ident d.ident, braces (words "fn fmt"
      ++ [parens (words "& self , f : & mut :: core :: fmt :: Formatter < '_ >")]
      ++ words "-> :: core :: fmt :: Result"
      ++ [braces (words ":: core :: write !"
        ++ [parens ([token "f", token ",", string "<\x7b\x7d \x7b\x7d>", token ",",
          string d.ident.text, token ","]
          ++ runtime d "DslObject :: settings" ++ [parens [token "self"]])])])]

/-- The implementation for use as a source. -/
def sourceImpl : List Code :=
  token "impl" :: runtime d "SettingsSource for"
    ++ [ident d.ident, braces (words "fn to_settings" ++ [parens (words "& self")]
      ++ token "->" :: runtime d "Settings"
      ++ [braces (runtime d "DslObject :: to_hash" ++ [parens [token "self"]])])]

/-- What the implementation holds through which a base is read: its type, and the function
that gives the field with an object of it.
-/
def derefContent (field : Ident) (type : List Code) : List Code :=
  words "type Target =" ++ type ++ words "; fn deref" ++ [parens (words "& self")]
    ++ words "-> & Self :: Target" ++ [braces (words "& self ." ++ [ident field])]

/-- What the implementation holds through which a base is changed. -/
def derefMutContent (field : Ident) : List Code :=
  words "fn deref_mut" ++ [parens (words "& mut self")] ++ words "-> & mut Self :: Target"
    ++ [braces (words "& mut self ." ++ [ident field])]

/-- The implementations through which the methods of a base are found. -/
def derefImpls : List Code :=
  match d.storage with
  | .settings _ => []
  | .base field type =>
    words "impl :: core :: ops :: Deref for" ++ [ident d.ident, braces (derefContent field type)]
      ++ words "impl :: core :: ops :: DerefMut for"
      ++ [ident d.ident, braces (derefMutContent field)]

/-- All code that is generated for a declaration, or the text that is no identifier. -/
def expansion : Except String (List Code) := do
  let methods ← d.methods
  .ok (objectImpl d ++ accessorImpl d methods ++ defaultImpl d ++ displayImpl d
    ++ sourceImpl d ++ derefImpls d)

end DeclaredSettings.Derive
