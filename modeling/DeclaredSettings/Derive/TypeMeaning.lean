import DeclaredSettings.Derive.TypeCode
import DeclaredSettings.Object.Object

/-!
What generated code does. It stands in a program, where the tokens of a type stand for a type
of objects. An object is worked on through the library, which asks the generated functions for
the schema of its type and for the place of its settings.
-/

namespace DeclaredSettings.Derive

/-- The types of objects that the tokens of types stand for, at some place of a program. -/
abbrev Scope := List Code → Option ObjectType

/-- The scopes in the modules of a program. They are the compiler's to find: items, imports
and aliases may bring any type under any tokens.
-/
abbrev Program := (module : List String) → Scope

/-- The type of objects that a declaration makes where it stands. -/
def Declaration.objectType? (d : Declaration) (scope : Scope) : Option ObjectType :=
  match d.storage with
  | .settings _ => some (.root d.layer)
  | .base _ type => (scope type).map (.sub d.layer)

/-- The schema that an expression gives. -/
def SchemaExpr.schema? (expression : SchemaExpr) (scope : Scope) : Option Schema :=
  match expression with
  | new owner names => some (.new owner (names.map .of))
  | extend type owner names =>
    (scope type).map fun base => base.schema.extend owner (names.map .of)

/-- The name of the field that is filled. -/
def Filling.field : Filling → String
  | settings field => field
  | object field _ => field

/-- The name of the field at a place. -/
def Place.field : Place → String
  | own field => field
  | inside field => field

namespace TypeCode

variable (code : TypeCode) (scope : Scope)

/-- The type of objects that code makes. The base is the type whose schema is extended, and
methods are found through the field that is filled, in an object of the same type.
-/
def objectType? : Option ObjectType :=
  match code.schema, code.target with
  | .new owner names, none => some (.root ⟨owner, names⟩)
  | .extend type owner names, some target => do
    let base ← scope type
    if scope target.type = some base ∧ target.field = code.filling.field then
      some (.sub ⟨owner, names⟩ base)
    else none
  | _, _ => none

/-- A new object of the type that holds some settings. -/
def fromSettings? (s : Settings) : Option Object := do
  match ← code.objectType? scope, code.filling with
  | .root layer, .settings _ => some (.root layer s)
  | .sub layer base, .object _ type =>
    if scope type = some base then some (.sub layer (.ofSettings base s)) else none
  | _, _ => none

/-- The settings at a place in an object of the type, whose storage is in the field that is
filled in a new object.
-/
def settingsAt? (place : Place) (object : Object) : Option Settings :=
  if place.field = code.filling.field then
    match place, object with
    | .own _, .root _ own => some own
    | .inside _, .sub _ inner => some inner.settings
    | _, _ => none
  else none

/-- The object with other settings at a place. -/
def withSettingsAt? (place : Place) (after : Settings) (object : Object) : Option Object :=
  if place.field = code.filling.field then
    match place, object with
    | .own _, .root layer _ => some (.root layer after)
    | .inside _, .sub layer inner => some (.sub layer (inner.withSettings after))
    | _, _ => none
  else none

/-- Sets a name: what the library does with an object of the type. -/
def set? (key : String) (value : Value) (object : Object) : Option Object.Result := do
  let schema ← code.schema.schema? scope
  let s ← code.settingsAt? code.changed object
  let (current, after) := s.assign key value
  let object ← code.withSettingsAt? code.changed after object
  let events :=
    if schema.contains key then [] else [.undeclared schema.owner key]
  return ⟨current, events, object⟩

/-- Gets a name: what the library does with an object of the type. -/
def get? (key : String) (object : Object) : Option (Option Value) := do
  let s ← code.settingsAt? code.read object
  return s.get key

/-- Calls a method on an object of the type. A reader takes no value and leaves the object as
it is.
-/
def call? (method : Method) (value : Value) (object : Object) : Option Object.Result :=
  match method.kind with
  | .setter => code.set? scope method.key value object
  | .reader => do return ⟨← code.get? method.key object, [], object⟩

end TypeCode

end DeclaredSettings.Derive
