import DeclaredSettings.Object.Accessor
import DeclaredSettings.Schema

/-!
Types of settings objects. A type keeps settings of its own or builds on a base type, whose
names and accessors it inherits.
-/

namespace DeclaredSettings

/-- What one type adds to its base. -/
structure Layer where
  /-- The name of the type. -/
  owner : String
  /-- The names that it declares itself. -/
  keys : List String
  deriving DecidableEq, Repr

/-- The accessors that a layer brings. -/
def Layer.accessors (layer : Layer) : List Accessor :=
  Accessor.ofKeys layer.keys

/-- A type of settings objects: the first layer alone, or a layer on a base type. -/
inductive ObjectType where
  | root (layer : Layer)
  | sub (layer : Layer) (base : ObjectType)
  deriving DecidableEq, Repr

namespace ObjectType

/-- The outermost layer. -/
def layer : ObjectType → Layer
  | root layer => layer
  | sub layer _ => layer

/-- The name of the type. -/
def owner (t : ObjectType) : String :=
  t.layer.owner

/-- The type that it builds on. -/
def base? : ObjectType → Option ObjectType
  | root _ => none
  | sub _ base => some base

/-- The names that the type declares or inherits. -/
def schema : ObjectType → Schema
  | root layer => .new layer.owner (layer.keys.map .of)
  | sub layer base => base.schema.extend layer.owner (layer.keys.map .of)

/-- The accessor that a method name means, and the type that brings it: the nearest one,
from the type itself on.
-/
def accessor? : ObjectType → String → Option (ObjectType × Accessor)
  | root layer, method =>
    (layer.accessors.find? (·.method = method)).map (root layer, ·)
  | sub layer base, method =>
    match layer.accessors.find? (·.method = method) with
    | some accessor => some (sub layer base, accessor)
    | none => base.accessor? method

end ObjectType

end DeclaredSettings
