import DeclaredSettings.Object.Event
import DeclaredSettings.Object.ObjectType
import DeclaredSettings.Settings

/-!
Objects with the parts that they are made of. An object of a type on a base holds an object
of the base, and the settings are those of the innermost one.
-/

namespace DeclaredSettings

/-- Sets a name through a type. A null value reads only, and a name that the type does not
declare is logged either way.
-/
def ObjectType.setThrough (t : ObjectType) (key : String) (value : Value) (s : Settings)
    : Option Value × Settings × List Event :=
  let (current, after) := s.assign key value
  (current, after, if t.schema.contains key then [] else [.undeclared t.owner key])

/-- An object: a layer with settings of its own, or a layer around an object of its base. -/
inductive Object where
  | root (layer : Layer) (own : Settings)
  | sub (layer : Layer) (inner : Object)

namespace Object

/-- The type of an object. -/
def type : Object → ObjectType
  | root layer _ => .root layer
  | sub layer inner => .sub layer inner.type

/-- A new object of a type that holds some settings. -/
def ofSettings : ObjectType → Settings → Object
  | .root layer, s => root layer s
  | .sub layer base, s => sub layer (ofSettings base s)

/-- The settings of an object: its own, or those of the object inside. -/
def settings : Object → Settings
  | root _ own => own
  | sub _ inner => inner.settings

/-- The object with other settings, put where it keeps them. -/
def withSettings (after : Settings) : Object → Object
  | root layer _ => root layer after
  | sub layer inner => sub layer (inner.withSettings after)

/-- The object itself, the object inside, the one inside of that, and so on. -/
def parts : Object → List Object
  | root layer own => [root layer own]
  | sub layer inner => sub layer inner :: inner.parts

/-- What a call on an object comes to: the value that it gives, what is logged, and the
object afterwards.
-/
structure Result where
  value : Option Value
  events : List Event
  object : Object

/-- Calls something on the part that stands so deep, and puts this back into the whole
object afterwards.
-/
def onPart (call : Object → Option Result) : Nat → Object → Option Result
  | 0, object => call object
  | _ + 1, root _ _ => none
  | depth + 1, sub layer inner =>
    (onPart call depth inner).map fun result =>
      { result with object := sub layer result.object }

/-- Sets a name through an object. -/
def set (key : String) (value : Value) (object : Object) : Result :=
  let (current, after, events) := object.type.setThrough key value object.settings
  ⟨current, events, object.withSettings after⟩

/-- The value that an object has under a name. -/
def get (key : String) (object : Object) : Option Value :=
  object.settings.get key

end Object

end DeclaredSettings
