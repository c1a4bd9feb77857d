/-!
Accessors: the methods that a type of objects has for the names it declares. Every name has
a setter, and a reader too where no setter takes the reader's place.
-/

namespace DeclaredSettings

/-- Whether an accessor writes or reads. -/
inductive Accessor.Kind where
  | setter
  | reader
  deriving DecidableEq, Repr

/-- A method for one declared name. -/
structure Accessor where
  /-- The name of the method. -/
  method : String
  kind : Accessor.Kind
  /-- The declared name that it sets or reads. -/
  key : String
  deriving DecidableEq, Repr

namespace Accessor

/-- The name of the reader of a declared name. -/
def readerName (key : String) : String :=
  "get_" ++ key

/-- The accessors of one of the declared names. A setter of the same name keeps the reader
out.
-/
def ofKey (keys : List String) (key : String) : List Accessor :=
  ⟨key, .setter, key⟩ ::
    if readerName key ∈ keys then [] else [⟨readerName key, .reader, key⟩]

/-- The accessors of all declared names, in order of declaration. -/
def ofKeys (keys : List String) : List Accessor :=
  keys.flatMap (ofKey keys)

end Accessor

end DeclaredSettings
