import DeclaredSettings.Name

/-!
Schemas: the names that a type of objects declares, in order of declaration and each once.
A schema that extends another one starts from a copy of its names.
-/

namespace DeclaredSettings

/-- The declared names of one type. -/
structure Schema where
  /-- The type that the schema belongs to. -/
  owner : String
  /-- The declared names in order. -/
  names : List Name
  deriving DecidableEq, Repr

namespace Schema

/-- A schema without owner and names. -/
def default : Schema :=
  ⟨"", []⟩

/-- Adds one name, unless it is already declared. -/
def declareName (schema : Schema) (name : Name) : Schema :=
  if name ∈ schema.names then schema
  else { schema with names := schema.names ++ [name] }

/-- Adds some names in order. -/
def declare (schema : Schema) (names : List Name) : Schema :=
  names.foldl declareName schema

/-- The schema of an owner that declares some names. -/
def new (owner : String) (names : List Name) : Schema :=
  declare ⟨owner, []⟩ names

/-- The schema of a further owner that has all names of this one and declares more. -/
def extend (schema : Schema) (owner : String) (names : List Name) : Schema :=
  declare ⟨owner, schema.names⟩ names

/-- Whether a spelling stands for a declared name. -/
def contains (schema : Schema) (spelling : String) : Bool :=
  schema.names.any fun name => name.agrees spelling

end Schema

end DeclaredSettings
