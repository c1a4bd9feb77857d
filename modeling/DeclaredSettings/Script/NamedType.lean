import DeclaredSettings.Script.Object

/-!
The types of objects that a script can name.
-/

namespace DeclaredSettings.Script.NamedType

/-- Attributes of a person. -/
def mom : ObjectType :=
  .root ⟨"Mom", ["college", "combat_boots", "fat", "so_fat"]⟩

/-- The same with a name that is a keyword. -/
def marked : ObjectType :=
  .root ⟨"Marked", ["college", "combat_boots", "fat", "so_fat", "type"]⟩

/-- Names that are keywords only. -/
def node : ObjectType :=
  .root ⟨"Node", ["type", "match"]⟩

/-- A name and the name of its reader. -/
def pair : ObjectType :=
  .root ⟨"Pair", ["x", "get_x"]⟩

/-- No names. -/
def empty : ObjectType :=
  .root ⟨"Empty", []⟩

/-- The first of a chain of types. -/
def first : ObjectType :=
  .root ⟨"A", ["foo"]⟩

/-- The second of the chain. -/
def second : ObjectType :=
  .sub ⟨"B", ["bar"]⟩ first

/-- The third of the chain, which declares a name of the first again. -/
def third : ObjectType :=
  .sub ⟨"C", ["baz", "foo"]⟩ second

/-- Another type on the first of the chain. -/
def sibling : ObjectType :=
  .sub ⟨"Sibling", ["qux"]⟩ first

/-- All of them, with the values of their further fields. -/
def all : List NamedType :=
  [⟨mom, .null⟩,
    ⟨marked, .obj [("label", .str ""), ("visits", .int 0)]⟩,
    ⟨node, .null⟩,
    ⟨pair, .null⟩,
    ⟨empty, .null⟩,
    ⟨first, .null⟩,
    ⟨second, .null⟩,
    ⟨third, .null⟩,
    ⟨sibling, .obj [("visits", .int 0)]⟩]

/-- The type of this name. -/
def ofName? (name : String) : Option NamedType :=
  all.find? fun named => named.type.owner = name

end DeclaredSettings.Script.NamedType
