import DeclaredSettings.Derive.Syntax.Language

/-!
Items of Rust source text: what a declaration of a struct, an enum or a union holds before
anything of it is checked.
-/

namespace DeclaredSettings.Derive

/-- What an item declares. -/
inductive Item.Kind where
  /-- A struct with named fields. -/
  | named (fields : List Field)
  /-- A struct without named fields, whose keyword is at `keyword`. -/
  | unnamed (keyword : Span)
  /-- An enum or a union. -/
  | other
  deriving Repr

/-- An item. -/
structure Item where
  attributes : List Attribute
  visibility : List Code
  name : Ident
  nameSpan : Span
  /-- The list of generic parameters, if it has any. -/
  generics : Option Span
  kind : Item.Kind
  deriving Repr

namespace Reader

open Sign

variable (g : Grammar)

/-- The body of an item whose keyword is at `span`. -/
def itemBody (keyword : Ident) (span : Span) : Reader Item.Kind := do
  match keyword with
  | ⟨false, "struct"⟩ =>
    match ← structBody g with
    | some fields => return .named fields
    | none => return .unnamed span
  | ⟨false, "enum"⟩ => do
    enumBody g
    return .other
  | _ => do
    unionBody g
    return .other

/-- A declaration of a struct, an enum or a union. -/
def declaredItem : Reader Item := do
  let attributes ← attributes g
  let (_, visibility) ← captured visibility
  let keywords := [word "struct", word "enum", word "union"]
  match ← rest with
  | .ident keyword span :: .ident name nameSpan :: _ => do
    if !(← seesAny keywords) then missing keywords
    take anyIdent
    take ident
    let (count, tokens) ← withTokens (parameters g)
    let kind ← itemBody g keyword span
    let generics := if count.getD 0 = 0 then none else some (spanOf tokens)
    return ⟨attributes, visibility, name, nameSpan, generics, kind⟩
  | _ => missing keywords

end Reader

namespace Item

/-- The item that a text is, if it is one. -/
def ofSource? (source : List Char) : Option Item := do
  let trees ← trees? source
  let (item, _) ← ((Reader.declaredItem (grammar (roomOf source))).readAll trees).toOption
  return item

end Item

end DeclaredSettings.Derive
