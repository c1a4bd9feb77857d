import DeclaredSettings.Derive.Syntax.BlockItem
import DeclaredSettings.Derive.Syntax.Statement

/-!
The grammar of source text as a whole, up to a depth to which things lie in each other.
-/

namespace DeclaredSettings.Derive

/-- The grammar with room for this many things inside of each other. -/
def grammar : Nat → Grammar
  | 0 => .exhausted
  | room + 1 => {
      type := fun plus passage => Reader.type (grammar room) plus passage
      expression := fun structs passage => Reader.expression (grammar room) structs passage
      operand := fun structs passage => Reader.operand (grammar room) structs passage
      early := fun passage => Reader.earlyExpression (grammar room) passage
      pattern := fun passage => Reader.pattern (grammar room) passage
      bound := fun rules passage => Reader.bound (grammar room) rules passage
      statements := fun passage => Reader.statements (grammar room) passage
      fields := fun passage => (discard (Reader.namedFields (grammar room))) passage
      useTree := fun rooted passage => Reader.useTree (grammar room) rooted passage
      item := fun passage => Reader.item (grammar room) passage }

/-- The room that a text needs: at most four things lie in each other without a token that
is read between them.
-/
def roomOf (source : List Char) : Nat :=
  4 * (source.length + 4)

/-- The path that a whole text is. -/
def pathOf (text : String) : Except SyntaxFault (List Code) := do
  let source := text.toList
  match trees? source with
  | none => .error .noTokens
  | some trees =>
    let (_, code) ← (Reader.path (grammar (roomOf source)) false).readAll trees
    .ok code

/-- The one identifier that a whole text is, keywords among them. -/
def soleIdent? (text : String) : Option Ident :=
  match trees? text.toList with
  | some [.ident ident _] => some ident
  | _ => none

end DeclaredSettings.Derive
