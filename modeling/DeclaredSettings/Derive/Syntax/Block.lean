import DeclaredSettings.Derive.Syntax.Attribute

/-!
Blocks of statements.
-/

namespace DeclaredSettings.Derive.Reader

variable (g : Grammar)

/-- A block. -/
def block : Reader Unit :=
  inside .brace g.statements

/-- A block that may start with attributes of its own. -/
def fullBlock : Reader Unit :=
  inside .brace do
    innerAttributes g
    g.statements

end DeclaredSettings.Derive.Reader
