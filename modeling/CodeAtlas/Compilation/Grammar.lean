import CodeAtlas.Compilation.Grammar.Member
import CodeAtlas.Compilation.Lexer

/-!
# Reading compilation units

Ties the rules of the grammar together.
-/

namespace CodeAtlas.Compilation

open Parse

/-- The rules up to a depth of recursion. Few steps of the recursion pass no token. -/
def rules : Nat → Rules
  | 0 => .none
  | depth + 1 =>
    { fuel := depth
      type := fun ts => typeRule (rules depth) ts
      annotation := fun ts => annotationRule (rules depth) ts
      elementValue := fun ts => elementValueRule (rules depth) ts
      expression := fun lambdas ts => expressionRule (rules depth) lambdas ts
      unary := fun lambdas ts => unaryRule (rules depth) lambdas ts
      initializer := fun ts => initializerRule (rules depth) ts
      pattern := fun ts => patternRule (rules depth) ts
      statement := fun ts => statementRule (rules depth) ts
      block := fun ts => blockRule (rules depth) ts
      classBody := fun ts => bodyRule (rules depth) .ofClass ts
      declaration := fun mods ts => declarationRule (rules depth) mods ts }

/-- A depth that no unit with a number of tokens exceeds. -/
def depthFor (tokens : Nat) : Nat := 4 * tokens + 16

/-- The tree of a compilation unit. -/
def readUnit (cs : List Char) : Node :=
  let ts := tokens cs
  let depth := depthFor ts.length
  let parts := manyWhile depth (do return (← at? 0).isSome) (do return [← unitPart (rules depth)])
  .node .other (((parts ts).map (·.1)).getD [])

end CodeAtlas.Compilation
