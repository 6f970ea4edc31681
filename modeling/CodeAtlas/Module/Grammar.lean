import CodeAtlas.Module.Grammar.Stmt
import CodeAtlas.Module.Lexer
import CodeAtlas.Text.Blank

/-!
# Reading modules

Ties the rules of the grammar together and reads texts as modules and as single expressions.
-/

namespace CodeAtlas.Module

open Parse

/-- The rules up to a depth of recursion. Each step of the recursion passes a token at least. -/
def rules : Nat → Rules
  | 0 => .none
  | depth + 1 =>
    { fuel := depth
      expression := fun ts => expressionRule (rules depth) ts
      factor := fun ts => factorRule (rules depth) ts
      pattern := fun ts => patternRule (rules depth) ts
      block := fun ts => blockRule (rules depth) ts
      elseBranch := fun ts => elseBranchRule (rules depth) ts }

/-- A depth that no text of a length exceeds. -/
def depthFor (size : Nat) : Nat := 3 * size + 16

/-- The statements of a module; `none` if the text is not one. -/
def readModule (cs : List Char) : Option (List Stmt) := do
  let ts ← tokens cs
  let (body, _) ← statementsUntil (rules (depthFor cs.length)) Kind.isFinish (depthFor cs.length) ts
  return body

/-- An expression on lines of its own. -/
def expressionText (r : Rules) : Parse Expr := do
  let (es, comma) ← listed r.fuel r.expression
  let _ ← manyWhile r.fuel Kind.isNewline skip
  expect Kind.isFinish
  match es, comma with
  | [e], false => return e
  | es, _ => return .tuple es

/-- The expression that a text is. -/
def readExpression (s : String) : Option Expr := do
  let cs := Text.unifyLineEnds s.toList
  let ts ← tokens cs
  let (e, _) ← expressionText (rules (depthFor cs.length)) ts
  return e

end CodeAtlas.Module
