import CodeAtlas.Compilation.Grammar.Expr

/-!
# Grammar of statements
-/

namespace CodeAtlas.Compilation

open Parse

variable (r : Rules)

/-! ## Patterns -/

/-- A pattern that takes the parts of a record, or one that names a value of a type. -/
def patternRule : Parse Node := do
  let mods ← modifiers r
  let type ← plainType r
  if ← nextIs "(" then
    let parts := mods ++ type :: (← enclosed r.fuel "(" ")" r.pattern)
    if ← look 0 fun t => t.isName && t.text != "when" then return .node .other (parts ++ [← name])
    return .node .other parts
  return .node .other (mods ++ [type, ← name])

/-! ## Variables -/

/-- Variables behind their modifiers. -/
def variablesRest (mods : List Node) : Parse Node := do
  let type := (← plainType r).withRole .type
  let found ← declarators r
  return .node .variables (mods ++ type :: found ++ [← mark ";"])

def localVariables : Parse Node := do variablesRest r (← modifiers r)

/-! ## Parts of statements -/

/-- An expression in brackets. -/
def condition : Parse (List Node) := do return [← mark "(", ← r.expression true, ← mark ")"]

/-- Expressions with commas between them, if there are any before a mark. -/
def expressionsBefore (ending : String) : Parse (List Node) := do
  if ← nextIs ending then return []
  separated r.fuel "," (r.expression true)

def expressionStatement : Parse Node := do
  return .node .other [← r.expression true, ← mark ";"]

/-- A word with what may stand between it and a semicolon. -/
def wordStatement : Parse Node := do
  let word ← anyMark
  if ← nextIs ";" then return .node .other [word, ← mark ";"]
  return .node .other [word, ← r.expression true, ← mark ";"]

/-! ## Loops -/

/-- The head of a loop over the elements of something. -/
def forEachHead : Parse (List Node) := do
  let word ← mark "for"
  let left ← mark "("
  let mods ← modifiers r
  let type := (← plainType r).withRole .type
  let name := (← name).withRole .name
  return [word, left] ++ mods ++ [type, name] ++ (← dimensions r) ++ [← mark ":"]

/-- The head of a loop that counts. -/
def forHead : Parse (List Node) := do
  let word ← mark "for"
  let left ← mark "("
  let first ← either (do return [← localVariables r]) (do
    return (← expressionsBefore r ";") ++ [← mark ";"])
  let test ← expressionsBefore r ";"
  let semicolon ← mark ";"
  let steps ← expressionsBefore r ")"
  return [word, left] ++ first ++ test ++ [semicolon] ++ steps ++ [← mark ")"]

def forStatement : Parse Node := do
  match ← maybe (forEachHead r) with
  | some head =>
    let source := (← r.expression true).withRole .value
    let right ← mark ")"
    return .node .forEach (head ++ [source, right, (← r.statement).withRole .body])
  | none =>
    let head ← forHead r
    return .node .other (head ++ [← r.statement])

def whileStatement : Parse Node := do
  let word ← anyMark
  let test ← condition r
  return .node .other (word :: test ++ [← r.statement])

def doStatement : Parse Node := do
  let word ← mark "do"
  let body ← r.statement
  let more ← mark "while"
  let test ← condition r
  return .node .other ([word, body, more] ++ test ++ [← mark ";"])

/-! ## Branches -/

def ifStatement : Parse Node := do
  let word ← mark "if"
  let test ← condition r
  let yes ← r.statement
  if ← nextIs "else" then
    return .node .other (word :: test ++ [yes, ← mark "else", ← r.statement])
  return .node .other (word :: test ++ [yes])

/-- What one of the labels of a case is. -/
def caseItem : Parse Node := do
  if ← nextIs "default" then anyMark
  else
    either (do
      let p ← r.pattern
      guardThat (do
        let s ← nextText
        return s = "," || s = ":" || s = "->" || s = "when")
      return p) (r.expression false)

/-- The condition of a case. -/
def caseGuard : Parse (List Node) := do
  if ← nextIs "when" then return [← anyMark, ← r.expression false]
  return []

/-- The labels of a case. -/
def caseLabel : Parse (List Node) := do
  let head ← if ← nextIs "default" then (do return [← anyMark])
    else (do return (← mark "case") :: (← separated r.fuel "," (caseItem r)))
  let test ← caseGuard r
  guardThat (do return (← nextIs ":") || (← nextIs "->"))
  return head ++ test ++ [← anyMark]

def switchStatement : Parse Node := do
  let word ← mark "switch"
  let subject ← condition r
  let left ← mark leftBrace
  let inner ← manyWhile r.fuel (do return !(← nextIs rightBrace)) (do
    if (← nextIs "case") || (← nextIs "default") then caseLabel r else return [← r.statement])
  return .node .other (word :: subject ++ left :: inner ++ [← mark rightBrace])

/-! ## Failures -/

/-- Something that is closed behind a block: a new variable or an expression. -/
def resource : Parse Node :=
  either (do
    let mods ← modifiers r
    let type := (← plainType r).withRole .type
    let name := (← name).withRole .name
    let brackets ← dimensions r
    let sign ← mark "="
    return .node .resource (mods ++ [type, name] ++ brackets ++
      [sign, (← r.expression true).withRole .value]))
    (do return .node .resource [← r.expression true])

/-- The resources of a block. -/
def resources : Parse (List Node) := do
  let left ← mark "("
  let inner ← manyWhile r.fuel (do return !(← nextIs ")")) (do
    return (← resource r) :: (← optionalMark ";"))
  return left :: inner ++ [← mark ")"]

def catchClause : Parse (List Node) := do
  let word ← mark "catch"
  let left ← mark "("
  let mods ← modifiers r
  let types ← separated r.fuel "|" r.type
  let name ← name
  let right ← mark ")"
  return [word, left] ++ mods ++ types ++ [name, right, ← r.block]

def tryStatement : Parse Node := do
  let word ← mark "try"
  let held ← if ← nextIs "(" then resources r else pure []
  let body ← r.block
  let clauses ← manyWhile r.fuel (nextIs "catch") (catchClause r)
  let final ← if ← nextIs "finally" then (do return [← mark "finally", ← r.block]) else pure []
  return .node .other (word :: held ++ body :: clauses ++ final)

/-! ## All of them -/

def synchronizedStatement : Parse Node := do
  let word ← mark "synchronized"
  let subject ← condition r
  return .node .other (word :: subject ++ [← r.block])

def assertStatement : Parse Node := do
  let word ← mark "assert"
  let test ← r.expression true
  if ← nextIs ":" then
    return .node .other [word, test, ← mark ":", ← r.expression true, ← mark ";"]
  return .node .other [word, test, ← mark ";"]

/-- Does a statement begin here that gives a switch its value? -/
def nextIsYield : Parse Bool := do
  if !(← nextIs "yield") then return false
  let s := ((← at? 1).map (·.text)).getD ""
  if s = "++" || s = "--" then return !(← lookText 2 ";")
  return !(["=", ".", "[", "->", "::", ";"].contains s) && !(assignmentMarks.contains s)

/-- A label with its statement. -/
def labelled : Parse Node := do return .node .other [← name, ← mark ":", ← r.statement]

/-- Does the declaration of a type begin here, behind its modifiers? -/
def nextIsDeclaration : Parse Bool := do
  let s ← nextText
  if s = "class" || s = "interface" || s = "enum" then return true
  if s = "@" then return ← lookText 1 "interface"
  if s = "record" then
    return (← look 1 (·.isName)) && (← look 2 fun t => t.text = "(" || t.text = "<")
  return false

/-- A declaration in a block: of a type or of variables. -/
def localDeclaration : Parse Node := do
  let mods ← modifiers r
  if ← nextIsDeclaration then r.declaration mods else variablesRest r mods

/-- A statement that begins with a word of its own, or none of them. -/
def statementRule : Parse Node := do
  match ← nextText with
  | "\x7b" => r.block
  | ";" => anyMark
  | "if" => ifStatement r
  | "while" => whileStatement r
  | "do" => doStatement r
  | "for" => forStatement r
  | "switch" => switchStatement r
  | "try" => tryStatement r
  | "return" | "throw" | "break" | "continue" => wordStatement r
  | "assert" => assertStatement r
  | _ =>
    if (← nextIs "synchronized") && (← lookText 1 "(") then synchronizedStatement r
    else if (← look 0 (·.isName)) && (← lookText 1 ":") then labelled r
    else if ← nextIsYield then wordStatement r
    else either (localDeclaration r) (expressionStatement r)

def blockRule : Parse Node := do
  let left ← mark leftBrace
  let inner ← manyWhile r.fuel (do return !(← nextIs rightBrace)) (do return [← r.statement])
  return .node .other (left :: inner ++ [← mark rightBrace])

end CodeAtlas.Compilation
