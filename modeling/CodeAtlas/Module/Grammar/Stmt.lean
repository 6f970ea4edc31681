import CodeAtlas.Module.Grammar.Pattern

/-!
# Grammar of statements
-/

namespace CodeAtlas.Module

open Parse

variable (r : Rules)

/-! ## Imports -/

/-- Names with dots between them. -/
def dottedName : Parse String := do
  let head ← anyName
  let names ← manyWhile r.fuel (Kind.isOp ".") (do skip; anyName)
  return ".".intercalate (head :: names)

/-- The other name of something imported. -/
def aliasRule : Parse (Option String) := do
  if ← skipKeyword "as" then return some (← anyName)
  return none

def importStatement : Parse Stmt := do
  keyword "import"
  return .imports (← separated r.fuel (do return ⟨← dottedName r, ← aliasRule⟩))

/-- How many levels some dots lead upwards. -/
def dots : Nat → Parse Nat
  | 0 => pure 0
  | fuel + 1 => do
    if ← skipOp "." then return 1 + (← dots fuel)
    if ← skipOp "..." then return 3 + (← dots fuel)
    return 0

def importedName : Parse Imported := do return ⟨← anyName, ← aliasRule⟩

/-- The names that are imported from a module. -/
def importedNames : Parse (List Imported) := do
  if ← skipOp "*" then return [⟨"*", none⟩]
  if ← skipOp "(" then
    let (names, _) ← listed r.fuel importedName
    op ")"
    return names
  let names ← separated r.fuel importedName
  if ← nextIsOp "," then fail
  return names

def fromStatement : Parse Stmt := do
  keyword "from"
  let level ← dots r.fuel
  let named := (← peek).isName
  if level = 0 && !named then fail
  let source ← if named then some <$> dottedName r else pure none
  keyword "import"
  return .importsFrom source (← importedNames r) level

/-! ## Simple statements -/

def updateOps : List String := ["+=", "-=", "*=", "@=", "/=", "%=", "&=", "|=", "^=", "<<=", ">>=",
  "**=", "//="]

/-- Further targets and the value of an assignment. -/
def assignmentAfter (line : Nat) : Nat → List Expr → Parse Stmt
  | 0, _ => fail
  | fuel + 1, found => do
    let isYield ← nextIsKeyword "yield"
    let value ← assignedValue r
    if ← skipOp "=" then
      match if isYield then none else value.asTarget with
      | some t => assignmentAfter line fuel (found ++ [t])
      | none => fail
    else return .assign line found value

/-- A statement that begins with an expression. -/
def expressionStatement : Parse Stmt := do
  let line ← line
  let e ← starExpressions r
  match ← peek with
  | .op "=" =>
    skip
    match e.asTarget with
    | some t => assignmentAfter r line r.fuel [t]
    | none => fail
  | .op ":" =>
    skip
    match e.asSingleTarget with
    | some t =>
      let hint ← r.expression
      let value ← if ← skipOp "=" then some <$> assignedValue r else pure none
      return .annotated t hint value
    | none => fail
  | .op s =>
    if updateOps.contains s then
      skip
      match e.asSingleTarget with
      | some t => return .plain [t, ← assignedValue r]
      | none => fail
    else return .expr line e
  | _ => return .expr line e

/-- The words that make a simple statement. -/
def wordStatement (word : String) : Parse Stmt := do
  let line ← line
  match word with
  | "pass" | "break" | "continue" =>
    skip
    return .plain []
  | "import" => importStatement r
  | "from" => fromStatement r
  | "yield" => return .expr line (← yieldRule r)
  | "return" =>
    skip
    return .plain (← maybe (starExpressions r)).toList
  | "raise" =>
    skip
    match ← maybe r.expression with
    | some e =>
      if ← skipKeyword "from" then return .plain [e, ← r.expression]
      return .plain [e]
    | none => return .plain []
  | "assert" =>
    skip
    let test ← r.expression
    if ← skipOp "," then return .plain [test, ← r.expression]
    return .plain [test]
  | "del" =>
    skip
    let (es, _) ← listed r.fuel r.expression
    if areDeletable es then return .plain es else fail
  | "global" | "nonlocal" =>
    skip
    return .elsewhere (word = "global") (← separated r.fuel anyName)
  | _ => expressionStatement r

def simpleStatement : Parse Stmt := do
  match ← peek with
  | .keyword word => wordStatement r word
  | _ => expressionStatement r

/-- Further simple statements on a line, behind a semicolon. -/
def simpleStatementsAfter : Nat → Parse (List Stmt)
  | 0 => fail
  | fuel + 1 => do
    if !(← skipOp ";") then
      expect Kind.isNewline
      return []
    if ← skipIf Kind.isNewline then return []
    let s ← simpleStatement r
    return s :: (← simpleStatementsAfter fuel)

/-- The simple statements of a line. -/
def simpleStatements : Parse (List Stmt) := do
  let first ← simpleStatement r
  return first :: (← simpleStatementsAfter r r.fuel)

/-! ## Compound statements -/

/-- A colon and a block. -/
def colonBlock : Parse (List Stmt) := do
  op ":"
  r.block

/-- The block behind a word, if the word comes next. -/
def blockAfter (word : String) : Parse (List Stmt) := do
  if ← skipKeyword word then return ← colonBlock r
  return []

/-- The other branches of a condition. -/
def elseBranchRule : Parse (List Stmt) := do
  let line ← line
  if ← skipKeyword "elif" then
    let test ← namedExpression r
    let body ← colonBlock r
    return [.branch line test body (← r.elseBranch)]
  blockAfter r "else"

def ifStatement : Parse Stmt := do
  let line ← line
  keyword "if"
  let test ← namedExpression r
  let body ← colonBlock r
  return .branch line test body (← elseBranchRule r)

def whileStatement : Parse Stmt := do
  keyword "while"
  let test ← namedExpression r
  let body ← colonBlock r
  return .loop [test] body (← blockAfter r "else")

def forStatement : Parse Stmt := do
  keyword "for"
  let target ← starTargets r
  keyword "in"
  let source ← starExpressions r
  let body ← colonBlock r
  return .loop [target, source] body (← blockAfter r "else")

def withItem : Parse WithItem := do
  let value ← r.expression
  if ← skipKeyword "as" then return ⟨value, some (← starTarget r)⟩
  return ⟨value, none⟩

/-- Managed values in brackets, up to the colon. -/
def bracketedItems : Parse (List WithItem) := do
  op "("
  let (items, _) ← listed r.fuel (withItem r)
  op ")"
  op ":"
  return items

/-- Managed values up to the colon. -/
def plainItems : Parse (List WithItem) := do
  let items ← separated r.fuel (withItem r)
  op ":"
  return items

def withStatement : Parse Stmt := do
  keyword "with"
  let items ← match ← maybe (bracketedItems r) with
    | some items => pure items
    | none => plainItems r
  return .managed items (← r.block)

/-- What handles a failure; all handlers of a statement treat groups, or none does. -/
def handler (grouped : Bool) : Parse Handler := do
  keyword "except"
  if grouped then op "*"
  if !grouped && (← nextIsOp ":") then return .mk none none (← colonBlock r)
  let kind ← r.expression
  let name ← aliasRule
  return .mk (some kind) name (← colonBlock r)

def tryStatement : Parse Stmt := do
  keyword "try"
  let body ← colonBlock r
  let grouped := (← peekSecond).isOp "*" && (← nextIsKeyword "except")
  let handlers ← manyWhile r.fuel (Kind.isKeyword "except") (handler r grouped)
  if handlers.isEmpty then
    keyword "finally"
    return .attempt false body [] [] (← colonBlock r)
  let orElse ← blockAfter r "else"
  return .attempt grouped body handlers orElse (← blockAfter r "finally")

/-- A case of a selection. -/
def caseRule : Parse Case := do
  expect (Kind.isSoft "case")
  let p ← casePattern r
  let guard ← if ← skipKeyword "if" then some <$> namedExpression r else pure none
  return .mk p guard (← colonBlock r)

/-- What a selection looks at. -/
def subject : Parse Expr := do
  let first ← starNamedExpression r
  if ← skipOp "," then
    let others ← maybe (listed r.fuel (starNamedExpression r))
    return .tuple (first :: (others.map (·.1)).getD [])
  match first with
  | .starred _ => fail
  | e => return e

def matchStatement : Parse Stmt := do
  expect (Kind.isSoft "match")
  let e ← subject r
  op ":"
  expect Kind.isNewline
  expect Kind.isIndent
  let first ← caseRule r
  let others ← manyWhile r.fuel (Kind.isSoft "case") (caseRule r)
  expect Kind.isDedent
  return .select e (first :: others)

/-! ## Declarations -/

def functionStatement (line : Nat) (decorators : List Expr) : Parse Stmt := do
  keyword "def"
  let name ← anyName
  op "("
  let l ← paramItems r true (starExpression r) ")" r.fuel .empty
  op ")"
  let result ← if ← skipOp "->" then some <$> r.expression else pure none
  return .function line name l.toParams (← colonBlock r) decorators result

def classStatement (line : Nat) (decorators : List Expr) : Parse Stmt := do
  keyword "class"
  let name ← anyName
  let a ← if ← skipOp "(" then
      let a ← arguments r
      op ")"
      pure a
    else pure ⟨.positional, [], []⟩
  return .classDef line name a.args a.keywords (← colonBlock r) decorators

/-- A decorator on its line. -/
def decorator : Parse Expr := do
  op "@"
  let e ← namedExpression r
  expect Kind.isNewline
  return e

/-- A declaration behind its decorators. -/
def declaration (decorators : List Expr) : Parse Stmt := do
  let line ← line
  if ← nextIsKeyword "class" then classStatement r line decorators
  else
    let _ ← skipKeyword "async"
    functionStatement r line decorators

/-! ## Blocks -/

/-- The statements that come next: a compound one, or the simple ones of a line. -/
def statement : Parse (List Stmt) := do
  let one (p : Parse Stmt) : Parse (List Stmt) := do return [← p]
  match ← peek, ← peekSecond with
  | .op "@", _ =>
    let decorators ← manyWhile r.fuel (Kind.isOp "@") (decorator r)
    one (declaration r decorators)
  | .keyword "async", .keyword "with" => skip; one (withStatement r)
  | .keyword "async", .keyword "for" => skip; one (forStatement r)
  | .keyword "async", _ => one (declaration r [])
  | .keyword "def", _ => one (declaration r [])
  | .keyword "class", _ => one (declaration r [])
  | .keyword "if", _ => one (ifStatement r)
  | .keyword "while", _ => one (whileStatement r)
  | .keyword "for", _ => one (forStatement r)
  | .keyword "with", _ => one (withStatement r)
  | .keyword "try", _ => one (tryStatement r)
  | .soft "match", _ =>
    match ← maybe (matchStatement r) with
    | some s => return [s]
    | none => simpleStatements r
  | _, _ => simpleStatements r

/-- Statements up to a token that satisfies a test. -/
def statementsUntil (stop : Kind → Bool) : Nat → Parse (List Stmt)
  | 0 => fail
  | fuel + 1 => do
    if stop (← peek) then return []
    let found ← statement r
    return found ++ (← statementsUntil stop fuel)

/-- An indented block, or the simple statements of a line. -/
def blockRule : Parse (List Stmt) := do
  if ← skipIf Kind.isNewline then
    expect Kind.isIndent
    let body ← statementsUntil r Kind.isDedent r.fuel
    expect Kind.isDedent
    return body
  simpleStatements r

end CodeAtlas.Module
