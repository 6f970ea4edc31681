import CodeAtlas.Module.Grammar.Params
import CodeAtlas.Module.Grammar.Target

/-!
# Grammar of expressions

The rules for expressions, from operators through comprehensions and calls to atoms.
-/

namespace CodeAtlas.Module

open Parse

variable (r : Rules)

/-! ## Operators -/

/-- Operands joined by operators of one rank, from the left. -/
def leftChain (ops : String → Option BinaryOp) (operand : Parse Expr) : Nat → Expr → Parse Expr
  | 0, left => pure left
  | fuel + 1, left => do
    match ← peek with
    | .op s =>
      match ops s with
      | some o =>
        skip
        let right ← operand
        leftChain ops operand fuel (.binary left o right)
      | none => return left
    | _ => return left

def rank (ops : String → Option BinaryOp) (operand : Parse Expr) : Parse Expr := do
  leftChain ops operand r.fuel (← operand)

def termOps : String → Option BinaryOp
  | "*" => some .mul
  | "/" => some .div
  | "//" => some .floorDiv
  | "%" => some .mod
  | "@" => some .matMul
  | _ => none

def sumOps : String → Option BinaryOp
  | "+" => some .add
  | "-" => some .sub
  | _ => none

def shiftOps : String → Option BinaryOp
  | "<<" => some .shiftLeft
  | ">>" => some .shiftRight
  | _ => none

def singleOp (name : String) (o : BinaryOp) (s : String) : Option BinaryOp :=
  if s = name then some o else none

/-- Everything that binds closer than a comparison. -/
def bitwiseOr : Parse Expr :=
  rank r (singleOp "|" .bitOr) <| rank r (singleOp "^" .bitXor) <| rank r (singleOp "&" .bitAnd) <|
    rank r shiftOps <| rank r sumOps <| rank r termOps r.factor

/-- The comparison that comes next, if one does. -/
def comparisonOp : Parse (Option Comparison) := do
  match ← peek, ← peekSecond with
  | .op "==", _ => skip; return some .eq
  | .op "!=", _ => skip; return some .notEq
  | .op "<", _ => skip; return some .less
  | .op "<=", _ => skip; return some .lessEq
  | .op ">", _ => skip; return some .greater
  | .op ">=", _ => skip; return some .greaterEq
  | .keyword "in", _ => skip; return some .within
  | .keyword "not", .keyword "in" => skip; skip; return some .notWithin
  | .keyword "is", .keyword "not" => skip; skip; return some .isNot
  | .keyword "is", _ => skip; return some .is
  | _, _ => return none

/-- Comparisons behind an operand. -/
def comparisons : Nat → Parse (List (Comparison × Expr))
  | 0 => pure []
  | fuel + 1 => do
    match ← comparisonOp with
    | some o =>
      let right ← bitwiseOr r
      return (o, right) :: (← comparisons fuel)
    | none => return []

def comparison : Parse Expr := do
  let left ← bitwiseOr r
  match ← comparisons r r.fuel with
  | [] => return left
  | found => return .compare left (found.map (·.1)) (found.map (·.2))

def inversion : Parse Expr := do
  let nots ← manyWhile r.fuel (Kind.isKeyword "not") skip
  return nots.foldl (fun e _ => .unary .not e) (← comparison r)

/-- Operands joined by a word. -/
def booleanChain (o : BooleanOp) (word : String) (operand : Parse Expr) : Parse Expr := do
  let first ← operand
  match ← manyWhile r.fuel (Kind.isKeyword word) (do skip; operand) with
  | [] => return first
  | others => return .boolean o (first :: others)

def disjunction : Parse Expr :=
  booleanChain r .or "or" (booleanChain r .and "and" (inversion r))

/-! ## Lists of expressions -/

/-- The name of an assignment inside an expression. -/
def assignmentName : Parse (Option String) := do
  match (← peek).name?, ← peekSecond with
  | some name, .op ":=" =>
    skip
    skip
    return some name
  | _, _ => return none

/-- An expression or an assignment inside an expression. -/
def namedExpression : Parse Expr := do
  match ← assignmentName with
  | some name => return .named (.name name true) (← r.expression)
  | none =>
    let e ← r.expression
    if ← nextIsOp ":=" then fail
    return e

/-- An expression or one that is unpacked. -/
def starExpression : Parse Expr := do
  if ← skipOp "*" then return .starred (← bitwiseOr r)
  r.expression

def starNamedExpression : Parse Expr := do
  if ← skipOp "*" then return .starred (← bitwiseOr r)
  namedExpression r

/-- Expressions; a comma makes them a tuple. -/
def starExpressions : Parse Expr := do
  let (es, comma) ← listed r.fuel (starExpression r)
  match es, comma with
  | [e], false => return e
  | es, _ => return .tuple es

/-- What a generator yields. -/
def yieldRule : Parse Expr := do
  keyword "yield"
  if ← skipKeyword "from" then return .yieldFrom (← r.expression)
  return .yield (← maybe (starExpressions r))

/-- The right side of an assignment. -/
def assignedValue : Parse Expr := do
  if ← nextIsKeyword "yield" then yieldRule r else starExpressions r

/-! ## Targets -/

/-- One target, perhaps starred. -/
def starTarget : Parse Expr := do
  let starred ← skipOp "*"
  let e ← r.factor
  match (if starred then Expr.starred e else e).asTarget with
  | some t => return t
  | none => fail

/-- Targets; a comma makes them a tuple. -/
def starTargets : Parse Expr := do
  let (ts, comma) ← listed r.fuel (starTarget r)
  match ts, comma with
  | [t], false => return t
  | ts, _ => return .tuple ts

/-! ## Comprehensions -/

def beginsClause (k : Kind) : Bool := k.isKeyword "for" || k.isKeyword "async"

def clauseRule : Parse Clause := do
  let isAsync ← skipKeyword "async"
  keyword "for"
  let target ← starTargets r
  keyword "in"
  let source ← disjunction r
  let conditions ← manyWhile r.fuel (Kind.isKeyword "if") (do skip; disjunction r)
  return .mk isAsync target source conditions

/-- One or more loops of a comprehension. -/
def clauses : Parse (List Clause) := do
  let first ← clauseRule r
  return first :: (← manyWhile r.fuel beginsClause (clauseRule r))

/-! ## Arguments and indices -/

/-- Which arguments may still come. -/
inductive ArgumentStage where
  | positional
  | keyword
  | mapping
  deriving DecidableEq

/-- The arguments read so far. -/
structure Arguments where
  stage : ArgumentStage
  args : List Expr
  keywords : List Keyword

/-- The name of an argument by keyword. -/
def keywordName : Parse (Option String) := do
  match (← peek).name?, ← peekSecond with
  | some name, .op "=" =>
    skip
    skip
    return some name
  | _, _ => return none

/-- One argument. -/
def argument (a : Arguments) : Parse Arguments := do
  if ← skipOp "**" then
    return { a with
      stage := .mapping, keywords := a.keywords ++ [.mk none (← r.expression)] }
  else if ← skipOp "*" then
    if a.stage = .mapping then fail
    return { a with args := a.args ++ [.starred (← r.expression)] }
  else
    match ← keywordName with
    | some name =>
      return { a with
        stage := if a.stage = .mapping then .mapping else .keyword
        keywords := a.keywords ++ [.mk (some name) (← r.expression)] }
    | none =>
      if a.stage != .positional then fail
      return { a with args := a.args ++ [← namedExpression r] }

/-- Arguments with commas between them, up to the closing bracket. -/
def argumentsFrom : Nat → Arguments → Parse Arguments
  | 0, _ => fail
  | fuel + 1, a => do
    if ← nextIsOp ")" then return a
    let a ← argument r a
    if ← skipOp "," then argumentsFrom fuel a
    else if ← nextIsOp ")" then return a
    else fail

/-- The arguments between the brackets of a class. -/
def arguments : Parse Arguments := argumentsFrom r r.fuel ⟨.positional, [], []⟩

/-- Does a positional argument come next that is not unpacked? -/
def nextIsPositional : Parse Bool := do
  match ← peek, ← peekSecond with
  | .op s, _ => return !(s = ")" || s = "*" || s = "**")
  | k, .op "=" => return !k.isName
  | _, _ => return true

/-- The arguments between the brackets of a call: a generator can be the only one. -/
def callArguments : Parse Arguments := do
  if !(← nextIsPositional) then return ← arguments r
  let first ← namedExpression r
  if beginsClause (← peek) then
    return ⟨.positional, [.generator first (← clauses r)], []⟩
  if ← skipOp "," then argumentsFrom r r.fuel ⟨.positional, [first], []⟩
  else return ⟨.positional, [first], []⟩

/-- An expression of a slice, if there is one before the next mark. -/
def slicePart : Parse (Option Expr) := do
  match ← peek with
  | .op s => if s = ":" || s = "," || s = "]" then return none else some <$> r.expression
  | _ => some <$> r.expression

/-- A slice behind its first colon. -/
def sliceAfter (lower : Option Expr) : Parse Expr := do
  let upper ← slicePart r
  let step ← if ← skipOp ":" then slicePart r else pure none
  return .slice lower upper step

/-- An index, a slice or indices that are unpacked. -/
def sliceRule : Parse Expr := do
  if ← skipOp ":" then return ← sliceAfter r none
  if ← skipOp "*" then return .starred (← r.expression)
  match ← assignmentName with
  | some name => return .named (.name name true) (← r.expression)
  | none =>
    let e ← r.expression
    if ← skipOp ":" then sliceAfter r (some e)
    else return e

/-- What stands between the brackets of an element; commas and unpacking make a tuple. -/
def slices : Parse Expr := do
  let (es, comma) ← listed r.fuel (sliceRule r)
  match es, comma with
  | [.starred e], false => return .tuple [.starred e]
  | [e], false => return e
  | es, _ => return .tuple es

/-! ## Literals -/

/-- The text tokens that come next. -/
def textTokens : Nat → Parse (List Kind)
  | 0 => pure []
  | fuel + 1 => do
    match ← peek with
    | .text s marked => skip; return .text s marked :: (← textTokens fuel)
    | .bytes bs => skip; return .bytes bs :: (← textTokens fuel)
    | .formatted ps => skip; return .formatted ps :: (← textTokens fuel)
    | _ => return []

/-- A formatted text that is being put together: finished parts, and characters behind them. -/
structure Joining where
  parts : List Expr
  pending : List Char

def Joining.flush (j : Joining) : List Expr :=
  if j.pending.isEmpty then j.parts
  else j.parts ++ [.constant (.text (String.ofList j.pending) false)]

/-- The expression that the tokens of a field stand for. -/
def fieldExpression (tokens : List Token) : Parse Expr := fun ts =>
  (starExpressions r tokens).map fun (e, _) => (e, ts)

mutual

/-- Adds a piece to a formatted text. -/
def joinPiece (j : Joining) : Piece → Parse Joining
  | .literal cs => return { j with pending := j.pending ++ cs }
  | .field tokens conversion none => do
    let value ← fieldExpression r tokens
    return ⟨j.flush ++ [.formatted value conversion none], []⟩
  | .field tokens conversion (some ps) => do
    let value ← fieldExpression r tokens
    let spec ← joinPieces ⟨[], []⟩ ps
    return ⟨j.flush ++ [.formatted value conversion (some (.joined spec.flush))], []⟩

def joinPieces (j : Joining) : List Piece → Parse Joining
  | [] => return j
  | p :: rest => do joinPieces (← joinPiece j p) rest

end

/-- Adds a token to a formatted text. -/
def joinToken (j : Joining) : Kind → Parse Joining
  | .text s _ => return { j with pending := j.pending ++ s.toList }
  | .formatted ps => joinPieces r j ps
  | _ => fail

def joinTokens (j : Joining) : List Kind → Parse Joining
  | [] => return j
  | k :: rest => do joinTokens (← joinToken r j k) rest

/-- The characters of tokens that are plain texts. -/
def plainText : List Kind → Option (List Char)
  | [] => some []
  | .text s _ :: rest => (plainText rest).map (s.toList ++ ·)
  | _ :: _ => none

/-- The bytes of tokens that are bytes. -/
def plainBytes : List Kind → Option (List UInt8)
  | [] => some []
  | .bytes bs :: rest => (plainBytes rest).map (bs ++ ·)
  | _ :: _ => none

def isMarked : List Kind → Bool
  | .text _ marked :: _ => marked
  | _ => false

/-- Literals of texts that stand side by side make one; those of bytes do not mix with others. -/
def textRule : Parse Expr := do
  let ks ← textTokens r.fuel
  match ks, plainText ks, plainBytes ks with
  | [], _, _ => fail
  | _, some cs, _ => return .constant (.text (String.ofList cs) (isMarked ks))
  | _, _, some bs => return .constant (.bytes bs)
  | _, _, _ => return .joined (← joinTokens r ⟨[], []⟩ ks).flush

/-! ## Displays -/

/-- A tuple, a generator or an expression in brackets, behind the opening bracket. -/
def parenthesized : Parse Expr := do
  if ← skipOp ")" then return .tuple []
  if ← nextIsKeyword "yield" then
    let e ← yieldRule r
    op ")"
    return e
  let first ← starNamedExpression r
  match ← peek, first with
  | .op ",", _ =>
    skip
    let others ← maybe (listed r.fuel (starNamedExpression r))
    op ")"
    return .tuple (first :: (others.map (·.1)).getD [])
  | _, .starred _ => fail
  | k, _ =>
    if beginsClause k then
      let cs ← clauses r
      op ")"
      return .generator first cs
    else
      op ")"
      return first

/-- A list, behind the opening bracket. -/
def listDisplay : Parse Expr := do
  if ← skipOp "]" then return .list []
  let first ← starNamedExpression r
  let isStarred := match first with
    | .starred _ => true
    | _ => false
  if beginsClause (← peek) && !isStarred then
    let cs ← clauses r
    op "]"
    return .listComp first cs
  let others ← if ← skipOp "," then maybe (listed r.fuel (starNamedExpression r)) else pure none
  op "]"
  return .list (first :: (others.map (·.1)).getD [])

/-- An entry of a mapping; one without a key is unpacked. -/
def dictEntry : Parse (Option Expr × Expr) := do
  if ← skipOp "**" then return (none, ← bitwiseOr r)
  let key ← r.expression
  op ":"
  return (some key, ← r.expression)

/-- A mapping behind its first entry. -/
def dictAfter (first : Option Expr × Expr) : Parse Expr := do
  let others ← if ← skipOp "," then maybe (listed r.fuel (dictEntry r)) else pure none
  op "\x7d"
  let entries := first :: (others.map (·.1)).getD []
  return .dict (entries.map (·.1)) (entries.map (·.2))

/-- A set behind its first element. -/
def setAfter (first : Expr) : Parse Expr := do
  let others ← if ← skipOp "," then maybe (listed r.fuel (starNamedExpression r)) else pure none
  op "\x7d"
  return .set (first :: (others.map (·.1)).getD [])

/-- A mapping or a set, behind the opening brace. -/
def braced : Parse Expr := do
  if ← skipOp "\x7d" then return .dict [] []
  if ← nextIsOp "**" then return ← dictAfter r (← dictEntry r)
  if ← skipOp "*" then return ← setAfter r (.starred (← bitwiseOr r))
  match ← assignmentName with
  | some name =>
    let first := Expr.named (.name name true) (← r.expression)
    if beginsClause (← peek) then
      let cs ← clauses r
      op "\x7d"
      return .setComp first cs
    setAfter r first
  | none =>
    let first ← r.expression
    if ← skipOp ":" then
      let value ← r.expression
      if beginsClause (← peek) then
        let cs ← clauses r
        op "\x7d"
        return .dictComp first value cs
      dictAfter r (some first, value)
    else if beginsClause (← peek) then
      let cs ← clauses r
      op "\x7d"
      return .setComp first cs
    else setAfter r first

/-! ## Primaries -/

def atom : Parse Expr := do
  match ← peek with
  | .name s => skip; return .name s false
  | .soft s => skip; return .name s false
  | .keyword "True" => skip; return .constant (.bool true)
  | .keyword "False" => skip; return .constant (.bool false)
  | .keyword "None" => skip; return .constant .none
  | .number c => skip; return .constant c
  | .op "..." => skip; return .constant .ellipsis
  | .op "(" => skip; parenthesized r
  | .op "[" => skip; listDisplay r
  | .op "\x7b" => skip; braced r
  | _ => textRule r

/-- Attributes, calls and elements behind a value that begins on a line. -/
def trailers (line : Nat) : Nat → Expr → Parse Expr
  | 0, e => pure e
  | fuel + 1, e => do
    if ← skipOp "." then
      let name ← anyName
      trailers line fuel (.attribute e name)
    else if ← skipOp "(" then
      let a ← callArguments r
      op ")"
      trailers line fuel (.call line e a.args a.keywords)
    else if ← skipOp "[" then
      let index ← slices r
      op "]"
      trailers line fuel (.subscript e index)
    else return e

def primary : Parse Expr := do
  let line ← line
  trailers r line r.fuel (← atom r)

def awaitPrimary : Parse Expr := do
  if ← skipKeyword "await" then return .await (← primary r)
  primary r

def unaryOp : String → Option UnaryOp
  | "+" => some .plus
  | "-" => some .minus
  | "~" => some .invert
  | _ => none

/-- A power or a signed factor. -/
def factorRule : Parse Expr := do
  let sign := match ← peek with
    | .op s => unaryOp s
    | _ => none
  match sign with
  | some o =>
    skip
    return .unary o (← r.factor)
  | none =>
    let base ← awaitPrimary r
    if ← skipOp "**" then return .binary base .pow (← r.factor)
    return base

/-! ## Expressions -/

def lambdaRule : Parse Expr := do
  keyword "lambda"
  let l ← paramItems r false r.expression ":" r.fuel .empty
  op ":"
  return .lambda l.toParams (← r.expression)

/-- The condition and the other value behind a value. -/
def conditionAfter (body : Expr) : Parse Expr := do
  keyword "if"
  let test ← disjunction r
  keyword "else"
  return .conditional test body (← r.expression)

def expressionRule : Parse Expr := do
  if ← nextIsKeyword "lambda" then return ← lambdaRule r
  let e ← disjunction r
  if ← nextIsKeyword "if" then
    match ← maybe (conditionAfter r e) with
    | some c => return c
    | none => return e
  return e

end CodeAtlas.Module
