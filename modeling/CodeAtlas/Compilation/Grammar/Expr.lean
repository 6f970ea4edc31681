import CodeAtlas.Compilation.Grammar.Type

/-!
# Grammar of expressions

Operators are not grouped: the operands of a chain of them stand in one node, in the order of the
text.
-/

namespace CodeAtlas.Compilation

open Parse

variable (r : Rules)

/-! ## Operators -/

def prefixMarks : List String := ["+", "-", "!", "~", "++", "--"]

def binaryMarks : List String := ["||", "&&", "|", "^", "&", "==", "!=", "<", "<=", "<<", "+", "-",
  "*", "/", "%"]

def assignmentMarks : List String := ["=", "+=", "-=", "*=", "/=", "&=", "|=", "^=", "%=", "<<="]

/-- What an operator wants behind it. -/
inductive Operand where
  | unary
  | expression
  | tested
  | alternatives

/-- The rest of an operator that begins with a closing bracket. -/
def closingRest : Parse (List Node) := do
  let more ← manyWhile 2 (look 0 fun t => t.text = ">" && t.isTight) (do return [← anyMark])
  if ← look 0 fun t => t.text = "=" && t.isTight then return more ++ [← anyMark]
  return more

/-- An operator between operands. -/
def operator : Parse (Operand × List Node) := do
  let s ← nextText
  if s = ">" then
    let first ← anyMark
    let rest ← closingRest
    let assigns := 1 < rest.length && rest.getLast?.any (·.text = "=")
    return (if assigns then .expression else .unary, first :: rest)
  else if s = "instanceof" then return (.tested, [← anyMark])
  else if s = "?" then return (.alternatives, [← anyMark])
  else if binaryMarks.contains s then return (.unary, [← anyMark])
  else if assignmentMarks.contains s then return (.expression, [← anyMark])
  else fail

/-- Operators with what stands behind them. The number bounds them. -/
def operations (lambdas : Bool) : Nat → Parse (List Node)
  | 0 => pure []
  | fuel + 1 => do
    match ← maybe operator with
    | none => return []
    | some (.unary, marks) =>
      let operand ← r.unary lambdas
      return marks ++ [operand] ++ (← operations lambdas fuel)
    | some (.tested, marks) =>
      let operand ← either r.pattern r.type
      return marks ++ [operand] ++ (← operations lambdas fuel)
    | some (.expression, marks) => return marks ++ [← r.expression lambdas]
    | some (.alternatives, marks) =>
      let yes ← r.expression true
      return marks ++ [yes, ← mark ":", ← r.expression lambdas]

def expressionRule (lambdas : Bool) : Parse Node := do
  let first ← r.unary lambdas
  match ← operations r lambdas r.fuel with
  | [] => return first
  | rest => return .node .other (first :: rest)

/-! ## Calls and objects -/

def callArguments : Parse Node := do
  return (Node.node .arguments (← enclosed r.fuel "(" ")" (r.expression true))).withRole .arguments

/-- The elements of an array. -/
def arrayElements : Parse Node := do return .node .other (← enclosed r.fuel leftBrace rightBrace r.initializer)

/-- What a variable or an element of an array begins with. -/
def initializerRule : Parse Node := do
  if ← nextIs leftBrace then arrayElements r else r.expression true

/-- The brackets of a new array with its sizes. -/
def arraySizes : Parse (List Node) := do
  let marks ← annotations r
  let left ← mark "["
  if ← nextIs "]" then return marks ++ [left, ← mark "]"]
  return marks ++ [left, ← r.expression true, ← mark "]"]

/-- A new object or array; `outer` is what stands before it. -/
def creation (outer : List Node) : Parse Node := do
  let word ← mark "new"
  let marks ← annotations r
  let args ← optionalTypeArguments r
  let more ← annotations r
  let type ← simpleType r
  let start := outer ++ [word] ++ marks ++ args ++ more ++ [type.withRole .type]
  if ← nextIs "(" then
    let args ← callArguments r
    if ← nextIs leftBrace then return .node .creation (start ++ [args, ← r.classBody])
    return .node .creation (start ++ [args])
  let sizes ← many r.fuel (arraySizes r)
  if ← nextIs leftBrace then return .node .other (start ++ sizes ++ [← arrayElements r])
  return .node .other (start ++ sizes)

/-! ## Lambdas and parentheses -/

/-- The tokens behind the bracket that closes the one before them. -/
def behindClosing : Nat → List Token → List Token
  | _, [] => []
  | depth, t :: rest =>
    if t.text = "(" then behindClosing (depth + 1) rest
    else if t.text = ")" then
      match depth with
      | 0 => rest
      | depth + 1 => behindClosing depth rest
    else behindClosing depth rest

/-- Do parameters of a lambda begin here? -/
def nextIsLambda : Parse Bool := do
  if ← look 0 (·.isName) then return ← lookText 1 "->"
  if ← nextIs "(" then
    return (behindClosing 0 ((← get).drop 1)).head?.any (·.text = "->")
  return false

/-- Names without types. -/
def bareParameters : Parse Node := do return .node .other (← enclosed r.fuel "(" ")" name)

def lambda : Parse Node := do
  let ps ← if ← nextIs "(" then either (bareParameters r) (parameters r) else name
  let arrow ← mark "->"
  let body ← if ← nextIs leftBrace then r.block else r.expression true
  return .node .other [ps, arrow, body]

/-- Can an operand of a cast to a declared type begin with this token? -/
def beginsOperand (t : Token) : Bool :=
  match t.shape with
  | .word => t.text != "instanceof"
  | .mark => t.text = "(" || t.text = "!" || t.text = "~"
  | _ => true

/-- The type of a cast in its brackets. -/
def castHead : Parse (List Node) := do
  let left ← mark "("
  let isNumber := (← look 0 (·.isPrimitive)) && (← lookText 1 ")")
  let types ← separated r.fuel "&" r.type
  let right ← mark ")"
  if !isNumber then guardThat (look 0 beginsOperand)
  return left :: types ++ [right]

def cast (lambdas : Bool) : Parse Node := do
  let head ← castHead r
  return .node .other (head ++ [← r.unary lambdas])

def parenthesized : Parse Node := do
  return .node .other [← mark "(", ← r.expression true, ← mark ")"]

/-! ## Parts behind an expression -/

/-- Does a call of a name begin here? -/
def nextIsCall : Parse Bool := do
  if ← look 0 (·.isName) then lookText 1 "(" else return false

/-- A part behind a dot; `start` is what the dot stands behind. -/
def afterDot (start : Node) : Parse Node := do
  let dot ← mark "."
  let receiver := start.withRole .receiver
  if ← nextIs "new" then return ← creation r [start, dot]
  if ← nextIs "super" then
    let word ← mark "super"
    if ← nextIs "." then
      let dots := [receiver, dot, word, ← mark "."]
      let args ← optionalTypeArguments r
      let name := (← name).withRole .name
      if ← nextIs "(" then return .node .call (dots ++ args ++ [name, ← callArguments r])
      return .node .access (dots ++ args ++ [name])
    guardThat (nextIs "::")
    return .node .other [start, dot, word]
  if ← nextIs "this" then return .node .access [receiver, dot, (← anyMark).withRole .name]
  if ← nextIs "class" then return .node .other [start, dot, ← anyMark]
  if ← look 0 (·.shape = .text) then return .node .other [start, dot, ← takeIf .text fun _ => true]
  let args ← optionalTypeArguments r
  let name := (← name).withRole .name
  if ← nextIs "(" then return .node .call ([receiver, dot] ++ args ++ [name, ← callArguments r])
  guardThat (pure args.isEmpty)
  return .node .access [receiver, dot, name]

/-- The rest of a type that stands before two colons. -/
def genericRest : Parse (List Node) := do
  let args ← typeArguments r
  let inner ← many r.fuel (innerType r)
  let brackets ← dimensions r
  guardThat (nextIs "::")
  return args :: inner ++ brackets

/-- The brackets of an array type that stands before a dot or two colons. -/
def arrayRest : Parse (List Node) := do
  let brackets ← dimensions r
  guardThat (pure !brackets.isEmpty)
  guardThat (do return (← nextIs "::") || (← nextIs "."))
  return brackets

/-- A reference to a method behind two colons. -/
def methodReference (start : Node) : Parse Node := do
  let colons ← mark "::"
  let args ← optionalTypeArguments r
  if ← nextIs "new" then return .node .other ([start, colons] ++ args ++ [← anyMark])
  return .node .other ([start, colons] ++ args ++ [← name])

/-- One part behind an expression. -/
def part (start : Node) : Parse Node := do
  match ← nextText with
  | "." => afterDot r start
  | "::" => methodReference r start
  | "<" => return .node .other (start :: (← genericRest r))
  | "[" =>
    match ← maybe (arrayRest r) with
    | some brackets => return .node .other (start :: brackets)
    | none => return .node .other [start, ← mark "[", ← r.expression true, ← mark "]"]
  | "++" | "--" => return .node .other [start, ← anyMark]
  | _ => fail

/-- All parts behind an expression. The number bounds them. -/
def partsBehind : Nat → Node → Parse Node
  | 0, start => pure start
  | fuel + 1, start => do
    match ← maybe (part r start) with
    | some n => partsBehind fuel n
    | none => return start

/-! ## Operands -/

/-- The beginning of an operand. -/
def primary : Parse Node := do
  match ← at? 0 with
  | none => fail
  | some t =>
    match t.shape with
    | .number | .character => takeIf .literal fun _ => true
    | .text => takeIf .text fun _ => true
    | .mark => if t.text = "(" then parenthesized r else fail
    | .word =>
      match t.text with
      | "this" => takeIf .thisWord fun _ => true
      | "super" => takeIf .superWord fun _ => true
      | "new" => creation r []
      | "switch" => r.statement
      | "true" | "false" | "null" => takeIf .literal fun _ => true
      | _ =>
        if t.isPrimitive then return .node .other [← anyMark]
        if ← nextIsCall then
          return .node .call [(← name).withRole .name, ← callArguments r]
        name

def unaryRule (lambdas : Bool) : Parse Node := do
  let s ← nextText
  if prefixMarks.contains s then return .node .other [← anyMark, ← r.unary lambdas]
  if lambdas then
    if ← nextIsLambda then return ← lambda r
  if s = "(" then
    match ← maybe (cast r lambdas) with
    | some n => return n
    | none => pure ()
  partsBehind r r.fuel (← primary r)

end CodeAtlas.Compilation
