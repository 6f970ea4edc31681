import CodeAtlas.Module.Quote
import CodeAtlas.Module.Tree

/-!
# Expressions as text

The normal form in which an expression is written: with as few brackets as its operators need, and
literals in their usual form. A field of a formatted text must not hold a backslash; such an
expression has no text.
-/

namespace CodeAtlas.Module

/-! ## Ranks -/

/-- How close an expression binds; more is closer. -/
abbrev Rank := Nat

namespace Rank

def named : Rank := 1
def tuple : Rank := 2
def yield : Rank := 3
def test : Rank := 4
def or : Rank := 5
def and : Rank := 6
def not : Rank := 7
def compare : Rank := 8
def bitOr : Rank := 9
def bitXor : Rank := 10
def bitAnd : Rank := 11
def shift : Rank := 12
def sum : Rank := 13
def term : Rank := 14
def factor : Rank := 15
def power : Rank := 16
def await : Rank := 17
def atom : Rank := 18

/-- The next closer rank. -/
def next (p : Rank) : Rank := min (p + 1) atom

end Rank

def BinaryOp.rank : BinaryOp → Rank
  | add | sub => .sum
  | mul | matMul | div | floorDiv | mod => .term
  | pow => .power
  | shiftLeft | shiftRight => .shift
  | bitOr => .bitOr
  | bitXor => .bitXor
  | bitAnd => .bitAnd

def BinaryOp.text : BinaryOp → String
  | add => "+"
  | sub => "-"
  | mul => "*"
  | matMul => "@"
  | div => "/"
  | floorDiv => "//"
  | mod => "%"
  | pow => "**"
  | shiftLeft => "<<"
  | shiftRight => ">>"
  | bitOr => "|"
  | bitXor => "^"
  | bitAnd => "&"

/-- The ranks that the operands of an operator need: all but powers group to the left. -/
def BinaryOp.operandRanks (o : BinaryOp) : Rank × Rank :=
  if o = pow then (o.rank.next, o.rank) else (o.rank, o.rank.next)

def UnaryOp.rank : UnaryOp → Rank
  | not => .not
  | _ => .factor

def UnaryOp.text : UnaryOp → String
  | not => "not "
  | plus => "+"
  | minus => "-"
  | invert => "~"

def BooleanOp.rank : BooleanOp → Rank
  | and => .and
  | or => .or

def BooleanOp.text : BooleanOp → String
  | and => " and "
  | or => " or "

def Comparison.text : Comparison → String
  | eq => "=="
  | notEq => "!="
  | less => "<"
  | lessEq => "<="
  | greater => ">"
  | greaterEq => ">="
  | is => "is"
  | isNot => "is not"
  | within => "in"
  | notWithin => "not in"

/-! ## Pieces of text -/

/-- A text in brackets if it binds less close than needed. -/
def bracket (own needed : Rank) (s : String) : String :=
  if own < needed then "(" ++ s ++ ")" else s

def commas (xs : List String) : String := Text.join ", " xs

/-- Elements with commas; a single one has a comma behind it. -/
def tupleItems : List String → String
  | [x] => x ++ ","
  | xs => commas xs

/-- Is the expression a whole number or a truth value? -/
def Expr.isWhole : Expr → Bool
  | .constant (.int _) => true
  | .constant (.bool _) => true
  | _ => false

def isInt : Constant → Bool
  | .int _ => true
  | _ => false

/-- A literal. `quiet` asks to avoid backslashes. -/
def Constant.shown (quiet : Bool) : Constant → String
  | .none => "None"
  | .bool b => if b then "True" else "False"
  | .ellipsis => "..."
  | .int n => toString n
  | .float d => d.shown ".0"
  | .imaginary d => d.shown "" ++ "j"
  | .text s marked =>
    (if marked then "u" else "") ++
      if quiet then String.ofList (quoteAvoiding s.toList) else Text.quoted s
  | .bytes bs => String.ofList (quoteBytes bs)

/-- Characters of a formatted text, with braces doubled. -/
def doubleBraces (s : String) : String :=
  String.ofList (s.toList.flatMap fun c => if c = '\x7b' || c = '\x7d' then [c, c] else [c])

/-- A field of a formatted text. -/
def fieldText (value : String) (conversion : Option Char) (spec : Option String) : Option String :=
  if value.toList.contains '\\' then none
  else
    some ("\x7b" ++ (if Text.startsWith value "\x7b" then " " else "") ++ value ++
      ((conversion.map fun c => "!" ++ String.ofList [c]).getD "") ++
      ((spec.map (":" ++ ·)).getD "") ++ "\x7d")

/-- A parameter with its default. -/
def withDefault (p : String) (default : Option String) : String :=
  p ++ ((default.map ("=" ++ ·)).getD "")

/-- The texts of parameters; the last of them have defaults. -/
def withDefaults (ps ds : List String) : List String :=
  (ps.zip (List.replicate (ps.length - ds.length) none ++ ds.map some)).map fun (p, d) =>
    withDefault p d

/-- Parameters as text. -/
def paramsText (posOnly positional : List String) (rest : Option String) (keyed : List String)
    (keyedDefaults : List (Option String)) (keyedRest : Option String) (defaults : List String) :
    String :=
  let all := withDefaults (posOnly ++ positional) defaults
  let front := if posOnly.isEmpty then all
    else all.take posOnly.length ++ ["/"] ++ all.drop posOnly.length
  let star := match rest with
    | some p => ["*" ++ p]
    | none => if keyed.isEmpty then [] else ["*"]
  let others := (keyed.zip keyedDefaults).map fun (p, d) => withDefault p d
  commas (front ++ star ++ others ++ (keyedRest.map ("**" ++ ·)).toList)

/-- One entry of a mapping; one without a key is unpacked. -/
def entryText (key : Option String) (value : String) : String :=
  match key with
  | some k => k ++ ": " ++ value
  | none => "**" ++ value

/-! ## Expressions -/

mutual

/-- The text of an expression where the given rank is needed. `quiet` asks to avoid backslashes. -/
def Expr.write (quiet : Bool) (p : Rank) : Expr → Option String
  | .boolean op values => do
    return bracket op.rank p (Text.join op.text (← writeRising quiet op.rank.next values))
  | .named target value => do
    return bracket .named p
      ((← target.write quiet .atom) ++ " := " ++ (← value.write quiet .atom))
  | .binary left op right => do
    let a ← left.write quiet op.operandRanks.1
    let b ← right.write quiet op.operandRanks.2
    return bracket op.rank p (a ++ " " ++ op.text ++ " " ++ b)
  | .unary op operand => do
    return bracket op.rank p (op.text ++ (← operand.write quiet op.rank))
  | .lambda params body => do
    let ps ← writeParams quiet params
    return bracket .test p
      ("lambda" ++ (if ps.isEmpty then "" else " " ++ ps) ++ ": " ++ (← body.write quiet .test))
  | .conditional test body orElse => do
    let b ← body.write quiet Rank.test.next
    let t ← test.write quiet Rank.test.next
    return bracket .test p (b ++ " if " ++ t ++ " else " ++ (← orElse.write quiet .test))
  | .dict keys values => do
    let ks ← writeKeys quiet keys
    let vs ← writeValues quiet (ks.map fun k => if k.isSome then .test else .bitOr) values
    return "\x7b" ++ commas (List.zipWith entryText ks vs) ++ "\x7d"
  | .set elements => do
    return "\x7b" ++ commas (← writeAll quiet .test elements) ++ "\x7d"
  | .listComp element cs => do
    return "[" ++ (← element.write quiet .test) ++ (← writeClauses quiet cs) ++ "]"
  | .setComp element cs => do
    return "\x7b" ++ (← element.write quiet .test) ++ (← writeClauses quiet cs) ++ "\x7d"
  | .dictComp key value cs => do
    let k ← key.write quiet .test
    let v ← value.write quiet .test
    return "\x7b" ++ k ++ ": " ++ v ++ (← writeClauses quiet cs) ++ "\x7d"
  | .generator element cs => do
    return "(" ++ (← element.write quiet .test) ++ (← writeClauses quiet cs) ++ ")"
  | .await value => do return bracket .await p ("await " ++ (← value.write quiet .atom))
  | .yield none => some (bracket .yield p "yield")
  | .yield (some value) => do
    return bracket .yield p ("yield " ++ (← value.write quiet .atom))
  | .yieldFrom value => do
    return bracket .yield p ("yield from " ++ (← value.write quiet .atom))
  | .compare left ops rights => do
    let l ← left.write quiet Rank.compare.next
    let rs ← writeAll quiet Rank.compare.next rights
    return bracket .compare p
      (String.join (l :: List.zipWith (fun o r => " " ++ o.text ++ " " ++ r) ops rs))
  | .call _ func args keywords => do
    let f ← func.write quiet .atom
    let as ← writeAll quiet .test args
    return f ++ "(" ++ commas (as ++ (← writeKeywords quiet keywords)) ++ ")"
  | .formatted _ _ _ => none
  | .joined parts => do
    let texts ← writeParts parts
    if quiet then return "f" ++ String.ofList (quoteAvoiding (texts.flatMap (·.1)))
    else return "f" ++ String.ofList (quoteFormatted texts)
  | .constant c => some (c.shown quiet)
  | .attribute value attr => do
    return (← value.write quiet .atom) ++ (if value.isWhole then " " else "") ++ "." ++ attr
  | .subscript value (.tuple elements) => do
    let items ← writeAll quiet .test elements
    return (← value.write quiet .atom) ++ "[" ++
      (if elements.isEmpty then "()" else tupleItems items) ++ "]"
  | .subscript value index => do
    return (← value.write quiet .atom) ++ "[" ++ (← index.write quiet .test) ++ "]"
  | .starred value => do return "*" ++ (← value.write quiet .bitOr)
  | .name id _ => some id
  | .list elements => do return "[" ++ commas (← writeAll quiet .test elements) ++ "]"
  | .tuple elements => do
    let s := tupleItems (← writeAll quiet .test elements)
    return if elements.isEmpty then "()" else bracket .tuple p s
  | .slice lower upper step => do
    let l ← writeOption quiet lower
    let u ← writeOption quiet upper
    let s ← writeOption quiet step
    return l.getD "" ++ ":" ++ u.getD "" ++ ((s.map (":" ++ ·)).getD "")

/-- Expressions, each where the given rank is needed. -/
def writeAll (quiet : Bool) (p : Rank) : List Expr → Option (List String)
  | [] => some []
  | e :: rest => do return (← e.write quiet p) :: (← writeAll quiet p rest)

/-- Expressions, each where a closer rank is needed than before. -/
def writeRising (quiet : Bool) (p : Rank) : List Expr → Option (List String)
  | [] => some []
  | e :: rest => do return (← e.write quiet p) :: (← writeRising quiet p.next rest)

/-- Expressions where ranks of their own are needed. -/
def writeValues (quiet : Bool) : List Rank → List Expr → Option (List String)
  | _, [] => some []
  | ps, e :: rest => do
    return (← e.write quiet (ps.headD .test)) :: (← writeValues quiet (ps.drop 1) rest)

def writeOption (quiet : Bool) : Option Expr → Option (Option String)
  | none => some none
  | some e => do return some (← e.write quiet .test)

def writeKeys (quiet : Bool) : List (Option Expr) → Option (List (Option String))
  | [] => some []
  | e :: rest => do return (← writeOption quiet e) :: (← writeKeys quiet rest)

def writeKeyword (quiet : Bool) : Keyword → Option String
  | .mk none value => do return "**" ++ (← value.write quiet .test)
  | .mk (some name) value => do return name ++ "=" ++ (← value.write quiet .test)

def writeKeywords (quiet : Bool) : List Keyword → Option (List String)
  | [] => some []
  | k :: rest => do return (← writeKeyword quiet k) :: (← writeKeywords quiet rest)

def writeClause (quiet : Bool) : Clause → Option String
  | .mk isAsync target source conditions => do
    let t ← target.write quiet .tuple
    let s ← source.write quiet Rank.test.next
    let cs ← writeAll quiet Rank.test.next conditions
    return (if isAsync then " async for " else " for ") ++ t ++ " in " ++ s ++
      String.join (cs.map (" if " ++ ·))

def writeClauses (quiet : Bool) : List Clause → Option String
  | [] => some ""
  | c :: rest => do return (← writeClause quiet c) ++ (← writeClauses quiet rest)

def writeParam (quiet : Bool) : Param → Option String
  | .mk name hint => do
    return name ++ (((← writeOption quiet hint).map (": " ++ ·)).getD "")

def writeParamList (quiet : Bool) : List Param → Option (List String)
  | [] => some []
  | x :: rest => do return (← writeParam quiet x) :: (← writeParamList quiet rest)

def writeParam? (quiet : Bool) : Option Param → Option (Option String)
  | none => some none
  | some x => do return some (← writeParam quiet x)

def writeParams (quiet : Bool) : Params → Option String
  | .mk posOnly positional rest keyed keyedDefaults keyedRest defaults => do
    return paramsText (← writeParamList quiet posOnly) (← writeParamList quiet positional)
      (← writeParam? quiet rest) (← writeParamList quiet keyed) (← writeKeys quiet keyedDefaults)
      (← writeParam? quiet keyedRest) (← writeAll quiet .test defaults)

/-- A part of a formatted text without quotes. -/
def writeInner : Expr → Option String
  | .joined parts => do return String.ofList ((← writeParts parts).flatMap (·.1))
  | .constant (.text s _) => some (doubleBraces s)
  | .formatted value conversion none => do
    fieldText (← value.write true Rank.test.next) conversion none
  | .formatted value conversion (some spec) => do
    fieldText (← value.write true Rank.test.next) conversion (some (← writeInner spec))
  | _ => none

/-- The parts of a formatted text; the flag marks plain characters. -/
def writeParts : List Expr → Option (List (List Char × Bool))
  | [] => some []
  | e :: rest => do
    let isPlain := match e with
      | .constant _ => true
      | _ => false
    return ((← writeInner e).toList, isPlain) :: (← writeParts rest)

end

/-- The text of an expression on its own; `none` if a formatted text in it cannot be written. -/
def Expr.text? (e : Expr) : Option String := e.write false .test

end CodeAtlas.Module
