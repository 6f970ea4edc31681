import CodeAtlas.Module.Grammar.Expr

/-!
# Grammar of patterns
-/

namespace CodeAtlas.Module

open Parse

variable (r : Rules)

/-- A pattern that does no more than to bind a name. -/
def Pattern.capture (name : Option String) : Pattern := .mk name [] []

/-- A pattern of values and parts, which binds no name itself. -/
def Pattern.unnamed (values : List Expr) (parts : List Pattern) : Pattern := .mk none values parts

/-! ## Literals -/

def isReal : Constant → Bool
  | .int _ => true
  | .float _ => true
  | _ => false

def isImaginary : Constant → Bool
  | .imaginary _ => true
  | _ => false

def numberToken : Parse Constant := do
  match ← peek with
  | .number c =>
    skip
    return c
  | _ => fail

/-- A number with its sign, or a sum of a real and an imaginary one. -/
def patternNumber : Parse Expr := do
  let negative ← skipOp "-"
  let c ← numberToken
  let left := if negative then Expr.unary .minus (.constant c) else .constant c
  let sign ← match ← peek with
    | .op s => pure (sumOps s)
    | _ => pure none
  match sign with
  | some o =>
    skip
    let i ← numberToken
    if isReal c && isImaginary i then return .binary left o (.constant i) else fail
  | none => return left

/-- A literal in a pattern. -/
def patternLiteral : Parse Expr := do
  match ← peek with
  | .number _ => patternNumber
  | .op "-" => patternNumber
  | .keyword "None" => skip; return .constant .none
  | .keyword "True" => skip; return .constant (.bool true)
  | .keyword "False" => skip; return .constant (.bool false)
  | _ => textRule r

/-- Does a literal come next? -/
def beginsLiteral : Kind → Bool
  | .number _ => true
  | .text _ _ => true
  | .bytes _ => true
  | .formatted _ => true
  | .op s => s = "-"
  | .keyword s => s = "None" || s = "True" || s = "False"
  | _ => false

/-- Literals other than the three constants are looked up by value. -/
def literalPattern : Parse Pattern := do
  let k ← peek
  let e ← patternLiteral r
  match k with
  | .keyword _ => return .capture none
  | _ => return .unnamed [e] []

/-! ## Names -/

/-- A name and attributes of it. -/
def dottedPattern : Parse Expr := do
  let head ← anyName
  let names ← manyWhile r.fuel (Kind.isOp ".") (do skip; anyName)
  return names.foldl .attribute (.name head false)

/-- May a name end here that a pattern binds or looks up? -/
def endsPatternName (k : Kind) : Bool := !(k.isOp "." || k.isOp "(" || k.isOp "=")

/-- A name that a pattern binds. -/
def captureName : Parse String := do
  if (← peek).isSoft "_" then fail
  let name ← anyName
  if !endsPatternName (← peek) then fail
  return name

/-! ## Sequences, mappings and classes -/

/-- A pattern or a star with the name of the rest. -/
def starPattern : Parse (Bool × Pattern) := do
  if ← skipOp "*" then
    if ← skipIf (Kind.isSoft "_") then return (true, .capture none)
    return (true, .capture (some (← captureName)))
  return (false, ← r.pattern)

/-- The elements of a sequence up to its closing bracket. -/
def sequenceUntil (ending : String) : Parse (List Pattern) := do
  if ← skipOp ending then return []
  let (ps, _) ← listed r.fuel (starPattern r)
  op ending
  return ps.map (·.2)

/-- A group or a sequence, behind the opening bracket. -/
def parenthesizedPattern : Parse Pattern := do
  if ← skipOp ")" then return .unnamed [] []
  let (starred, first) ← starPattern r
  if ← skipOp "," then return .unnamed [] (first :: (← sequenceUntil r ")"))
  if starred then fail
  op ")"
  return first

/-- A key of a mapping with its pattern. -/
def mappingEntry : Parse (Expr × Pattern) := do
  let key ← if beginsLiteral (← peek) then patternLiteral r else do
    match ← dottedPattern r with
    | .name _ _ => fail
    | e => pure e
  op ":"
  return (key, ← r.pattern)

/-- The entries of a mapping up to its closing brace, and the name that the rest is bound to. -/
def mappingUntil : Nat → Parse (List (Expr × Pattern) × Option String)
  | 0 => fail
  | fuel + 1 => do
    if ← skipOp "\x7d" then return ([], none)
    if ← skipOp "**" then
      let name ← captureName
      let _ ← skipOp ","
      op "\x7d"
      return ([], some name)
    let entry ← mappingEntry r
    if ← skipOp "," then
      let (entries, name) ← mappingUntil fuel
      return (entry :: entries, name)
    op "\x7d"
    return ([entry], none)

/-- The parts of a class up to the closing bracket; parts by keyword stand last. -/
def classParts (keyed : Bool) : Nat → Parse (List Pattern)
  | 0 => fail
  | fuel + 1 => do
    if ← skipOp ")" then return []
    let isKeyed ← match (← keywordName) with
      | some _ => pure true
      | none => pure false
    if keyed && !isKeyed then fail
    let p ← r.pattern
    if ← skipOp "," then return p :: (← classParts isKeyed fuel)
    op ")"
    return [p]

/-- A pattern that begins with a name. -/
def namePattern : Parse Pattern := do
  let e ← dottedPattern r
  if ← skipOp "(" then return .unnamed [e] (← classParts r false r.fuel)
  if !endsPatternName (← peek) then fail
  match e with
  | .name id _ => return .capture (some id)
  | e => return .unnamed [e] []

/-! ## Patterns -/

def closedPattern : Parse Pattern := do
  let k ← peek
  if beginsLiteral k then return ← literalPattern r
  if ← skipIf (Kind.isSoft "_") then return .capture none
  match k with
  | .op "(" => skip; parenthesizedPattern r
  | .op "[" => skip; return .unnamed [] (← sequenceUntil r "]")
  | .op "\x7b" =>
    skip
    let (entries, name) ← mappingUntil r r.fuel
    return .mk name (entries.map (·.1)) (entries.map (·.2))
  | _ => namePattern r

/-- Alternatives, perhaps bound to a name. -/
def patternRule : Parse Pattern := do
  let first ← closedPattern r
  let others ← manyWhile r.fuel (Kind.isOp "|") (do skip; closedPattern r)
  let p := if others.isEmpty then first else .unnamed [] (first :: others)
  if ← skipKeyword "as" then return .mk (some (← captureName)) [] [p]
  return p

/-- The pattern of a case; commas make a sequence. -/
def casePattern : Parse Pattern := do
  let (starred, first) ← starPattern r
  if ← skipOp "," then
    let others ← maybe (listed r.fuel (starPattern r))
    return .unnamed [] (first :: ((others.map (·.1)).getD []).map (·.2))
  if starred then fail
  return first

end CodeAtlas.Module
