import CodeAtlas.Module.Token

/-!
# Reading tokens

A `Parse α` reads tokens from the front of a list or fails; a failed alternative leaves the list as
it was.

The grammar is recursive in a few places only. `Rules` has a parser for each of them, and every rule
of the grammar is a plain function of `Rules`; the recursion is tied in one place, by a number that
bounds its depth.
-/

namespace CodeAtlas.Module

abbrev Parse := StateT (List Token) Option

namespace Parse

variable {α : Type}

/-! ## Single tokens -/

/-- The kind of the next token. -/
def peek : Parse Kind := do return ((← get).head?.map (·.kind)).getD .finish

/-- The kind of the token after the next one. -/
def peekSecond : Parse Kind := do return (((← get).drop 1).head?.map (·.kind)).getD .finish

/-- The line of the next token. -/
def line : Parse Nat := do return ((← get).head?.map (·.line)).getD 0

/-- Passes the next token. -/
def skip : Parse Unit := modify (·.drop 1)

def fail : Parse α := fun _ => none

/-- Passes an expected token. -/
def expect (p : Kind → Bool) : Parse Unit := do if p (← peek) then skip else fail

/-- Passes a token if it is next, and says whether it was. -/
def skipIf (p : Kind → Bool) : Parse Bool := do
  if p (← peek) then
    skip
    return true
  else return false

end Parse

/-! ## Kinds of tokens -/

namespace Kind

def isOp (s : String) : Kind → Bool
  | op t => t = s
  | _ => false

def isKeyword (s : String) : Kind → Bool
  | keyword t => t = s
  | _ => false

def isSoft (s : String) : Kind → Bool
  | soft t => t = s
  | _ => false

/-- The name that a token is; words that are reserved in some places only are names too. -/
def name? : Kind → Option String
  | name s => some s
  | soft s => some s
  | _ => none

def isName (k : Kind) : Bool := k.name?.isSome

def isNewline : Kind → Bool
  | newline => true
  | _ => false

def isIndent : Kind → Bool
  | indent => true
  | _ => false

def isDedent : Kind → Bool
  | dedent => true
  | _ => false

def isFinish : Kind → Bool
  | finish => true
  | _ => false

end Kind

namespace Parse

variable {α : Type}

def op (s : String) : Parse Unit := expect (Kind.isOp s)

def keyword (s : String) : Parse Unit := expect (Kind.isKeyword s)

def nextIsOp (s : String) : Parse Bool := do return (← peek).isOp s

def nextIsKeyword (s : String) : Parse Bool := do return (← peek).isKeyword s

def skipOp (s : String) : Parse Bool := skipIf (Kind.isOp s)

def skipKeyword (s : String) : Parse Bool := skipIf (Kind.isKeyword s)

/-- A name. -/
def anyName : Parse String := do
  match (← peek).name? with
  | some s =>
    skip
    return s
  | none => fail

/-! ## Repetition -/

/-- A parser that may also read nothing. -/
def maybe (p : Parse α) : Parse (Option α) := fun ts =>
  match p ts with
  | some (a, rest) => some (some a, rest)
  | none => some (none, ts)

/-- Repeats a parser until it fails. The number bounds the repetitions. -/
def many (fuel : Nat) (p : Parse α) : Parse (List α) :=
  match fuel with
  | 0 => pure []
  | fuel + 1 => do
    match ← maybe p with
    | some a => return a :: (← many fuel p)
    | none => return []

/-- Repeats a parser as long as the next token satisfies a test. -/
def manyWhile (fuel : Nat) (p : Kind → Bool) (body : Parse α) : Parse (List α) :=
  match fuel with
  | 0 => pure []
  | fuel + 1 => do
    if p (← peek) then
      let a ← body
      return a :: (← manyWhile fuel p body)
    else return []

/-- One or more elements with commas between them. -/
def separated (fuel : Nat) (p : Parse α) : Parse (List α) := do
  let first ← p
  return first :: (← manyWhile fuel (Kind.isOp ",") (do skip; p))

/-- One or more elements with commas between them, and perhaps one behind the last; says whether
there was any comma. -/
def listed (fuel : Nat) (p : Parse α) : Parse (List α × Bool) := do
  let first ← p
  let others ← many fuel (do op ","; p)
  let trailing ← skipOp ","
  return (first :: others, trailing || !others.isEmpty)

end Parse

/-! ## Recursive rules -/

/-- The parsers by which the grammar is recursive. -/
structure Rules where
  /-- Bounds the repetitions of any rule. -/
  fuel : Nat
  expression : Parse Expr
  factor : Parse Expr
  pattern : Parse Pattern
  block : Parse (List Stmt)
  /-- A chain of further conditions of a branch. -/
  elseBranch : Parse (List Stmt)

/-- Rules that accept nothing. -/
def Rules.none : Rules := ⟨0, Parse.fail, Parse.fail, Parse.fail, Parse.fail, Parse.fail⟩

end CodeAtlas.Module
