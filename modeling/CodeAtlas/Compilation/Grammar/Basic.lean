import CodeAtlas.Compilation.Tree

/-!
# Reading tokens of compilation units

A `Parse α` reads tokens from the front of a list or fails; a failed alternative leaves the list as
it was. `Rules` has a parser for each place in which the grammar is recursive; the recursion is tied
in one place, by a number that bounds its depth.
-/

namespace CodeAtlas.Compilation

abbrev Parse := StateT (List Token) Option

/-- Words that are no names. -/
def reservedWords : List String := ["abstract", "assert", "boolean", "break", "byte", "case", "catch",
  "char", "class", "continue", "default", "do", "double", "else", "enum", "extends", "final",
  "finally", "float", "for", "if", "implements", "import", "instanceof", "int", "interface", "long",
  "native", "new", "package", "private", "protected", "public", "return", "short", "static",
  "strictfp", "super", "switch", "synchronized", "this", "throw", "throws", "transient", "try",
  "void", "volatile", "while", "true", "false", "null"]

/-- The words for types that are not declared anywhere. -/
def primitiveTypes : List String :=
  ["boolean", "byte", "char", "double", "float", "int", "long", "short", "void"]

/-- The brackets around a block. -/
def leftBrace : String := "\x7b"

def rightBrace : String := "\x7d"

namespace Token

def isName (t : Token) : Bool := t.shape = .word && !reservedWords.contains t.text

def isPrimitive (t : Token) : Bool := primitiveTypes.contains t.text

/-- Does the token stand right behind the one before it? -/
def isTight (t : Token) : Bool := t.before = ""

end Token

namespace Parse

variable {α : Type}

/-! ## Looking ahead -/

/-- The token at a place. -/
def at? (n : Nat) : Parse (Option Token) := do return (← get)[n]?

/-- Does the token at a place satisfy a test? -/
def look (n : Nat) (p : Token → Bool) : Parse Bool := do return (← at? n).any p

/-- Is this the text of the token at a place? -/
def lookText (n : Nat) (s : String) : Parse Bool := look n (·.text = s)

/-- Is this the text of the next token? -/
def nextIs (s : String) : Parse Bool := lookText 0 s

/-- The text of the next token, or nothing at the end. -/
def nextText : Parse String := do return ((← at? 0).map (·.text)).getD ""

/-! ## Single tokens -/

def fail : Parse α := fun _ => none

/-- Takes a token that satisfies a test. -/
def takeIf (kind : Kind) (p : Token → Bool) : Parse Node := fun ts =>
  match ts with
  | t :: rest => if p t then some (.leaf .plain kind t, rest) else none
  | [] => none

/-- Takes a token with a text. -/
def mark (s : String) : Parse Node := takeIf .mark (·.text = s)

/-- Takes one token, whatever it is. -/
def anyMark : Parse Node := takeIf .mark fun _ => true

/-- Takes a name. -/
def name : Parse Node := takeIf .name (·.isName)

/-- Takes the next token if it has a text. -/
def optionalMark (s : String) : Parse (List Node) := do
  if ← nextIs s then return [← mark s]
  return []

/-! ## Repetition -/

/-- A parser that may also read nothing. -/
def maybe (p : Parse α) : Parse (Option α) := fun ts =>
  match p ts with
  | some (a, rest) => some (some a, rest)
  | none => some (none, ts)

/-- Tries one parser, then another. -/
def either (p q : Parse α) : Parse α := fun ts =>
  match p ts with
  | some found => some found
  | none => q ts

/-- Goes on only if a test of what follows holds. -/
def guardThat (test : Parse Bool) : Parse PUnit := do
  if !(← test) then fail

/-- Repeats a parser as long as a test of what follows holds. The number bounds the rounds. -/
def manyWhile (fuel : Nat) (test : Parse Bool) (body : Parse (List Node)) : Parse (List Node) :=
  match fuel with
  | 0 => pure []
  | fuel + 1 => do
    if ← test then
      let ns ← body
      return ns ++ (← manyWhile fuel test body)
    else return []

/-- Repeats a parser until it fails. The number bounds the rounds. -/
def many (fuel : Nat) (body : Parse (List Node)) : Parse (List Node) :=
  match fuel with
  | 0 => pure []
  | fuel + 1 => do
    match ← maybe body with
    | some ns => return ns ++ (← many fuel body)
    | none => return []

/-- One or more nodes with a mark between them. -/
def separated (fuel : Nat) (s : String) (body : Parse Node) : Parse (List Node) := do
  let first ← body
  return first :: (← manyWhile fuel (nextIs s) (do return [← mark s, ← body]))

/-- Nodes between two marks with commas between them, perhaps with one behind the last. -/
def enclosed (fuel : Nat) (left right : String) (body : Parse Node) : Parse (List Node) := do
  let start ← mark left
  let inner ← manyWhile fuel (do return !(← nextIs right)) (do
    let n ← body
    if ← nextIs "," then return [n, ← mark ","]
    guardThat (nextIs right)
    return [n])
  return start :: inner ++ [← mark right]

end Parse

/-- The parsers by which the grammar is recursive. Expressions are told whether they may begin with
the parameters of a lambda. -/
structure Rules where
  /-- Bounds the repetitions of any rule. -/
  fuel : Nat
  type : Parse Node
  annotation : Parse Node
  elementValue : Parse Node
  expression : Bool → Parse Node
  unary : Bool → Parse Node
  initializer : Parse Node
  pattern : Parse Node
  statement : Parse Node
  block : Parse Node
  classBody : Parse Node
  /-- A declaration of a type behind its modifiers. -/
  declaration : List Node → Parse Node

/-- Rules that accept nothing. -/
def Rules.none : Rules :=
  ⟨0, Parse.fail, Parse.fail, Parse.fail, fun _ => Parse.fail, fun _ => Parse.fail, Parse.fail,
    Parse.fail, Parse.fail, Parse.fail, Parse.fail, fun _ => Parse.fail⟩

end CodeAtlas.Compilation
