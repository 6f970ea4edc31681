import CodeAtlas.Module.Tree

/-!
# Tokens of a module

What a module's text is cut into before it is read as a tree. A formatted text is a token that holds
the tokens of its fields.
-/

namespace CodeAtlas.Module

mutual

inductive Kind where
  /-- A reserved word. -/
  | keyword (s : String)
  /-- A word that is reserved in some places and a name in others. -/
  | soft (s : String)
  | name (s : String)
  | number (c : Constant)
  | text (s : String) (marked : Bool)
  | bytes (bs : List UInt8)
  | formatted (pieces : List Piece)
  | op (s : String)
  | newline
  | indent
  | dedent
  | finish

inductive Token where
  | mk (kind : Kind) (line : Nat)

/-- A piece of a formatted text: characters, or a field with its conversion and its format. -/
inductive Piece where
  | literal (s : List Char)
  | field (tokens : List Token) (conversion : Option Char) (spec : Option (List Piece))

end

instance : Inhabited Token := ⟨.mk .finish 0⟩

namespace Token

def kind : Token → Kind | mk k _ => k

def line : Token → Nat | mk _ n => n

end Token

/-! ## Words -/

def keywords : List String := ["False", "None", "True", "and", "as", "assert", "async", "await",
  "break", "class", "continue", "def", "del", "elif", "else", "except", "finally", "for", "from",
  "global", "if", "import", "in", "is", "lambda", "nonlocal", "not", "or", "pass", "raise",
  "return", "try", "while", "with", "yield"]

def softKeywords : List String := ["match", "case", "_"]

/-- The token for a word of ASCII characters. -/
def wordKind (s : String) : Kind :=
  if keywords.contains s then .keyword s else if softKeywords.contains s then .soft s else .name s

/-! ## Operators -/

/-- Operators of more than one character, longer ones first. -/
def longOps : List String := ["**=", "//=", "...", "<<=", ">>=", "!=", "%=", "&=", "**", "*=", "+=",
  "-=", "->", "//", "/=", ":=", "<<", "<=", "==", ">=", ">>", "@=", "^=", "|="]

/-- The closing bracket for an opening one. -/
def closing? : Char → Option Char
  | '(' => some ')'
  | '[' => some ']'
  | '\x7b' => some '\x7d'
  | _ => none

def isClosing (c : Char) : Bool := c = ')' || c = ']' || c = '\x7d'

/-- Operators of one character that are no brackets. -/
def shortOps : List Char := "%&*+,-./:;<=>@^|~".toList

end CodeAtlas.Module
