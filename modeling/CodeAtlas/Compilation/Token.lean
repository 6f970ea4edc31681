/-!
# Tokens of a compilation unit

A token keeps what stands before it, so that the tokens of a text together are the text.
-/

namespace CodeAtlas.Compilation

inductive Shape where
  /-- A name or a reserved word. -/
  | word
  | number
  | character
  /-- A text between quotes. -/
  | text
  /-- A sign. -/
  | mark
  deriving DecidableEq, Repr

structure Token where
  shape : Shape
  text : String
  /-- The blanks and comments before the token. -/
  before : String
  /-- The comments before the token. -/
  comments : List String
  line : Nat
  deriving DecidableEq, Repr

/-- The token with what stands before it. -/
def Token.full (t : Token) : String := t.before ++ t.text

end CodeAtlas.Compilation
