import CodeAtlas.Compilation.Token
import CodeAtlas.Text.Split
import CodeAtlas.Text.Word

/-!
# Cutting a compilation unit into tokens

Blanks and comments belong to the token behind them. A sign that closes type arguments is always a
token of its own: where several make up an operator, none has anything before it but the first.
-/

namespace CodeAtlas.Compilation

open CodeAtlas.Text

/-! ## Single tokens -/

def isGap (c : Char) : Bool := c = ' ' || (9 ≤ c.toNat && c.toNat ≤ 13)

def isNameStart (c : Char) : Bool := isWordStart c || c = '$'

def isNamePart (c : Char) : Bool := isWordPart c || c = '$' || c = '\u00a2'

def isNumeral (c : Char) : Bool := '0' ≤ c && c ≤ '9'

/-- The signs of more than one character. Of two that fit the first counts. -/
def longMarks : List String := ["...", "<<=", "->", "::", "++", "--", "&&", "||", "==", "!=", "<=",
  "+=", "-=", "*=", "/=", "&=", "|=", "^=", "%=", "<<"]

/-- A text up to and with a closing mark; what follows a backslash does not close it. -/
def closedBy (mark : List Char) : List Char → List Char × List Char
  | [] => ([], [])
  | '\\' :: c :: rest =>
    let (inner, after) := closedBy mark rest
    ('\\' :: c :: inner, after)
  | c :: rest =>
    if mark.isPrefixOf (c :: rest) then (mark, (c :: rest).drop mark.length)
    else
      let (inner, after) := closedBy mark rest
      (c :: inner, after)

/-- Can a sign follow this character in a number? -/
def isExponentMark (hex : Bool) (c : Char) : Bool :=
  if hex then c = 'p' || c = 'P' else c = 'e' || c = 'E'

/-- The rest of a number behind its character `last`. -/
def numberRest (hex : Bool) (last : Char) : List Char → List Char × List Char
  | [] => ([], [])
  | c :: rest =>
    if c.isAlphanum || c = '_' || c = '.' || ((c = '+' || c = '-') && isExponentMark hex last) then
      let (inner, after) := numberRest hex c rest
      (c :: inner, after)
    else ([], c :: rest)

/-- The sign at the beginning of a text. -/
def markText (cs : List Char) : List Char :=
  match longMarks.find? fun m => m.toList.isPrefixOf cs with
  | some m => m.toList
  | none => cs.take 1

/-- The token at the beginning of a text that is not empty, and what follows it. -/
def tokenAt (cs : List Char) : Shape × List Char × List Char :=
  match cs with
  | '"' :: '"' :: '"' :: rest =>
    let (inner, after) := closedBy ['"', '"', '"'] rest
    (.text, '"' :: '"' :: '"' :: inner, after)
  | '"' :: rest =>
    let (inner, after) := closedBy ['"'] rest
    (.text, '"' :: inner, after)
  | '\'' :: rest =>
    let (inner, after) := closedBy ['\''] rest
    (.character, '\'' :: inner, after)
  | c :: rest =>
    if isNameStart c then (.word, c :: rest.takeWhile isNamePart, rest.dropWhile isNamePart)
    else if isNumeral c || (c = '.' && rest.head?.any isNumeral) then
      let hex := c = '0' && (rest.head? = some 'x' || rest.head? = some 'X')
      let (inner, after) := numberRest hex c rest
      (.number, c :: inner, after)
    else
      let mark := markText (c :: rest)
      (.mark, mark, (c :: rest).drop mark.length)
  | [] => (.mark, [], [])

/-! ## Blanks and comments -/

/-- A comment up to its end. -/
def blockComment : List Char → List Char × List Char
  | [] => ([], [])
  | '*' :: '/' :: rest => (['*', '/'], rest)
  | c :: rest =>
    let (inner, after) := blockComment rest
    (c :: inner, after)

/-- The comment at the beginning of a text, and what follows it. -/
def commentAt : List Char → Option (List Char × List Char)
  | '/' :: '/' :: rest =>
    some ('/' :: '/' :: rest.takeWhile (· != '\n'), rest.dropWhile (· != '\n'))
  | '/' :: '*' :: rest =>
    let (inner, after) := blockComment rest
    some ('/' :: '*' :: inner, after)
  | _ => none

/-- How many lines a piece of text ends. -/
def lineEnds (cs : List Char) : Nat := cs.count '\n'

/-! ## Texts -/

/-- Where a lexer stands: its line, and what it has passed since the last token, last first. -/
structure Cursor where
  line : Nat
  before : List (List Char)
  comments : List String

/-- Passes a blank or a comment. -/
def Cursor.pass (k : Cursor) (part : List Char) (comments : List String) : Cursor :=
  ⟨k.line + lineEnds part, part :: k.before, comments ++ k.comments⟩

/-- The token with a text at the cursor. -/
def Cursor.token (k : Cursor) (shape : Shape) (text : List Char) : Token where
  shape := shape
  text := String.ofList text
  before := String.ofList k.before.reverse.flatten
  comments := k.comments.reverse
  line := k.line

/-- The tokens of a text. The number bounds them with the blanks and comments between them. -/
def tokensFrom : Nat → Cursor → List Char → List Token
  | 0, _, _ => []
  | _, _, [] => []
  | fuel + 1, k, c :: rest =>
    if isGap c then tokensFrom fuel (k.pass [c] []) rest
    else
      match commentAt (c :: rest) with
      | some (text, after) => tokensFrom fuel (k.pass text [String.ofList text]) after
      | none =>
        let (shape, text, after) := tokenAt (c :: rest)
        k.token shape text :: tokensFrom fuel ⟨k.line + lineEnds text, [], []⟩ after

/-- The mark that a text can begin with. -/
def orderMark : Char := '\ufeff'

/-- The tokens of a compilation unit. -/
def tokens (cs : List Char) : List Token :=
  let cs := if cs.head? = some orderMark then cs.drop 1 else cs
  tokensFrom cs.length ⟨1, [], []⟩ cs

end CodeAtlas.Compilation
