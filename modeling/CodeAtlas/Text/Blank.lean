/-!
# Blanks and line ends

The white space of Unicode texts, stripping it, and cutting a text into lines at every line end
that Unicode knows.
-/

namespace CodeAtlas.Text

/-- White space, the information separators U+001C to U+001F included. -/
def isBlank (c : Char) : Bool :=
  let n := c.toNat
  (9 ≤ n && n ≤ 13) || (0x1C ≤ n && n ≤ 0x20) || n == 0x85 || n == 0xA0 || n == 0x1680 ||
    (0x2000 ≤ n && n ≤ 0x200A) || n == 0x2028 || n == 0x2029 || n == 0x202F || n == 0x205F ||
    n == 0x3000

/-! ## Stripping -/

/-- Drops the characters of a class from the end. -/
def dropEnd (p : Char → Bool) (cs : List Char) : List Char := (cs.reverse.dropWhile p).reverse

/-- Drops the characters of a class from both ends. -/
def trimBy (p : Char → Bool) (cs : List Char) : List Char := dropEnd p (cs.dropWhile p)

/-- The text without blanks at its ends. -/
def strip (s : String) : String := String.ofList (trimBy isBlank s.toList)

/-- The text without blanks at its end. -/
def stripEnd (s : String) : String := String.ofList (dropEnd isBlank s.toList)

/-! ## Lines -/

/-- The single characters that end a line; a carriage return takes a following line feed along. -/
def isLineEnd (c : Char) : Bool :=
  let n := c.toNat
  (10 ≤ n && n ≤ 13) || (0x1C ≤ n && n ≤ 0x1E) || n == 0x85 || n == 0x2028 || n == 0x2029

/-- The lines of a text; `line` holds the characters of the current one, latest first. -/
def linesAux (line : List Char) : List Char → List String
  | [] => if line.isEmpty then [] else [String.ofList line.reverse]
  | '\r' :: '\n' :: rest => String.ofList line.reverse :: linesAux [] rest
  | c :: rest =>
    if isLineEnd c then String.ofList line.reverse :: linesAux [] rest
    else linesAux (c :: line) rest

/-- The lines of a text without their ends; a final line end opens no further line. -/
def lines (s : String) : List String := linesAux [] s.toList

/-! ## Uniform line ends -/

/-- Every carriage return, alone or before a line feed, read as a line feed. -/
def unifyLineEnds : List Char → List Char
  | [] => []
  | '\r' :: '\n' :: rest => '\n' :: unifyLineEnds rest
  | c :: rest => (if c = '\r' then '\n' else c) :: unifyLineEnds rest

end CodeAtlas.Text
