import CodeAtlas.Digest.Sha256
import CodeAtlas.Text.Blank
import CodeAtlas.Text.Split
import CodeAtlas.Text.Utf8

/-!
# Lines of files

A file is taken as a list of lines, so that its digest and its length do not depend on the way in
which it ends them, on a mark at its beginning or on its last line end.
-/

namespace CodeAtlas.Tree

open CodeAtlas.Text

/-- The characters without a mark of the byte order at the beginning. -/
def withoutMark : List Char → List Char
  | [] => []
  | c :: rest => if c = '\ufeff' then rest else c :: rest

/-- A list without its last element if that is empty. -/
def dropLastEmpty (parts : List (List Char)) : List (List Char) :=
  if parts.getLast? = some [] then parts.dropLast else parts

/-- The lines of a file's bytes. -/
def linesOf (bytes : List UInt8) : List String :=
  (dropLastEmpty (splitChars '\n' (unifyLineEnds (withoutMark (decodeLossy bytes))))).map
    String.ofList

/-- The bytes that stand for some lines: each line and a line feed. -/
def lineBytes (lines : List String) : List UInt8 := lines.flatMap fun l => encode l ++ [10]

/-- The digest of some lines. -/
def digest (lines : List String) : String := Digest.sha256 (lineBytes lines)

/-- Is there more than blanks in a line? -/
def isFilled (line : String) : Bool := strip line != ""

/-- Which lines are counted: all, or those that are not blank. -/
inductive LineMode where
  | physical
  | logical
  deriving DecidableEq, Repr

def LineMode.ofText (s : String) : LineMode := if s = "logical" then logical else physical

def countLines (mode : LineMode) (lines : List String) : Nat :=
  match mode with
  | .physical => lines.length
  | .logical => lines.countP isFilled

end CodeAtlas.Tree
