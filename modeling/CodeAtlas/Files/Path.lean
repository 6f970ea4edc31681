import CodeAtlas.Text.Split

/-!
# Paths

A path is a root (none, `/` or `//`) and its components. Reading a text drops empty components
and single dots; double dots stay.
-/

namespace CodeAtlas.Files

open CodeAtlas.Text

structure Path where
  root : String
  parts : List String
  deriving Repr, DecidableEq, Inhabited

namespace Path

/-- The slashes that a path begins with: exactly two of them are kept apart from one. -/
def rootOf : List Char → String
  | '/' :: '/' :: '/' :: _ => "/"
  | '/' :: '/' :: _ => "//"
  | '/' :: _ => "/"
  | _ => ""

/-- Reads a path. -/
def ofText (s : String) : Path :=
  ⟨rootOf s.toList, (splitAt '/' s).filter fun part => part != "" && part != "."⟩

/-- The path as it is written; the empty path is a dot. -/
def text (p : Path) : String :=
  if p.root = "" && p.parts.isEmpty then "." else p.root ++ join "/" p.parts

def isAbsolute (p : Path) : Bool := p.root != ""

/-- The second path as seen from the first. -/
def append (p q : Path) : Path := if q.isAbsolute then q else ⟨p.root, p.parts ++ q.parts⟩

/-- The path of a name inside `p`. -/
def child (p : Path) (name : String) : Path := ⟨p.root, p.parts ++ [name]⟩

/-- The last component, or nothing. -/
def name (p : Path) : String := p.parts.getLast?.getD ""

/-- The path without its last component. -/
def parent (p : Path) : Path := ⟨p.root, p.parts.dropLast⟩

end Path

/-! ## Names of files -/

/-- A file name cut before its last dot, unless the dot is its first or last character. -/
def cutSuffix (name : String) : String × String :=
  match cutLast '.' name with
  | some (stem, ending) =>
    if stem != "" && ending != "" then (stem, "." ++ ending) else (name, "")
  | none => (name, "")

/-- A file name without its suffix. -/
def stem (name : String) : String := (cutSuffix name).1

/-- The suffix of a file name, with its dot. -/
def suffix (name : String) : String := (cutSuffix name).2

end CodeAtlas.Files
