/-!
# Cutting and searching texts

Cuts at a character, tests for a given beginning, ending or part, and replacement of a character.
All are stated on lists of characters, where the library's lemmas apply.
-/

namespace CodeAtlas.Text

/-! ## Cutting at a character -/

/-- The parts of a list between occurrences of `c`; never empty. -/
def splitChars (c : Char) : List Char → List (List Char)
  | [] => [[]]
  | x :: rest =>
    if x = c then [] :: splitChars c rest
    else
      match splitChars c rest with
      | [] => [[x]]
      | part :: parts => (x :: part) :: parts

/-- The parts of a text between occurrences of `c`; never empty. -/
def splitAt (c : Char) (s : String) : List String := (splitChars c s.toList).map String.ofList

/-- The parts joined with a separator between them. -/
def join (separator : String) (parts : List String) : String := separator.intercalate parts

/-- What stands before and after the first `c`. -/
def cutFirstChars (c : Char) (cs : List Char) : Option (List Char × List Char) :=
  match cs.span (· != c) with
  | (_, []) => none
  | (before, _ :: after) => some (before, after)

/-- What stands before and after the first `c`. -/
def cutFirst (c : Char) (s : String) : Option (String × String) :=
  (cutFirstChars c s.toList).map fun (a, b) => (String.ofList a, String.ofList b)

/-- What stands before and after the last `c`. -/
def cutLast (c : Char) (s : String) : Option (String × String) :=
  (cutFirstChars c s.toList.reverse).map fun (b, a) =>
    (String.ofList a.reverse, String.ofList b.reverse)

/-- The text up to the first `c`, or all of it. -/
def beforeFirst (c : Char) (s : String) : String := ((cutFirst c s).map (·.1)).getD s

/-- The text after the last `c`, or all of it. -/
def afterLast (c : Char) (s : String) : String := ((cutLast c s).map (·.2)).getD s

/-- The text before the last `c`, or nothing. -/
def beforeLast (c : Char) (s : String) : String := ((cutLast c s).map (·.1)).getD ""

/-! ## Searching -/

def startsWith (s start : String) : Bool := start.toList.isPrefixOf s.toList

def endsWith (s ending : String) : Bool := ending.toList.isSuffixOf s.toList

/-- Does `part` stand somewhere in the list? -/
def occursIn (part : List Char) : List Char → Bool
  | [] => part.isEmpty
  | c :: rest => part.isPrefixOf (c :: rest) || occursIn part rest

/-- Does `part` stand somewhere in the text? -/
def contains (s part : String) : Bool := occursIn part.toList s.toList

/-- The text without its first `n` characters. -/
def dropChars (n : Nat) (s : String) : String := String.ofList (s.toList.drop n)

/-- The text without its last `n` characters. -/
def dropLastChars (n : Nat) (s : String) : String :=
  String.ofList (s.toList.take (s.toList.length - n))

/-- The text without the given ending, if it has it. -/
def withoutEnding (s ending : String) : String :=
  if endsWith s ending then dropLastChars ending.toList.length s else s

/-- Every `old` replaced by `new`. -/
def replaceChar (old new : Char) (s : String) : String :=
  String.ofList (s.toList.map fun c => if c = old then new else c)

end CodeAtlas.Text
