import CodeAtlas.Text.Numeral
import CodeAtlas.Text.Quoted

/-!
# JSON texts

The values that an index is written as, and their two written forms: the compact one without any
blanks, and the spread one with an indentation of two blanks for each level.
-/

namespace CodeAtlas.Json

inductive Value where
  | null
  | bool (b : Bool)
  | int (n : Int)
  | text (s : String)
  | array (items : List Value)
  | object (members : List (String × Value))
  deriving Inhabited

/-! ## Numbers -/

mutual

/-- The numbers in a value, in their order. -/
def Value.numbers : Value → List Int
  | .int n => [n]
  | .array items => numbersOfItems items
  | .object members => numbersOfMembers members
  | _ => []

def numbersOfItems : List Value → List Int
  | [] => []
  | v :: rest => v.numbers ++ numbersOfItems rest

def numbersOfMembers : List (String × Value) → List Int
  | [] => []
  | (_, v) :: rest => v.numbers ++ numbersOfMembers rest

end

/-- Is a number short enough to be written? -/
def fits (n : Int) : Bool := n.natAbs < Nat.pow 10 Text.maxDigits

/-! ## Texts -/

/-- A character inside quotes. Only quotes, backslashes and control characters are escaped. -/
def escapeChar (c : Char) : List Char :=
  if c = '"' then ['\\', '"']
  else if c = '\\' then ['\\', '\\']
  else if c = '\n' then ['\\', 'n']
  else if c = '\r' then ['\\', 'r']
  else if c = '\t' then ['\\', 't']
  else if c = '\x08' then ['\\', 'b']
  else if c = '\x0c' then ['\\', 'f']
  else if c.toNat < 32 then ['\\', 'u'] ++ Text.hexPadded 4 c.toNat
  else [c]

/-- A text in quotes. -/
def quote (s : String) : List Char := '"' :: s.toList.flatMap escapeChar ++ ['"']

/-- The digits of a whole number. -/
def number (n : Int) : List Char := (toString n).toList

/-! ## The compact form -/

mutual

def Value.compact : Value → List Char
  | .null => "null".toList
  | .bool true => "true".toList
  | .bool false => "false".toList
  | .int n => number n
  | .text s => quote s
  | .array items => '[' :: compactItems items ++ [']']
  | .object members => '\x7b' :: compactMembers members ++ ['\x7d']

def compactItems : List Value → List Char
  | [] => []
  | [v] => v.compact
  | v :: rest => v.compact ++ ',' :: compactItems rest

def compactMembers : List (String × Value) → List Char
  | [] => []
  | [(k, v)] => quote k ++ ':' :: v.compact
  | (k, v) :: rest => quote k ++ ':' :: v.compact ++ ',' :: compactMembers rest

end

/-! ## The spread form -/

/-- A line end and the indentation of a level. -/
def newLine (level : Nat) : List Char := '\n' :: List.replicate (2 * level) ' '

mutual

/-- The spread form at a level. Empty lists and objects stay on their line. -/
def Value.spread (level : Nat) : Value → List Char
  | .null => "null".toList
  | .bool true => "true".toList
  | .bool false => "false".toList
  | .int n => number n
  | .text s => quote s
  | .array [] => ['[', ']']
  | .array (v :: rest) =>
    '[' :: newLine (level + 1) ++ v.spread (level + 1) ++ spreadItems (level + 1) rest ++
      newLine level ++ [']']
  | .object [] => ['\x7b', '\x7d']
  | .object ((k, v) :: rest) =>
    '\x7b' :: newLine (level + 1) ++ quote k ++ [':', ' '] ++ v.spread (level + 1) ++
      spreadMembers (level + 1) rest ++ newLine level ++ ['\x7d']

/-- The items after the first. -/
def spreadItems (level : Nat) : List Value → List Char
  | [] => []
  | v :: rest => ',' :: newLine level ++ v.spread level ++ spreadItems level rest

/-- The members after the first. -/
def spreadMembers (level : Nat) : List (String × Value) → List Char
  | [] => []
  | (k, v) :: rest =>
    ',' :: newLine level ++ quote k ++ [':', ' '] ++ v.spread level ++ spreadMembers level rest

end

end CodeAtlas.Json
