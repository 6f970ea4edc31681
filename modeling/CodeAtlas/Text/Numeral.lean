import CodeAtlas.Text.Blank
import CodeAtlas.Text.Runs

/-!
# Digits and whole numbers in texts

Every script's ten decimal digits stand in one block, zero first, so a table of zeros gives the value
of a digit.

`readInt` reads what people type as a whole number: blanks around it, a sign, digits of any
script, and single underscores between digits. A number of more than `maxDigits` digits is
refused.
-/

namespace CodeAtlas.Text

/-- The zero of every block of ten decimal digits: general category `Nd`. -/
def zeros : List Nat := numerals "30 660 6F0 7C0 966 9E6 A66 AE6 B66 BE6 C66 CE6 D66 DE6 E50 ED0 F20 1040 1090 17E0 1810 1946 19D0
1A80 1A90 1B50 1BB0 1C40 1C50 A620 A8D0 A900 A9D0 A9F0 AA50 ABF0 FF10 104A0 10D30 11066 110F0
11136 111D0 112F0 11450 114D0 11650 116C0 11730 118E0 11950 11C50 11D50 11DA0 16A60 16AC0 16B50
1D7CE 1D7D8 1D7E2 1D7EC 1D7F6 1E140 1E2F0 1E950 1FBF0"

/-- The value of a decimal digit of any script. -/
def digit? (c : Char) : Option Nat :=
  (zeros.find? fun z => z ≤ c.toNat && c.toNat < z + 10).map (c.toNat - ·)

def isDigit (c : Char) : Bool := (digit? c).isSome

/-- The longest decimal numeral that is read or written. -/
def maxDigits : Nat := 4300

/-- The value of a list of digits, most significant first. -/
def digitsValue (ds : List Nat) : Nat := ds.foldl (fun n d => 10 * n + d) 0

/-- The digits of a list of characters in which single underscores may separate digits. -/
def readDigits : List Char → Option (List Nat)
  | [] => none
  | [c] => (digit? c).map ([·])
  | c :: '_' :: rest => do
    let d ← digit? c
    let ds ← readDigits rest
    some (d :: ds)
  | c :: rest => do
    let d ← digit? c
    let ds ← readDigits rest
    some (d :: ds)

/-- A number without sign; `none` if it is malformed or too long. -/
def readNat (cs : List Char) : Option Nat := do
  let ds ← readDigits cs
  if ds.length ≤ maxDigits then some (digitsValue ds) else none

/-- A whole number; `none` if it is malformed or too long. -/
def readInt (s : String) : Option Int :=
  match trimBy isBlank s.toList with
  | '-' :: rest => (readNat rest).map fun n => -(n : Int)
  | '+' :: rest => (readNat rest).map fun n => (n : Int)
  | cs => (readNat cs).map fun n => (n : Int)

end CodeAtlas.Text
