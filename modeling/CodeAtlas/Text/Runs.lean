/-!
# Runs of code points

A property of characters is given as a list of runs: the first and the last code point and the
distance between neighbours (1, or 2 where capitals and small letters alternate). The tables of
the modules beside this one are written as hexadecimal numerals and read by `numerals`.
-/

namespace CodeAtlas.Text

/-- The code points `first`, `first + stride`, … up to `last`. -/
structure Run where
  first : Nat
  last : Nat
  stride : Nat
  deriving Repr, DecidableEq

def Run.has (r : Run) (n : Nat) : Bool :=
  r.first ≤ n && n ≤ r.last && (n - r.first) % r.stride == 0

/-- Does one of the runs hold the character? -/
def inRuns (runs : List Run) (c : Char) : Bool := runs.any (·.has c.toNat)

/-! ## Reading a table -/

/-- The value of a hexadecimal digit in either case. -/
def hexDigit? (c : Char) : Option Nat :=
  if '0' ≤ c ∧ c ≤ '9' then some (c.toNat - '0'.toNat)
  else if 'a' ≤ c ∧ c ≤ 'f' then some (c.toNat - 'a'.toNat + 10)
  else if 'A' ≤ c ∧ c ≤ 'F' then some (c.toNat - 'A'.toNat + 10)
  else none

/-- One step of `numerals`: the finished numbers, latest first, and the one being read. -/
def numeralStep (s : List Nat × Option Nat) (c : Char) : List Nat × Option Nat :=
  match hexDigit? c, s.2 with
  | some d, some n => (s.1, some (16 * n + d))
  | some d, none => (s.1, some d)
  | none, some n => (n :: s.1, none)
  | none, none => s

/-- The hexadecimal numerals of a text, in order. -/
def numerals (text : String) : List Nat :=
  let (found, last) := text.foldl numeralStep ([], none)
  (last.toList ++ found).reverse

/-- Runs from triples `first last stride`. -/
def runsOf : List Nat → List Run
  | first :: last :: stride :: rest => ⟨first, last, stride⟩ :: runsOf rest
  | _ => []

/-! ## Runs with images -/

/-- A run whose code points are sent to `image`, `image + stride`, … -/
structure Shift extends Run where
  image : Nat
  deriving Repr, DecidableEq

/-- Shifts from quadruples `first last stride image`. -/
def shiftsOf : List Nat → List Shift
  | first :: last :: stride :: image :: rest => ⟨⟨first, last, stride⟩, image⟩ :: shiftsOf rest
  | _ => []

/-- The image of a character under the first shift that holds it. -/
def shifted? (shifts : List Shift) (c : Char) : Option Char :=
  (shifts.find? (·.has c.toNat)).map fun s => Char.ofNat (s.image + (c.toNat - s.first))

end CodeAtlas.Text
