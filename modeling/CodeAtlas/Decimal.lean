/-!
# Decimal numbers and doubles

A number written in decimal is rounded to the nearest double and shown again with the fewest digits
that lead back to the same double. All arithmetic is exact.
-/

namespace CodeAtlas

/-- The number `digits * 10 ^ exponent`. -/
structure Decimal where
  digits : Nat
  exponent : Int
  deriving DecidableEq, Repr

/-- The number `mantissa * 2 ^ exponent`. -/
structure Double where
  mantissa : Nat
  exponent : Int
  deriving DecidableEq, Repr

/-! ## Quotients -/

/-- How many decimal digits a number has. -/
def digitCount (n : Nat) : Nat := (toString n).length

/-- Numerator and denominator of `n * base ^ e`. -/
def scaled (n base : Nat) (e : Int) : Nat × Nat :=
  if 0 ≤ e then (n * base.pow e.toNat, 1) else (n, base.pow (-e).toNat)

/-- The quotient rounded to the nearest number, a half to the even one. -/
def roundQuotient (a b : Nat) : Nat :=
  let q := a / b
  let r := 2 * (a % b)
  if r < b then q else if b < r then q + 1 else q + q % 2

/-- The quotient of `a` by `b * base ^ e` as a fraction. -/
def scaledQuotient (a b base : Nat) (e : Int) : Nat × Nat :=
  if 0 ≤ e then (a, b * base.pow e.toNat) else (a * base.pow (-e).toNat, b)

/-! ## Rounding to a double -/

namespace Decimal

/-- The exponent at which the fraction `a / b` has a mantissa of 53 bits, or the least one. -/
def binaryExponent (a b : Nat) : Int :=
  let q : Int := (a.log2 : Int) - (b.log2 : Int) - 52
  let (x, y) := scaledQuotient a b 2 q
  max (if x < y * Nat.pow 2 52 then q - 1 else q) (-1074)

/-- The double nearest to the fraction `a / b`; `none` if it is too large. -/
def nearestFraction (a b : Nat) : Option Double :=
  let q := binaryExponent a b
  let (x, y) := scaledQuotient a b 2 q
  let m := roundQuotient x y
  let d : Double := if m = Nat.pow 2 53 then ⟨Nat.pow 2 52, q + 1⟩ else ⟨m, q⟩
  if 971 < d.exponent then none else some d

/-- The nearest double; `none` if the number is too large. -/
def nearest (d : Decimal) : Option Double :=
  let size := (digitCount d.digits : Int) + d.exponent
  if d.digits = 0 || size < -330 then some ⟨0, 0⟩
  else if 310 < size then none
  else
    let (a, b) := scaled d.digits 10 d.exponent
    nearestFraction a b

/-- The number without zeros at the end of its digits. The count bounds how many are dropped. -/
def dropZeros : Nat → Decimal → Decimal
  | 0, d => d
  | fuel + 1, d =>
    if d.digits % 10 = 0 && d.digits != 0 then dropZeros fuel ⟨d.digits / 10, d.exponent + 1⟩ else d

end Decimal

/-! ## The shortest decimal -/

namespace Double

/-- The number of digits before the point of the fraction `a / b`, or less the zeros after it. -/
def pointOf (a b : Nat) : Int :=
  let p : Int := (digitCount a : Int) - (digitCount b : Int)
  let (x, y) := scaledQuotient a b 10 p
  if x < y then p else p + 1

/-- The decimal of `count` digits nearest to a double among its two neighbours on their grid that
round to it. -/
def candidate (d : Double) (a b : Nat) (count : Nat) : Option Decimal :=
  let e := pointOf a b - (count : Int)
  let (x, y) := scaledQuotient a b 10 e
  let low : Decimal := ⟨x / y, e⟩
  let high : Decimal := ⟨x / y + 1, e⟩
  let fits (c : Decimal) : Bool := c.nearest == some d
  let nearHigh : Bool := y < 2 * (x % y) || (y == 2 * (x % y) && low.digits % 2 == 1)
  if fits low && fits high then some (if nearHigh then high else low)
  else if fits low then some low
  else if fits high then some high
  else none

/-- The decimal with the fewest digits that rounds to the double. -/
def shortest (d : Double) : Decimal :=
  let (a, b) := scaled d.mantissa 2 d.exponent
  if d.mantissa = 0 then ⟨0, 0⟩
  else
    match (List.range 17).findSome? fun n => candidate d a b (n + 1) with
    | some c => c.dropZeros 17
    | none => ⟨d.mantissa, 0⟩

end Double

/-! ## Text -/

namespace Decimal

def zeros (n : Nat) : String := String.ofList (List.replicate n '0')

/-- Digits with a point before position `point`; `ending` follows whole numbers. -/
def positional (digits : String) (point : Int) (ending : String) : String :=
  let n : Int := digits.length
  if point ≤ 0 then "0." ++ zeros (-point).toNat ++ digits
  else if n ≤ point then digits ++ zeros (point - n).toNat ++ ending
  else
    String.ofList (digits.toList.take point.toNat) ++ "." ++
      String.ofList (digits.toList.drop point.toNat)

/-- One digit before the point and an exponent of two digits or more. -/
def exponential (digits : String) (exponent : Int) : String :=
  let rest := String.ofList (digits.toList.drop 1)
  let size := exponent.natAbs
  String.ofList (digits.toList.take 1) ++ (if rest.isEmpty then "" else "." ++ rest) ++ "e" ++
    (if exponent < 0 then "-" else "+") ++ (if size < 10 then "0" else "") ++ toString size

/-- The text of a number: positional from a ten-thousandth up to below ten to the sixteenth. -/
def text (ending : String) (d : Decimal) : String :=
  let digits := toString d.digits
  let point := (digits.length : Int) + d.exponent
  if d.digits = 0 then "0" ++ ending
  else if -4 < point ∧ point ≤ 16 then positional digits point ending
  else exponential digits (point - 1)

/-- A number as its nearest double is shown; one too large is shown as a number that reads as
too large again. -/
def shown (ending : String) (d : Decimal) : String :=
  match d.nearest with
  | some x => x.shortest.text ending
  | none => "1e309"

end Decimal

end CodeAtlas
