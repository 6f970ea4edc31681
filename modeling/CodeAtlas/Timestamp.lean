import CodeAtlas.Text.Numeral
import CodeAtlas.Text.Split

/-!
# Timestamps

The moment at which an index was made, in universal time, from a number of seconds since the epoch.
The calendar is the Gregorian one, carried back before its introduction; years run from 1 to 9999.
-/

namespace CodeAtlas

structure Date where
  year : Int
  month : Nat
  day : Nat
  deriving DecidableEq, Repr

/-- The date of a day counted from the epoch. Years are counted from March, so that leap days end
them, in eras of 400 years. -/
def Date.ofDays (days : Int) : Date :=
  let shifted := days + 719468
  let era := shifted.fdiv 146097
  let dayOfEra := (shifted - era * 146097).toNat
  let yearOfEra := (dayOfEra - dayOfEra / 1460 + dayOfEra / 36524 - dayOfEra / 146096) / 365
  let dayOfYear := dayOfEra - (365 * yearOfEra + yearOfEra / 4 - yearOfEra / 100)
  let shiftedMonth := (5 * dayOfYear + 2) / 153
  let month := if shiftedMonth < 10 then shiftedMonth + 3 else shiftedMonth - 9
  let year := (yearOfEra : Int) + era * 400 + (if month ≤ 2 then 1 else 0)
  ⟨year, month, dayOfYear - (153 * shiftedMonth + 2) / 5 + 1⟩

/-- Two digits. -/
def twoDigits (n : Nat) : String := (if n < 10 then "0" else "") ++ toString n

/-- The timestamp of a moment, unless its year is out of bounds. -/
def timestamp? (seconds : Int) : Option String :=
  let days := seconds.fdiv 86400
  let rest := (seconds - days * 86400).toNat
  let date := Date.ofDays days
  if date.year < 1 ∨ 9999 < date.year then none
  else
    some (toString date.year ++ "-" ++ twoDigits date.month ++ "-" ++ twoDigits date.day ++ "T" ++
      twoDigits (rest / 3600) ++ ":" ++ twoDigits (rest / 60 % 60) ++ ":" ++
      twoDigits (rest % 60) ++ "Z")

/-- The timestamp that a text gives as a number of seconds. -/
def readTimestamp (text : String) : Option String := (Text.readInt text).bind timestamp?

end CodeAtlas
