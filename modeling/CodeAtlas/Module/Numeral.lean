import CodeAtlas.Module.Tree
import CodeAtlas.Text.Numeral

/-!
# Numbers in a module

The longest number at the beginning of a text. A single underscore may stand between digits, and a
number must not run into a word, unless that is an operator or another word that can follow it.
-/

namespace CodeAtlas.Module

open CodeAtlas.Text (hexDigit?)

def isAsciiDigit (c : Char) : Bool := '0' ≤ c && c ≤ '9'

/-- Characters that cannot follow a number: those of words. -/
def continuesWord (c : Char) : Bool := c.isAlphanum || c = '_' || 127 < c.toNat

/-- Characters that a word begins with. -/
def beginsWord (c : Char) : Bool := continuesWord c && !isAsciiDigit c

/-- The words that may follow a number without a blank. -/
def joinable : List String := ["and", "else", "for", "if", "in", "is", "or", "not"]

/-- May a number end here? -/
def endsNumber (cs : List Char) : Bool :=
  joinable.any (fun w => w.toList.isPrefixOf cs) || !(cs.head?.any continuesWord)

/-! ## Digits -/

/-- Digits of a kind with underscores between them, and what follows; the first has to be there. -/
def digitRun (isDigit : Char → Bool) : List Char → Option (List Char × List Char)
  | [] => none
  | c :: rest =>
    if !isDigit c then none
    else
      match rest with
      | [] => some ([c], [])
      | d :: after =>
        if d = '_' then (digitRun isDigit after).map fun (ds, r) => (c :: ds, r)
        else if isDigit d then (digitRun isDigit (d :: after)).map fun (ds, r) => (c :: ds, r)
        else some ([c], d :: after)

/-- Digits with underscores, if there are any. -/
def digitRun? (cs : List Char) : Option (List Char × List Char) :=
  if cs.head?.any isAsciiDigit then digitRun isAsciiDigit cs else some ([], cs)

/-- The value of digits to a base. -/
def digitsValue (base : Nat) (ds : List Char) : Nat :=
  ds.foldl (fun n d => base * n + (hexDigit? d).getD 0) 0

/-! ## Numbers -/

/-- A whole number behind the mark of its base; an underscore may follow the mark. -/
def basedNumber (base : Nat) (isDigit : Char → Bool) (cs : List Char) :
    Option (Constant × List Char) := do
  let (ds, rest) ← digitRun isDigit (if cs.head? = some '_' then cs.drop 1 else cs)
  if endsNumber rest && !(rest.head?.any isAsciiDigit) then
    return (.int (digitsValue base ds), rest)
  else none

/-- An exponent and what follows. A letter without digits is no exponent but may begin a word. -/
def exponentAt (cs : List Char) : Option (Option Int × List Char) :=
  match cs with
  | e :: rest =>
    if e = 'e' || e = 'E' then
      match rest with
      | s :: after =>
        if s = '+' || s = '-' then
          (digitRun isAsciiDigit after).map fun (ds, r) =>
            let n : Int := digitsValue 10 ds
            (some (if s = '-' then -n else n), r)
        else if isAsciiDigit s then
          (digitRun isAsciiDigit rest).map fun (ds, r) => (some (digitsValue 10 ds : Nat), r)
        else some (none, cs)
      | [] => some (none, cs)
    else some (none, cs)
  | [] => some (none, [])

/-- A whole decimal number: it has no needless zeros in front and not too many digits. -/
def wholeNumber (ds : List Char) : Option Constant :=
  if ds.all (· = '0') then some (.int 0)
  else if ds.head? = some '0' || Text.maxDigits < ds.length then none
  else some (.int (digitsValue 10 ds))

/-- A decimal number; `whole` are its digits before the point. -/
def decimalNumber (whole rest : List Char) : Option (Constant × List Char) := do
  let pointed := rest.head? = some '.'
  let (fraction, rest) ← if pointed then digitRun? (rest.drop 1) else some ([], rest)
  let (exponent, rest) ← exponentAt rest
  let value : Decimal :=
    ⟨digitsValue 10 (whole ++ fraction), exponent.getD 0 - (fraction.length : Int)⟩
  if rest.head?.any fun c => c = 'j' || c = 'J' then
    if endsNumber (rest.drop 1) then return (.imaginary value, rest.drop 1) else none
  else if !endsNumber rest then none
  else if pointed || exponent.isSome then return (.float value, rest)
  else return (← wholeNumber whole, rest)

/-- The number at the beginning of a text that begins with a digit or a point and a digit. -/
def readNumber (cs : List Char) : Option (Constant × List Char) :=
  match cs with
  | '0' :: c :: rest =>
    if c = 'x' || c = 'X' then basedNumber 16 (fun d => (hexDigit? d).isSome) rest
    else if c = 'o' || c = 'O' then basedNumber 8 (fun d => '0' ≤ d && d < '8') rest
    else if c = 'b' || c = 'B' then basedNumber 2 (fun d => d = '0' || d = '1') rest
    else do
      let (whole, after) ← digitRun? cs
      decimalNumber whole after
  | _ => do
    let (whole, after) ← digitRun? cs
    decimalNumber whole after

end CodeAtlas.Module
