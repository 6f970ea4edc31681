import CodeAtlas.Text.Numeral
import CodeAtlas.Text.Runs
import CodeAtlas.Toml.Value

/-!
# Scalars

Texts, numbers, dates and times as TOML writes them. Each reader takes the characters of a document
and answers with a value and what follows it.
-/

namespace CodeAtlas.Toml

open CodeAtlas.Text

/-- Why a document is refused. -/
inductive Fault where
  | malformed
  /-- A number has more digits than are supported. -/
  | tooLong
  /-- The bytes are no text. -/
  | notText
  deriving DecidableEq, Repr

def refuse {α : Type} : Except Fault α := .error .malformed

/-! ## Blanks and comments -/

def isSpace (c : Char) : Bool := c = ' ' || c = '\t'

def skipSpaces (cs : List Char) : List Char := cs.dropWhile isSpace

/-- A control character, which may stand nowhere in a line; the tabulator may. -/
def isControl (c : Char) : Bool := (c.toNat < 32 && c != '\t') || c.toNat = 127

/-- Skips a comment up to the end of its line. -/
def skipComment (cs : List Char) : Except Fault (List Char) :=
  match cs with
  | '#' :: rest =>
    if (rest.takeWhile (· != '\n')).any isControl then refuse
    else .ok (rest.dropWhile (· != '\n'))
  | _ => .ok cs

/-! ## Texts -/

def isScalarValue (n : Nat) : Bool := n < 0xD800 || (0xE000 ≤ n && n ≤ 0x10FFFF)

/-- A character given by `n` hexadecimal digits. -/
def readHexChar (n : Nat) (cs : List Char) : Except Fault (Char × List Char) := do
  let digits := cs.take n
  if digits.length < n || !digits.all (fun c => (hexDigit? c).isSome) then refuse
  let code := digits.foldl (fun v c => 16 * v + (hexDigit? c).getD 0) 0
  if isScalarValue code then return (Char.ofNat code, cs.drop n) else refuse

/-- The character that a letter after a backslash stands for. -/
def escaped? : Char → Option Char
  | 'b' => some '\x08'
  | 't' => some '\t'
  | 'n' => some '\n'
  | 'f' => some '\x0c'
  | 'r' => some '\r'
  | '"' => some '"'
  | '\\' => some '\\'
  | _ => none

/-- An escape, after its backslash; a text over several lines may continue on the next line that
is not blank. -/
def readEscape (multiline : Bool) (cs : List Char) : Except Fault (List Char × List Char) :=
  match cs with
  | [] => refuse
  | c :: rest =>
    if multiline && (isSpace c || c = '\n') then
      match skipSpaces (c :: rest) with
      | [] => .ok ([], [])
      | '\n' :: after => .ok ([], after.dropWhile fun c => isSpace c || c = '\n')
      | _ => refuse
    else if c = 'u' then do
      let (x, after) ← readHexChar 4 rest
      return ([x], after)
    else if c = 'U' then do
      let (x, after) ← readHexChar 8 rest
      return ([x], after)
    else
      match escaped? c with
      | some x => .ok ([x], rest)
      | none => refuse

/-- The rest of a text in double quotes; `taken` is what has been read, latest first. The number
bounds the steps. -/
def readBasic (multiline : Bool) : Nat → List Char → List Char → Except Fault (List Char × List Char)
  | 0, _, _ | _, _, [] => refuse
  | fuel + 1, taken, c :: rest =>
    if c = '"' then
      if !multiline then .ok (taken.reverse, rest)
      else
        match rest with
        | '"' :: '"' :: after => .ok (taken.reverse, after)
        | _ => readBasic multiline fuel (c :: taken) rest
    else if c = '\\' then do
      let (xs, after) ← readEscape multiline rest
      readBasic multiline fuel (xs.reverse ++ taken) after
    else if isControl c && !(multiline && c = '\n') then refuse
    else readBasic multiline fuel (c :: taken) rest

/-- A text in double quotes on one line, after the opening quote. -/
def readBasicLine (cs : List Char) : Except Fault (String × List Char) := do
  let (s, rest) ← readBasic false (cs.length + 1) [] cs
  return (String.ofList s, rest)

/-- A text in single quotes on one line, after the opening quote. -/
def readLiteralLine (cs : List Char) : Except Fault (String × List Char) :=
  match cs.span (· != '\'') with
  | (_, []) => refuse
  | (s, _ :: rest) => if s.any isControl then refuse else .ok (String.ofList s, rest)

/-- What stands before three single quotes. -/
def readLiteral : List Char → List Char → Except Fault (List Char × List Char)
  | _, [] => refuse
  | taken, '\'' :: '\'' :: '\'' :: rest => .ok (taken.reverse, rest)
  | taken, c :: rest =>
    if isControl c && c != '\n' then refuse else readLiteral (c :: taken) rest

/-- Up to two further quotes belong to a text that three quotes end. -/
def moreQuotes (q : Char) (s : List Char) : List Char → List Char × List Char
  | [] => (s, [])
  | a :: rest =>
    if a != q then (s, a :: rest)
    else
      match rest with
      | [] => (s ++ [q], [])
      | b :: after => if b = q then (s ++ [q, q], after) else (s ++ [q], b :: after)

/-- A text over several lines, after the three quotes that open it. -/
def readLines (q : Char) (cs : List Char) : Except Fault (String × List Char) := do
  let cs := match cs with
    | '\n' :: rest => rest
    | _ => cs
  let (s, rest) ← if q = '"' then readBasic true (cs.length + 1) [] cs else readLiteral [] cs
  let (s, rest) := moreQuotes q s rest
  return (String.ofList s, rest)

/-- A text in double or single quotes. -/
def readText (cs : List Char) : Option (Except Fault (String × List Char)) :=
  match cs with
  | '"' :: '"' :: '"' :: rest => some (readLines '"' rest)
  | '"' :: rest => some (readBasicLine rest)
  | '\'' :: '\'' :: '\'' :: rest => some (readLines '\'' rest)
  | '\'' :: rest => some (readLiteralLine rest)
  | _ => none

/-! ## Dates and times -/

def isAsciiDigit (c : Char) : Bool := '0' ≤ c && c ≤ '9'

/-- The value of `n` digits between two bounds, and what follows. -/
def readFixed (n low high : Nat) (cs : List Char) : Option (Nat × List Char) :=
  let digits := cs.take n
  if digits.length = n && digits.all isAsciiDigit then
    let v := digits.foldl (fun v c => 10 * v + (c.toNat - 48)) 0
    if low ≤ v && v ≤ high then some (v, cs.drop n) else none
  else none

def readMark (c : Char) : List Char → Option (List Char)
  | x :: rest => if x = c then some rest else none
  | [] => none

/-- What follows a time of day, with fractions of seconds. -/
def afterTime (cs : List Char) : Option (List Char) := do
  let (_, cs) ← readFixed 2 0 23 cs
  let (_, cs) ← readFixed 2 0 59 (← readMark ':' cs)
  let (_, cs) ← readFixed 2 0 59 (← readMark ':' cs)
  match cs with
  | '.' :: d :: rest => some (if isAsciiDigit d then rest.dropWhile isAsciiDigit else cs)
  | _ => some cs

/-- What follows an offset from universal time, if there is one. -/
def afterOffset (cs : List Char) : List Char :=
  match cs with
  | 'Z' :: rest | 'z' :: rest => rest
  | '+' :: rest | '-' :: rest =>
    let found := do
      let (_, rest) ← readFixed 2 0 23 rest
      let (_, rest) ← readFixed 2 0 59 (← readMark ':' rest)
      some rest
    found.getD cs
  | _ => cs

/-- The number of days of a month. -/
def daysOf (year month : Nat) : Nat :=
  if month = 2 then
    if year % 4 = 0 && (year % 100 != 0 || year % 400 = 0) then 29 else 28
  else if month = 4 || month = 6 || month = 9 || month = 11 then 30
  else 31

/-- A date, with a time if one follows. A date that the calendar lacks is refused. -/
def readDate (cs : List Char) : Option (Except Fault (Value × List Char)) := do
  let (year, cs) ← readFixed 4 0 9999 cs
  let (month, cs) ← readFixed 2 1 12 (← readMark '-' cs)
  let (day, cs) ← readFixed 2 1 31 (← readMark '-' cs)
  if year = 0 || daysOf year month < day then return refuse
  match cs with
  | c :: rest =>
    if c = 'T' || c = 't' || c = ' ' then
      match afterTime rest with
      | some after => return .ok (.moment, afterOffset after)
      | none => return .ok (.moment, cs)
    else return .ok (.moment, cs)
  | [] => return .ok (.moment, [])

/-! ## Numbers -/

/-- Digits of a class in which single underscores may separate digits, and what follows. The
underscores are left out. -/
def takeDigits (p : Char → Bool) : List Char → List Char × List Char
  | [] => ([], [])
  | [c] => if p c then ([c], []) else ([], [c])
  | c :: d :: rest =>
    if !p c then ([], c :: d :: rest)
    else
      match d, rest with
      | '_', e :: _ =>
        if p e then
          let (ds, after) := takeDigits p rest
          (c :: ds, after)
        else ([c], d :: rest)
      | _, _ =>
        let (ds, after) := takeDigits p (d :: rest)
        (c :: ds, after)

def baseValue (base : Nat) (ds : List Char) : Nat :=
  ds.foldl (fun v c => base * v + (hexDigit? c).getD 0) 0

/-- A whole number in one of the three written bases. -/
def readBased (cs : List Char) : Option (Value × List Char) :=
  let read (base : Nat) (p : Char → Bool) (rest : List Char) :=
    match takeDigits p rest with
    | ([], _) => none
    | (ds, after) => some (Value.int (baseValue base ds), after)
  match cs with
  | '0' :: 'x' :: rest => read 16 (fun c => (hexDigit? c).isSome) rest
  | '0' :: 'b' :: rest => read 2 (fun c => c = '0' || c = '1') rest
  | '0' :: 'o' :: rest => read 8 (fun c => '0' ≤ c && c ≤ '7') rest
  | _ => none

/-- The digits of a whole number without leading zeros. -/
def takeWhole (cs : List Char) : Option (List Char × List Char) :=
  match cs with
  | '0' :: rest => some (['0'], rest)
  | c :: _ => if isAsciiDigit c then some (takeDigits isAsciiDigit cs) else none
  | [] => none

/-- The digits after a point, if there are any. -/
def takeFraction (cs : List Char) : List Char × List Char :=
  match cs with
  | '.' :: rest =>
    match takeDigits isAsciiDigit rest with
    | ([], _) => ([], cs)
    | found => found
  | _ => ([], cs)

/-- An exponent, if there is one. -/
def takeExponent (cs : List Char) : Option Int × List Char :=
  match cs with
  | e :: rest =>
    if e = 'e' || e = 'E' then
      let (sign, digits) : Int × List Char := match rest with
        | '+' :: ds => (1, ds)
        | '-' :: ds => (-1, ds)
        | ds => (1, ds)
      match takeDigits isAsciiDigit digits with
      | ([], _) => (none, cs)
      | (ds, after) => (some (sign * baseValue 10 ds), after)
    else (none, cs)
  | [] => (none, [])

/-- Is `m * 10 ^ e` zero in double precision, that is at most half of the least number above it? -/
def isZeroFloat (m : Nat) (digits : Nat) (e : Int) : Bool :=
  m == 0 || (digits + e < -400) || (e < 0 && m * Nat.pow 2 1075 ≤ Nat.pow 10 (-e).toNat)

/-- A whole number or a floating one. -/
def readNumber (cs : List Char) : Option (Except Fault (Value × List Char)) := do
  match readBased cs with
  | some found => return .ok found
  | none =>
    let (sign, digits) : Int × List Char := match cs with
      | '+' :: ds => (1, ds)
      | '-' :: ds => (-1, ds)
      | ds => (1, ds)
    let (whole, rest) ← takeWhole digits
    let (fraction, rest) := takeFraction rest
    let (exponent, rest) := takeExponent rest
    if fraction.isEmpty && exponent.isNone then
      if whole.length ≤ maxDigits then return .ok (.int (sign * baseValue 10 whole), rest)
      else return .error .tooLong
    else
      let ds := whole ++ fraction
      let e := exponent.getD 0 - fraction.length
      return .ok (.float (isZeroFloat (baseValue 10 ds) ds.length e), rest)

/-- Infinity and the value that is no number. -/
def readSpecial (cs : List Char) : Option (Except Fault (Value × List Char)) :=
  let unsigned := match cs with
    | '+' :: rest | '-' :: rest => rest
    | _ => cs
  match unsigned with
  | 'i' :: 'n' :: 'f' :: rest | 'n' :: 'a' :: 'n' :: rest => some (.ok (.float false, rest))
  | _ => none

def readBool (cs : List Char) : Option (Except Fault (Value × List Char)) :=
  match cs with
  | 't' :: 'r' :: 'u' :: 'e' :: rest => some (.ok (.bool true, rest))
  | 'f' :: 'a' :: 'l' :: 's' :: 'e' :: rest => some (.ok (.bool false, rest))
  | _ => none

/-- A value that holds no others. -/
def readScalar (cs : List Char) : Except Fault (Value × List Char) :=
  let found : Option (Except Fault (Value × List Char)) :=
    (readText cs).map (fun r => r.map fun (s, rest) => (.text s, rest)) <|> readBool cs <|>
      readDate cs <|> ((afterTime cs).map fun rest => .ok (.moment, rest)) <|> readNumber cs <|>
      readSpecial cs
  found.getD refuse

end CodeAtlas.Toml
