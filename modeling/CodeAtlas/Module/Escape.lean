import CodeAtlas.Text.Runs

/-!
# Escapes in literals

What stands between the quotes of a literal, with its escapes read. An escape that is not known
stands for itself. Characters without a scalar value do not exist here: two halves of a pair are
joined, and a lone half reads as U+FFFD, as does a character given by its name.
-/

namespace CodeAtlas.Module

open CodeAtlas.Text (hexDigit?)

/-! ## Codes -/

/-- Reads `count` hexadecimal digits. -/
def readHex (value : Nat) : Nat → List Char → Option (Nat × List Char)
  | 0, cs => some (value, cs)
  | _ + 1, [] => none
  | count + 1, c :: rest => (hexDigit? c).bind fun d => readHex (16 * value + d) count rest

def octalDigit? (c : Char) : Option Nat :=
  if '0' ≤ c ∧ c ≤ '7' then some (c.toNat - '0'.toNat) else none

/-- Reads up to `count` octal digits. -/
def readOctal (value : Nat) : Nat → List Char → Nat × List Char
  | 0, cs => (value, cs)
  | _ + 1, [] => (value, [])
  | count + 1, c :: rest =>
    match octalDigit? c with
    | some d => readOctal (8 * value + d) count rest
    | none => (value, c :: rest)

/-- The character that a letter stands for behind a backslash. -/
def letterEscape? : Char → Option Char
  | '\\' => some '\\'
  | '\'' => some '\''
  | '"' => some '"'
  | 'a' => some '\x07'
  | 'b' => some '\x08'
  | 'f' => some '\x0c'
  | 'n' => some '\n'
  | 'r' => some '\r'
  | 't' => some '\t'
  | 'v' => some '\x0b'
  | _ => none

/-! ## Texts -/

/-- The number of hexadecimal digits behind a letter, if it takes any. -/
def codeWidth? : Char → Option Nat
  | 'x' => some 2
  | 'u' => some 4
  | 'U' => some 8
  | _ => none

/-- What follows a name in braces. -/
def afterName : List Char → Option (List Char)
  | '\x7b' :: rest =>
    match rest.span (· != '\x7d') with
    | (_ :: _, _ :: after) => some after
    | _ => none
  | _ => none

/-- Reads the escape behind a backslash: the codes that it stands for, and what follows. -/
def textEscape : List Char → Option (List Nat × List Char)
  | [] => some (['\\'.toNat], [])
  | '\n' :: rest => some ([], rest)
  | 'N' :: rest => (afterName rest).map fun after => ([0xFFFD], after)
  | c :: rest =>
    match letterEscape? c, codeWidth? c, octalDigit? c with
    | some x, _, _ => some ([x.toNat], rest)
    | _, some width, _ => (readHex 0 width rest).map fun (n, after) => ([n], after)
    | _, _, some _ => let (n, after) := readOctal 0 3 (c :: rest); some ([n], after)
    | _, _, _ => some (['\\'.toNat, c.toNat], rest)

/-- The codes of a text with escapes. The number bounds the length of the text. -/
def textCodes : Nat → List Char → Option (List Nat)
  | 0, _ => some []
  | _, [] => some []
  | fuel + 1, '\\' :: rest => do
    let (codes, after) ← textEscape rest
    return codes ++ (← textCodes fuel after)
  | fuel + 1, c :: rest => (textCodes fuel rest).map (c.toNat :: ·)

/-- The characters of some codes; `none` beyond the last code. -/
def joinCodes : List Nat → Option (List Char)
  | [] => some []
  | [n] => if n < 0x110000 then some [if n.isValidChar then Char.ofNat n else '\uFFFD'] else none
  | m :: n :: rest =>
    if 0xD800 ≤ m ∧ m < 0xDC00 ∧ 0xDC00 ≤ n ∧ n < 0xE000 then
      (joinCodes rest).map (Char.ofNat (0x10000 + (m - 0xD800) * 0x400 + (n - 0xDC00)) :: ·)
    else if m < 0x110000 then
      (joinCodes (n :: rest)).map ((if m.isValidChar then Char.ofNat m else '\uFFFD') :: ·)
    else none

/-- The text of a literal without its quotes. -/
def unescape (cs : List Char) : Option (List Char) := (textCodes cs.length cs).bind joinCodes

/-! ## Bytes -/

/-- Reads the escape behind a backslash in a literal of bytes. -/
def byteEscape : List Char → Option (List Nat × List Char)
  | [] => none
  | '\n' :: rest => some ([], rest)
  | c :: rest =>
    match letterEscape? c, octalDigit? c with
    | some x, _ => some ([x.toNat], rest)
    | _, some _ => let (n, after) := readOctal 0 3 (c :: rest); some ([n % 256], after)
    | _, _ =>
      if c = 'x' then (readHex 0 2 rest).map fun (n, after) => ([n], after)
      else some (['\\'.toNat, c.toNat], rest)

/-- The values of bytes with escapes. The number bounds the length of the literal. -/
def byteValues : Nat → List Char → Option (List Nat)
  | 0, _ => some []
  | _, [] => some []
  | fuel + 1, '\\' :: rest => do
    let (codes, after) ← byteEscape rest
    return codes ++ (← byteValues fuel after)
  | fuel + 1, c :: rest => (byteValues fuel rest).map (c.toNat :: ·)

/-- The bytes of a literal, whose characters are ASCII. -/
def unescapeBytes (raw : Bool) (cs : List Char) : Option (List UInt8) :=
  if cs.any fun c => 127 < c.toNat then none
  else if raw then some (cs.map fun c => c.toNat.toUInt8)
  else (byteValues cs.length cs).map fun ns => ns.map (·.toUInt8)

end CodeAtlas.Module
