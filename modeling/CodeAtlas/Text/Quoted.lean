import CodeAtlas.Text.Printable

/-!
# Quoted texts

How a text is shown in a message or as a literal in source: in single quotes, or in double quotes
if it holds single quotes and no double ones, with escapes for what cannot be printed.
-/

namespace CodeAtlas.Text

/-- The digit of a value below 16, in small letters. -/
def hexChar (d : Nat) : Char := if d < 10 then Char.ofNat (48 + d) else Char.ofNat (87 + d)

/-- The `width` low hexadecimal digits of a number. -/
def hexPadded : Nat → Nat → List Char
  | 0, _ => []
  | width + 1, n => hexPadded width (n / 16) ++ [hexChar (n % 16)]

/-- A character inside the given quotes. -/
def escapeChar (quote c : Char) : List Char :=
  if c = quote || c = '\\' then ['\\', c]
  else if c = '\n' then ['\\', 'n']
  else if c = '\r' then ['\\', 'r']
  else if c = '\t' then ['\\', 't']
  else if isPrintable c then [c]
  else
    let n := c.toNat
    if n < 0x100 then ['\\', 'x'] ++ hexPadded 2 n
    else if n < 0x10000 then ['\\', 'u'] ++ hexPadded 4 n
    else ['\\', 'U'] ++ hexPadded 8 n

/-- The quotes for a text: double only if it holds a single quote and no double one. -/
def quoteFor (cs : List Char) : Char :=
  if cs.contains '\'' && !cs.contains '"' then '"' else '\''

/-- The text in quotes. -/
def quoted (s : String) : String :=
  let cs := s.toList
  let q := quoteFor cs
  String.ofList (q :: cs.flatMap (escapeChar q) ++ [q])

end CodeAtlas.Text
