import CodeAtlas.Json.Value
import CodeAtlas.Text.Runs

/-!
# The grammar of JSON texts

`Value.Stands v cs` says that the characters `cs` are a JSON text of the value `v`, whatever its layout
and its escapes: blanks may stand between any two tokens, and a character may be written as itself,
behind a backslash or by its number.
-/

namespace CodeAtlas.Json

open Text (hexDigit?)

/-! ## Blanks -/

/-- The characters that may stand between tokens. -/
def isBlank (c : Char) : Bool := c = ' ' || c = '\t' || c = '\n' || c = '\r'

def Blanks (cs : List Char) : Prop := ∀ c ∈ cs, isBlank c = true

/-- One of some texts with blanks around it. -/
def Padded (P : List Char → Prop) (cs : List Char) : Prop :=
  ∃ left t right, Blanks left ∧ P t ∧ Blanks right ∧ cs = left ++ t ++ right

def skipBlanks (cs : List Char) : List Char := cs.dropWhile isBlank

/-! ## Texts -/

/-- What a letter behind a backslash stands for. -/
def escaped? (c : Char) : Option Char :=
  [('"', '"'), ('\\', '\\'), ('/', '/'), ('b', '\x08'), ('f', '\x0c'), ('n', '\n'), ('r', '\r'),
    ('t', '\t')].lookup c

/-- The number that four hexadecimal digits write. -/
def unit? : List Char → Option Nat
  | [a, b, c, d] => do
    return 16 * (16 * (16 * (← hexDigit? a) + (← hexDigit? b)) + (← hexDigit? c)) + (← hexDigit? d)
  | _ => none

/-- The first one of the two numbers that a character beyond the first plane is written by. -/
def isHigh (n : Nat) : Bool := 0xD800 ≤ n && n < 0xDC00

/-- The second one of them. -/
def isLow (n : Nat) : Bool := 0xDC00 ≤ n && n < 0xE000

def joined (high low : Nat) : Nat := 0x10000 + (high - 0xD800) * 0x400 + (low - 0xDC00)

/-- The ways to write a character inside quotes. -/
inductive Spells : Char → List Char → Prop
  | plain {c : Char} : c ≠ '"' → c ≠ '\\' → 32 ≤ c.toNat → Spells c [c]
  | letter {c e : Char} : escaped? e = some c → Spells c ['\\', e]
  | number {c : Char} {ds : List Char} : unit? ds = some c.toNat → Spells c ('\\' :: 'u' :: ds)
  | numbers {c : Char} {ds es : List Char} {high low : Nat} : unit? ds = some high →
      unit? es = some low → isHigh high = true → isLow low = true → c.toNat = joined high low →
      Spells c ('\\' :: 'u' :: ds ++ '\\' :: 'u' :: es)

/-- The ways to write characters one after the other. -/
inductive SpellsAll : List Char → List Char → Prop
  | nil : SpellsAll [] []
  | cons {c : Char} {cs t ts : List Char} : Spells c t → SpellsAll cs ts →
      SpellsAll (c :: cs) (t ++ ts)

/-- The ways to write a text in quotes. -/
def Quotes (s : String) (cs : List Char) : Prop :=
  ∃ inner, SpellsAll s.toList inner ∧ cs = '"' :: inner ++ ['"']

/-! ## Numbers -/

/-- Digits without a needless zero in front. -/
structure IsWhole (ds : List Char) : Prop where
  ne_nil : ds ≠ []
  digits : ∀ d ∈ ds, d.isDigit = true
  front : ds.head? = some '0' → ds = ['0']

/-- The ways to write a whole number. -/
inductive Numeral : Int → List Char → Prop
  | plain {ds : List Char} : IsWhole ds → Numeral (Nat.ofDigitChars 10 ds 0) ds
  | minus {ds : List Char} : IsWhole ds → Numeral (-(Nat.ofDigitChars 10 ds 0 : Nat)) ('-' :: ds)

/-! ## Values -/

/-- The texts of a name with a value that has some texts. -/
def Pair (k : String) (P : List Char → Prop) (cs : List Char) : Prop :=
  ∃ front back, Padded (Quotes k) front ∧ Padded P back ∧ cs = front ++ ':' :: back

mutual

/-- The texts of a value, without blanks around them. -/
def Value.Stands : Value → List Char → Prop
  | .null, cs => cs = "null".toList
  | .bool true, cs => cs = "true".toList
  | .bool false, cs => cs = "false".toList
  | .int n, cs => Numeral n cs
  | .text s, cs => Quotes s cs
  | .array items, cs => ∃ inner, ItemsStand items inner ∧ cs = '[' :: inner ++ [']']
  | .object members, cs => ∃ inner, MembersStand members inner ∧ cs = '\x7b' :: inner ++ ['\x7d']

/-- The texts of some items with commas between them. -/
def ItemsStand : List Value → List Char → Prop
  | [], cs => Blanks cs
  | [v], cs => Padded v.Stands cs
  | v :: rest, cs => ∃ front more, Padded v.Stands front ∧ ItemsStand rest more ∧
      cs = front ++ ',' :: more

/-- The texts of some members with commas between them. -/
def MembersStand : List (String × Value) → List Char → Prop
  | [], cs => Blanks cs
  | [(k, v)], cs => Pair k v.Stands cs
  | (k, v) :: rest, cs => ∃ front more, Pair k v.Stands front ∧ MembersStand rest more ∧
      cs = front ++ ',' :: more

end

/-- A whole text of a value. -/
def Value.Document (v : Value) (cs : List Char) : Prop := Padded v.Stands cs

end CodeAtlas.Json
