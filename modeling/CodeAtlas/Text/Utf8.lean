/-!
# UTF-8

Bytes of a text and back. Two readings of bytes: `decode?` refuses ill-formed input, and
`decodeLossy` puts U+FFFD for every maximal ill-formed part, so that it never fails.
-/

namespace CodeAtlas.Text

/-! ## Writing -/

/-- The bytes of a code point. -/
def encodeChar (c : Char) : List UInt8 :=
  let n := c.toNat
  if n < 0x80 then [n.toUInt8]
  else if n < 0x800 then [(0xC0 + n / 64).toUInt8, (0x80 + n % 64).toUInt8]
  else if n < 0x10000 then
    [(0xE0 + n / 4096).toUInt8, (0x80 + n / 64 % 64).toUInt8, (0x80 + n % 64).toUInt8]
  else
    [(0xF0 + n / 262144).toUInt8, (0x80 + n / 4096 % 64).toUInt8, (0x80 + n / 64 % 64).toUInt8,
      (0x80 + n % 64).toUInt8]

/-- The bytes of a list of characters. -/
def encodeChars (cs : List Char) : List UInt8 := cs.flatMap encodeChar

/-- The bytes of a text. -/
def encode (s : String) : List UInt8 := encodeChars s.toList

/-! ## Reading -/

/-- What a first byte announces: its share of the code point, how many bytes follow, and the
bounds of the byte after it. -/
def lead? (b : Nat) : Option (Nat × Nat × Nat × Nat) :=
  if b < 0xC2 then none
  else if b < 0xE0 then some (b - 0xC0, 1, 0x80, 0xBF)
  else if b < 0xF0 then
    some (b - 0xE0, 2, (if b = 0xE0 then 0xA0 else 0x80), (if b = 0xED then 0x9F else 0xBF))
  else if b < 0xF5 then
    some (b - 0xF0, 3, (if b = 0xF0 then 0x90 else 0x80), (if b = 0xF4 then 0x8F else 0xBF))
  else none

/-- Reads `count` further bytes into `value`, the next one between `low` and `high`. The first
part of the answer is `none` at a byte out of bounds, which is left unread. -/
def continueChar (value : Nat) : Nat → Nat → Nat → List UInt8 → Option Char × List UInt8
  | 0, _, _, bytes => (some (Char.ofNat value), bytes)
  | _ + 1, _, _, [] => (none, [])
  | count + 1, low, high, b :: rest =>
    if low ≤ b.toNat ∧ b.toNat ≤ high then
      continueChar (64 * value + (b.toNat - 0x80)) count 0x80 0xBF rest
    else (none, b :: rest)

/-- The character that begins with byte `b`, or `none` for an ill-formed part, and what follows. -/
def decodeNext (b : UInt8) (rest : List UInt8) : Option Char × List UInt8 :=
  if b.toNat < 0x80 then (some (Char.ofNat b.toNat), rest)
  else
    match lead? b.toNat with
    | none => (none, rest)
    | some (value, count, low, high) => continueChar value count low high rest

theorem continueChar_length_le (value count low high : Nat) (bytes : List UInt8) :
    (continueChar value count low high bytes).2.length ≤ bytes.length := by
  induction bytes generalizing value count low high with
  | nil => cases count <;> simp [continueChar]
  | cons b rest ih =>
    cases count with
    | zero => simp [continueChar]
    | succ count =>
      unfold continueChar
      split
      · exact Nat.le_trans (ih _ _ _ _) (by simp)
      · simp

theorem decodeNext_length_le (b : UInt8) (rest : List UInt8) :
    (decodeNext b rest).2.length ≤ rest.length := by
  unfold decodeNext
  split
  · simp
  · split
    · simp
    · exact continueChar_length_le _ _ _ _ _

/-- The pieces of a byte string: characters, and `none` for every maximal ill-formed part. -/
def pieces : List UInt8 → List (Option Char)
  | [] => []
  | b :: rest =>
    let next := decodeNext b rest
    next.1 :: pieces next.2
termination_by bytes => bytes.length
decreasing_by exact Nat.lt_succ_of_le (decodeNext_length_le b rest)

/-- The characters of well-formed bytes. -/
def decode? (bytes : List UInt8) : Option (List Char) := (pieces bytes).mapM id

/-- The characters of any bytes, U+FFFD for ill-formed parts. -/
def decodeLossy (bytes : List UInt8) : List Char := (pieces bytes).map (·.getD '\ufffd')

end CodeAtlas.Text
