import CodeAtlas.Text.Utf8
import Mathlib.Tactic.SplitIfs

/-!
# Reading what has been written as UTF-8

* `decode?_encode`: the bytes of a text are read as that text.
* `decodeLossy_encodeChars`: the reading that never fails gives the characters too.
-/

namespace CodeAtlas.Text

/-! ## Single characters -/

theorem toNat_toUInt8 {n : Nat} (h : n < 256) : n.toUInt8.toNat = n := by
  rw [Nat.toUInt8, UInt8.toNat_ofNat', Nat.mod_eq_of_lt h]

/-- A trail byte in bounds adds its six bits. -/
theorem continueChar_trail {value count low high n : Nat} (rest : List UInt8)
    (hLow : low ≤ 0x80 + n % 64) (hHigh : 0x80 + n % 64 ≤ high) :
    continueChar value (count + 1) low high ((0x80 + n % 64).toUInt8 :: rest) =
      continueChar (64 * value + n % 64) count 0x80 0xBF rest := by
  have hByte : (0x80 + n % 64).toUInt8.toNat = 0x80 + n % 64 := toNat_toUInt8 (by omega)
  rw [continueChar, hByte, if_pos ⟨hLow, hHigh⟩, Nat.add_sub_cancel_left]

theorem decodeNext_lead {b value count low high : Nat} (rest : List UInt8) (hByte : b < 256)
    (hLead : lead? b = some (value, count, low, high)) :
    decodeNext b.toUInt8 rest = continueChar value count low high rest := by
  have hHigh : ¬ b < 0x80 := by
    intro hb
    rw [lead?, if_pos (by omega)] at hLead
    cases hLead
  rw [decodeNext, toNat_toUInt8 hByte, if_neg hHigh, hLead]

/-- The bytes of a character are read as that character. -/
theorem decodeNext_encodeChar (c : Char) (rest : List UInt8) :
    ∃ b bs, encodeChar c = b :: bs ∧ decodeNext b (bs ++ rest) = (some c, rest) := by
  have hChar : Char.ofNat c.toNat = c := Char.ofNat_toNat c
  have hValid : c.toNat < 0xD800 ∨ 0xDFFF < c.toNat ∧ c.toNat < 0x110000 := c.valid
  rw [encodeChar]
  generalize c.toNat = n at hChar hValid
  split_ifs with h₁ h₂ h₃
  · refine ⟨_, _, rfl, ?_⟩
    rw [List.nil_append, decodeNext, toNat_toUInt8 (by omega), if_pos h₁, hChar]
  · have hLead : lead? (0xC0 + n / 64) = some (n / 64, 1, 0x80, 0xBF) := by
      rw [lead?, if_neg (by omega), if_pos (by omega), Nat.add_sub_cancel_left]
    refine ⟨_, _, rfl, ?_⟩
    rw [List.singleton_append, decodeNext_lead _ (by omega) hLead,
      continueChar_trail _ (by omega) (by omega), continueChar]
    have hSum : 64 * (n / 64) + n % 64 = n := by omega
    rw [hSum, hChar]
  · have hLead : lead? (0xE0 + n / 4096) = some (n / 4096, 2,
        (if 0xE0 + n / 4096 = 0xE0 then 0xA0 else 0x80),
        (if 0xE0 + n / 4096 = 0xED then 0x9F else 0xBF)) := by
      rw [lead?, if_neg (by omega), if_neg (by omega), if_pos (by omega), Nat.add_sub_cancel_left]
    refine ⟨_, _, rfl, ?_⟩
    rw [List.cons_append, List.singleton_append, decodeNext_lead _ (by omega) hLead,
      continueChar_trail _ (by split_ifs <;> omega) (by split_ifs <;> omega),
      continueChar_trail _ (by omega) (by omega), continueChar]
    have hSum : 64 * (64 * (n / 4096) + n / 64 % 64) + n % 64 = n := by omega
    rw [hSum, hChar]
  · have hLead : lead? (0xF0 + n / 262144) = some (n / 262144, 3,
        (if 0xF0 + n / 262144 = 0xF0 then 0x90 else 0x80),
        (if 0xF0 + n / 262144 = 0xF4 then 0x8F else 0xBF)) := by
      rw [lead?, if_neg (by omega), if_neg (by omega), if_neg (by omega), if_pos (by omega),
        Nat.add_sub_cancel_left]
    refine ⟨_, _, rfl, ?_⟩
    rw [List.cons_append, List.cons_append, List.singleton_append,
      decodeNext_lead _ (by omega) hLead,
      continueChar_trail _ (by split_ifs <;> omega) (by split_ifs <;> omega),
      continueChar_trail _ (by omega) (by omega), continueChar_trail _ (by omega) (by omega),
      continueChar]
    have hSum : 64 * (64 * (64 * (n / 262144) + n / 4096 % 64) + n / 64 % 64) + n % 64 = n := by
      omega
    rw [hSum, hChar]

/-! ## Texts -/

theorem pieces_encodeChars (cs : List Char) : pieces (encodeChars cs) = cs.map some := by
  induction cs with
  | nil => rw [encodeChars, List.flatMap_nil, pieces, List.map_nil]
  | cons c cs ih =>
    obtain ⟨b, bs, hBytes, hNext⟩ := decodeNext_encodeChar c (encodeChars cs)
    have hCons : encodeChars (c :: cs) = b :: (bs ++ encodeChars cs) := by
      rw [encodeChars, List.flatMap_cons, hBytes]
      rfl
    rw [hCons, pieces, hNext, List.map_cons, ih]

/-- The bytes of a text are read as that text. -/
theorem decode?_encode (s : String) : decode? (encode s) = some s.toList := by
  rw [decode?, encode, pieces_encodeChars]
  induction s.toList with
  | nil => rfl
  | cons c cs ih =>
    rw [List.map_cons, List.mapM_cons, ih]
    rfl

theorem decodeLossy_encodeChars (cs : List Char) : decodeLossy (encodeChars cs) = cs := by
  rw [decodeLossy, pieces_encodeChars, List.map_map]
  exact List.map_id cs

theorem encode_injective {s t : String} (h : encode s = encode t) : s = t := by
  have hChars := congrArg decode? h
  rw [decode?_encode, decode?_encode] at hChars
  exact String.toList_injective (Option.some.inj hChars)

end CodeAtlas.Text
