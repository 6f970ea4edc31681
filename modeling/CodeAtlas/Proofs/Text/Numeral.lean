import CodeAtlas.Text.Numeral

/-!
# Reading numbers

* `numerals_ofList`: the numerals of a table are read one after another.
* `isSome_readNat_iff`: digits without a sign are read as a number unless there are too many.
* `readNat_toDigits`: a number is read back from its decimal digits.
-/

namespace CodeAtlas.Text

/-! ## Tables of characters -/

/-- The numerals of some characters behind the digits of one. -/
def numeralsFrom : Option Nat → List Char → List Nat
  | current, [] => current.toList
  | current, c :: cs =>
    match hexDigit? c, current with
    | some d, some n => numeralsFrom (some (16 * n + d)) cs
    | some d, none => numeralsFrom (some d) cs
    | none, some n => n :: numeralsFrom none cs
    | none, none => numeralsFrom none cs

theorem foldl_numeralStep (found : List Nat) (current : Option Nat) (cs : List Char) :
    ((cs.foldl numeralStep (found, current)).2.toList ++
      (cs.foldl numeralStep (found, current)).1).reverse =
      found.reverse ++ numeralsFrom current cs := by
  induction cs generalizing found current with
  | nil => cases current <;> simp [numeralsFrom]
  | cons c cs ih =>
    rw [List.foldl_cons, numeralStep, numeralsFrom.eq_def]
    dsimp only
    cases hexDigit? c with
    | some d =>
      cases current with
      | some n => exact ih found (some (16 * n + d))
      | none => exact ih found (some d)
    | none =>
      cases current with
      | some n =>
        have hRest := ih (n :: found) none
        rwa [List.reverse_cons, List.append_assoc, List.singleton_append] at hRest
      | none => exact ih found none

theorem numerals_ofList (cs : List Char) : numerals (String.ofList cs) = numeralsFrom none cs := by
  have hFold := foldl_numeralStep [] none cs
  rw [numerals, String.foldl_eq_foldl_toList, String.toList_ofList]
  exact hFold

set_option maxRecDepth 20000 in
/-- One block of digits stands among the first code points. -/
theorem zeros_low : zeros.contains 48 = true ∧ zeros.all (fun z => z = 48 || 96 ≤ z) = true := by
  rw [zeros, numerals_ofList]
  decide +kernel

theorem isDigit_iff {c : Char} :
    isDigit c = true ↔ ∃ z ∈ zeros, z ≤ c.toNat ∧ c.toNat < z + 10 := by
  simp [isDigit, digit?]

theorem isDigit_low {c : Char} (h : c.toNat < 96) :
    isDigit c = true ↔ 48 ≤ c.toNat ∧ c.toNat < 58 := by
  obtain ⟨hZero, hAll⟩ := zeros_low
  rw [isDigit_iff]
  constructor
  · rintro ⟨z, hz, hLower, hUpper⟩
    have hLow := List.all_eq_true.mp hAll z hz
    simp only [Bool.or_eq_true, decide_eq_true_eq] at hLow
    omega
  · intro hc
    exact ⟨48, List.contains_iff_mem.mp hZero, hc⟩

theorem digit?_low {c : Char} (hLower : 48 ≤ c.toNat) (hUpper : c.toNat < 58) :
    digit? c = some (c.toNat - 48) := by
  obtain ⟨hZero, hAll⟩ := zeros_low
  have hFound : zeros.find? (fun z => z ≤ c.toNat && c.toNat < z + 10) = some 48 := by
    cases hFind : zeros.find? fun z => z ≤ c.toNat && c.toNat < z + 10 with
    | none =>
      have hNot := List.find?_eq_none.mp hFind 48 (List.contains_iff_mem.mp hZero)
      rw [Bool.and_eq_true, decide_eq_true_eq, decide_eq_true_eq] at hNot
      omega
    | some z =>
      have hLow := List.all_eq_true.mp hAll z (List.mem_of_find?_eq_some hFind)
      have hBlock := List.find?_some hFind
      simp only [Bool.or_eq_true, Bool.and_eq_true, decide_eq_true_eq] at hLow hBlock
      congr 1
      omega
  rw [digit?, hFound, Option.map_some]

/-! ## Numbers -/

theorem isBlank_of_digit {c : Char} (hLower : 48 ≤ c.toNat) (hUpper : c.toNat < 58) :
    isBlank c = false := by
  simp only [isBlank, Bool.or_eq_false_iff, Bool.and_eq_false_iff, decide_eq_false_iff_not,
    beq_eq_false_iff_ne]
  omega

theorem toNat_of_mem_toDigits {n : Nat} {c : Char} (h : c ∈ Nat.toDigits 10 n) :
    48 ≤ c.toNat ∧ c.toNat < 58 := by
  have hDigit := Nat.isDigit_of_mem_toDigits (by decide) (by decide) h
  rw [Char.isDigit, Bool.and_eq_true, decide_eq_true_eq, decide_eq_true_eq] at hDigit
  obtain ⟨hLower, hUpper⟩ := hDigit
  exact ⟨UInt32.le_iff_toNat_le.mp hLower, Nat.lt_succ_of_le (UInt32.le_iff_toNat_le.mp hUpper)⟩

theorem isDigit_of_mem_toDigits {n : Nat} {c : Char} (h : c ∈ Nat.toDigits 10 n) :
    isDigit c = true := by
  obtain ⟨hLower, hUpper⟩ := toNat_of_mem_toDigits h
  exact (isDigit_low (by omega)).mpr ⟨hLower, hUpper⟩

theorem isDigit_underscore : isDigit '_' = false := by
  rw [Bool.eq_false_iff, ne_eq, isDigit_low (by decide)]
  decide

theorem readDigits_eq {cs : List Char} {ds : List Nat} (hne : cs ≠ [])
    (h : cs.map digit? = ds.map some) : readDigits cs = some ds := by
  induction cs generalizing ds with
  | nil => exact absurd rfl hne
  | cons c cs ih =>
    cases ds with
    | nil => cases h
    | cons d ds =>
      rw [List.map_cons, List.map_cons, List.cons.injEq] at h
      obtain ⟨hd, hds⟩ := h
      cases cs with
      | nil =>
        obtain rfl := List.map_eq_nil_iff.mp hds.symm
        rw [readDigits, hd]
        rfl
      | cons c' cs =>
        have hNot : c' ≠ '_' := by
          rintro rfl
          have hDigit : isDigit '_' = true := by
            cases ds with
            | nil => cases hds
            | cons d' ds => rw [isDigit, (List.cons.inj hds).1, Option.isSome_some]
          rw [isDigit_underscore] at hDigit
          cases hDigit
        rw [readDigits, hd, ih (List.cons_ne_nil c' cs) hds]
        · rfl
        · simp
        · intro rest hEq
          exact hNot (List.cons.inj hEq).1

theorem exists_readDigits {cs : List Char} (hne : cs ≠ []) (h : ∀ c ∈ cs, isDigit c = true) :
    ∃ ds, readDigits cs = some ds ∧ ds.length = cs.length := by
  have hMap : cs.map digit? = (cs.map fun c => (digit? c).getD 0).map some := by
    rw [List.map_map, List.map_inj_left]
    intro c hc
    obtain ⟨d, hd⟩ := Option.isSome_iff_exists.mp (h c hc)
    rw [Function.comp_apply, hd, Option.getD_some]
  exact ⟨_, readDigits_eq hne hMap, List.length_map _⟩

/-- Digits are read as a number unless there are too many. -/
theorem isSome_readNat_iff {cs : List Char} (hne : cs ≠ []) (h : ∀ c ∈ cs, isDigit c = true) :
    (readNat cs).isSome = true ↔ cs.length ≤ maxDigits := by
  obtain ⟨ds, hds, hLength⟩ := exists_readDigits hne h
  rw [readNat, hds, ← hLength]
  by_cases hShort : ds.length ≤ maxDigits
  · simp [hShort]
  · simp [hShort]

/-- A number is read back from its decimal digits, unless there are too many. -/
theorem readNat_toDigits {n : Nat} (h : (Nat.toDigits 10 n).length ≤ maxDigits) :
    readNat (Nat.toDigits 10 n) = some n := by
  have hMap : (Nat.toDigits 10 n).map digit? =
      ((Nat.toDigits 10 n).map fun c => c.toNat - 48).map some := by
    rw [List.map_map, List.map_inj_left]
    intro c hc
    obtain ⟨hLower, hUpper⟩ := toNat_of_mem_toDigits hc
    exact digit?_low hLower hUpper
  have hValue : digitsValue ((Nat.toDigits 10 n).map fun c => c.toNat - 48) =
      Nat.ofDigitChars 10 (Nat.toDigits 10 n) 0 := by
    rw [digitsValue, List.foldl_map]
    rfl
  rw [readNat, readDigits_eq Nat.toDigits_ne_nil hMap, Option.bind_eq_bind, Option.bind_some,
    List.length_map, if_pos h, hValue, Nat.ofDigitChars_ten_toDigits]

theorem readInt_zero : readInt "0" = some 0 := by
  have hDigit : digit? '0' = some 0 := digit?_low (by decide) (by decide)
  have hTrim : trimBy isBlank "0".toList = ['0'] := by decide
  have hNat : readNat ['0'] = some 0 := by
    rw [readNat, readDigits, hDigit]
    rfl
  rw [readInt, hTrim]
  show (do return ((← readNat ['0'] : Nat) : Int) : Option Int).map _ = _
  rw [hNat]
  rfl

end CodeAtlas.Text
