import CodeAtlas.Proofs.Json.Grammar
import Mathlib.Data.List.TakeWhile

/-!
# Reading JSON texts

A reader for the texts of the grammar, whatever their layout.

* `readSpelled_eq`, `readNumber_eq`: characters and numbers are read back, however they are written.
* `readValue_eq`: a text of a value is read as that value, and nothing behind it is taken.
* `read_eq`: hence no text stands for two values.
-/

namespace CodeAtlas.Json

/-! ## Reading -/

/-- Four hexadecimal digits, and what follows them. -/
def readUnit : List Char → Option (Nat × List Char)
  | a :: b :: c :: d :: rest => (unit? [a, b, c, d]).map (·, rest)
  | _ => none

/-- The second number of a character behind its first. -/
def readLow (high : Nat) : List Char → Option (Char × List Char)
  | '\\' :: 'u' :: rest => do
    let (low, rest) ← readUnit rest
    if isLow low then some (Char.ofNat (joined high low), rest) else none
  | _ => none

/-- The first character inside quotes, and what follows. -/
def readSpelled : List Char → Option (Char × List Char)
  | '\\' :: 'u' :: rest => do
    let (n, rest) ← readUnit rest
    if isHigh n then readLow n rest
    else if isLow n then none
    else some (Char.ofNat n, rest)
  | '\\' :: e :: rest => (escaped? e).map (·, rest)
  | c :: rest => if c = '"' || c = '\\' || c.toNat < 32 then none else some (c, rest)
  | [] => none

/-- The characters up to a closing quote. The number bounds them. -/
def readText : Nat → List Char → Option (List Char × List Char)
  | 0, _ => none
  | _ + 1, '"' :: rest => some ([], rest)
  | fuel + 1, cs => do
    let (c, rest) ← readSpelled cs
    let (more, rest) ← readText fuel rest
    some (c :: more, rest)

/-- Is there no needless zero in front of some digits? -/
def isWhole : List Char → Bool
  | [] => false
  | [_] => true
  | d :: _ => d != '0'

def readWhole (cs : List Char) : Option (Nat × List Char) :=
  let ds := cs.takeWhile Char.isDigit
  if isWhole ds then some (Nat.ofDigitChars 10 ds 0, cs.dropWhile Char.isDigit) else none

def readNumber : List Char → Option (Int × List Char)
  | '-' :: rest => (readWhole rest).map fun (n, rest) => (-(n : Int), rest)
  | cs => (readWhole cs).map fun (n, rest) => ((n : Int), rest)

/-- A word that stands for a value. -/
def readWord (word : String) (v : Value) (cs : List Char) : Option (Value × List Char) :=
  if word.toList.isPrefixOf cs then some (v, cs.drop word.toList.length) else none

mutual

/-- A value, and what follows it. The number bounds its length. -/
def readValue : Nat → List Char → Option (Value × List Char)
  | 0, _ => none
  | _ + 1, [] => none
  | fuel + 1, c :: rest =>
    if c = '"' then (readText fuel rest).map fun (s, rest) => (.text (String.ofList s), rest)
    else if c = '[' then
      match skipBlanks rest with
      | ']' :: rest => some (.array [], rest)
      | _ => (readItems fuel rest).map fun (vs, rest) => (.array vs, rest)
    else if c = '\x7b' then
      match skipBlanks rest with
      | '\x7d' :: rest => some (.object [], rest)
      | _ => (readMembers fuel rest).map fun (ms, rest) => (.object ms, rest)
    else if c = 'n' then readWord "null" .null (c :: rest)
    else if c = 't' then readWord "true" (.bool true) (c :: rest)
    else if c = 'f' then readWord "false" (.bool false) (c :: rest)
    else (readNumber (c :: rest)).map fun (n, rest) => (.int n, rest)

/-- Items up to a closing bracket. -/
def readItems : Nat → List Char → Option (List Value × List Char)
  | 0, _ => none
  | fuel + 1, cs => do
    let (v, rest) ← readValue fuel (skipBlanks cs)
    match skipBlanks rest with
    | ']' :: rest => some ([v], rest)
    | ',' :: rest => (readItems fuel rest).map fun (vs, rest) => (v :: vs, rest)
    | _ => none

/-- Members up to a closing bracket. -/
def readMembers : Nat → List Char → Option (List (String × Value) × List Char)
  | 0, _ => none
  | fuel + 1, cs =>
    match skipBlanks cs with
    | '"' :: rest => do
      let (k, rest) ← readText fuel rest
      match skipBlanks rest with
      | ':' :: rest =>
        let (v, rest) ← readValue fuel (skipBlanks rest)
        match skipBlanks rest with
        | '\x7d' :: rest => some ([(String.ofList k, v)], rest)
        | ',' :: rest =>
          (readMembers fuel rest).map fun (ms, rest) => ((String.ofList k, v) :: ms, rest)
        | _ => none
      | _ => none
    | _ => none

end

/-- The value of a whole text. -/
def read (s : String) : Option Value :=
  match readValue (s.toList.length + 1) (skipBlanks s.toList) with
  | some (v, rest) => if (skipBlanks rest).isEmpty then some v else none
  | none => none


/-! ## Characters -/

theorem readUnit_append {ds : List Char} {n : Nat} (h : unit? ds = some n) (rest : List Char) :
    readUnit (ds ++ rest) = some (n, rest) := by
  unfold unit? at h
  split at h
  · rename_i a b c d
    show (unit? [a, b, c, d]).map _ = _
    rw [unit?, h, Option.map_some]
    rfl
  · cases h

/-- The numbers of characters are not those of the halves of others. -/
theorem not_half (c : Char) : isHigh c.toNat = false ∧ isLow c.toNat = false := by
  have hValid : c.toNat < 0xD800 ∨ 0xDFFF < c.toNat ∧ c.toNat < 0x110000 := c.valid
  simp only [isHigh, isLow, Bool.and_eq_false_iff, decide_eq_false_iff_not]
  omega

theorem readSpelled_eq {c : Char} {t : List Char} (h : Spells c t) (rest : List Char) :
    readSpelled (t ++ rest) = some (c, rest) := by
  cases h with
  | plain hQuote hBackslash hControl =>
    rw [List.singleton_append, readSpelled]
    · have hNot : ¬ c.toNat < 32 := by omega
      simp [hQuote, hBackslash, hNot]
    · rintro rest rfl
      exact absurd rfl hBackslash
    · rintro e rest rfl
      exact absurd rfl hBackslash
  | @letter e hEscaped =>
    show readSpelled ('\\' :: e :: rest) = _
    rw [readSpelled]
    · rw [hEscaped, Option.map_some]
    · rintro rfl
      cases hEscaped
  | @number ds hUnit =>
    obtain ⟨hHigh, hLow⟩ := not_half c
    show readSpelled ('\\' :: 'u' :: (ds ++ rest)) = _
    simp [readSpelled, readUnit_append hUnit, hHigh, hLow]
  | @numbers ds es high low hFirst hSecond hHigh hLow hChar =>
    have hText : '\\' :: 'u' :: ds ++ '\\' :: 'u' :: es ++ rest =
        '\\' :: 'u' :: (ds ++ '\\' :: 'u' :: (es ++ rest)) := by
      simp
    rw [hText]
    simp [readSpelled, readLow, readUnit_append hFirst, readUnit_append hSecond, hHigh, hLow,
      ← hChar]

/-- No way to write a character begins with a quote. -/
theorem Spells.exists_cons {c : Char} {t : List Char} (h : Spells c t) :
    ∃ d rest, t = d :: rest ∧ d ≠ '"' := by
  cases h with
  | plain hQuote => exact ⟨c, [], rfl, hQuote⟩
  | letter => exact ⟨_, _, rfl, by decide⟩
  | number => exact ⟨_, _, rfl, by decide⟩
  | numbers => exact ⟨_, _, rfl, by decide⟩

theorem readText_eq {cs ts : List Char} (h : SpellsAll cs ts) (rest : List Char) (fuel : Nat)
    (hFuel : ts.length < fuel) : readText fuel (ts ++ '"' :: rest) = some (cs, rest) := by
  induction h generalizing fuel with
  | nil =>
    cases fuel with
    | zero => cases hFuel
    | succ fuel => rfl
  | @cons c cs t ts hChar _ ih =>
    obtain ⟨d, more, rfl, hQuote⟩ := hChar.exists_cons
    have hRead := readSpelled_eq hChar (ts ++ '"' :: rest)
    rw [List.length_append, List.length_cons] at hFuel
    cases fuel with
    | zero => omega
    | succ fuel =>
      rw [List.append_assoc, readText, hRead, Option.bind_eq_bind, Option.bind_some]
      · dsimp only
        rw [ih fuel (by omega)]
        rfl
      · rintro rest' hCons
        exact absurd (List.cons.inj hCons).1 hQuote

/-! ## Numbers -/

/-- No digit follows. -/
def Ends (rest : List Char) : Prop := ∀ c ∈ rest.head?, c.isDigit = false

theorem ends_append {b rest : List Char} (hb : Blanks b) (h : Ends rest) : Ends (b ++ rest) := by
  cases b with
  | nil => exact h
  | cons c b =>
    rintro d ⟨⟩
    have hBlank := hb c List.mem_cons_self
    simp only [isBlank, Bool.or_eq_true, decide_eq_true_eq] at hBlank
    rcases hBlank with ((rfl | rfl) | rfl) | rfl <;> decide

theorem IsWhole.isWhole {ds : List Char} (h : IsWhole ds) : isWhole ds = true := by
  obtain ⟨hne, -, hFront⟩ := h
  cases ds with
  | nil => exact absurd rfl hne
  | cons d ds =>
    cases ds with
    | nil => rfl
    | cons e ds =>
      rw [Json.isWhole, bne_iff_ne]
      · rintro rfl
        cases hFront rfl
      · exact nofun

theorem readWhole_eq {ds rest : List Char} (h : IsWhole ds) (hEnds : Ends rest) :
    readWhole (ds ++ rest) = some (Nat.ofDigitChars 10 ds 0, rest) := by
  have hTake : rest.takeWhile Char.isDigit = [] := by
    cases rest with
    | nil => rfl
    | cons c rest => rw [List.takeWhile_cons_of_neg (by simp [hEnds c rfl])]
  have hDrop : rest.dropWhile Char.isDigit = rest := by
    have hSplit := @List.takeWhile_append_dropWhile _ Char.isDigit rest
    rwa [hTake, List.nil_append] at hSplit
  rw [readWhole, List.takeWhile_append_of_pos h.digits, hTake, List.append_nil, if_pos h.isWhole,
    List.dropWhile_append_of_pos h.digits, hDrop]

theorem readNumber_eq {n : Int} {cs rest : List Char} (h : Numeral n cs) (hEnds : Ends rest) :
    readNumber (cs ++ rest) = some (n, rest) := by
  cases h with
  | plain hWhole =>
    rw [readNumber, readWhole_eq hWhole hEnds, Option.map_some]
    rintro more hCons
    obtain ⟨hne, hDigits, -⟩ := hWhole
    cases cs with
    | nil => exact absurd rfl hne
    | cons d ds =>
      obtain rfl := (List.cons.inj hCons).1
      exact absurd (hDigits '-' List.mem_cons_self) (by decide)
  | minus hWhole => rw [List.cons_append, readNumber, readWhole_eq hWhole hEnds, Option.map_some]

/-! ## Values -/

theorem skipBlanks_append {b : List Char} (hb : Blanks b) {c : Char} (hc : isBlank c = false)
    (rest : List Char) : skipBlanks (b ++ c :: rest) = c :: rest := by
  rw [skipBlanks, List.dropWhile_append_of_pos hb, List.dropWhile_cons_of_neg (by simp [hc])]

theorem readWord_append (word : String) (v : Value) (rest : List Char) :
    readWord word v (word.toList ++ rest) = some (v, rest) := by
  rw [readWord, if_pos (List.isPrefixOf_iff_prefix.mpr (List.prefix_append _ _)), List.drop_left]

theorem IsWhole.exists_cons {ds : List Char} (h : IsWhole ds) :
    ∃ d rest, ds = d :: rest ∧ d.isDigit = true := by
  obtain ⟨d, rest, rfl⟩ := List.exists_cons_of_ne_nil h.ne_nil
  exact ⟨d, rest, rfl, h.digits d List.mem_cons_self⟩

/-- The characters of whole numbers. -/
def isNumeral (c : Char) : Bool := c = '-' || c.isDigit

theorem Numeral.exists_cons {n : Int} {cs : List Char} (h : Numeral n cs) :
    ∃ c rest, cs = c :: rest ∧ isNumeral c = true := by
  cases h with
  | plain hWhole =>
    obtain ⟨d, rest, rfl, hDigit⟩ := hWhole.exists_cons
    exact ⟨d, rest, rfl, by rw [isNumeral, hDigit, Bool.or_true]⟩
  | minus => exact ⟨_, _, rfl, rfl⟩

/-- A number begins like no other value. -/
theorem ne_of_isNumeral {c d : Char} (h : isNumeral c = true) (hd : isNumeral d = false) :
    c ≠ d := by
  rintro rfl
  rw [h] at hd
  cases hd

/-- A value begins with a character that is neither blank nor the end of a list. -/
theorem Value.Stands.exists_cons {v : Value} {t : List Char} (h : v.Stands t) :
    ∃ c rest, t = c :: rest ∧ isBlank c = false ∧ c ≠ ']' := by
  cases v with
  | null => exact ⟨_, _, h, by decide, by decide⟩
  | bool b => cases b <;> exact ⟨_, _, h, by decide, by decide⟩
  | int n =>
    obtain ⟨c, rest, rfl, hc⟩ := Numeral.exists_cons h
    refine ⟨c, rest, rfl, ?_, ne_of_isNumeral hc (by decide)⟩
    by_contra hBlank
    simp only [Bool.not_eq_false, isBlank, Bool.or_eq_true, decide_eq_true_eq] at hBlank
    rcases hBlank with ((rfl | rfl) | rfl) | rfl <;> cases hc
  | text s =>
    obtain ⟨inner, -, rfl⟩ := h
    exact ⟨_, _, rfl, by decide, by decide⟩
  | array items =>
    obtain ⟨inner, -, rfl⟩ := h
    exact ⟨_, _, rfl, by decide, by decide⟩
  | object members =>
    obtain ⟨inner, -, rfl⟩ := h
    exact ⟨_, _, rfl, by decide, by decide⟩

/-- The texts of a value are read, whatever follows that is no digit. -/
def Value.Readable (v : Value) : Prop := ∀ (t rest : List Char) (fuel : Nat), v.Stands t →
  Ends rest → t.length ≤ fuel → readValue fuel (t ++ rest) = some (v, rest)

section Parts

variable {v : Value} {cs : List Char} (rest : List Char) (fuel : Nat)

/-- A text with blanks around it is read up to the blanks behind it. -/
theorem Value.Readable.padded (hv : v.Readable) (h : Padded v.Stands cs) (hEnds : Ends rest)
    (hFuel : cs.length ≤ fuel) : ∃ right, Blanks right ∧
      readValue fuel (skipBlanks (cs ++ rest)) = some (v, right ++ rest) := by
  obtain ⟨left, t, right, hLeft, ht, hRight, rfl⟩ := h
  obtain ⟨c, more, rfl, hc, -⟩ := Value.Stands.exists_cons ht
  simp only [List.length_append] at hFuel
  refine ⟨right, hRight, ?_⟩
  have hSkip := skipBlanks_append hLeft hc (more ++ (right ++ rest))
  simp only [List.append_assoc, List.cons_append] at hSkip ⊢
  rw [hSkip]
  exact hv _ _ fuel ht (ends_append hRight hEnds) (by omega)

/-- Items do not begin like the end of a list. -/
theorem skipBlanks_items {items : List Value} (h : ItemsStand (v :: items) cs) :
    ∃ c more, skipBlanks (cs ++ rest) = c :: more ∧ c ≠ ']' := by
  have hPadded : ∀ {front : List Char} (more : List Char), Padded v.Stands front →
      ∃ c after, skipBlanks (front ++ more) = c :: after ∧ c ≠ ']' := by
    rintro front more ⟨left, t, right, hLeft, ht, -, rfl⟩
    obtain ⟨c, inner, rfl, hc, hNot⟩ := Value.Stands.exists_cons ht
    refine ⟨c, inner ++ (right ++ more), ?_, hNot⟩
    rw [← skipBlanks_append hLeft hc (inner ++ (right ++ more))]
    simp
  cases items with
  | nil => exact hPadded rest h
  | cons w items =>
    obtain ⟨front, more, hFront, -, rfl⟩ := h
    rw [List.append_assoc]
    exact hPadded _ hFront

/-- Items are read up to the bracket behind them. -/
theorem readItems_eq {items : List Value} (hItems : ∀ i ∈ items, i.Readable) (hne : items ≠ [])
    (h : ItemsStand items cs) (hFuel : cs.length < fuel) :
    readItems fuel (cs ++ ']' :: rest) = some (items, rest) := by
  induction items generalizing cs fuel with
  | nil => exact absurd rfl hne
  | cons v items ih =>
    obtain ⟨hv, hRest⟩ := List.forall_mem_cons.mp hItems
    cases fuel with
    | zero => omega
    | succ fuel =>
      cases items with
      | nil =>
        have hEnds : Ends (']' :: rest) := by
          rintro c ⟨⟩
          rfl
        obtain ⟨right, hRight, hRead⟩ := hv.padded _ fuel h hEnds (Nat.le_of_lt_succ hFuel)
        simp [readItems, hRead, skipBlanks_append hRight (c := ']') rfl]
      | cons w items =>
        obtain ⟨front, more, hFront, hMore, rfl⟩ := h
        have hEnds : Ends (',' :: (more ++ ']' :: rest)) := by
          rintro c ⟨⟩
          rfl
        simp only [List.length_append, List.length_cons] at hFuel
        obtain ⟨right, hRight, hRead⟩ := hv.padded _ fuel hFront hEnds (by omega)
        have hItems := ih fuel hRest (List.cons_ne_nil _ _) hMore (by omega)
        simp [readItems, hRead, skipBlanks_append hRight (c := ',') rfl, hItems]

/-- A name is read up to the colon behind it. -/
theorem readName_eq {k : String} (h : Padded (Quotes k) cs) (hFuel : cs.length ≤ fuel) :
    ∃ inner right, skipBlanks (cs ++ ':' :: rest) = '"' :: inner ∧
      readText fuel inner = some (k.toList, right) ∧ skipBlanks right = ':' :: rest := by
  obtain ⟨left, q, right, hLeft, ⟨inner, hInner, rfl⟩, hRight, rfl⟩ := h
  simp only [List.length_append, List.length_cons, List.length_nil] at hFuel
  have hSkip := skipBlanks_append hLeft (c := '"') rfl (inner ++ '"' :: (right ++ ':' :: rest))
  refine ⟨inner ++ '"' :: (right ++ ':' :: rest), right ++ ':' :: rest, ?_,
    readText_eq hInner _ fuel (by omega), skipBlanks_append hRight rfl rest⟩
  rw [← hSkip]
  simp

/-- Members begin with a quote. -/
theorem skipBlanks_members {k : String} {members : List (String × Value)}
    (h : MembersStand ((k, v) :: members) cs) :
    ∃ more, skipBlanks (cs ++ rest) = '"' :: more := by
  have hPair : ∀ {front : List Char} (more : List Char), Pair k v.Stands front →
      ∃ after, skipBlanks (front ++ more) = '"' :: after := by
    rintro front more ⟨before, back, hBefore, -, rfl⟩
    obtain ⟨inner, right, hSkip, -, -⟩ := readName_eq (back ++ more) _ hBefore le_rfl
    exact ⟨inner, by rw [← hSkip]; simp⟩
  cases members with
  | nil => exact hPair rest h
  | cons m members =>
    obtain ⟨front, more, hFront, -, rfl⟩ := h
    rw [List.append_assoc]
    exact hPair _ hFront

/-- Members are read up to the bracket behind them. -/
theorem readMembers_eq {members : List (String × Value)} (hMembers : ∀ m ∈ members, m.2.Readable)
    (hne : members ≠ []) (h : MembersStand members cs) (hFuel : cs.length < fuel) :
    readMembers fuel (cs ++ '\x7d' :: rest) = some (members, rest) := by
  induction members generalizing cs fuel with
  | nil => exact absurd rfl hne
  | cons m members ih =>
    obtain ⟨k, v⟩ := m
    obtain ⟨hv, hRest⟩ := List.forall_mem_cons.mp hMembers
    cases fuel with
    | zero => omega
    | succ fuel =>
      cases members with
      | nil =>
        have hEnds : Ends ('\x7d' :: rest) := by
          rintro c ⟨⟩
          rfl
        obtain ⟨front, back, hFront, hBack, rfl⟩ := h
        simp only [List.length_append, List.length_cons] at hFuel
        obtain ⟨inner, middle, hSkip, hName, hColon⟩ :=
          readName_eq (back ++ '\x7d' :: rest) fuel hFront (by omega)
        obtain ⟨right, hRight, hRead⟩ := hv.padded _ fuel hBack hEnds (by omega)
        simp [readMembers, hSkip, hName, hColon, hRead, skipBlanks_append hRight (c := '\x7d') rfl]
      | cons m members =>
        obtain ⟨whole, more, ⟨front, back, hFront, hBack, rfl⟩, hMore, rfl⟩ := h
        have hEnds : Ends (',' :: (more ++ '\x7d' :: rest)) := by
          rintro c ⟨⟩
          rfl
        simp only [List.length_append, List.length_cons] at hFuel
        obtain ⟨inner, middle, hSkip, hName, hColon⟩ :=
          readName_eq (back ++ ',' :: (more ++ '\x7d' :: rest)) fuel hFront (by omega)
        obtain ⟨right, hRight, hRead⟩ := hv.padded _ fuel hBack hEnds (by omega)
        have hMembers := ih fuel hRest (List.cons_ne_nil _ _) hMore (by omega)
        simp [readMembers, hSkip, hName, hColon, hRead, skipBlanks_append hRight (c := ',') rfl,
          hMembers]

end Parts

/-! ## Whole texts -/

namespace Value

/-- Induction on values: a list or an object has a property if all that it holds has it. -/
@[elab_as_elim]
theorem inductionOn {P : Value → Prop} (v : Value) (null : P .null) (bool : ∀ b, P (.bool b))
    (int : ∀ n, P (.int n)) (text : ∀ s, P (.text s))
    (array : ∀ items, (∀ i ∈ items, P i) → P (.array items))
    (object : ∀ members, (∀ m ∈ members, P m.2) → P (.object members)) : P v := by
  match v with
  | .null => exact null
  | .bool b => exact bool b
  | .int n => exact int n
  | .text s => exact text s
  | .array items =>
    exact array items fun i _ => inductionOn i null bool int text array object
  | .object members =>
    exact object members fun m _ => inductionOn m.2 null bool int text array object
termination_by sizeOf v
decreasing_by
  · have := List.sizeOf_lt_of_mem ‹i ∈ items›
    simp only [Value.array.sizeOf_spec]
    omega
  · have := List.sizeOf_lt_of_mem ‹m ∈ members›
    obtain ⟨k, w⟩ := m
    simp only [Value.object.sizeOf_spec, Prod.mk.sizeOf_spec] at *
    omega

/-- **Reading.** A text of a value is read as that value, and nothing behind it is taken. -/
theorem readValue_eq (v : Value) : v.Readable := by
  induction v using inductionOn with
  | null =>
    rintro t rest fuel rfl - hFuel
    cases fuel with
    | zero => exact absurd hFuel (by decide)
    | succ fuel => exact readWord_append "null" .null rest
  | bool b =>
    rintro t rest fuel ht - hFuel
    cases fuel with
    | zero => cases b <;> subst ht <;> exact absurd hFuel (by decide)
    | succ fuel =>
      cases b <;> subst ht
      · exact readWord_append "false" (.bool false) rest
      · exact readWord_append "true" (.bool true) rest
  | int n =>
    intro t rest fuel ht hEnds hFuel
    have hRead := readNumber_eq (n := n) ht hEnds
    obtain ⟨c, more, rfl, hc⟩ := Numeral.exists_cons (n := n) ht
    cases fuel with
    | zero => exact absurd hFuel (by simp)
    | succ fuel =>
      have hOther : ∀ d, isNumeral d = false → c ≠ d := fun d => ne_of_isNumeral hc
      rw [List.cons_append] at hRead ⊢
      rw [readValue, if_neg (hOther _ rfl), if_neg (hOther _ rfl), if_neg (hOther _ rfl),
        if_neg (hOther _ rfl), if_neg (hOther _ rfl), if_neg (hOther _ rfl), hRead,
        Option.map_some]
  | text s =>
    rintro t rest fuel ⟨inner, hInner, rfl⟩ - hFuel
    cases fuel with
    | zero => exact absurd hFuel (by simp)
    | succ fuel =>
      simp only [List.length_append, List.length_cons, List.length_nil] at hFuel
      have hText := readText_eq hInner rest fuel (by omega)
      simp [readValue, hText]
  | array items ih =>
    rintro t rest fuel ⟨inner, hInner, rfl⟩ - hFuel
    cases fuel with
    | zero => exact absurd hFuel (by simp)
    | succ fuel =>
      simp only [List.length_append, List.length_cons, List.length_nil] at hFuel
      cases items with
      | nil => simp [readValue, skipBlanks_append hInner (c := ']') rfl]
      | cons v items =>
        obtain ⟨c, more, hSkip, hc⟩ := skipBlanks_items (']' :: rest) hInner
        have hItems := readItems_eq rest fuel ih (List.cons_ne_nil _ _) hInner (by omega)
        simp [readValue, hSkip, hc, hItems]
  | object members ih =>
    rintro t rest fuel ⟨inner, hInner, rfl⟩ - hFuel
    cases fuel with
    | zero => exact absurd hFuel (by simp)
    | succ fuel =>
      simp only [List.length_append, List.length_cons, List.length_nil] at hFuel
      cases members with
      | nil => simp [readValue, skipBlanks_append hInner (c := '\x7d') rfl]
      | cons m members =>
        obtain ⟨more, hSkip⟩ := skipBlanks_members ('\x7d' :: rest) hInner
        have hMembers := readMembers_eq rest fuel ih (List.cons_ne_nil _ _) hInner (by omega)
        simp [readValue, hSkip, hMembers]

/-- A whole text of a value is read as that value. -/
theorem read_eq {v : Value} {s : String} (h : v.Document s.toList) : read s = some v := by
  have hEnds : Ends [] := fun c hc => nomatch hc
  obtain ⟨right, hRight, hRead⟩ := (readValue_eq v).padded [] _ h hEnds (Nat.le_succ _)
  have hRest : skipBlanks right = [] := List.dropWhile_eq_nil_iff.mpr hRight
  rw [List.append_nil, List.append_nil] at hRead
  rw [read, hRead]
  simp [hRest]

end Value

end CodeAtlas.Json
