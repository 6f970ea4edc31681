import CodeAtlas.Proofs.Json.Reader

/-!
# Layouts of JSON texts

Both layouts of a value, the compact and the spread one, are texts of it.

* `stands_compact`, `stands_spread`: hence both are read as that value.
* `newline_not_mem_compact`: the compact form of a value is on one line.
* `compact_injective`: no two values have the same compact form.
-/

namespace CodeAtlas.Json

/-! ## Texts -/

theorem unit?_hexPadded : ∀ n < 32, unit? (Text.hexPadded 4 n) = some n := by decide

theorem spells_escapeChar (c : Char) : Spells c (escapeChar c) := by
  unfold escapeChar
  split_ifs with hQuote hBackslash _ _ _ _ _ hControl
  any_goals (subst c; exact .letter rfl)
  · exact .number (unit?_hexPadded _ hControl)
  · exact .plain hQuote hBackslash (by omega)

theorem spellsAll_flatMap (cs : List Char) : SpellsAll cs (cs.flatMap escapeChar) := by
  induction cs with
  | nil => exact .nil
  | cons c cs ih => exact .cons (spells_escapeChar c) ih

theorem quotes_quote (s : String) : Quotes s (quote s) := ⟨_, spellsAll_flatMap s.toList, rfl⟩

/-! ## Numbers -/

theorem toList_repr (n : Nat) : n.repr.toList = Nat.toDigits 10 n := by
  rw [Nat.repr_eq_ofList_toDigits, String.toList_ofList]

theorem number_ofNat (n : Nat) : number (.ofNat n) = Nat.toDigits 10 n := toList_repr n

theorem number_negSucc (n : Nat) : number (.negSucc n) = '-' :: Nat.toDigits 10 (n + 1) := by
  show ("-" ++ (n + 1).repr).toList = _
  rw [String.toList_append, toList_repr]
  rfl

/-- The digits of a number begin with a zero only if it is zero. -/
theorem eq_zero_of_head?_toDigits {n : Nat} (h : (Nat.toDigits 10 n).head? = some '0') : n = 0 := by
  have hDigit : ∀ m < 10, m.digitChar = '0' → m = 0 := by decide
  induction n using Nat.strongRecOn with
  | ind n ih =>
    by_cases hn : n < 10
    · rw [Nat.toDigits_of_lt_base hn] at h
      exact hDigit n hn (Option.some.inj h)
    · have hLess : n / 10 < n := by omega
      obtain ⟨d, ds, hDigits⟩ := List.exists_cons_of_ne_nil (Nat.toDigits_ne_nil (n := n / 10) (b := 10))
      rw [Nat.toDigits_of_base_le (by decide) (by omega), hDigits] at h
      have hZero : n / 10 = 0 := ih _ hLess (hDigits ▸ h)
      omega

theorem isWhole_toDigits (n : Nat) : IsWhole (Nat.toDigits 10 n) where
  ne_nil := Nat.toDigits_ne_nil
  digits _ hd := Nat.isDigit_of_mem_toDigits (by decide) (by decide) hd
  front h := by
    rw [eq_zero_of_head?_toDigits h]
    rfl

theorem numeral_number (n : Int) : Numeral n (number n) := by
  cases n with
  | ofNat n =>
    have h := Numeral.plain (isWhole_toDigits n)
    rwa [Nat.ofDigitChars_ten_toDigits, ← number_ofNat] at h
  | negSucc n =>
    have h := Numeral.minus (isWhole_toDigits (n + 1))
    rwa [Nat.ofDigitChars_ten_toDigits, ← number_negSucc] at h

/-! ## The compact form -/

theorem padded_self {P : List Char → Prop} {t : List Char} (h : P t) : Padded P t :=
  ⟨[], t, [], List.forall_mem_nil _, h, List.forall_mem_nil _, by simp⟩

theorem itemsStand_compact {items : List Value} (h : ∀ i ∈ items, i.Stands i.compact) :
    ItemsStand items (compactItems items) := by
  induction items with
  | nil => exact List.forall_mem_nil _
  | cons v items ih =>
    obtain ⟨hv, hRest⟩ := List.forall_mem_cons.mp h
    cases items with
    | nil => exact padded_self hv
    | cons w items => exact ⟨_, _, padded_self hv, ih hRest, rfl⟩

theorem membersStand_compact {members : List (String × Value)}
    (h : ∀ m ∈ members, m.2.Stands m.2.compact) :
    MembersStand members (compactMembers members) := by
  induction members with
  | nil => exact List.forall_mem_nil _
  | cons m members ih =>
    obtain ⟨k, v⟩ := m
    obtain ⟨hv, hRest⟩ := List.forall_mem_cons.mp h
    have hPair : Pair k v.Stands (quote k ++ ':' :: v.compact) :=
      ⟨_, _, padded_self (quotes_quote k), padded_self hv, rfl⟩
    cases members with
    | nil => exact hPair
    | cons m members => exact ⟨_, _, hPair, ih hRest, by simp [compactMembers]⟩

namespace Value

theorem stands_compact (v : Value) : v.Stands v.compact := by
  induction v using inductionOn with
  | null => rfl
  | bool b => cases b <;> rfl
  | int n => exact numeral_number n
  | text s => exact quotes_quote s
  | array items ih => exact ⟨_, itemsStand_compact ih, rfl⟩
  | object members ih => exact ⟨_, membersStand_compact ih, rfl⟩

/-- No two values have the same compact form. -/
theorem compact_injective {v w : Value} (h : v.compact = w.compact) : v = w := by
  have hRead : ∀ u : Value, read (String.ofList u.compact) = some u := fun u =>
    read_eq (by rw [String.toList_ofList]; exact padded_self u.stands_compact)
  exact Option.some.inj ((hRead v).symm.trans (h ▸ hRead w))

end Value

/-! ### One line -/

theorem newline_not_mem_escapeChar (c : Char) : '\n' ∉ escapeChar c := by
  have hHex : ∀ n < 32, '\n' ∉ Text.hexPadded 4 n := by decide
  unfold escapeChar
  split_ifs with _ _ hNewline _ _ _ _ hControl
  any_goals decide
  · have := hHex _ hControl
    simpa using this
  · simpa using Ne.symm hNewline

theorem newline_not_mem_quote (s : String) : '\n' ∉ quote s := by
  simp [quote, newline_not_mem_escapeChar]

theorem newline_not_mem_number (n : Int) : '\n' ∉ number n := by
  have hDigits : ∀ n, '\n' ∉ Nat.toDigits 10 n := fun n hMem =>
    absurd ((isWhole_toDigits n).digits _ hMem) (by decide)
  cases n with
  | ofNat n =>
    rw [number_ofNat]
    exact hDigits n
  | negSucc n =>
    rw [number_negSucc, List.mem_cons, not_or]
    exact ⟨by decide, hDigits (n + 1)⟩

theorem newline_not_mem_items {items : List Value} (h : ∀ i ∈ items, '\n' ∉ i.compact) :
    '\n' ∉ compactItems items := by
  induction items with
  | nil => exact List.not_mem_nil
  | cons v items ih =>
    obtain ⟨hv, hRest⟩ := List.forall_mem_cons.mp h
    cases items with
    | nil => exact hv
    | cons w items => simp [compactItems, hv, ih hRest]

theorem newline_not_mem_members {members : List (String × Value)}
    (h : ∀ m ∈ members, '\n' ∉ m.2.compact) : '\n' ∉ compactMembers members := by
  induction members with
  | nil => exact List.not_mem_nil
  | cons m members ih =>
    obtain ⟨k, v⟩ := m
    obtain ⟨hv, hRest⟩ := List.forall_mem_cons.mp h
    cases members with
    | nil => simp [compactMembers, newline_not_mem_quote, hv]
    | cons m members => simp [compactMembers, newline_not_mem_quote, hv, ih hRest]

/-- The compact form is on one line. -/
theorem newline_not_mem_compact (v : Value) : '\n' ∉ v.compact := by
  induction v using Value.inductionOn with
  | null => decide
  | bool b => cases b <;> decide
  | int n => exact newline_not_mem_number n
  | text s => exact newline_not_mem_quote s
  | array items ih => simp [Value.compact, newline_not_mem_items ih]
  | object members ih => simp [Value.compact, newline_not_mem_members ih]

/-! ## The spread form -/

theorem blanks_newLine (level : Nat) : Blanks (newLine level) := by
  refine List.forall_mem_cons.mpr ⟨by decide, fun c hc => ?_⟩
  rw [List.eq_of_mem_replicate hc]
  rfl

/-- An item behind a line end. -/
theorem padded_newLine {P : List Char → Prop} {t right : List Char} (level : Nat) (h : P t)
    (hRight : Blanks right) : Padded P (newLine level ++ t ++ right) :=
  ⟨_, _, _, blanks_newLine level, h, hRight, rfl⟩

theorem itemsStand_spread {level : Nat} {right : List Char} (hRight : Blanks right)
    {items : List Value} {v : Value} (h : ∀ i ∈ v :: items, i.Stands (i.spread level)) :
    ItemsStand (v :: items) (newLine level ++ v.spread level ++ spreadItems level items ++ right) := by
  induction items generalizing v with
  | nil =>
    rw [spreadItems, List.append_nil]
    exact padded_newLine level (h v List.mem_cons_self) hRight
  | cons w items ih =>
    obtain ⟨hv, hRest⟩ := List.forall_mem_cons.mp h
    refine ⟨_, _, padded_newLine level hv (List.forall_mem_nil _), ih hRest, ?_⟩
    simp [spreadItems]

theorem membersStand_spread {level : Nat} {right : List Char} (hRight : Blanks right)
    {members : List (String × Value)} {k : String} {v : Value}
    (h : ∀ m ∈ (k, v) :: members, m.2.Stands (m.2.spread level)) :
    MembersStand ((k, v) :: members)
      (newLine level ++ quote k ++ [':', ' '] ++ v.spread level ++ spreadMembers level members ++
        right) := by
  have hPair : ∀ {k : String} {v : Value} {right : List Char}, v.Stands (v.spread level) →
      Blanks right → Pair k v.Stands (newLine level ++ quote k ++ ':' :: (' ' :: v.spread level ++ right)) :=
    fun hv hRight => ⟨_, _, ⟨_, _, [], blanks_newLine level, quotes_quote _, List.forall_mem_nil _,
      by simp⟩, ⟨[' '], _, _, List.forall_mem_singleton.mpr rfl, hv, hRight, rfl⟩, rfl⟩
  induction members generalizing k v with
  | nil =>
    have hOne := hPair (k := k) (h (k, v) List.mem_cons_self) hRight
    simpa [spreadMembers, MembersStand] using hOne
  | cons m members ih =>
    obtain ⟨k', w⟩ := m
    obtain ⟨hv, hRest⟩ := List.forall_mem_cons.mp h
    refine ⟨_, _, hPair hv (List.forall_mem_nil _), ih hRest, ?_⟩
    simp [spreadMembers]

theorem Value.stands_spread (v : Value) (level : Nat) : v.Stands (v.spread level) := by
  induction v using inductionOn generalizing level with
  | null => rfl
  | bool b => cases b <;> rfl
  | int n => exact numeral_number n
  | text s => exact quotes_quote s
  | array items ih =>
    cases items with
    | nil => exact ⟨[], List.forall_mem_nil _, rfl⟩
    | cons v items =>
      refine ⟨_, itemsStand_spread (blanks_newLine level) fun i hi => ih i hi (level + 1), ?_⟩
      simp [spread]
  | object members ih =>
    cases members with
    | nil => exact ⟨[], List.forall_mem_nil _, rfl⟩
    | cons m members =>
      refine ⟨_, membersStand_spread (blanks_newLine level) fun m hm => ih m hm (level + 1), ?_⟩
      simp [spread]

end CodeAtlas.Json
