import CodeAtlas.Module.Lexer
import CodeAtlas.Proofs.Text.Parts
import Mathlib

/-!
# Weights of tokens

A token weighs what it can add to an expression: a literal as much as its text is long, marks of
lines and blocks nothing. All tokens of a text weigh no more than the text is long.

* `length_unescape_le`: escapes make a literal no longer.
* `weighs_token?`: a token weighs no more than the characters that it is read from.
* `weight_tokens_le`: the same for all tokens of a text.
-/

namespace CodeAtlas.Module

/-! ## Weights -/

/-- What a token can add to an expression. -/
def Kind.weight : Kind → Nat
  | .text s _ | .number (.text s _) => s.length + 1
  | .newline | .indent | .dedent | .finish => 0
  | _ => 1

/-- What some tokens weigh together. -/
def weight (ts : List Token) : Nat := (ts.map (·.kind.weight)).sum

@[simp] theorem weight_nil : weight [] = 0 := rfl

@[simp] theorem weight_cons (t : Token) (ts : List Token) :
    weight (t :: ts) = t.kind.weight + weight ts := by
  simp [weight]

@[simp] theorem weight_append (ts us : List Token) : weight (ts ++ us) = weight ts + weight us := by
  simp [weight]

@[simp] theorem weight_reverse (ts : List Token) : weight ts.reverse = weight ts := by
  simp [weight]

/-! ## Escapes -/

theorem length_readHex_le {value count n : Nat} {cs after : List Char}
    (h : readHex value count cs = some (n, after)) : after.length ≤ cs.length := by
  fun_induction readHex value count cs with
  | case1 => simp_all
  | case2 => simp at h
  | case3 value count c rest ih =>
    obtain ⟨d, -, hRest⟩ := Option.bind_eq_some_iff.mp h
    have hLength := ih d hRest
    rw [List.length_cons]
    omega

theorem length_readOctal_le (value count : Nat) (cs : List Char) :
    (readOctal value count cs).2.length ≤ cs.length := by
  fun_induction readOctal value count cs <;> grind

theorem length_afterName_le {cs after : List Char} (h : afterName cs = some after) :
    after.length ≤ cs.length := by
  unfold afterName at h
  split at h
  · rename_i rest
    split at h
    · rename_i hSpan
      obtain rfl := Option.some.inj h
      have hParts := List.takeWhile_append_dropWhile (p := (· != '\x7d')) (l := rest)
      rw [List.span_eq_takeWhile_dropWhile] at hSpan
      obtain ⟨-, hDrop⟩ := Prod.mk.inj hSpan
      rw [hDrop] at hParts
      rw [← hParts]
      simp only [List.length_append, List.length_cons]
      omega
    · cases h
  · cases h

/-- An escape stands for no more codes than it has characters, its backslash among them. -/
theorem length_textEscape_le {cs after : List Char} {codes : List Nat}
    (h : textEscape cs = some (codes, after)) : codes.length + after.length ≤ cs.length + 1 := by
  unfold textEscape at h
  split at h
  · cases h
    simp
  · cases h
    simp only [List.length_cons, List.length_nil]
    omega
  · obtain ⟨rest, hName, hPair⟩ := Option.map_eq_some_iff.mp h
    cases hPair
    have hLength := length_afterName_le hName
    simp only [List.length_cons, List.length_nil]
    omega
  · rename_i c rest _ _
    split at h
    · cases h
      simp only [List.length_cons, List.length_nil]
      omega
    · obtain ⟨⟨n, behind⟩, hHex, hPair⟩ := Option.map_eq_some_iff.mp h
      cases hPair
      have hLength := length_readHex_le hHex
      simp only [List.length_cons, List.length_nil]
      omega
    · have hLength := length_readOctal_le 0 3 (c :: rest)
      generalize readOctal 0 3 (c :: rest) = read at h hLength
      cases h
      simp only [List.length_cons, List.length_nil] at hLength ⊢
      omega
    · cases h
      simp only [List.length_cons, List.length_nil]
      omega

theorem length_textCodes_le {fuel : Nat} {cs : List Char} {codes : List Nat}
    (h : textCodes fuel cs = some codes) : codes.length ≤ cs.length := by
  fun_induction textCodes fuel cs generalizing codes with
  | case1 => simp_all
  | case2 => simp_all
  | case3 fuel rest ih =>
    obtain ⟨⟨front, after⟩, hEscape, hRest⟩ := Option.bind_eq_some_iff.mp h
    obtain ⟨others, hOthers, hCodes⟩ := Option.bind_eq_some_iff.mp hRest
    obtain rfl := Option.some.inj hCodes
    have hFront := length_textEscape_le hEscape
    have hBehind := ih after hOthers
    simp only [List.length_append, List.length_cons]
    omega
  | case4 fuel c rest hPlain ih =>
    obtain ⟨others, hOthers, rfl⟩ := Option.map_eq_some_iff.mp h
    simpa using ih hOthers

theorem length_joinCodes_le {codes : List Nat} {cs : List Char} (h : joinCodes codes = some cs) :
    cs.length ≤ codes.length := by
  fun_induction joinCodes codes generalizing cs with
  | case1 => simp_all
  | case2 n =>
    obtain rfl := Option.some.inj h
    exact Nat.le_refl 1
  | case3 => simp_all
  | case4 m n rest hPair ih =>
    obtain ⟨others, hOthers, rfl⟩ := Option.map_eq_some_iff.mp h
    have hLength := ih hOthers
    simp only [List.length_cons]
    omega
  | case5 m n rest hPair hCode ih =>
    obtain ⟨others, hOthers, rfl⟩ := Option.map_eq_some_iff.mp h
    have hLength := ih hOthers
    simp only [List.length_cons] at hLength ⊢
    omega
  | case6 => simp_all

/-- Escapes make a literal no longer. -/
theorem length_unescape_le {cs text : List Char} (h : unescape cs = some text) :
    text.length ≤ cs.length := by
  obtain ⟨codes, hCodes, hText⟩ := Option.bind_eq_some_iff.mp h
  exact Nat.le_trans (length_joinCodes_le hText) (length_textCodes_le hCodes)

/-! ## Literals -/

theorem length_manner?_lt {cs rest : List Char} {m : Manner} {q : Char}
    (h : manner? cs = some (m, q, rest)) : rest.length < cs.length := by
  unfold manner? at h
  dsimp only at h
  split at h
  · rename_i q' rest' hDrop
    split at h
    · obtain ⟨m', -, hParts⟩ := Option.map_eq_some_iff.mp h
      cases hParts
      have hLength := congrArg List.length hDrop
      rw [List.length_drop, List.length_cons] at hLength
      omega
    · cases h
  · cases h

/-- The body of a literal and what follows it are shorter than the text by the closing quotes. -/
theorem length_bodyUntil_lt {q : Char} {long : Bool} {cs body rest : List Char}
    (h : bodyUntil q long cs = some (body, rest)) : body.length + rest.length < cs.length := by
  fun_induction bodyUntil q long cs generalizing body rest with
  | case1 => cases h
  | case2 => cases h
  | case3 c after ih =>
    obtain ⟨⟨body', rest'⟩, hBody, hPair⟩ := Option.map_eq_some_iff.mp h
    cases hPair
    have hLength := ih hBody
    simp only [List.length_cons]
    omega
  | case4 c after _ _ hEnd =>
    cases h
    split <;> simp only [List.length_cons, List.length_nil, List.length_drop] <;> omega
  | case5 => cases h
  | case6 c after _ _ hGo hLine ih =>
    obtain ⟨⟨body', rest'⟩, hBody, hPair⟩ := Option.map_eq_some_iff.mp h
    cases hPair
    have hLength := ih hBody
    simp only [List.length_cons]
    omega

theorem length_quotedBody_lt {q : Char} {cs body rest : List Char}
    (h : quotedBody q cs = some (body, rest)) : body.length + rest.length < cs.length := by
  unfold quotedBody at h
  split at h
  · have hLength := length_bodyUntil_lt h
    rw [List.length_drop] at hLength
    omega
  · exact length_bodyUntil_lt h

theorem weight_literalKind_le {lex : Nat → List Char → Option (List Token)} {m : Manner} {line : Nat}
    {body : List Char} {k : Kind} (h : literalKind lex m line body = some k) :
    k.weight ≤ body.length + 1 := by
  unfold literalKind at h
  split at h
  · obtain ⟨bs, -, hKind⟩ := Option.bind_eq_some_iff.mp h
    cases hKind
    exact Nat.le_add_left 1 _
  · split at h
    · obtain ⟨⟨ps, rest⟩, -, hKind⟩ := Option.bind_eq_some_iff.mp h
      dsimp only at hKind
      split at hKind
      · cases hKind
        exact Nat.le_add_left 1 _
      · cases hKind
    · have hText : ∃ text : List Char, k = .text (String.ofList text) m.marked ∧
          text.length ≤ body.length := by
        split at h
        · cases h
          exact ⟨body, rfl, Nat.le_refl _⟩
        · obtain ⟨text, hText, hKind⟩ := Option.bind_eq_some_iff.mp h
          cases hKind
          exact ⟨text, rfl, length_unescape_le hText⟩
      obtain ⟨text, rfl, hLength⟩ := hText
      simpa [Kind.weight] using hLength

/-! ## Words, numbers and operators -/

theorem weight_wordKind (s : String) : (wordKind s).weight = 1 := by
  unfold wordKind
  split
  · rfl
  · split <;> rfl

theorem weighs_word? {cs rest : List Char} {k : Kind} (hBegins : cs.head?.any beginsWord = true)
    (h : word? cs = some (k, rest)) : k.weight + rest.length ≤ cs.length := by
  obtain _ | ⟨c, cs⟩ := cs
  · cases hBegins
  · have hContinues : continuesWord c = true := by
      simp only [List.head?_cons, Option.any_some, beginsWord, Bool.and_eq_true] at hBegins
      exact hBegins.1
    have hDrop : ((c :: cs).dropWhile continuesWord).length ≤ cs.length := by
      rw [List.dropWhile_cons_of_pos hContinues]
      exact (List.dropWhile_sublist _).length_le
    have hKind : k.weight = 1 ∧ rest = (c :: cs).dropWhile continuesWord := by
      unfold word? at h
      rw [List.span_eq_takeWhile_dropWhile] at h
      dsimp only at h
      split at h
      · cases h
        exact ⟨weight_wordKind _, rfl⟩
      · split at h
        · split at h
          · cases h
            exact ⟨rfl, rfl⟩
          · cases h
        · cases h
    rw [hKind.1, hKind.2, List.length_cons]
    omega

theorem length_digitRun_lt {isDigit : Char → Bool} {cs digits rest : List Char}
    (h : digitRun isDigit cs = some (digits, rest)) : rest.length < cs.length := by
  fun_induction digitRun isDigit cs generalizing digits rest with
  | case1 => cases h
  | case2 => cases h
  | case3 =>
    cases h
    exact Nat.zero_lt_one
  | case4 c hc after ih =>
    obtain ⟨⟨ds, r⟩, hRun, hPair⟩ := Option.map_eq_some_iff.mp h
    cases hPair
    have hLength := ih hRun
    simp only [List.length_cons]
    omega
  | case5 c hc d after hMark hd ih =>
    obtain ⟨⟨ds, r⟩, hRun, hPair⟩ := Option.map_eq_some_iff.mp h
    cases hPair
    have hLength := ih hRun
    simp only [List.length_cons] at hLength ⊢
    omega
  | case6 c hc d after =>
    cases h
    simp

theorem length_digitRun?_le {cs digits rest : List Char} (h : digitRun? cs = some (digits, rest)) :
    rest.length ≤ cs.length := by
  unfold digitRun? at h
  split at h
  · exact Nat.le_of_lt (length_digitRun_lt h)
  · cases h
    exact Nat.le_refl _

theorem weighs_basedNumber {base : Nat} {isDigit : Char → Bool} {cs rest : List Char} {c : Constant}
    (h : basedNumber base isDigit cs = some (c, rest)) :
    (Kind.number c).weight = 1 ∧ rest.length ≤ cs.length := by
  obtain ⟨⟨ds, rest'⟩, hDigits, hEnd⟩ := Option.bind_eq_some_iff.mp h
  have hLength := length_digitRun_lt hDigits
  have hMark : (if cs.head? = some '_' then cs.drop 1 else cs).length ≤ cs.length := by
    split <;> simp
  dsimp only at hEnd
  split at hEnd
  · cases hEnd
    exact ⟨rfl, by omega⟩
  · cases hEnd

theorem weight_wholeNumber {ds : List Char} {c : Constant} (h : wholeNumber ds = some c) :
    (Kind.number c).weight = 1 := by
  unfold wholeNumber at h
  split at h
  · cases h
    rfl
  · split at h
    · cases h
    · cases h
      rfl

theorem length_exponentAt_le {cs rest : List Char} {exponent : Option Int}
    (h : exponentAt cs = some (exponent, rest)) : rest.length ≤ cs.length := by
  unfold exponentAt at h
  split at h
  · rename_i e behind
    split at h
    · split at h
      · split at h
        · obtain ⟨⟨ds, r⟩, hRun, hPair⟩ := Option.map_eq_some_iff.mp h
          cases hPair
          have hLength := length_digitRun_lt hRun
          simp only [List.length_cons]
          omega
        · split at h
          · obtain ⟨⟨ds, r⟩, hRun, hPair⟩ := Option.map_eq_some_iff.mp h
            cases hPair
            have hLength := length_digitRun_lt hRun
            simp only [List.length_cons] at hLength ⊢
            omega
          · cases h
            exact Nat.le_refl _
      · cases h
        exact Nat.le_refl _
    · cases h
      exact Nat.le_refl _
  · cases h
    exact Nat.le_refl _

/-- A decimal number takes the point that it begins with. -/
theorem weighs_decimalNumber {whole cs rest : List Char} {c : Constant}
    (h : decimalNumber whole cs = some (c, rest)) : (Kind.number c).weight = 1 ∧
      rest.length ≤ cs.length ∧ (cs.head? = some '.' → rest.length < cs.length) := by
  have hEnds : ∃ fraction behind exponent after,
      (if cs.head? = some '.' then digitRun? (cs.drop 1) else some ([], cs)) = some (fraction, behind) ∧
        exponentAt behind = some (exponent, after) ∧ (rest = after ∨ rest = after.drop 1) ∧
        (Kind.number c).weight = 1 := by
    unfold decimalNumber at h
    extract_lets pointed joined at h
    have hJoined : ∀ x, joined x = some (c, rest) → ∃ exponent after,
        exponentAt x.2 = some (exponent, after) ∧ (rest = after ∨ rest = after.drop 1) ∧
        (Kind.number c).weight = 1 := by
      rintro ⟨fraction, behind⟩ hx
      obtain ⟨⟨exponent, after⟩, hExponent, hEnd⟩ := Option.bind_eq_some_iff.mp hx
      refine ⟨exponent, after, hExponent, ?_⟩
      dsimp only at hEnd
      split at hEnd
      · split at hEnd
        · cases hEnd
          exact ⟨.inr rfl, rfl⟩
        · cases hEnd
      · split at hEnd
        · cases hEnd
        · split at hEnd
          · cases hEnd
            exact ⟨.inl rfl, rfl⟩
          · obtain ⟨value, hWhole, hEnd⟩ := Option.bind_eq_some_iff.mp hEnd
            cases hEnd
            exact ⟨.inl rfl, weight_wholeNumber hWhole⟩
    split at h
    · rename_i hPoint
      obtain ⟨⟨fraction, behind⟩, hFraction, hx⟩ := Option.bind_eq_some_iff.mp h
      obtain ⟨exponent, after, hEnds⟩ := hJoined (fraction, behind) hx
      exact ⟨fraction, behind, exponent, after, (if_pos hPoint).trans hFraction, hEnds⟩
    · rename_i hPlain
      obtain ⟨exponent, after, hEnds⟩ := hJoined ([], cs) h
      exact ⟨[], cs, exponent, after, if_neg hPlain, hEnds⟩
  obtain ⟨fraction, behind, exponent, after, hFraction, hExponent, hRest, hWeight⟩ := hEnds
  have hAfter := length_exponentAt_le hExponent
  have hShorter : rest.length ≤ after.length := by
    obtain rfl | rfl := hRest
    · exact Nat.le_refl _
    · simp
  split at hFraction
  · rename_i hPoint
    have hLength := length_digitRun?_le hFraction
    have hSome : 0 < cs.length := by
      cases cs with
      | nil => cases hPoint
      | cons c cs => simp
    rw [List.length_drop] at hLength
    exact ⟨hWeight, by omega, fun _ => by omega⟩
  · rename_i hPlain
    cases hFraction
    exact ⟨hWeight, by omega, fun hPoint => absurd hPoint hPlain⟩

theorem weighs_readNumber {cs rest : List Char} {c : Constant} (hBegins : beginsNumber cs = true)
    (h : readNumber cs = some (c, rest)) :
    (Kind.number c).weight = 1 ∧ rest.length < cs.length := by
  have hDecimal : ∀ {cs : List Char} {whole after : List Char}, beginsNumber cs = true →
      digitRun? cs = some (whole, after) → decimalNumber whole after = some (c, rest) →
      (Kind.number c).weight = 1 ∧ rest.length < cs.length := by
    intro cs whole after hBegins hWhole hNumber
    obtain ⟨hWeight, hLength, hPoint⟩ := weighs_decimalNumber hNumber
    refine ⟨hWeight, ?_⟩
    unfold digitRun? at hWhole
    split at hWhole
    · exact Nat.lt_of_le_of_lt hLength (length_digitRun_lt hWhole)
    · rename_i hDigit
      cases hWhole
      apply hPoint
      unfold beginsNumber at hBegins
      split at hBegins
      · rfl
      · exact absurd hBegins hDigit
      · cases hBegins
  have hBased : ∀ {base : Nat} {isDigit : Char → Bool} {d : Char} {after : List Char},
      basedNumber base isDigit after = some (c, rest) →
      (Kind.number c).weight = 1 ∧ rest.length < ('0' :: d :: after).length := by
    intro base isDigit d after hNumber
    obtain ⟨hWeight, hLength⟩ := weighs_basedNumber hNumber
    simp only [List.length_cons]
    exact ⟨hWeight, by omega⟩
  unfold readNumber at h
  split at h
  · rename_i d after
    split at h
    · exact hBased h
    · split at h
      · exact hBased h
      · split at h
        · exact hBased h
        · obtain ⟨⟨whole, behind⟩, hWhole, hNumber⟩ := Option.bind_eq_some_iff.mp h
          exact hDecimal hBegins hWhole hNumber
  · obtain ⟨⟨whole, behind⟩, hWhole, hNumber⟩ := Option.bind_eq_some_iff.mp h
    exact hDecimal hBegins hWhole hNumber

theorem length_operator?_lt {s s' : Cursor} {cs rest : List Char} {op : String}
    (h : operator? s cs = some (op, s', rest)) : rest.length < cs.length := by
  unfold operator? at h
  split at h
  · rename_i o hFound
    have hStarts := List.find?_some hFound
    have hLong : ∀ o ∈ longOps, 0 < o.length := by decide
    have hSome := hLong _ (List.mem_of_find?_eq_some hFound)
    cases h
    have hLength := (List.isPrefixOf_iff_prefix.mp hStarts).length_le
    rw [String.length_toList] at hLength
    rw [List.length_drop]
    omega
  · grind
  · cases h

/-! ## Tokens -/

/-- What is found weighs no more than the characters that are passed. -/
def Found.Weighs (found : Found) (cs : List Char) : Prop :=
  weight found.tokens + found.rest.length ≤ cs.length

variable {lex : Nat → List Char → Option (List Token)} {s : Cursor} {cs : List Char} {found : Found}

theorem weighs_token? (h : token? lex s cs = some found) : found.Weighs cs := by
  unfold token? at h
  split at h
  · rename_i m q rest hManner
    obtain ⟨⟨body, after⟩, hBody, h⟩ := Option.bind_eq_some_iff.mp h
    obtain ⟨k, hKind, h⟩ := Option.bind_eq_some_iff.mp h
    cases h
    have hQuote := length_manner?_lt hManner
    have hLength := length_quotedBody_lt hBody
    have hWeight := weight_literalKind_le hKind
    simp only [Found.Weighs, weight_cons, weight_nil, Token.kind]
    omega
  · split at h
    · rename_i hBegins
      obtain ⟨⟨k, rest⟩, hWord, h⟩ := Option.bind_eq_some_iff.mp h
      cases h
      simpa [Found.Weighs, Token.kind] using weighs_word? hBegins hWord
    · split at h
      · rename_i hBegins
        obtain ⟨⟨c, rest⟩, hNumber, h⟩ := Option.bind_eq_some_iff.mp h
        cases h
        obtain ⟨hWeight, hLength⟩ := weighs_readNumber hBegins hNumber
        simp only [Found.Weighs, weight_cons, weight_nil, Token.kind]
        omega
      · obtain ⟨⟨op, s', rest⟩, hOp, h⟩ := Option.bind_eq_some_iff.mp h
        cases h
        have hLength := length_operator?_lt hOp
        simp only [Found.Weighs, weight_cons, weight_nil, Token.kind, Kind.weight]
        omega

theorem weighs_onLine (h : onLine lex s cs = some found) : found.Weighs cs := by
  unfold onLine at h
  split at h
  · rename_i rest
    cases h
    have hLength := (List.dropWhile_sublist (fun c => c != '\n') (l := '#' :: rest)).length_le
    simpa [Found.Weighs] using hLength
  · cases h
    simp only [Found.Weighs, List.length_cons]
    split <;> simp [Token.kind, Kind.weight]
  · split at h
    · cases h
    · cases h
      simp only [Found.Weighs, weight_nil, List.length_cons]
      omega
  · cases h
  · split at h
    · cases h
      simp [Found.Weighs]
    · exact weighs_token? h
  · cases h

theorem length_read_le {m m' : Margin} {rest : List Char} (h : m.read cs = some (m', rest)) :
    rest.length ≤ cs.length := by
  fun_induction Margin.read m cs <;> grind

theorem weight_arrange {columns : Nat × Nat} {indents left : List (Nat × Nat)} {kinds : List Kind}
    (h : arrange columns indents = some (kinds, left)) (line : Nat) :
    weight (kinds.map (.mk · line)) = 0 := by
  have hKinds : ∀ k ∈ kinds, k.weight = 0 := by
    unfold arrange at h
    grind [Kind.weight]
  clear h
  induction kinds with
  | nil => rfl
  | cons k kinds ih =>
    obtain ⟨hk, hRest⟩ := List.forall_mem_cons.mp hKinds
    rw [List.map_cons, weight_cons, Token.kind, hk, ih hRest]

theorem weighs_startLine (h : startLine s cs = some found) : found.Weighs cs := by
  obtain ⟨⟨m, rest⟩, hRead, h⟩ := Option.bind_eq_some_iff.mp h
  have hLength := length_read_le hRead
  dsimp only at h
  split at h
  · rename_i after hDrop
    cases h
    have hShorter := (List.dropWhile_sublist (fun c => rest.head? = some '#' && c != '\n')
      (l := rest)).length_le
    rw [hDrop, List.length_cons] at hShorter
    simp only [Found.Weighs, weight_nil]
    omega
  · split at h
    · obtain ⟨⟨kinds, indents⟩, hArrange, h⟩ := Option.bind_eq_some_iff.mp h
      cases h
      rw [Found.Weighs, weight_arrange hArrange, Nat.zero_add]
      exact hLength
    · cases h
      simp only [Found.Weighs, weight_nil]
      omega

theorem weight_tokensFrom_le {fuel : Nat} {done ts : List Token}
    (h : tokensFrom lex fuel s cs done = some ts) : weight ts ≤ weight done + cs.length := by
  induction fuel generalizing s cs done with
  | zero => cases h
  | succ fuel ih =>
    rw [tokensFrom] at h
    split at h
    · rename_i found hFound
      have hWeighs : found.Weighs cs := by
        split at hFound
        · exact weighs_startLine hFound
        · exact weighs_onLine hFound
      have hRest := ih h
      rw [weight_append, weight_reverse] at hRest
      rw [Found.Weighs] at hWeighs
      omega
    · split at h
      · cases h
        simp [Token.kind, Kind.weight]
      · cases h

/-- The tokens of a text weigh no more than the text with a line end. -/
theorem weight_tokens_le {ts : List Token} (h : tokens cs = some ts) : weight ts ≤ cs.length + 1 := by
  have hLength : (endLastLine cs).length ≤ cs.length + 1 := by
    unfold endLastLine
    split <;> simp
  rw [tokens, maxDepth, tokensAt] at h
  split at h
  · cases h
  · have hWeight := weight_tokensFrom_le h
    rw [weight_nil] at hWeight
    omega

end CodeAtlas.Module
