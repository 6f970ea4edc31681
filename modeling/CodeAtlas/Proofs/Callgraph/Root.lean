import CodeAtlas.Callgraph.Root
import CodeAtlas.Proofs.Text.Numeral
import CodeAtlas.Proofs.Text.Parts

/-!
# Roots

* `Root.parse_isOk_iff`: a text is refused only for a parameter count that is too long to be read.
* `Root.select_unique`: two roots that find declarations of the same shape in a project find the
  same declaration.
-/

namespace CodeAtlas

open Text

variable {ι κ : Type}

/-! ## Reading -/

namespace Root

/-- The parameter count of a root is short enough to be read, if it has one. -/
def Readable (text : String) : Prop :=
  ∀ before digits, cutArity (trimBy isBlank text.toList) = some (before, digits) →
    digits.length ≤ maxDigits

theorem cutArity_digits {cs before digits : List Char} (h : cutArity cs = some (before, digits)) :
    digits ≠ [] ∧ ∀ c ∈ digits, isDigit c = true := by
  obtain ⟨⟨after, rest⟩, hCut, h⟩ := Option.bind_eq_some_iff.mp h
  dsimp only at h
  split at h
  · rename_i hCond
    obtain ⟨-, rfl⟩ := Prod.mk.inj (Option.some.inj h)
    simp only [Bool.and_eq_true, Bool.not_eq_true', List.all_eq_true] at hCond
    exact ⟨by simpa using hCond.1.2, fun c hc => hCond.2 c (List.mem_reverse.mp hc)⟩
  · cases h

/-- A parameter count after the last slash is cut off. -/
theorem cutArity_append {before digits : List Char} (hBefore : before ≠ [])
    (hLine : '\n' ∉ before) (hne : digits ≠ []) (hDigits : ∀ c ∈ digits, isDigit c = true) :
    cutArity (before ++ '/' :: digits) = some (before, digits) := by
  have hSlash : '/' ∉ digits.reverse := by
    intro h
    have hDigit := hDigits '/' (List.mem_reverse.mp h)
    rw [isDigit_low (by decide)] at hDigit
    exact absurd hDigit (by decide)
  have hCut : cutFirstChars '/' (before ++ '/' :: digits).reverse =
      some (digits.reverse, before.reverse) := by
    rw [List.reverse_append, List.reverse_cons, List.append_assoc]
    exact cutFirstChars_append hSlash before.reverse
  rw [cutArity, hCut]
  simpa [hBefore, hLine, hne] using hDigits

/-- Nothing is cut off a text with a parameter count whose ends are not blank. -/
theorem trimBy_counted {before digits : List Char} (hBefore : before ≠ [])
    (hHead : ∀ c ∈ before.head?, isBlank c = false) (hne : digits ≠ [])
    (hLast : ∀ c ∈ digits.getLast?, isBlank c = false) :
    trimBy isBlank (before ++ '/' :: digits) = before ++ '/' :: digits := by
  have hd : digits.getLast? = some (digits.getLast hne) := List.getLast?_eq_some_getLast hne
  obtain ⟨b, before, rfl⟩ := List.exists_cons_of_ne_nil hBefore
  refine trimBy_eq_self hHead fun c hc => hLast c ?_
  rw [List.getLast?_append, List.getLast?_cons, hd] at hc
  rw [hd]
  exact hc

/-- A text with a parameter count is readable if the count has few digits. -/
theorem readable_ofList_iff {before digits : List Char} (hBefore : before ≠ [])
    (hHead : ∀ c ∈ before.head?, isBlank c = false) (hLine : '\n' ∉ before) (hne : digits ≠ [])
    (hDigits : ∀ c ∈ digits, isDigit c = true) (hLast : ∀ c ∈ digits.getLast?, isBlank c = false) :
    Readable (String.ofList (before ++ '/' :: digits)) ↔ digits.length ≤ maxDigits := by
  rw [Readable, String.toList_ofList, trimBy_counted hBefore hHead hne hLast,
    cutArity_append hBefore hLine hne hDigits]
  simp

theorem arityValue_isOk (digits : List Char) :
    (arityValue digits).isOk = (readNat digits).isSome := by
  unfold arityValue
  cases readNat digits <;> rfl

theorem parse_isOk_iff (text : String) : (parse text).isOk = true ↔ Readable text := by
  cases hCut : cutArity (trimBy isBlank text.toList) with
  | none =>
    have hParse : parse text = .ok (ofSpec text (String.ofList (trimBy isBlank text.toList)) none) := by
      simp only [parse, hCut]
      rfl
    simp [Readable, hParse, hCut, Except.isOk, Except.toBool]
  | some cut =>
    obtain ⟨before, digits⟩ := cut
    obtain ⟨hne, hDigits⟩ := cutArity_digits hCut
    have hParse : parse text = (arityValue digits).map fun n =>
        ofSpec text (String.ofList before) (some n) := by
      simp only [parse, hCut]
      cases arityValue digits <;> rfl
    have hOk : (parse text).isOk = (arityValue digits).isOk := by
      rw [hParse]
      cases arityValue digits <;> rfl
    rw [hOk, arityValue_isOk, isSome_readNat_iff hne hDigits, Readable, hCut]
    simp

end Root

/-! ## Matching -/

/-- The same method as far as it shows; where it is declared makes no difference. -/
structure Method.Same (m m' : Method ι) : Prop where
  typeName : m.typeName = m'.typeName
  name : m.name = m'.name
  arity : m.arity = m'.arity
  isConstructor : m.isConstructor = m'.isConstructor
  inSource : m.inSource = m'.inSource

namespace Root

theorem names_congr (r : Root) {m m' : Method ι} (h : m.Same m') : r.names m = r.names m' := by
  rw [names, names, h.typeName, h.name, h.arity, h.isConstructor]

theorem select_eq_found {r : Root} {declared others : List (Method ι)} {ambiguous : Bool}
    {m : Method ι} (h : r.select declared = .found ambiguous m others) :
    (declared.filter r.names).head? = some m ∧ m ∈ declared ∧ r.names m = true := by
  unfold select at h
  split at h
  · cases h
  · rename_i m' others' hFilter
    cases h
    have hMem : m ∈ declared.filter r.names := by
      rw [hFilter]
      exact List.mem_cons_self
    rw [hFilter]
    exact ⟨rfl, List.mem_filter.mp hMem⟩

/-- The first element of each of two kinds is the same if it is of both kinds. -/
theorem eq_of_head?_filter {α : Type} {f g : α → Bool} {xs : List α} {a b : α}
    (ha : (xs.filter f).head? = some a) (hb : (xs.filter g).head? = some b) (hga : g a = true)
    (hfb : f b = true) : a = b := by
  induction xs with
  | nil => cases ha
  | cons x xs ih =>
    by_cases hf : f x = true
    · rw [List.filter_cons_of_pos hf] at ha
      obtain rfl := Option.some.inj ha
      rw [List.filter_cons_of_pos hga] at hb
      exact Option.some.inj hb
    · by_cases hg : g x = true
      · rw [List.filter_cons_of_pos hg] at hb
        obtain rfl := Option.some.inj hb
        exact absurd hfb hf
      · rw [List.filter_cons_of_neg hf] at ha
        rw [List.filter_cons_of_neg hg] at hb
        exact ih ha hb

/-- Two roots that find declarations of the same shape find the same declaration. -/
theorem select_unique {r r' : Root} {declared others others' : List (Method ι)}
    {ambiguous ambiguous' : Bool} {m m' : Method ι}
    (h : r.select declared = .found ambiguous m others)
    (h' : r'.select declared = .found ambiguous' m' others') (hSame : m.Same m') : m = m' := by
  obtain ⟨hHead, -, hNames⟩ := select_eq_found h
  obtain ⟨hHead', -, hNames'⟩ := select_eq_found h'
  exact eq_of_head?_filter hHead hHead' ((names_congr r' hSame).trans hNames')
    ((names_congr r hSame).symm.trans hNames)

end Root

end CodeAtlas
