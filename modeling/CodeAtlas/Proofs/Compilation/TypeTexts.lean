import CodeAtlas.Compilation.Declaration
import CodeAtlas.Proofs.Text.Parts
import Mathlib

/-!
# Arguments in the texts of types

The text of a type is cut at its first argument, and as many brackets are put behind it as stand anywhere
in the whole text. So brackets inside the arguments become brackets of the type, and names behind the
arguments are lost.

* `argumentsErased`: what becomes of a type's text, and when that is the text without its arguments.
* `not_erased_stray`: an array among the arguments makes an array of the type, and a type inside one with
  arguments becomes the outer one.
-/

namespace CodeAtlas.Compilation

open CodeAtlas.Text

/-! ## Texts with arguments -/

/-- Every list of arguments that begins in the text ends in it, and none ends that did not begin. -/
inductive Balanced : List Char → Prop
  | nil : Balanced []
  | char {c : Char} {cs : List Char} (hOpen : c ≠ '<') (hClose : c ≠ '>') (h : Balanced cs) :
    Balanced (c :: cs)
  | list {inner cs : List Char} (hInner : Balanced inner) (h : Balanced cs) :
    Balanced ('<' :: inner ++ '>' :: cs)

/-- What stands outside of all lists of arguments. The number says how many of them have begun. -/
def outside : Nat → List Char → List Char
  | _, [] => []
  | 0, c :: cs => if c = '<' then outside 1 cs else c :: outside 0 cs
  | n + 1, c :: cs =>
    if c = '<' then outside (n + 2) cs else if c = '>' then outside n cs else outside (n + 1) cs

/-- There are no brackets in the text, of arguments or of arrays. -/
def Unbracketed (cs : List Char) : Prop := ∀ c ∈ cs, c ∉ ['<', '>', '[', ']']

instance (cs : List Char) : Decidable (Unbracketed cs) := List.decidableBAll _ cs

/-- A list of arguments of any kind, and what stands behind it up to the next list or to the brackets of
an array: nothing, or the name of a type inside. -/
structure ArgumentList where
  inner : List Char
  behind : List Char
  balanced : Balanced inner
  unbracketed : Unbracketed behind

def ArgumentList.chars (l : ArgumentList) : List Char := '<' :: l.inner ++ '>' :: l.behind

/-- The brackets of an array, with white space before and between them. -/
structure Dimension where
  before : List Char
  between : List Char
  blank_before : ∀ c ∈ before, isBlank c = true
  blank_between : ∀ c ∈ between, isBlank c = true

def Dimension.chars (d : Dimension) : List Char := d.before ++ '[' :: d.between ++ [']']

/-- The text of a type. -/
structure TypeText where
  /-- What stands before the first list of arguments. -/
  head : List Char
  lists : List ArgumentList
  dimensions : List Dimension
  unbracketed : Unbracketed head

namespace TypeText

def chars (t : TypeText) : List Char :=
  t.head ++ (t.lists.flatMap (·.chars) ++ t.dimensions.flatMap (·.chars))

def text (t : TypeText) : String := String.ofList t.chars

/-- How many pairs of brackets stand inside the arguments. -/
def inside (t : TypeText) : Nat := (t.lists.map fun l => countPairs '[' ']' l.inner).sum

/-- How many brackets of the type itself have nothing between them. -/
def tight (t : TypeText) : Nat := t.dimensions.countP (·.between.isEmpty)

/-- How many have white space between them. -/
def loose (t : TypeText) : Nat := t.dimensions.countP (!·.between.isEmpty)

end TypeText

/-! ## What stands outside -/

theorem outside_of_balanced {cs : List Char} (h : Balanced cs) (n : Nat) (rest : List Char) :
    outside (n + 1) (cs ++ rest) = outside (n + 1) rest := by
  induction h generalizing n rest with
  | nil => rfl
  | char hOpen hClose _ ih => rw [List.cons_append, outside, if_neg hOpen, if_neg hClose, ih]
  | list _ _ ihInner ih =>
    have hClosed : ∀ rest, outside (n + 2) ('>' :: rest) = outside (n + 1) rest := fun rest => by
      rw [outside, if_neg (by decide), if_pos rfl]
    rw [List.cons_append, List.cons_append, outside, if_pos rfl, List.append_assoc, ihInner,
      List.cons_append, hClosed, ih]

theorem outside_of_not_mem {cs : List Char} (h : '<' ∉ cs) (rest : List Char) :
    outside 0 (cs ++ rest) = cs ++ outside 0 rest := by
  induction cs with
  | nil => rfl
  | cons c cs ih =>
    obtain ⟨hc, hcs⟩ := List.ne_and_not_mem_of_not_mem_cons h
    rw [List.cons_append, outside, if_neg hc.symm, ih hcs, List.cons_append]

theorem Unbracketed.not_mem {cs : List Char} (h : Unbracketed cs) {c : Char}
    (hc : c ∈ ['<', '>', '[', ']']) : c ∉ cs := fun hMem => h c hMem hc

theorem outside_argumentList (l : ArgumentList) (rest : List Char) :
    outside 0 (l.chars ++ rest) = l.behind ++ outside 0 rest := by
  have hClosed : outside 1 ('>' :: (l.behind ++ rest)) = outside 0 (l.behind ++ rest) := by
    rw [outside, if_neg (by decide), if_pos rfl]
  rw [ArgumentList.chars, List.cons_append, List.cons_append, outside, if_pos rfl, List.append_assoc,
    outside_of_balanced l.balanced, List.cons_append, hClosed,
    outside_of_not_mem (l.unbracketed.not_mem (by decide))]

theorem Dimension.not_mem (d : Dimension) {c : Char} (hBlank : isBlank c = false)
    (hMark : c ∉ ['[', ']']) : c ∉ d.chars := by
  intro hc
  simp only [Dimension.chars, List.mem_append, List.mem_cons, List.not_mem_nil, or_false] at hc
  simp only [List.mem_cons, List.not_mem_nil, or_false] at hMark
  grind [d.blank_before, d.blank_between]

theorem not_mem_dimensions (ds : List Dimension) : '<' ∉ ds.flatMap (·.chars) := by
  intro h
  obtain ⟨d, -, hc⟩ := List.mem_flatMap.mp h
  exact d.not_mem (by decide) (by decide) hc

/-- Outside of the arguments stand the names and the brackets of the type itself. -/
theorem TypeText.outside_chars (t : TypeText) : outside 0 t.chars =
    t.head ++ (t.lists.flatMap (·.behind) ++ t.dimensions.flatMap (·.chars)) := by
  have hLists : ∀ (ls : List ArgumentList) (rest : List Char),
      outside 0 (ls.flatMap (·.chars) ++ rest) = ls.flatMap (·.behind) ++ outside 0 rest := by
    intro ls rest
    induction ls with
    | nil => rfl
    | cons l ls ih => rw [List.flatMap_cons, List.append_assoc, outside_argumentList, ih,
        List.flatMap_cons, List.append_assoc]
  have hDimensions : outside 0 (t.dimensions.flatMap (·.chars)) = t.dimensions.flatMap (·.chars) := by
    have hAll := outside_of_not_mem (not_mem_dimensions t.dimensions) []
    rw [List.append_nil] at hAll
    exact hAll.trans (List.append_nil _)
  rw [chars, outside_of_not_mem (t.unbracketed.not_mem (by decide)), hLists, hDimensions]

/-! ## Counting brackets -/

theorem countPairs_cons_of_ne {a b c : Char} (h : c ≠ a) (cs : List Char) :
    countPairs a b (c :: cs) = countPairs a b cs := by
  cases cs with
  | nil => rfl
  | cons y rest => rw [countPairs, if_neg (by simp [h])]

/-- No pair reaches over another character. -/
theorem countPairs_append_cons {a b c : Char} (hOpen : c ≠ a) (hClose : c ≠ b) (xs ys : List Char) :
    countPairs a b (xs ++ c :: ys) = countPairs a b xs + countPairs a b ys := by
  fun_induction countPairs a b xs with
  | case1 x y rest hPair ih =>
    rw [List.cons_append, List.cons_append, countPairs, if_pos hPair, ih]
    omega
  | case2 x y rest hPair ih =>
    rw [List.cons_append, List.cons_append, countPairs, if_neg hPair]
    exact ih
  | case3 xs hShort =>
    rw [Nat.zero_add]
    match xs, hShort with
    | [], _ => exact countPairs_cons_of_ne hOpen ys
    | [x], _ =>
      rw [List.cons_append, List.nil_append, countPairs, if_neg (by simp [hClose])]
      exact countPairs_cons_of_ne hOpen ys
    | x :: y :: rest, hShort => exact (hShort x y rest rfl).elim

theorem countPairs_append_of_not_mem {a b : Char} {xs : List Char} (h : a ∉ xs) (ys : List Char) :
    countPairs a b (xs ++ ys) = countPairs a b ys := by
  induction xs with
  | nil => rfl
  | cons x xs ih =>
    obtain ⟨hx, hxs⟩ := List.ne_and_not_mem_of_not_mem_cons h
    rw [List.cons_append, countPairs_cons_of_ne hx.symm, ih hxs]

theorem countPairs_argumentList (l : ArgumentList) (rest : List Char) :
    countPairs '[' ']' (l.chars ++ rest) =
      countPairs '[' ']' l.inner + countPairs '[' ']' rest := by
  rw [ArgumentList.chars, List.append_assoc, List.cons_append, countPairs_cons_of_ne (by decide),
    List.cons_append, countPairs_append_cons (by decide) (by decide),
    countPairs_append_of_not_mem (l.unbracketed.not_mem (by decide))]

theorem Dimension.not_blank (d : Dimension) {c : Char} (hc : isBlank c = false) :
    c ∉ d.before ∧ c ∉ d.between :=
  ⟨fun h => by simp [d.blank_before c h] at hc, fun h => by simp [d.blank_between c h] at hc⟩

theorem countPairs_dimension (d : Dimension) (rest : List Char) :
    countPairs '[' ']' (d.chars ++ rest) =
      (if d.between.isEmpty then 1 else 0) + countPairs '[' ']' rest := by
  rw [Dimension.chars, List.append_assoc, List.append_assoc,
    countPairs_append_of_not_mem (d.not_blank (by decide)).1]
  cases hBetween : d.between with
  | nil =>
    rw [List.cons_append, List.nil_append, List.singleton_append, countPairs, if_pos (by decide),
      Nat.add_comm]
    rfl
  | cons c cs =>
    have hNot := (d.not_blank (c := '[') (by decide)).2
    have hClose := (d.not_blank (c := ']') (by decide)).2
    rw [hBetween] at hNot hClose
    have hFirst : c ≠ ']' := fun hEq => hClose (hEq ▸ List.mem_cons_self)
    rw [List.cons_append, List.cons_append, countPairs, if_neg (by simp [hFirst]),
      ← List.cons_append, countPairs_append_of_not_mem hNot, List.singleton_append,
      countPairs_cons_of_ne (by decide)]
    exact (Nat.zero_add _).symm

namespace TypeText

theorem countPairs_dimensions (ds : List Dimension) :
    countPairs '[' ']' (ds.flatMap (·.chars)) = ds.countP (·.between.isEmpty) := by
  induction ds with
  | nil => rfl
  | cons d ds ih => rw [List.flatMap_cons, countPairs_dimension, ih, List.countP_cons, Nat.add_comm]

/-- As many pairs of brackets are found in the text as stand inside the arguments and behind them. -/
theorem countPairs_chars (t : TypeText) : countPairs '[' ']' t.chars = t.inside + t.tight := by
  have hLists : ∀ (ls : List ArgumentList) (rest : List Char),
      countPairs '[' ']' (ls.flatMap (·.chars) ++ rest) =
        (ls.map fun l => countPairs '[' ']' l.inner).sum + countPairs '[' ']' rest := by
    intro ls rest
    induction ls with
    | nil => exact (Nat.zero_add _).symm
    | cons l ls ih =>
      rw [List.flatMap_cons, List.append_assoc, countPairs_argumentList, ih, List.map_cons,
        List.sum_cons, Nat.add_assoc]
  rw [chars, countPairs_append_of_not_mem (t.unbracketed.not_mem (by decide)), hLists,
    countPairs_dimensions, inside, tight]

theorem tight_add_loose (t : TypeText) : t.tight + t.loose = t.dimensions.length := by
  rw [tight, loose]
  induction t.dimensions with
  | nil => rfl
  | cons d ds ih =>
    rw [List.countP_cons, List.countP_cons, List.length_cons, ← ih]
    cases d.between.isEmpty <;> simp <;> omega

end TypeText

/-! ## The text of the type alone -/

/-- The brackets of an array with as many dimensions. -/
def brackets (n : Nat) : String := String.join (List.replicate n arrayMark)

/-- A text without its white space. -/
def unspaced (cs : List Char) : List Char := cs.filter (!isBlank ·)

theorem unspaced_append (xs ys : List Char) : unspaced (xs ++ ys) = unspaced xs ++ unspaced ys :=
  List.filter_append ..

theorem toList_brackets (n : Nat) :
    (brackets n).toList = (List.replicate n ['[', ']']).flatten := by
  rw [brackets, String.toList_join, List.flatMap_replicate]
  rfl

theorem unspaced_brackets (n : Nat) : unspaced (brackets n).toList = (brackets n).toList := by
  refine List.filter_eq_self.mpr fun c hc => ?_
  rw [toList_brackets] at hc
  obtain ⟨mark, hMark, hc⟩ := List.mem_flatten.mp hc
  rw [List.eq_of_mem_replicate hMark] at hc
  simp only [List.mem_cons, List.not_mem_nil, or_false] at hc
  rcases hc with rfl | rfl <;> decide

theorem unspaced_eq_nil_iff {cs : List Char} : unspaced cs = [] ↔ ∀ c ∈ cs, isBlank c = true := by
  simp [unspaced, List.filter_eq_nil_iff]

theorem unspaced_dimensions (ds : List Dimension) :
    unspaced (ds.flatMap (·.chars)) = (brackets ds.length).toList := by
  induction ds with
  | nil => rfl
  | cons d ds ih =>
    have hBefore := unspaced_eq_nil_iff.mpr d.blank_before
    have hBetween := unspaced_eq_nil_iff.mpr d.blank_between
    rw [toList_brackets] at ih ⊢
    rw [List.length_cons, List.replicate_succ, List.flatten_cons, ← ih, List.flatMap_cons]
    simp only [unspaced, Dimension.chars, List.filter_append, List.filter_cons] at hBefore hBetween ⊢
    rw [hBefore, hBetween]
    rfl

theorem unspaced_strip (s : String) : unspaced (strip s).toList = unspaced s.toList := by
  rw [strip, String.toList_ofList]
  exact filter_trimBy isBlank s.toList

theorem endsWith_arrayMark_iff {s : String} :
    endsWith s arrayMark = true ↔ ['[', ']'] <:+ s.toList := List.isSuffixOf_iff_suffix

namespace TypeText

variable {t : TypeText}

/-- What the text of a type becomes is the text without its arguments, up to white space. -/
def Erased (t : TypeText) : Prop := unspaced (baseType t.text).toList = unspaced (outside 0 t.chars)

instance (t : TypeText) : Decidable t.Erased := inferInstanceAs (Decidable (_ = _))

theorem bracketsOf_text (t : TypeText) : bracketsOf t.text = brackets (t.inside + t.tight) := by
  rw [bracketsOf, text, String.toList_ofList, countPairs_chars, brackets]

theorem baseType_text (t : TypeText) : baseType t.text =
    let base := strip (beforeFirst '<' t.text)
    if endsWith base arrayMark then base else base ++ brackets (t.inside + t.tight) := by
  rw [baseType, bracketsOf_text]

theorem beforeFirst_text (h : t.lists ≠ []) : beforeFirst '<' t.text = String.ofList t.head := by
  obtain ⟨l, ls, hLists⟩ := List.exists_cons_of_ne_nil h
  have hChars : t.chars = t.head ++ '<' :: (l.inner ++ '>' :: (l.behind ++ (ls.flatMap (·.chars) ++
      t.dimensions.flatMap (·.chars)))) := by
    rw [chars, hLists, List.flatMap_cons]
    simp [ArgumentList.chars]
  rw [beforeFirst, cutFirst, text, String.toList_ofList, hChars,
    cutFirstChars_append (t.unbracketed.not_mem (by decide))]
  rfl

theorem chars_of_lists (h : t.lists = []) : t.chars = t.head ++ t.dimensions.flatMap (·.chars) := by
  rw [chars, h]
  rfl

theorem beforeFirst_text_of_lists (h : t.lists = []) : beforeFirst '<' t.text = t.text := by
  have hNot : '<' ∉ t.chars := by
    rw [chars_of_lists h, List.mem_append, not_or]
    exact ⟨t.unbracketed.not_mem (by decide), not_mem_dimensions _⟩
  rw [beforeFirst, cutFirst, text, String.toList_ofList, cutFirstChars_of_not_mem hNot]
  rfl

/-- A type with arguments is cut before them, and gets all brackets of the text. -/
theorem baseType_of_lists (h : t.lists ≠ []) :
    baseType t.text = strip (String.ofList t.head) ++ brackets (t.inside + t.tight) := by
  have hEnd : ¬ endsWith (strip (String.ofList t.head)) arrayMark = true := by
    rw [endsWith_arrayMark_iff, strip, String.toList_ofList, String.toList_ofList]
    intro hSuffix
    have hMem : ']' ∈ trimBy isBlank t.head := hSuffix.subset (by decide)
    exact t.unbracketed.not_mem (by decide) (trimBy_subset _ _ hMem)
  rw [baseType_text, beforeFirst_text h]
  exact if_neg hEnd

/-- The last brackets of the type have nothing between them. -/
def EndsTight (t : TypeText) : Prop := ∃ d, t.dimensions.getLast? = some d ∧ d.between = []

theorem suffix_arrayMark_iff {d : Dimension} (xs : List Char) :
    ['[', ']'] <:+ xs ++ '[' :: (d.between ++ [']']) ↔ d.between = [] := by
  constructor
  · intro hSuffix
    rcases List.eq_nil_or_concat d.between with hNil | ⟨ys, y, hBetween⟩
    · exact hNil
    · have hLast : [y, ']'] <:+ xs ++ '[' :: (d.between ++ [']']) :=
        ⟨xs ++ '[' :: ys, by simp [hBetween]⟩
      have hEq := (List.suffix_of_suffix_length_le hSuffix hLast (Nat.le_refl 2)).eq_of_length rfl
      have hOpen : '[' ∈ d.between := by
        rw [hBetween, (List.cons.inj hEq).1]
        simp
      exact absurd hOpen (d.not_blank (by decide)).2
  · intro hNil
    exact ⟨xs, by rw [hNil]; rfl⟩

theorem endsWith_strip_text (h : t.lists = []) :
    endsWith (strip t.text) arrayMark = true ↔ t.EndsTight := by
  rw [endsWith_arrayMark_iff, strip, String.toList_ofList, text, String.toList_ofList,
    chars_of_lists h, EndsTight]
  rcases List.eq_nil_or_concat t.dimensions with hNil | ⟨ds, d, hDimensions⟩
  · rw [hNil, List.flatMap_nil, List.append_nil, List.getLast?_nil]
    constructor
    · intro hSuffix
      have hMem : ']' ∈ trimBy isBlank t.head := hSuffix.subset (by decide)
      exact absurd (trimBy_subset _ _ hMem) (t.unbracketed.not_mem (by decide))
    · rintro ⟨d, hNone, -⟩
      cases hNone
  · have hSplit : t.head ++ t.dimensions.flatMap (·.chars) =
        (t.head ++ (ds.flatMap (·.chars) ++ d.before)) ++ '[' :: (d.between ++ [']']) := by
      simp [hDimensions, Dimension.chars]
    have hEnd : dropEnd isBlank (d.between ++ [']']) = d.between ++ [']'] := by
      rw [dropEnd, List.reverse_append, dropWhile_eq_self, ← List.reverse_append, List.reverse_reverse]
      rintro c ⟨⟩
      decide
    rw [hSplit, trimBy_append_cons (by decide), hEnd, suffix_arrayMark_iff, hDimensions,
      List.concat_eq_append, List.getLast?_concat]
    simp

/-- A type without arguments stays as it is, unless its last brackets are written apart and others are
not. -/
theorem baseType_of_no_lists (h : t.lists = []) : baseType t.text =
    strip t.text ++ brackets (if endsWith (strip t.text) arrayMark then 0 else t.tight) := by
  have hInside : t.inside = 0 := by
    rw [inside, h]
    rfl
  have hNone : brackets 0 = "" := by rw [brackets, List.replicate_zero, String.join_nil]
  rw [baseType_text, beforeFirst_text_of_lists h, hInside, Nat.zero_add]
  dsimp only
  split
  · rw [hNone, String.append_empty]
  · rfl

theorem brackets_eq_nil_iff {n : Nat} : (brackets n).toList = [] ↔ n = 0 := by
  rw [toList_brackets]
  cases n with
  | zero => simp
  | succ n => simp [List.replicate_succ]

theorem length_brackets (n : Nat) : (brackets n).toList.length = 2 * n := by
  rw [toList_brackets]
  simp [Nat.mul_comm]

/-- Brackets cannot make up for names. -/
theorem brackets_eq_append_iff {names : List Char} {m n : Nat} (h : '[' ∉ names) :
    (brackets m).toList = names ++ (brackets n).toList ↔ names = [] ∧ m = n := by
  constructor
  · intro hEq
    have hNames : names = [] := by
      cases names with
      | nil => rfl
      | cons c cs =>
        rw [toList_brackets] at hEq
        cases m with
        | zero => cases hEq
        | succ m => exact absurd (List.cons.inj hEq).1 fun hc => h (hc ▸ List.mem_cons_self)
    have hLength := congrArg List.length hEq
    rw [hNames, List.nil_append, length_brackets, length_brackets] at hLength
    exact ⟨hNames, by omega⟩
  · rintro ⟨rfl, rfl⟩
    rfl

theorem erased_iff_of_lists (h : t.lists ≠ []) : t.Erased ↔
    (∀ l ∈ t.lists, ∀ c ∈ l.behind, isBlank c = true) ∧ t.inside = t.loose := by
  have hNames : '[' ∉ unspaced (t.lists.flatMap (·.behind)) := by
    intro hMem
    obtain ⟨l, -, hc⟩ := List.mem_flatMap.mp (List.mem_filter.mp hMem).1
    exact l.unbracketed.not_mem (by decide) hc
  have hCount := t.tight_add_loose
  have hSum : t.inside + t.tight = t.dimensions.length ↔ t.inside = t.loose := by omega
  rw [Erased, baseType_of_lists h, t.outside_chars, String.toList_append, unspaced_append,
    unspaced_append, unspaced_append, unspaced_strip, String.toList_ofList, unspaced_brackets,
    unspaced_dimensions, List.append_right_inj, brackets_eq_append_iff hNames, unspaced_eq_nil_iff, hSum]
  refine and_congr_left fun _ => ⟨fun hAll l hl c hc => hAll c (List.mem_flatMap.mpr ⟨l, hl, hc⟩),
    fun hAll c hc => ?_⟩
  obtain ⟨l, hl, hc⟩ := List.mem_flatMap.mp hc
  exact hAll l hl c hc

theorem erased_iff_of_no_lists (h : t.lists = []) : t.Erased ↔ t.tight = 0 ∨ t.EndsTight := by
  have hOutside : outside 0 t.chars = t.chars := by
    rw [t.outside_chars, chars_of_lists h, h]
    rfl
  have hAll : t.Erased ↔
      (brackets (if endsWith (strip t.text) arrayMark then 0 else t.tight)).toList = [] := by
    rw [Erased, baseType_of_no_lists h, hOutside, String.toList_append, unspaced_append, unspaced_strip,
      unspaced_brackets, text, String.toList_ofList, List.append_right_eq_self]
  rw [hAll, brackets_eq_nil_iff, ← endsWith_strip_text h]
  split
  · exact iff_of_true rfl (.inr ‹_›)
  · exact (or_iff_left ‹_›).symm

end TypeText

/-- What becomes of the text of a type. -/
structure ArgumentsErased (t : TypeText) : Prop where
  /-- With arguments, that is what stands before the first of them, and a pair of brackets for each that
  stands inside the arguments or behind them with nothing between. -/
  listed : t.lists ≠ [] →
    baseType t.text = strip (String.ofList t.head) ++ brackets (t.inside + t.tight)
  /-- Without arguments, it is the text itself. If its last brackets have white space between them, those
  that have nothing between them are added once more. -/
  unlisted : t.lists = [] →
    baseType t.text = strip t.text ++ brackets (if endsWith (strip t.text) arrayMark then 0 else t.tight)
  /-- It is the text without the arguments just if no name stands behind arguments, and as many brackets
  stand inside them as are overlooked behind them. -/
  erased_iff : t.Erased ↔
    t.lists = [] ∧ (t.tight = 0 ∨ t.EndsTight) ∨
      t.lists ≠ [] ∧ (∀ l ∈ t.lists, ∀ c ∈ l.behind, isBlank c = true) ∧ t.inside = t.loose
  /-- None are overlooked if there is nothing between them. -/
  usual : (∀ d ∈ t.dimensions, d.between = []) → (t.Erased ↔ ∀ l ∈ t.lists,
    (∀ c ∈ l.behind, isBlank c = true) ∧ countPairs '[' ']' l.inner = 0)

/-- **Arguments of types.** They are cut off with all that stands behind them, and their brackets are kept
like those of the type. -/
theorem argumentsErased (t : TypeText) : ArgumentsErased t := by
  have hErased : t.Erased ↔ t.lists = [] ∧ (t.tight = 0 ∨ t.EndsTight) ∨
      t.lists ≠ [] ∧ (∀ l ∈ t.lists, ∀ c ∈ l.behind, isBlank c = true) ∧ t.inside = t.loose := by
    by_cases h : t.lists = []
    · rw [TypeText.erased_iff_of_no_lists h]
      simp [h]
    · rw [TypeText.erased_iff_of_lists h]
      simp [h]
  refine ⟨TypeText.baseType_of_lists, TypeText.baseType_of_no_lists, hErased, fun hTight => ?_⟩
  have hLoose : t.loose = 0 := by
    rw [TypeText.loose, List.countP_eq_zero]
    intro d hd
    simp [hTight d hd]
  by_cases h : t.lists = []
  · rw [TypeText.erased_iff_of_no_lists h, h]
    refine iff_of_true ?_ nofun
    rcases List.eq_nil_or_concat t.dimensions with hNil | ⟨ds, d, hDimensions⟩
    · exact .inl (by rw [TypeText.tight, hNil, List.countP_nil])
    · have hLast : d ∈ t.dimensions := by simp [hDimensions]
      exact .inr ⟨d, by rw [hDimensions, List.concat_eq_append, List.getLast?_concat], hTight d hLast⟩
  · rw [TypeText.erased_iff_of_lists h, hLoose, TypeText.inside, List.sum_eq_zero_iff_forall_eq_nat,
      List.forall_mem_map]
    exact ⟨fun h l hl => ⟨h.1 l hl, h.2 l hl⟩, fun h => ⟨fun l hl => (h l hl).1, fun l hl => (h l hl).2⟩⟩

/-! ### An array among the arguments, and a type inside one with arguments -/

theorem Balanced.append {xs ys : List Char} (hOpen : '<' ∉ xs) (hClose : '>' ∉ xs)
    (h : Balanced ys) : Balanced (xs ++ ys) := by
  induction xs with
  | nil => exact h
  | cons x xs ih =>
    obtain ⟨hOpen, hOpens⟩ := List.ne_and_not_mem_of_not_mem_cons hOpen
    obtain ⟨hClose, hCloses⟩ := List.ne_and_not_mem_of_not_mem_cons hClose
    exact .char hOpen.symm hClose.symm (ih hOpens hCloses)

theorem Balanced.of_not_mem {xs : List Char} (hOpen : '<' ∉ xs) (hClose : '>' ∉ xs) :
    Balanced xs := by
  have h := Balanced.nil.append hOpen hClose
  rwa [List.append_nil] at h

/-- `Map<K, List<int[]>>` -/
def strayType : TypeText where
  head := "Map".toList
  lists := [{
    inner := "K, List".toList ++ ('<' :: "int[]".toList ++ ['>'])
    behind := []
    balanced := .append (by decide) (by decide)
      (.list (.of_not_mem (by decide) (by decide)) .nil)
    unbracketed := by decide }]
  dimensions := []
  unbracketed := by decide

/-- `Outer<X>.Inner` -/
def memberType : TypeText where
  head := "Outer".toList
  lists := [{
    inner := "X".toList
    behind := ".Inner".toList
    balanced := .of_not_mem (by decide) (by decide)
    unbracketed := by decide }]
  dimensions := []
  unbracketed := by decide

/-- The brackets in the arguments become brackets of the type, and the type inside becomes the outer
one. -/
theorem not_erased_stray :
    strayType.text = "Map<K, List<int[]>>" ∧ baseType strayType.text = "Map[]" ∧
      ¬ strayType.Erased ∧ memberType.text = "Outer<X>.Inner" ∧ baseType memberType.text = "Outer" ∧
      ¬ memberType.Erased := by
  decide +kernel

end CodeAtlas.Compilation
