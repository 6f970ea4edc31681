import CodeAtlas.Text.Split
import Mathlib.Data.List.Infix

/-!
# Searching texts

* `contains_iff`, `startsWith_iff`: the tests say where a text stands in another.
* `infix_append_cons`: a part without some character stands on one side of it.
* `cons_infix_append_iff`, `concat_infix_append_iff`: a part begins and ends only where its own ends are.
* `splitAt_join`: parts without the separator come back from the text that joins them.
* `join_splitAt`: a text comes back from its parts.
-/

namespace CodeAtlas.Text

/-! ## Tests -/

theorem occursIn_iff {part cs : List Char} : occursIn part cs = true ↔ part <:+: cs := by
  induction cs with
  | nil => rw [occursIn, List.isEmpty_iff, List.infix_nil]
  | cons c cs ih =>
    rw [occursIn, Bool.or_eq_true, ih, List.isPrefixOf_iff_prefix, List.infix_cons_iff]

theorem contains_iff {s part : String} : contains s part = true ↔ part.toList <:+: s.toList :=
  occursIn_iff

theorem startsWith_iff {s start : String} :
    startsWith s start = true ↔ start.toList <+: s.toList := List.isPrefixOf_iff_prefix

/-! ## Places of a part -/

/-- What holds a character that is not in the part does not begin with it. -/
theorem infix_cons_iff {part cs : List Char} {c : Char} (hSome : part ≠ []) (hc : c ∉ part) :
    part <:+: c :: cs ↔ part <:+: cs := by
  rw [List.infix_cons_iff]
  refine or_iff_right fun hPrefix => ?_
  obtain ⟨x, part, rfl⟩ := List.exists_cons_of_ne_nil hSome
  exact hc ((List.cons_prefix_cons.mp hPrefix).1 ▸ List.mem_cons_self)

theorem infix_append_iff {part xs ys : List Char} (hSome : part ≠ []) (hxs : ∀ c ∈ xs, c ∉ part) :
    part <:+: xs ++ ys ↔ part <:+: ys := by
  induction xs with
  | nil => rfl
  | cons x xs ih =>
    obtain ⟨hx, hxs⟩ := List.forall_mem_cons.mp hxs
    rw [List.cons_append, infix_cons_iff hSome hx, ih hxs]

/-- What begins with a character does not begin where that is missing. -/
theorem cons_infix_append_iff {part xs ys : List Char} {c : Char} (hc : c ∉ xs) :
    c :: part <:+: xs ++ ys ↔ c :: part <:+: ys := by
  induction xs with
  | nil => rfl
  | cons x xs ih =>
    obtain ⟨hx, hxs⟩ := List.ne_and_not_mem_of_not_mem_cons hc
    rw [List.cons_append, List.infix_cons_iff, ih hxs, or_iff_right]
    intro hPrefix
    exact hx (List.cons_prefix_cons.mp hPrefix).1

theorem concat_infix_append_iff {part xs ys : List Char} {c : Char} (hc : c ∉ xs) :
    part ++ [c] <:+: ys ++ xs ↔ part ++ [c] <:+: ys := by
  have hReversed : c ∉ xs.reverse := fun hMem => hc (List.mem_reverse.mp hMem)
  calc part ++ [c] <:+: ys ++ xs
    _ ↔ c :: part.reverse <:+: xs.reverse ++ ys.reverse := by
      rw [← List.reverse_infix, List.reverse_concat, List.reverse_append]
    _ ↔ c :: part.reverse <:+: ys.reverse := cons_infix_append_iff hReversed
    _ ↔ part ++ [c] <:+: ys := by rw [← List.reverse_concat, List.reverse_infix]

/-- A beginning without `c` stands before it. -/
theorem prefix_of_prefix_append_cons {part xs ys : List Char} {c : Char} (hc : c ∉ part)
    (h : part <+: xs ++ c :: ys) : part <+: xs := by
  rcases List.prefix_or_prefix_of_prefix h (List.prefix_append xs (c :: ys)) with hPart | ⟨zs, rfl⟩
  · exact hPart
  · cases zs with
    | nil => rw [List.append_nil]
    | cons z zs =>
      obtain ⟨rfl, -⟩ := List.cons_prefix_cons.mp ((List.prefix_append_right_inj xs).mp h)
      exact absurd (List.mem_append_right xs List.mem_cons_self) hc

/-- A part without `c` stands on one side of it. -/
theorem infix_append_cons {part xs ys : List Char} {c : Char} (hc : c ∉ part)
    (h : part <:+: xs ++ c :: ys) : part <:+: xs ∨ part <:+: ys := by
  induction xs with
  | nil =>
    by_cases hSome : part = []
    · exact .inl (hSome ▸ List.infix_rfl)
    · exact .inr ((infix_cons_iff hSome hc).mp h)
  | cons x xs ih =>
    rw [List.cons_append, List.infix_cons_iff] at h
    rcases h with hPrefix | hRest
    · rw [← List.cons_append] at hPrefix
      exact .inl (prefix_of_prefix_append_cons hc hPrefix).isInfix
    · exact (ih hRest).imp_left fun hxs => hxs.trans (List.suffix_cons x xs).isInfix

/-- A beginning without the first character of `after` does not reach into it. -/
theorem exists_eq_append_of_append_eq {before after xs ys : List Char} (h : before ++ after = xs ++ ys)
    (hFirst : ∀ c ∈ after.head?, c ∉ xs) : ∃ rest, before = xs ++ rest ∧ ys = rest ++ after := by
  rcases List.append_eq_append_iff.mp h with ⟨zs, rfl, rfl⟩ | hRest
  · cases zs with
    | nil => exact ⟨[], by simp, rfl⟩
    | cons z zs => exact absurd (List.mem_append_right before List.mem_cons_self) (hFirst z rfl)
  · exact hRest

/-! ## Joined parts -/

theorem join_cons {separator s : String} {parts : List String} (h : parts ≠ []) :
    join separator (s :: parts) = s ++ separator ++ join separator parts :=
  String.intercalate_cons_of_ne_nil h

theorem join_append {separator : String} {xs ys : List String} (hx : xs ≠ []) (hy : ys ≠ []) :
    join separator (xs ++ ys) = join separator xs ++ separator ++ join separator ys := by
  induction xs with
  | nil => exact absurd rfl hx
  | cons x xs ih =>
    cases xs with
    | nil => exact join_cons hy
    | cons z zs =>
      have hRest : z :: zs ++ ys ≠ [] := List.cons_ne_nil _ _
      rw [List.cons_append, join_cons hRest, ih (List.cons_ne_nil z zs),
        join_cons (List.cons_ne_nil z zs)]
      simp only [String.append_assoc]

theorem splitChars_append {c : Char} {part rest : List Char} (h : c ∉ part) :
    splitChars c (part ++ c :: rest) = part :: splitChars c rest := by
  induction part with
  | nil => rw [List.nil_append, splitChars, if_pos rfl]
  | cons x part ih =>
    obtain ⟨hx, hPart⟩ := List.ne_and_not_mem_of_not_mem_cons h
    rw [List.cons_append, splitChars, if_neg hx.symm, ih hPart]

theorem splitChars_of_not_mem {c : Char} {part : List Char} (h : c ∉ part) :
    splitChars c part = [part] := by
  induction part with
  | nil => rfl
  | cons x part ih =>
    obtain ⟨hx, hPart⟩ := List.ne_and_not_mem_of_not_mem_cons h
    rw [splitChars, if_neg hx.symm, ih hPart]

theorem splitAt_join {c : Char} {parts : List String} (hSome : parts ≠ [])
    (h : ∀ s ∈ parts, c ∉ s.toList) : splitAt c (join (String.singleton c) parts) = parts := by
  induction parts with
  | nil => exact absurd rfl hSome
  | cons s parts ih =>
    obtain ⟨hs, hParts⟩ := List.forall_mem_cons.mp h
    cases parts with
    | nil =>
      have hJoin : join (String.singleton c) [s] = s := String.intercalate_singleton
      rw [hJoin, splitAt, splitChars_of_not_mem hs, List.map_singleton, String.ofList_toList]
    | cons t parts =>
      have hList : (join (String.singleton c) (s :: t :: parts)).toList =
          s.toList ++ c :: (join (String.singleton c) (t :: parts)).toList := by
        rw [join_cons (by simp)]
        simp
      rw [splitAt, hList, splitChars_append hs, List.map_cons, String.ofList_toList]
      exact congrArg (s :: ·) (ih (by simp) hParts)

/-! ## Parts of a text -/

theorem splitChars_ne_nil (c : Char) (cs : List Char) : splitChars c cs ≠ [] := by
  cases cs with
  | nil => exact List.cons_ne_nil _ _
  | cons x cs =>
    rw [splitChars]
    split
    · exact List.cons_ne_nil _ _
    · split <;> exact List.cons_ne_nil _ _

theorem splitChars_cons_of_ne {c x : Char} (h : ¬ x = c) {cs part : List Char}
    {parts : List (List Char)} (hParts : splitChars c cs = part :: parts) :
    splitChars c (x :: cs) = (x :: part) :: parts := by
  rw [splitChars, if_neg h, hParts]

/-- What stands after the last separator is the last part. -/
theorem splitChars_concat {c : Char} {part : List Char} (h : c ∉ part) (cs : List Char) :
    splitChars c (cs ++ c :: part) = splitChars c cs ++ [part] := by
  induction cs with
  | nil =>
    rw [splitChars_append List.not_mem_nil, splitChars_of_not_mem h]
    rfl
  | cons x cs ih =>
    by_cases hx : x = c
    · rw [List.cons_append, splitChars, splitChars, if_pos hx, if_pos hx, ih]
      rfl
    · obtain ⟨first, parts, hParts⟩ := List.exists_cons_of_ne_nil (splitChars_ne_nil c cs)
      rw [hParts, List.cons_append] at ih
      rw [List.cons_append, splitChars_cons_of_ne hx ih, splitChars_cons_of_ne hx hParts]
      rfl

theorem splitAt_concat {c : Char} {t : String} (h : c ∉ t.toList) (s : String) :
    splitAt c (s ++ String.singleton c ++ t) = splitAt c s ++ [t] := by
  have hList : (s ++ String.singleton c ++ t).toList = s.toList ++ c :: t.toList := by simp
  rw [splitAt, hList, splitChars_concat h, List.map_append, List.map_singleton,
    String.ofList_toList]
  rfl

theorem join_map_splitChars (c : Char) (cs : List Char) :
    join (String.singleton c) ((splitChars c cs).map String.ofList) = String.ofList cs := by
  induction cs with
  | nil => exact String.intercalate_singleton
  | cons x cs ih =>
    obtain ⟨part, parts, hParts⟩ := List.exists_cons_of_ne_nil (splitChars_ne_nil c cs)
    by_cases hx : x = c
    · have hSome : (splitChars c cs).map String.ofList ≠ [] := by simp [hParts]
      rw [splitChars, if_pos hx, List.map_cons, join_cons hSome, ih, ← String.toList_inj]
      simp [hx]
    · rw [hParts, List.map_cons] at ih
      rw [splitChars_cons_of_ne hx hParts, List.map_cons, ← String.toList_inj, String.toList_ofList]
      have hChars := congrArg String.toList ih
      rw [String.toList_ofList] at hChars
      cases parts with
      | nil =>
        have hOne : ∀ s, join (String.singleton c) [s] = s := fun s => String.intercalate_singleton
        rw [List.map_nil, hOne, String.toList_ofList] at hChars ⊢
        rw [hChars]
      | cons part' parts =>
        rw [List.map_cons, join_cons (List.cons_ne_nil _ _)] at hChars ⊢
        rw [← hChars]
        simp

/-- A text comes back from its parts. -/
theorem join_splitAt (c : Char) (s : String) : join (String.singleton c) (splitAt c s) = s := by
  rw [splitAt, join_map_splitChars, String.ofList_toList]

end CodeAtlas.Text
