import CodeAtlas.Text.Blank
import CodeAtlas.Text.Split
import Mathlib.Data.List.TakeDrop
import Mathlib.Data.List.TakeWhile

/-!
# Parts of texts

* `trimBy_eq_self`: nothing is cut off a text whose ends are outside the class.
* `filter_trimBy`: only characters of the class are cut off.
* `cutFirstChars_append`, `cutLast_append`: cuts at the first and at the last occurrence of a character.
* `cutFirst_append_of_some`, `cutFirst_append_of_none`: where a text is cut that has a further part.
-/

namespace CodeAtlas.Text

theorem dropWhile_eq_self {p : Char → Bool} {cs : List Char} (h : ∀ c ∈ cs.head?, p c = false) :
    cs.dropWhile p = cs := by
  cases cs with
  | nil => rfl
  | cons c cs => rw [List.dropWhile_cons_of_neg (by simp [h c rfl])]

theorem trimBy_eq_self {p : Char → Bool} {cs : List Char} (hHead : ∀ c ∈ cs.head?, p c = false)
    (hLast : ∀ c ∈ cs.getLast?, p c = false) : trimBy p cs = cs := by
  rw [trimBy, dropWhile_eq_self hHead, dropEnd, dropWhile_eq_self, List.reverse_reverse]
  simpa using hLast

theorem dropWhile_append_cons {p : Char → Bool} {c : Char} (hc : p c = false) (xs ys : List Char) :
    (xs ++ c :: ys).dropWhile p = xs.dropWhile p ++ c :: ys := by
  induction xs with
  | nil => exact List.dropWhile_cons_of_neg (by simp [hc])
  | cons x xs ih =>
    rw [List.cons_append, List.dropWhile_cons, List.dropWhile_cons, ih]
    split <;> rfl

/-- Nothing is cut off on the other side of a character outside the class. -/
theorem trimBy_append_cons {p : Char → Bool} {c : Char} (hc : p c = false) (xs ys : List Char) :
    trimBy p (xs ++ c :: ys) = xs.dropWhile p ++ c :: dropEnd p ys := by
  have hReverse : (xs.dropWhile p ++ c :: ys).reverse = ys.reverse ++ c :: (xs.dropWhile p).reverse := by
    simp
  rw [trimBy, dropWhile_append_cons hc, dropEnd, hReverse, dropWhile_append_cons hc, dropEnd]
  simp

theorem filter_dropWhile (p : Char → Bool) (cs : List Char) :
    (cs.dropWhile p).filter (!p ·) = cs.filter (!p ·) := by
  induction cs with
  | nil => rfl
  | cons c cs ih =>
    rw [List.dropWhile_cons]
    split
    · rw [ih, List.filter_cons_of_neg (by simpa using ‹_›)]
    · rfl

/-- Only characters of the class are cut off. -/
theorem filter_trimBy (p : Char → Bool) (cs : List Char) :
    (trimBy p cs).filter (!p ·) = cs.filter (!p ·) := by
  rw [trimBy, dropEnd, List.filter_reverse, filter_dropWhile, List.filter_reverse,
    List.reverse_reverse, filter_dropWhile]

theorem trimBy_subset (p : Char → Bool) (cs : List Char) : trimBy p cs ⊆ cs := by
  intro c hc
  have hDrop := (List.dropWhile_sublist p).subset (List.mem_reverse.mp hc)
  exact (List.dropWhile_sublist p).subset (List.mem_reverse.mp hDrop)

theorem cutFirstChars_append {c : Char} {before : List Char} (h : c ∉ before) (after : List Char) :
    cutFirstChars c (before ++ c :: after) = some (before, after) := by
  have hSpan : (before ++ c :: after).span (· != c) = (before, c :: after) := by
    have hBefore : ∀ x ∈ before, (x != c) = true := by
      rintro x hx
      simpa using fun hc : x = c => h (hc ▸ hx)
    rw [List.span_eq_takeWhile_dropWhile, List.takeWhile_append_of_pos hBefore,
      List.dropWhile_append_of_pos hBefore]
    simp
  rw [cutFirstChars, hSpan]

theorem cutFirstChars_of_not_mem {c : Char} {cs : List Char} (h : c ∉ cs) :
    cutFirstChars c cs = none := by
  have hAll : ∀ x ∈ cs, (x != c) = true := by
    rintro x hx
    simpa using fun hc : x = c => h (hc ▸ hx)
  rw [cutFirstChars, List.span_eq_takeWhile_dropWhile, List.takeWhile_eq_self_iff.mpr hAll,
    List.dropWhile_eq_nil_iff.mpr hAll]

theorem cutLast_append {c : Char} {s t : String} (h : c ∉ t.toList) :
    cutLast c (s ++ String.singleton c ++ t) = some (s, t) := by
  have hList : (s ++ String.singleton c ++ t).toList.reverse =
      t.toList.reverse ++ c :: s.toList.reverse := by
    simp
  have hNot : c ∉ t.toList.reverse := by simpa using h
  rw [cutLast, hList, cutFirstChars_append hNot]
  simp

/-- A text with a further part is cut where its first part is. -/
theorem cutFirst_append_of_some {c : Char} {s a b : String} (h : cutFirst c s = some (a, b))
    (t : String) :
    cutFirst c (s ++ String.singleton c ++ t) = some (a, b ++ String.singleton c ++ t) := by
  have hMem : c ∈ s.toList := by
    by_contra hNot
    rw [cutFirst, cutFirstChars_of_not_mem hNot] at h
    cases h
  obtain ⟨before, after, hSplit, hNot⟩ := List.eq_append_cons_of_mem hMem
  have hWhole : (s ++ String.singleton c ++ t).toList = before ++ c :: (after ++ c :: t.toList) := by
    simp [hSplit]
  rw [cutFirst, hSplit, cutFirstChars_append hNot] at h
  obtain ⟨rfl, rfl⟩ := Prod.mk.inj (Option.some.inj h)
  rw [cutFirst, hWhole, cutFirstChars_append hNot]
  simp [← String.toList_inj]

/-- If the first part cannot be cut, the text is cut behind it. -/
theorem cutFirst_append_of_none {c : Char} {s : String} (h : cutFirst c s = none) (t : String) :
    cutFirst c (s ++ String.singleton c ++ t) = some (s, t) := by
  have hNot : c ∉ s.toList := by
    intro hMem
    obtain ⟨before, after, hSplit, hNot⟩ := List.eq_append_cons_of_mem hMem
    rw [cutFirst, hSplit, cutFirstChars_append hNot] at h
    cases h
  have hWhole : (s ++ String.singleton c ++ t).toList = s.toList ++ c :: t.toList := by simp
  rw [cutFirst, hWhole, cutFirstChars_append hNot]
  simp

end CodeAtlas.Text
