import CodeAtlas.Index
import CodeAtlas.Order

/-!
# Sorted lists

`sortBy` sorts stably and `sortedSet` sorts into a set. The orders in which an index lists its records
are transitive.

* `filter_sortBy`: elements that compare as equal keep the order they had.
* `sortBy_eq_of_filter_eq`: hence a sorted list is determined by its classes of equal elements,
  each in its order.
* `eq_of_pairwise_lt`: a strictly ascending list is determined by its elements.
* `mem_sortedSet`, `pairwise_sortedSet`: a sorted set has the same elements, strictly ascending.
-/

namespace CodeAtlas

open Std

variable {α : Type}

/-! ## Stable sorting -/

section Sorting

variable (cmp : α → α → Ordering)

theorem sortBy_perm (xs : List α) : (sortBy cmp xs).Perm xs := List.mergeSort_perm xs _

variable [TransCmp cmp]

theorem isLE_total (a b : α) : ((cmp a b).isLE || (cmp b a).isLE) = true := by
  have hSwap : cmp b a = (cmp a b).swap := OrientedCmp.eq_swap
  rw [hSwap]
  cases cmp a b <;> rfl

theorem pairwise_sortBy (xs : List α) :
    (sortBy cmp xs).Pairwise fun a b => (cmp a b).isLE = true :=
  List.pairwise_mergeSort (fun _ _ _ => TransCmp.isLE_trans) (isLE_total cmp) xs

/-- Elements that compare as equal to `a` stand in the sorted list as they stood before. -/
theorem filter_sortBy (a : α) (xs : List α) :
    (sortBy cmp xs).filter (cmp a · == .eq) = xs.filter (cmp a · == .eq) := by
  have hSorted : (xs.filter (cmp a · == .eq)).Pairwise fun b c => (cmp b c).isLE = true := by
    rw [List.pairwise_filter]
    apply List.pairwise_of_forall
    intro b c hb hc
    have hba : cmp b a = .eq := OrientedCmp.eq_symm (by simpa using hb)
    rw [TransCmp.eq_trans hba (by simpa using hc)]
    rfl
  have hSub : (xs.filter (cmp a · == .eq)).Sublist (sortBy cmp xs) :=
    List.sublist_mergeSort (fun _ _ _ => TransCmp.isLE_trans) (isLE_total cmp) hSorted
      List.filter_sublist
  have hFilter := hSub.filter (cmp a · == .eq)
  rw [List.filter_filter] at hFilter
  simp only [Bool.and_self] at hFilter
  exact (hFilter.eq_of_length ((sortBy_perm cmp xs).filter _).length_eq.symm).symm

/-- The head of a sorted list comes before the head of another list with the same classes. -/
theorem isLE_heads {a b : α} {xs ys : List α}
    (hx : (a :: xs).Pairwise fun a b => (cmp a b).isLE = true)
    (h : (a :: xs).filter (cmp b · == .eq) = (b :: ys).filter (cmp b · == .eq)) :
    (cmp a b).isLE = true := by
  have hSelf : cmp b b = .eq := ReflCmp.compare_self
  have hmem : b ∈ (a :: xs).filter (cmp b · == .eq) := by
    rw [h]
    simp [hSelf]
  rcases List.mem_cons.mp (List.mem_filter.mp hmem).1 with rfl | hb
  · rw [hSelf]
    rfl
  · exact (List.pairwise_cons.mp hx).1 b hb

/-- Two sorted lists that agree on every class of equal elements are the same. -/
theorem eq_of_pairwise_of_filter_eq {xs ys : List α}
    (hx : xs.Pairwise fun a b => (cmp a b).isLE = true)
    (hy : ys.Pairwise fun a b => (cmp a b).isLE = true)
    (h : ∀ a, xs.filter (cmp a · == .eq) = ys.filter (cmp a · == .eq)) : xs = ys := by
  induction xs generalizing ys with
  | nil =>
    cases ys with
    | nil => rfl
    | cons b ys => simpa [ReflCmp.compare_self] using h b
  | cons a xs ih =>
    cases ys with
    | nil => simpa [ReflCmp.compare_self] using h a
    | cons b ys =>
      have heq : cmp a b = .eq :=
        OrientedCmp.isLE_antisymm (isLE_heads cmp hx (h b)) (isLE_heads cmp hy (h a).symm)
      have hHead := h a
      rw [List.filter_cons_of_pos (by simp [ReflCmp.compare_self]),
        List.filter_cons_of_pos (by simp [heq])] at hHead
      obtain rfl : a = b := (List.cons.inj hHead).1
      rw [ih (List.pairwise_cons.mp hx).2 (List.pairwise_cons.mp hy).2]
      intro c
      have hc := h c
      rw [List.filter_cons, List.filter_cons] at hc
      split at hc
      · exact (List.cons.inj hc).2
      · exact hc

theorem sortBy_eq_of_filter_eq {xs ys : List α}
    (h : ∀ a, xs.filter (cmp a · == .eq) = ys.filter (cmp a · == .eq)) :
    sortBy cmp xs = sortBy cmp ys := by
  refine eq_of_pairwise_of_filter_eq cmp (pairwise_sortBy cmp xs) (pairwise_sortBy cmp ys) ?_
  intro a
  rw [filter_sortBy, filter_sortBy, h a]

/-- Sorting leaves elements out as well before as after. -/
theorem filter_sortBy_comm (p : α → Bool) (xs : List α) :
    (sortBy cmp xs).filter p = sortBy cmp (xs.filter p) := by
  refine eq_of_pairwise_of_filter_eq cmp ((pairwise_sortBy cmp xs).filter p)
    (pairwise_sortBy cmp _) fun a => ?_
  have hSwap : ∀ ys : List α, (ys.filter p).filter (cmp a · == .eq) =
      (ys.filter (cmp a · == .eq)).filter p := by
    intro ys
    simp only [List.filter_filter, Bool.and_comm]
  rw [hSwap, filter_sortBy, filter_sortBy, hSwap]

/-- A strictly ascending list is determined by its elements. -/
theorem eq_of_pairwise_lt {xs ys : List α} (hx : xs.Pairwise fun a b => cmp a b = .lt)
    (hy : ys.Pairwise fun a b => cmp a b = .lt) (h : ∀ a, a ∈ xs ↔ a ∈ ys) : xs = ys := by
  have hNodup : ∀ zs : List α, zs.Pairwise (fun a b => cmp a b = .lt) → zs.Nodup := by
    intro zs hz
    refine hz.imp ?_
    rintro a b hlt rfl
    have hSelf : cmp a a = .eq := ReflCmp.compare_self
    rw [hSelf] at hlt
    cases hlt
  refine List.Perm.eq_of_pairwise ?_ hx hy
    ((List.perm_ext_iff_of_nodup (hNodup xs hx) (hNodup ys hy)).mpr h)
  intro a b _ _ hab hba
  have hSwap : cmp a b = (cmp b a).swap := OrientedCmp.eq_swap
  rw [hSwap, hba] at hab
  cases hab

end Sorting

/-- Sorting by keys that a map keeps. -/
theorem sortBy_map {β : Type} {cmp : α → α → Ordering} {cmp' : β → β → Ordering} {f : α → β}
    (h : ∀ a b, cmp' (f a) (f b) = cmp a b) (xs : List α) :
    sortBy cmp' (xs.map f) = (sortBy cmp xs).map f := by
  rw [sortBy, sortBy, List.map_mergeSort]
  intro a _ b _
  rw [h]

/-- What is collected from a list, some of whose elements contribute nothing. -/
theorem flatMap_filter_map {β γ : Type} {h : α → β} {p : α → Bool} {f : α → List γ}
    {g : β → List γ} {xs : List α} (hKept : ∀ a ∈ xs, p a = true → g (h a) = f a)
    (hLeft : ∀ a ∈ xs, p a = false → f a = []) :
    ((xs.filter p).map h).flatMap g = xs.flatMap f := by
  induction xs with
  | nil => rfl
  | cons a xs ih =>
    obtain ⟨hKept, hKepts⟩ := List.forall_mem_cons.mp hKept
    obtain ⟨hLeft, hLefts⟩ := List.forall_mem_cons.mp hLeft
    rw [List.filter_cons, List.flatMap_cons, ← ih hKepts hLefts]
    cases hp : p a with
    | true => rw [if_pos rfl, List.map_cons, List.flatMap_cons, hKept hp]
    | false => rw [if_neg Bool.false_ne_true, hLeft hp, List.nil_append]

theorem flatMap_sortBy_filter {β γ : Type} {cmp : α → α → Ordering} [TransCmp cmp]
    {cmp' : β → β → Ordering} {h : α → β} {p : α → Bool} {f : α → List γ} {g : β → List γ}
    {xs : List α} (hKeys : ∀ a b, cmp' (h a) (h b) = cmp a b)
    (hKept : ∀ a ∈ xs, p a = true → g (h a) = f a) (hLeft : ∀ a ∈ xs, p a = false → f a = []) :
    (sortBy cmp' ((xs.filter p).map h)).flatMap g = (sortBy cmp xs).flatMap f := by
  have hMem : ∀ a ∈ sortBy cmp xs, a ∈ xs := fun a ha => (sortBy_perm cmp xs).mem_iff.mp ha
  rw [sortBy_map hKeys, ← filter_sortBy_comm]
  exact flatMap_filter_map (fun a ha => hKept a (hMem a ha)) fun a ha => hLeft a (hMem a ha)

/-! ## Texts -/

theorem compare_string_eq_lt (a b : String) : compare a b = .lt ↔ a < b := by
  show compareOfLessAndEq a b = .lt ↔ a < b
  exact compareOfLessAndEq_eq_lt

theorem isLE_compare_string (a b : String) : (compare a b).isLE = decide (a ≤ b) := by
  have hSwap : compare a b = (compare b a).swap := OrientedCmp.eq_swap
  have hLt := compare_string_eq_lt b a
  by_cases hle : a ≤ b
  · have hNot : compare b a ≠ .lt := fun h => String.not_le.mpr (hLt.mp h) hle
    rw [decide_eq_true hle, hSwap]
    cases hCmp : compare b a with
    | lt => exact absurd hCmp hNot
    | eq => rfl
    | gt => rfl
  · rw [decide_eq_false hle, hSwap, hLt.mpr (String.not_le.mp hle)]
    rfl

/-- Sorting by names is sorting by their comparison. -/
theorem mergeSort_eq_sortBy (key : α → String) (xs : List α) :
    (xs.mergeSort fun a b => key a ≤ key b) = sortBy (compareOn key) xs := by
  rw [sortBy]
  congr 1
  funext a b
  exact (isLE_compare_string (key a) (key b)).symm

/-! ## Sorted sets -/

section SortedSet

theorem eraseRepsBy_loop (r : α → α → Bool) (a : α) (xs acc : List α) :
    List.eraseRepsBy.loop r a xs acc = acc.reverse ++ List.eraseRepsBy.loop r a xs [] := by
  induction xs generalizing a acc with
  | nil => simp [List.eraseRepsBy.loop]
  | cons b xs ih =>
    simp only [List.eraseRepsBy.loop]
    split
    · exact ih a acc
    · rw [ih b (a :: acc), ih b [a]]
      simp

variable [BEq α]

theorem eraseReps_cons_cons (a b : α) (xs : List α) :
    (a :: b :: xs).eraseReps =
      if a == b then (a :: xs).eraseReps else a :: (b :: xs).eraseReps := by
  simp only [List.eraseReps, List.eraseRepsBy, List.eraseRepsBy.loop]
  split
  · simp [*]
  · rw [eraseRepsBy_loop]
    simp [*]

variable [LawfulBEq α]

theorem mem_eraseReps {a : α} {xs : List α} : a ∈ xs.eraseReps ↔ a ∈ xs := by
  cases xs with
  | nil => simp [List.eraseReps, List.eraseRepsBy]
  | cons b xs =>
    induction xs generalizing b with
    | nil => simp [List.eraseReps, List.eraseRepsBy, List.eraseRepsBy.loop]
    | cons c xs ih =>
      rw [eraseReps_cons_cons]
      split
      · obtain rfl : b = c := by simpa using ‹(b == c) = true›
        rw [ih]
        simp
      · rw [List.mem_cons, ih, List.mem_cons (b := b)]

theorem mem_sortedSet [Ord α] {a : α} {xs : List α} : a ∈ sortedSet xs ↔ a ∈ xs := by
  rw [sortedSet, mem_eraseReps, (sortBy_perm compare xs).mem_iff]

variable [Ord α] [TransOrd α] [LawfulEqOrd α]

theorem pairwise_eraseReps {xs : List α}
    (h : xs.Pairwise fun a b => (compare a b).isLE = true) :
    xs.eraseReps.Pairwise fun a b => compare a b = .lt := by
  cases xs with
  | nil => simp [List.eraseReps, List.eraseRepsBy]
  | cons a xs =>
    induction xs generalizing a with
    | nil => simp [List.eraseReps, List.eraseRepsBy, List.eraseRepsBy.loop]
    | cons b xs ih =>
      obtain ⟨hab, hb⟩ := List.pairwise_cons.mp h
      rw [eraseReps_cons_cons]
      split
      · obtain rfl : a = b := by simpa using ‹(a == b) = true›
        exact ih a hb
      · rename_i hne
        have hlt : compare a b = .lt := by
          have hle := hab b List.mem_cons_self
          cases hcmp : compare a b with
          | lt => rfl
          | eq => exact absurd (LawfulEqOrd.eq_of_compare hcmp) (by simpa using hne)
          | gt => simp [hcmp] at hle
        refine List.pairwise_cons.mpr ⟨?_, ih b hb⟩
        intro c hc
        rcases List.mem_cons.mp (mem_eraseReps.mp hc) with rfl | hc
        · exact hlt
        · exact TransCmp.lt_of_lt_of_isLE hlt ((List.pairwise_cons.mp hb).1 c hc)

/-- A sorted set ascends strictly, so nothing occurs in it twice. -/
theorem pairwise_sortedSet (xs : List α) :
    (sortedSet xs).Pairwise fun a b => compare a b = .lt :=
  pairwise_eraseReps (pairwise_sortBy compare xs)

end SortedSet

/-! ## The orders of records -/

instance : TransCmp ProjectEntry.order :=
  inferInstanceAs (TransCmp (compareLex (compareOn ProjectEntry.name) (compareOn ProjectEntry.path)))

instance : TransCmp FileEntry.order :=
  inferInstanceAs (TransCmp (compareLex (compareOn fun f : FileEntry => Text.lower f.path)
    (compareOn FileEntry.path)))

instance : TransCmp Entrypoint.order :=
  inferInstanceAs (TransCmp (compareLex (compareOn Entrypoint.file) (compareOn Entrypoint.line)))

instance : TransCmp ProjectEntrypoints.order :=
  inferInstanceAs (TransCmp (compareLex (compareOn fun s : ProjectEntrypoints => s.project.name)
    (compareOn fun s => s.project.path)))

instance : TransCmp Command.order :=
  inferInstanceAs (TransCmp (compareLex (compareOn Command.name)
    (compareLex (compareOn Command.file) (compareOn Command.line))))

theorem FileEntry.order_eq_eq {a b : FileEntry} : a.order b = .eq ↔ a.path = b.path := by
  show (compare (Text.lower a.path) (Text.lower b.path)).then (compare a.path b.path) = .eq ↔ _
  rw [Ordering.then_eq_eq, LawfulEqOrd.compare_eq_iff_eq, LawfulEqOrd.compare_eq_iff_eq]
  exact ⟨And.right, fun h => ⟨congrArg Text.lower h, h⟩⟩

end CodeAtlas
