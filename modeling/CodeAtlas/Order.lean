/-!
# Sorted lists

Stable sorting by a comparison, and sorting into a set. Comparisons are put together from the
library's `compareOn` and `compareLex`; texts compare by code point.
-/

namespace CodeAtlas

/-- Sorts stably by a comparison. -/
def sortBy {α : Type} (cmp : α → α → Ordering) (xs : List α) : List α :=
  xs.mergeSort fun a b => (cmp a b).isLE

/-- The distinct elements in ascending order. -/
def sortedSet {α : Type} [Ord α] [BEq α] (xs : List α) : List α := (sortBy compare xs).eraseReps

/-- The distinct elements in the order in which they first occur. -/
def firsts {α : Type} [BEq α] (xs : List α) : List α := xs.eraseDups

/-- A list, unless it is empty. -/
def nonEmpty? {α : Type} (xs : List α) : Option (List α) := if xs.isEmpty then none else some xs

end CodeAtlas
