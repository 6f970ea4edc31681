import CodeAtlas.Proofs.Paired
import Mathlib.Data.List.Perm.Basic

/-!
# Rearranged lists

`RearrangedBy R xs ys` says that `ys` is a permutation of a list whose elements are in `R` with those
of `xs` one by one.

* `RearrangedBy.map_perm`: what `R` keeps of the elements is only permuted.
-/

namespace CodeAtlas

variable {α β γ : Type}

/-- The second list is a permutation of one that is in `R` with the first, element by element. -/
def RearrangedBy (R : α → β → Prop) (xs : List α) (ys : List β) : Prop :=
  ∃ zs, List.Forall₂ R xs zs ∧ zs.Perm ys

namespace RearrangedBy

variable {R : α → β → Prop} {xs : List α} {ys : List β}

theorem nil : RearrangedBy R [] [] := ⟨[], .nil, .nil⟩

theorem of_perm {xs ys : List α} (h : xs.Perm ys) {R : α → α → Prop} (hR : ∀ a, R a a) :
    RearrangedBy R xs ys := ⟨xs, List.forall₂_same.mpr fun a _ => hR a, h⟩

theorem update {R : α → α → Prop} (hR : ∀ a, R a a) {a b : α} (hab : R a b) (pre post : List α) :
    RearrangedBy R (pre ++ a :: post) (pre ++ b :: post) :=
  ⟨pre ++ b :: post, List.rel_append (List.forall₂_same.mpr fun c _ => hR c)
    (.cons hab (List.forall₂_same.mpr fun c _ => hR c)), .refl _⟩

theorem exists_right (h : RearrangedBy R xs ys) {x : α} (hx : x ∈ xs) : ∃ y ∈ ys, R x y := by
  obtain ⟨zs, hAll, hPerm⟩ := h
  obtain ⟨y, hy, hxy⟩ := exists_right_of_forall₂ hAll hx
  exact ⟨y, hPerm.mem_iff.mp hy, hxy⟩

theorem exists_left (h : RearrangedBy R xs ys) {y : β} (hy : y ∈ ys) : ∃ x ∈ xs, R x y := by
  obtain ⟨zs, hAll, hPerm⟩ := h
  exact exists_left_of_forall₂ hAll (hPerm.mem_iff.mpr hy)

theorem map_perm (h : RearrangedBy R xs ys) {f : α → γ} {g : β → γ}
    (hR : ∀ a ∈ xs, ∀ b, R a b → f a = g b) : (xs.map f).Perm (ys.map g) := by
  obtain ⟨zs, hAll, hPerm⟩ := h
  rw [map_eq_map_of_forall₂ hAll hR]
  exact hPerm.map g

theorem isEmpty_eq (h : RearrangedBy R xs ys) : xs.isEmpty = ys.isEmpty := by
  obtain ⟨zs, hAll, hPerm⟩ := h
  rw [← hPerm.isEmpty_eq]
  cases hAll <;> rfl

theorem filter (h : RearrangedBy R xs ys) {p : α → Bool} {q : β → Bool}
    (hR : ∀ a b, R a b → p a = q b) : RearrangedBy R (xs.filter p) (ys.filter q) := by
  obtain ⟨zs, hAll, hPerm⟩ := h
  refine ⟨zs.filter q, ?_, hPerm.filter q⟩
  induction hAll generalizing ys with
  | nil => exact .nil
  | @cons a b xs zs hab hAll ih =>
    rw [List.filter_cons, List.filter_cons, hR a b hab]
    split
    · exact .cons hab (ih (List.Perm.refl zs))
    · exact ih (List.Perm.refl zs)

end RearrangedBy

end CodeAtlas
