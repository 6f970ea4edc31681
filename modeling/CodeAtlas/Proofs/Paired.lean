import Mathlib.Data.List.Forall2

/-!
# Lists related one by one

What two lists have in common whose elements are related one by one, and two options that are related.

* `find?_of_forall₂`, `filter_of_forall₂`: a property that related elements share picks related ones.
* `foldl_eq_of_forall₂`: so does a fold whose steps do not tell related elements apart.
* `lookup_of_forall₂`: tables with the same keys lead to related values.
-/

namespace CodeAtlas

section Lists

variable {α β γ δ : Type} {R : α → β → Prop} {xs : List α} {ys : List β}

/-! ## Elements -/

theorem exists_right_of_forall₂ (h : List.Forall₂ R xs ys) {x : α} (hx : x ∈ xs) :
    ∃ y ∈ ys, R x y := by
  induction h with
  | nil => cases hx
  | cons hR _ ih =>
    rcases List.mem_cons.mp hx with rfl | hx
    · exact ⟨_, List.mem_cons_self, hR⟩
    · obtain ⟨y, hy, hxy⟩ := ih hx
      exact ⟨y, List.mem_cons_of_mem _ hy, hxy⟩

theorem exists_left_of_forall₂ (h : List.Forall₂ R xs ys) {y : β} (hy : y ∈ ys) :
    ∃ x ∈ xs, R x y :=
  exists_right_of_forall₂ (R := fun y x => R x y) h.flip hy

theorem forall₂_imp_of_mem {S : α → β → Prop} (h : List.Forall₂ R xs ys)
    (hImp : ∀ a ∈ xs, ∀ b ∈ ys, R a b → S a b) : List.Forall₂ S xs ys := by
  induction h with
  | nil => exact .nil
  | cons hHead _ ih =>
    exact .cons (hImp _ List.mem_cons_self _ List.mem_cons_self hHead)
      (ih fun a ha b hb => hImp a (List.mem_cons_of_mem _ ha) b (List.mem_cons_of_mem _ hb))

/-- Some list is related to `xs` just if each of its elements is related to something. -/
theorem exists_forall₂_iff : (∃ ys, List.Forall₂ R xs ys) ↔ ∀ x ∈ xs, ∃ y, R x y := by
  constructor
  · rintro ⟨ys, h⟩ x hx
    obtain ⟨y, -, hR⟩ := exists_right_of_forall₂ h hx
    exact ⟨y, hR⟩
  · intro h
    induction xs with
    | nil => exact ⟨[], .nil⟩
    | cons x xs ih =>
      obtain ⟨⟨y, hR⟩, hRest⟩ := List.forall_mem_cons.mp h
      obtain ⟨ys, hys⟩ := ih hRest
      exact ⟨y :: ys, .cons hR hys⟩

theorem getElem?_of_forall₂ (h : List.Forall₂ R xs ys) {n : Nat} {x : α} (hx : xs[n]? = some x) :
    ∃ y, ys[n]? = some y ∧ R x y := by
  obtain ⟨hLt, rfl⟩ := List.getElem?_eq_some_iff.mp hx
  have hLt' : n < ys.length := h.length_eq ▸ hLt
  exact ⟨ys[n], List.getElem?_eq_getElem hLt', h.get hLt hLt'⟩

theorem rel_getElem? (h : List.Forall₂ R xs ys) (n : Nat) : Option.Rel R xs[n]? ys[n]? := by
  cases hx : xs[n]? with
  | some x =>
    obtain ⟨y, hy, hR⟩ := getElem?_of_forall₂ h hx
    rw [hy]
    exact .some hR
  | none =>
    rw [List.getElem?_eq_none_iff, h.length_eq, ← List.getElem?_eq_none_iff] at hx
    rw [hx]
    exact .none

theorem rel_head? (h : List.Forall₂ R xs ys) : Option.Rel R xs.head? ys.head? := by
  cases h with
  | nil => exact .none
  | cons hFirst _ => exact .some hFirst

theorem rel_getLast? (h : List.Forall₂ R xs ys) : Option.Rel R xs.getLast? ys.getLast? := by
  rw [List.getLast?_eq_head?_reverse, List.getLast?_eq_head?_reverse]
  exact rel_head? (List.forall₂_reverse_iff.mpr h)

/-! ## What is made of the elements -/

theorem map_eq_map_of_forall₂ {f : α → γ} {g : β → γ} (h : List.Forall₂ R xs ys)
    (hR : ∀ a ∈ xs, ∀ b, R a b → f a = g b) : xs.map f = ys.map g := by
  induction h with
  | nil => rfl
  | cons hHead _ ih =>
    rw [List.map_cons, List.map_cons, hR _ List.mem_cons_self _ hHead,
      ih fun a ha => hR a (List.mem_cons_of_mem _ ha)]

theorem map_eq_of_forall₂ {f : α → γ} {g : β → γ} (h : List.Forall₂ R xs ys)
    (hEq : ∀ x y, R x y → f x = g y) : xs.map f = ys.map g :=
  map_eq_map_of_forall₂ h fun x _ y => hEq x y

theorem flatMap_eq_of_forall₂ {f : α → List γ} {g : β → List γ} (h : List.Forall₂ R xs ys)
    (hEq : ∀ x y, R x y → f x = g y) : xs.flatMap f = ys.flatMap g := by
  rw [List.flatMap_def, List.flatMap_def, map_eq_of_forall₂ h hEq]

theorem filterMap_eq_of_forall₂ {f : α → Option γ} {g : β → Option γ} (h : List.Forall₂ R xs ys)
    (hEq : ∀ x y, R x y → f x = g y) : xs.filterMap f = ys.filterMap g := by
  induction h with
  | nil => rfl
  | cons hFirst _ ih => rw [List.filterMap_cons, List.filterMap_cons, hEq _ _ hFirst, ih]

theorem foldl_eq_of_forall₂ {f : γ → α → γ} {g : γ → β → γ} (h : List.Forall₂ R xs ys)
    (hEq : ∀ c x y, R x y → f c x = g c y) (c : γ) : xs.foldl f c = ys.foldl g c := by
  induction h generalizing c with
  | nil => rfl
  | cons hFirst _ ih => rw [List.foldl_cons, List.foldl_cons, hEq c _ _ hFirst, ih]

theorem foldlM_eq_of_forall₂ {m : Type → Type} [Monad m] {f : γ → α → m γ} {g : γ → β → m γ}
    (h : List.Forall₂ R xs ys) (hEq : ∀ c x y, R x y → f c x = g c y) (c : γ) :
    xs.foldlM f c = ys.foldlM g c := by
  induction h generalizing c with
  | nil => rfl
  | cons hFirst _ ih =>
    rw [List.foldlM_cons, List.foldlM_cons, hEq c _ _ hFirst]
    exact bind_congr fun c => ih c

theorem mapM_eq_of_forall₂ {m : Type → Type} [Monad m] [LawfulMonad m] {f : α → m γ} {g : β → m γ}
    (h : List.Forall₂ R xs ys) (hEq : ∀ x y, R x y → f x = g y) : xs.mapM f = ys.mapM g := by
  induction h with
  | nil => rfl
  | cons hFirst _ ih => rw [List.mapM_cons, List.mapM_cons, hEq _ _ hFirst, ih]

theorem any_eq_of_forall₂ {p : α → Bool} {q : β → Bool} (h : List.Forall₂ R xs ys)
    (hEq : ∀ x y, R x y → p x = q y) : xs.any p = ys.any q := by
  induction h with
  | nil => rfl
  | cons hFirst _ ih => rw [List.any_cons, List.any_cons, hEq _ _ hFirst, ih]

theorem modify_of_forall₂ {f : α → α} {g : β → β} (h : List.Forall₂ R xs ys)
    (hRel : ∀ x y, R x y → R (f x) (g y)) (n : Nat) :
    List.Forall₂ R (xs.modify n f) (ys.modify n g) := by
  induction h generalizing n with
  | nil => cases n <;> exact .nil
  | cons hFirst hRest ih =>
    cases n with
    | zero => exact .cons (hRel _ _ hFirst) hRest
    | succ n => exact .cons hFirst (ih n)

/-- What two functions make of one list is related if the results are. -/
theorem filterMap_same_of_rel {S : γ → δ → Prop} {f : α → Option γ} {g : α → Option δ} (xs : List α)
    (hRel : ∀ x, Option.Rel S (f x) (g x)) : List.Forall₂ S (xs.filterMap f) (xs.filterMap g) := by
  induction xs with
  | nil => exact .nil
  | cons x xs ih =>
    have hFirst := hRel x
    rw [List.filterMap_cons, List.filterMap_cons]
    generalize f x = c, g x = d at hFirst ⊢
    cases hFirst with
    | none => exact ih
    | some hS => exact .cons hS ih

/-! ## What is picked from the elements -/

theorem find?_of_forall₂ {p : α → Bool} {q : β → Bool} (h : List.Forall₂ R xs ys)
    (hEq : ∀ x y, R x y → p x = q y) :
    Option.Rel (fun x y => R x y ∧ p x = true) (xs.find? p) (ys.find? q) := by
  induction h with
  | nil => exact .none
  | @cons x y xs ys hFirst _ ih =>
    rw [List.find?_cons, List.find?_cons, ← hEq x y hFirst]
    cases hp : p x with
    | true => exact .some ⟨hFirst, hp⟩
    | false => exact ih

theorem filter_of_forall₂ {p : α → Bool} {q : β → Bool} (h : List.Forall₂ R xs ys)
    (hEq : ∀ x y, R x y → p x = q y) :
    List.Forall₂ (fun x y => R x y ∧ p x = true) (xs.filter p) (ys.filter q) := by
  induction h with
  | nil => exact .nil
  | @cons x y xs ys hFirst _ ih =>
    rw [List.filter_cons, List.filter_cons, ← hEq x y hFirst]
    split
    · exact .cons ⟨hFirst, ‹_›⟩ ih
    · exact ih

theorem lookup_of_forall₂ [BEq γ] {xs : List (γ × α)} {ys : List (γ × β)}
    (h : List.Forall₂ (fun x y => x.1 = y.1 ∧ R x.2 y.2) xs ys) (c : γ) :
    Option.Rel R (xs.lookup c) (ys.lookup c) := by
  induction h with
  | nil => exact .none
  | @cons x y xs ys hFirst _ ih =>
    obtain ⟨c', x⟩ := x
    obtain ⟨c'', y⟩ := y
    obtain ⟨rfl, hR⟩ := hFirst
    rw [List.lookup_cons, List.lookup_cons]
    cases c == c' with
    | true => exact .some hR
    | false => exact ih

theorem forall₂_and {S : α → β → Prop} (h : List.Forall₂ R xs ys) (hS : List.Forall₂ S xs ys) :
    List.Forall₂ (fun x y => R x y ∧ S x y) xs ys := by
  induction h with
  | nil => exact .nil
  | cons hFirst _ ih => cases hS with | cons hSecond hRest => exact .cons ⟨hFirst, hSecond⟩ (ih hRest)

end Lists

/-! ## Options -/

section Options

variable {α β γ δ : Type} {R : α → β → Prop} {a : Option α} {b : Option β}

theorem exists_of_rel_some {x : α} (h : Option.Rel R (some x) b) : ∃ y, b = some y ∧ R x y := by
  cases h with | some hR => exact ⟨_, rfl, hR⟩

theorem eq_none_of_rel (h : Option.Rel R none b) : b = none := by
  cases h
  rfl

theorem map_eq_of_rel {f : α → γ} {g : β → γ} (h : Option.Rel R a b)
    (hEq : ∀ x y, R x y → f x = g y) : a.map f = b.map g := by
  cases h with
  | none => rfl
  | some hR => rw [Option.map_some, Option.map_some, hEq _ _ hR]

theorem rel_map {S : γ → δ → Prop} {f : α → γ} {g : β → δ} (h : Option.Rel R a b)
    (hRel : ∀ x y, R x y → S (f x) (g y)) : Option.Rel S (a.map f) (b.map g) := by
  cases h with
  | none => exact .none
  | some hR => exact .some (hRel _ _ hR)

theorem rel_bind {S : γ → δ → Prop} {f : α → Option γ} {g : β → Option δ} (h : Option.Rel R a b)
    (hRel : ∀ x y, R x y → Option.Rel S (f x) (g y)) : Option.Rel S (a.bind f) (b.bind g) := by
  cases h with
  | none => exact .none
  | some hR => exact hRel _ _ hR

end Options

end CodeAtlas
