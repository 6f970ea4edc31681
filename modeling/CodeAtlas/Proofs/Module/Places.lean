import CodeAtlas.Module.Tree
import Mathlib.Data.List.Lex
import Mathlib.Data.List.Perm.Subperm

/-!
# Places of statements

A statement inside some others stands at a place: its index, behind the index of each statement around
it. Places are ordered like words, which is the order of the text. Which statements count as inside
another one is a parameter (`Inner`), because indexing does not look into all of them.

* `Inner.mem_spots`, `Inner.pairwise_spots`: the statements with their places, each once and in the order
  of the text.
* `Inner.At.searched_or`: what is not searched is hidden by a statement on the way to it.
-/

namespace CodeAtlas.Module

/-! ## Statements inside a statement -/

theorem sizeOf_append {α : Type} [SizeOf α] (xs ys : List α) :
    sizeOf (xs ++ ys) + 1 = sizeOf xs + sizeOf ys := by
  induction xs with
  | nil =>
    simp only [List.nil_append, List.nil.sizeOf_spec]
    omega
  | cons x xs ih =>
    simp only [List.cons_append, List.cons.sizeOf_spec]
    omega

theorem sizeOf_flatMap_body (handlers : List Handler) :
    sizeOf (handlers.flatMap Handler.body) ≤ sizeOf handlers := by
  induction handlers with
  | nil => simp
  | cons h handlers ih =>
    obtain ⟨kind, name, body⟩ := h
    have hAppend := sizeOf_append body (handlers.flatMap Handler.body)
    simp only [List.flatMap_cons, Handler.body, List.cons.sizeOf_spec, Handler.mk.sizeOf_spec]
    omega

/-- A choice of statements inside a statement, in the order of the text. -/
structure Inner where
  of : Stmt → List Stmt
  sizeOf_le : ∀ s, sizeOf (of s) ≤ sizeOf s

namespace Stmt

def isFunction : Stmt → Bool
  | .function .. => true
  | _ => false

def isClass : Stmt → Bool
  | .classDef .. => true
  | _ => false

/-- Classes, conditions and handled failures leave open what stands in their blocks. -/
def opened : Stmt → List Stmt
  | .classDef _ _ _ _ body _ => body
  | .branch _ _ body orElse => body ++ orElse
  | .attempt _ body handlers orElse final =>
    body ++ handlers.flatMap Handler.body ++ orElse ++ final
  | _ => []

/-- The statements into which indexing looks. -/
def searched : Stmt → List Stmt
  | .classDef _ _ _ _ body _ => body
  | .branch _ _ body orElse => body ++ orElse
  | .attempt false body handlers orElse _ => body ++ handlers.flatMap Handler.body ++ orElse
  | _ => []

/-- Those into which it does not look: what runs at last behind handled failures, and all of it where
failures are handled in groups. -/
def hidden : Stmt → List Stmt
  | .attempt false _ _ _ final => final
  | .attempt true body handlers orElse final =>
    body ++ handlers.flatMap Handler.body ++ orElse ++ final
  | _ => []

/-- The searched statements that belong to the scope of the statement itself. -/
def alongside (s : Stmt) : List Stmt := if s.isClass then [] else s.searched

theorem opened_eq (s : Stmt) : s.opened = s.searched ++ s.hidden := by
  cases s with
  | attempt grouped body handlers orElse final => cases grouped <;> rfl
  | _ => exact (List.append_nil _).symm

theorem sizeOf_opened_le (s : Stmt) : sizeOf s.opened ≤ sizeOf s := by
  cases s with
  | classDef line name bases keywords body decorators =>
    simp only [opened, classDef.sizeOf_spec]
    omega
  | branch line test body orElse =>
    have := sizeOf_append body orElse
    simp only [opened, branch.sizeOf_spec]
    omega
  | attempt grouped body handlers orElse final =>
    have := sizeOf_append (body ++ handlers.flatMap Handler.body ++ orElse) final
    have := sizeOf_append (body ++ handlers.flatMap Handler.body) orElse
    have := sizeOf_append body (handlers.flatMap Handler.body)
    have := sizeOf_flatMap_body handlers
    simp only [opened, attempt.sizeOf_spec]
    omega
  | _ => simp [opened] <;> omega

theorem sizeOf_searched_le (s : Stmt) : sizeOf s.searched ≤ sizeOf s := by
  have hOpened := s.sizeOf_opened_le
  have hAppend := sizeOf_append s.searched s.hidden
  have hHidden : 0 < sizeOf s.hidden := by
    cases s.hidden
    · simp
    · simp only [List.cons.sizeOf_spec]
      omega
  rw [opened_eq] at hOpened
  omega

theorem sizeOf_alongside_le (s : Stmt) : sizeOf s.alongside ≤ sizeOf s := by
  rw [alongside]
  split
  · cases s <;> simp <;> omega
  · exact s.sizeOf_searched_le

end Stmt

namespace Inner

def opened : Inner := ⟨Stmt.opened, Stmt.sizeOf_opened_le⟩

def searched : Inner := ⟨Stmt.searched, Stmt.sizeOf_searched_le⟩

def alongside : Inner := ⟨Stmt.alongside, Stmt.sizeOf_alongside_le⟩

/-! ## Places -/

/-- The statement `s` stands at the place `p` in some statements. -/
inductive At (I : Inner) : List Stmt → List Nat → Stmt → Prop
  | here {ss : List Stmt} {i : Nat} {s : Stmt} (h : ss[i]? = some s) : At I ss [i] s
  | within {ss : List Stmt} {i : Nat} {s t : Stmt} {p : List Nat} (h : ss[i]? = some s)
      (ht : At I (I.of s) p t) : At I ss (i :: p) t

/-- The place behind one more statement. -/
def next : List Nat → List Nat
  | [] => []
  | i :: p => (i + 1) :: p

/-- All statements inside some others with their places, in the order of the text. -/
def spots (I : Inner) : List Stmt → List (List Nat × Stmt)
  | [] => []
  | s :: rest =>
    ([0], s) :: ((I.spots (I.of s)).map fun x => (0 :: x.1, x.2)) ++
      (I.spots rest).map fun x => (next x.1, x.2)
termination_by ss => sizeOf ss
decreasing_by
  · have := I.sizeOf_le s
    simp only [List.cons.sizeOf_spec]
    omega
  · simp only [List.cons.sizeOf_spec]
    omega

variable {I : Inner} {ss rest : List Stmt} {s t : Stmt} {p : List Nat}

theorem At.ne_nil (h : I.At ss p t) : p ≠ [] := by
  cases h <;> exact List.cons_ne_nil _ _

theorem not_at_nil : ¬ I.At [] p t := by
  rintro (⟨h⟩ | ⟨h, -⟩) <;> cases h

theorem At.head_lt {i : Nat} (h : I.At ss (i :: p) t) : i < ss.length := by
  cases h with
  | here h => exact (List.getElem?_eq_some_iff.mp h).1
  | within h => exact (List.getElem?_eq_some_iff.mp h).1

theorem At.of_within {i : Nat} (h : I.At ss (i :: p) t) (hs : ss[i]? = some s) (hp : p ≠ []) :
    I.At (I.of s) p t := by
  cases h with
  | here => exact (hp rfl).elim
  | within h ht =>
    obtain rfl := Option.some.inj (hs.symm.trans h)
    exact ht

/-- A place in a list is that of its head, one inside the head, or one in the rest. -/
theorem at_cons : I.At (s :: rest) p t ↔ (p = [0] ∧ t = s) ∨
    (∃ q, I.At (I.of s) q t ∧ p = 0 :: q) ∨ ∃ q, I.At rest q t ∧ p = next q := by
  constructor
  · intro h
    cases h with
    | @here _ i _ h =>
      cases i with
      | zero => exact .inl ⟨rfl, (Option.some.inj h).symm⟩
      | succ i => exact .inr (.inr ⟨[i], .here h, rfl⟩)
    | @within _ i _ _ q h ht =>
      cases i with
      | zero =>
        obtain rfl := Option.some.inj h
        exact .inr (.inl ⟨q, ht, rfl⟩)
      | succ i => exact .inr (.inr ⟨i :: q, .within h ht, rfl⟩)
  · rintro (⟨rfl, rfl⟩ | ⟨q, hq, rfl⟩ | ⟨q, hq, rfl⟩)
    · exact .here rfl
    · exact .within rfl hq
    · cases hq with
      | here h => exact .here h
      | within h ht => exact .within h ht

theorem mem_spots {x : List Nat × Stmt} : x ∈ I.spots ss ↔ I.At ss x.1 x.2 := by
  obtain ⟨p, t⟩ := x
  induction ss using spots.induct I generalizing p with
  | case1 => simp [spots, not_at_nil]
  | case2 s rest ihInside ihRest =>
    rw [spots, at_cons, List.mem_append, List.mem_cons, List.mem_map, List.mem_map]
    constructor
    · rintro ((hHead | ⟨⟨q, u⟩, hq, hEq⟩) | ⟨⟨q, u⟩, hq, hEq⟩)
      · exact .inl (Prod.mk.inj hHead)
      · obtain ⟨rfl, rfl⟩ := Prod.mk.inj hEq
        exact .inr (.inl ⟨q, (ihInside q).mp hq, rfl⟩)
      · obtain ⟨rfl, rfl⟩ := Prod.mk.inj hEq
        exact .inr (.inr ⟨q, (ihRest q).mp hq, rfl⟩)
    · rintro (⟨rfl, rfl⟩ | ⟨q, hq, rfl⟩ | ⟨q, hq, rfl⟩)
      · exact .inl (.inl rfl)
      · exact .inl (.inr ⟨(q, t), (ihInside q).mpr hq, rfl⟩)
      · exact .inr ⟨(q, t), (ihRest q).mpr hq, rfl⟩

theorem next_lt_next {p q : List Nat} (h : p < q) : next p < next q := by
  cases p with
  | nil =>
    cases q with
    | nil => exact h
    | cons j q => exact List.nil_lt_cons _ _
  | cons i p =>
    cases q with
    | nil => cases h
    | cons j q =>
      rw [next, next, List.cons_lt_cons_iff]
      rcases List.cons_lt_cons_iff.mp h with hLt | ⟨rfl, hLt⟩
      · exact .inl (Nat.succ_lt_succ hLt)
      · exact .inr ⟨rfl, hLt⟩

/-- What is at the head of a list stands before the rest. -/
theorem zero_cons_lt_next (p : List Nat) {q : List Nat} (hq : q ≠ []) : 0 :: p < next q := by
  obtain ⟨i, q, rfl⟩ := List.exists_cons_of_ne_nil hq
  exact List.cons_lt_cons_iff.mpr (.inl (Nat.succ_pos i))

/-- The places come in the order of the text. -/
theorem pairwise_spots (I : Inner) (ss : List Stmt) :
    (I.spots ss).Pairwise fun x y => x.1 < y.1 := by
  induction ss using spots.induct I with
  | case1 => simp [spots]
  | case2 s rest ihInside ihRest =>
    rw [spots, List.pairwise_append, List.pairwise_cons, List.pairwise_map, List.pairwise_map]
    refine ⟨⟨?_, ?_⟩, ?_, ?_⟩
    · intro x hx
      obtain ⟨y, hy, rfl⟩ := List.mem_map.mp hx
      obtain ⟨i, q, hq⟩ := List.exists_cons_of_ne_nil (mem_spots.mp hy).ne_nil
      rw [hq]
      exact List.cons_lt_cons_iff.mpr (.inr ⟨rfl, List.nil_lt_cons _ _⟩)
    · exact ihInside.imp fun h => List.cons_lt_cons_iff.mpr (.inr ⟨rfl, h⟩)
    · exact ihRest.imp next_lt_next
    · intro x hx y hy
      obtain ⟨z, hz, rfl⟩ := List.mem_map.mp hy
      have hRest := (mem_spots.mp hz).ne_nil
      rcases List.mem_cons.mp hx with rfl | hx
      · exact zero_cons_lt_next [] hRest
      · obtain ⟨w, -, rfl⟩ := List.mem_map.mp hx
        exact zero_cons_lt_next w.1 hRest

/-- What is listed at places in their order has no repetitions, so it is all of a list that is no
longer. -/
theorem subset_of_length_le {α : Type} {xs ys : List (List Nat × α)}
    (hOrder : xs.Pairwise fun x y => x.1 < y.1) (hSubset : xs ⊆ ys) (hLength : ys.length ≤ xs.length) :
    ys ⊆ xs := by
  have hNodup : xs.Nodup := hOrder.imp fun hLt hEq => by
    rw [hEq] at hLt
    exact List.lt_irrefl _ hLt
  exact ((hNodup.subperm hSubset).perm_of_length_le hLength).symm.subset

/-- The place behind `n` more statements. -/
def shift (n : Nat) : List Nat → List Nat
  | [] => []
  | i :: p => (n + i) :: p

theorem at_append {xs ys : List Stmt} :
    I.At (xs ++ ys) p t ↔ I.At xs p t ∨ ∃ q, I.At ys q t ∧ p = shift xs.length q := by
  constructor
  · -- a place in both lists lies in the one that its first index points into
    have hSplit : ∀ {i u}, (xs ++ ys)[i]? = some u →
        xs[i]? = some u ∨ ∃ j, ys[j]? = some u ∧ i = xs.length + j := by
      intro i u h
      by_cases hLt : i < xs.length
      · exact .inl (List.getElem?_append_left hLt ▸ h)
      · refine .inr ⟨i - xs.length, ?_, by omega⟩
        rwa [List.getElem?_append_right (Nat.le_of_not_lt hLt)] at h
    intro h
    cases h with
    | here h =>
      rcases hSplit h with hx | ⟨j, hy, rfl⟩
      · exact .inl (.here hx)
      · exact .inr ⟨[j], .here hy, rfl⟩
    | within h ht =>
      rcases hSplit h with hx | ⟨j, hy, rfl⟩
      · exact .inl (.within hx ht)
      · exact .inr ⟨j :: _, .within hy ht, rfl⟩
  · have hRight : ∀ j, (xs ++ ys)[xs.length + j]? = ys[j]? := by
      intro j
      rw [List.getElem?_append_right (Nat.le_add_right _ _), Nat.add_sub_cancel_left]
    rintro (h | ⟨q, h, rfl⟩)
    · cases h with
      | here h => exact .here (List.getElem?_append_left (List.getElem?_eq_some_iff.mp h).1 ▸ h)
      | within h ht =>
        exact .within (List.getElem?_append_left (List.getElem?_eq_some_iff.mp h).1 ▸ h) ht
    · cases h with
      | @here _ j _ h => exact .here ((hRight j).trans h)
      | @within _ j _ _ _ h ht => exact .within ((hRight j).trans h) ht

/-- What is found by searching is found at the same place by looking into all that is open. -/
theorem At.opened (h : Inner.searched.At ss p t) : Inner.opened.At ss p t := by
  induction h with
  | here h => exact .here h
  | @within _ _ s _ _ h _ ih =>
    refine .within h ?_
    have hOpened : Inner.opened.of s = s.searched ++ s.hidden := s.opened_eq
    rw [hOpened]
    exact at_append.mpr (.inl ih)

/-- A place is searched unless a statement on the way to it hides what stands there. -/
theorem At.searched_or (h : Inner.opened.At ss p t) : Inner.searched.At ss p t ∨
    ∃ q s r, Inner.opened.At ss q s ∧ Inner.opened.At s.hidden r t := by
  induction p generalizing ss with
  | nil => exact (h.ne_nil rfl).elim
  | cons i p ih =>
    cases h with
    | here h => exact .inl (.here h)
    | @within _ _ s _ _ h ht =>
      have hOpened : Inner.opened.of s = s.searched ++ s.hidden := s.opened_eq
      rw [hOpened] at ht
      rcases at_append.mp ht with hSearched | ⟨r, hHidden, -⟩
      · rcases ih hSearched with hIn | ⟨q, u, r, hu, hr⟩
        · exact .inl (.within h hIn)
        · refine .inr ⟨i :: q, u, r, .within h ?_, hr⟩
          rw [hOpened]
          exact at_append.mpr (.inl hu)
      · exact .inr ⟨[i], s, r, .here h, hHidden⟩

/-- What is hidden inside a statement stands at a place that is not searched. -/
theorem exists_not_searched {q r : List Nat} (hs : Inner.opened.At ss q s)
    (ht : Inner.opened.At s.hidden r t) :
    ∃ p, Inner.opened.At ss p t ∧ ¬ Inner.searched.At ss p t := by
  induction hs with
  | @here _ i u h =>
    have hOpened : Inner.opened.of u = u.searched ++ u.hidden := u.opened_eq
    refine ⟨i :: shift u.searched.length r, .within h ?_, fun hIn => ?_⟩
    · rw [hOpened]
      exact at_append.mpr (.inr ⟨r, ht, rfl⟩)
    · -- the first index of the place inside `u` lies behind all that is searched
      obtain ⟨j, r, rfl⟩ := List.exists_cons_of_ne_nil ht.ne_nil
      have hLt := (hIn.of_within h (List.cons_ne_nil _ _)).head_lt
      have hLength : Inner.searched.of u = u.searched := rfl
      rw [hLength] at hLt
      omega
  | @within _ i u _ _ h _ ih =>
    obtain ⟨p, hp, hNot⟩ := ih ht
    have hOpened : Inner.opened.of u = u.searched ++ u.hidden := u.opened_eq
    refine ⟨i :: p, .within h hp, fun hIn => hNot ?_⟩
    rw [hOpened]
    exact at_append.mpr (.inl (hIn.of_within h hp.ne_nil))

/-! ## Listings -/

/-- The statements inside some others, in the order of the text. -/
def listing (I : Inner) (ss : List Stmt) : List Stmt := (I.spots ss).map (·.2)

@[simp] theorem listing_nil (I : Inner) : I.listing [] = [] := by
  rw [listing, spots, List.map_nil]

theorem listing_cons (I : Inner) (s : Stmt) (rest : List Stmt) :
    I.listing (s :: rest) = s :: I.listing (I.of s) ++ I.listing rest := by
  rw [listing, spots, List.map_append, List.map_cons, List.map_map, List.map_map]
  rfl

end Inner

end CodeAtlas.Module
