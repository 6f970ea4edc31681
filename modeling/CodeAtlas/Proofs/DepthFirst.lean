import Mathlib.Algebra.Order.BigOperators.Group.List
import Mathlib.Algebra.Order.Group.Nat
import Mathlib.Data.Finset.Card
import Mathlib.Data.List.Flatten
import Mathlib.Data.List.Nodup
import Mathlib.Logic.Relation

/-!
# Depth-first search

From some nodes all that they lead to is visited, each node before what it leads to, from left to right
and only once. The recursive search says what is meant; a loop with a stack does it.

* `DepthFirst`: the recursive search.
* `exists_depthFirst`: it comes to an end if there are finitely many nodes.
* `DepthFirst.mem_iff`, `DepthFirst.nodup`: it visits what can be reached, each node once.
* `DepthFirst.stackLoop`: the loop with a stack visits the same nodes in the same order, up to the first
  one that ends it.
* `Bounded.run_eq`: a search with a bound on its steps goes through the loop, if the bound is large enough.
* `Traversal`: the order of the visited nodes.
-/

namespace CodeAtlas

variable {α : Type} {next : α → List α}

/-! ## Places in a list -/

/-- Of two places in a list one is before the other, or they are the same. -/
theorem append_cons_cases {xs xs' ys ys' : List α} {x y : α}
    (h : xs ++ x :: ys = xs' ++ y :: ys') : xs = xs' ∧ x = y ∨ x ∈ xs' ∨ y ∈ xs := by
  rcases List.append_eq_append_iff.mp h with ⟨mid, rfl, hRest⟩ | ⟨mid, rfl, hRest⟩
  · cases mid with
    | nil => exact .inl ⟨(List.append_nil _).symm, (List.cons.inj hRest).1⟩
    | cons z mid => exact .inr (.inl (by simp [(List.cons.inj hRest).1]))
  · cases mid with
    | nil => exact .inl ⟨List.append_nil _, (List.cons.inj hRest).1.symm⟩
    | cons z mid => exact .inr (.inr (by simp [(List.cons.inj hRest).1]))

/-! ## The recursive search -/

/-- The recursive search from some nodes, with the nodes seen before it and those that it visits, in
their order. -/
inductive DepthFirst (next : α → List α) : List α → List α → List α → Prop
  | done {seen : List α} : DepthFirst next seen [] []
  /-- A node that has been seen is passed over. -/
  | old {seen rest found : List α} {a : α} (mem : a ∈ seen) (onward : DepthFirst next seen rest found) :
      DepthFirst next seen (a :: rest) found
  /-- Any other node is visited, then all below it, then the rest. -/
  | new {seen rest below beyond : List α} {a : α} (notMem : a ∉ seen)
      (downward : DepthFirst next (a :: seen) (next a) below)
      (onward : DepthFirst next (below.reverse ++ a :: seen) rest beyond) :
      DepthFirst next seen (a :: rest) (a :: (below ++ beyond))

namespace DepthFirst

variable {seen nodes found found' : List α} {a : α}

theorem unique (h : DepthFirst next seen nodes found) (h' : DepthFirst next seen nodes found') :
    found = found' := by
  induction h generalizing found' with
  | done =>
    cases h'
    rfl
  | old hMem _ ih =>
    cases h' with
    | old _ hRest => exact ih hRest
    | new hNot => exact absurd hMem hNot
  | new hNot _ _ ihBelow ihBeyond =>
    cases h' with
    | old hMem => exact absurd hMem hNot
    | new _ hBelow hBeyond =>
      obtain rfl := ihBelow hBelow
      rw [ihBeyond hBeyond]

/-- What is visited can be reached. -/
theorem exists_reaches (h : DepthFirst next seen nodes found) (ha : a ∈ found) :
    ∃ n ∈ nodes, Relation.ReflTransGen (fun a b => b ∈ next a) n a := by
  induction h with
  | done => cases ha
  | old _ _ ih =>
    obtain ⟨n, hn, hReach⟩ := ih ha
    exact ⟨n, List.mem_cons_of_mem _ hn, hReach⟩
  | new _ _ _ ihBelow ihBeyond =>
    rcases List.mem_cons.mp ha with rfl | ha
    · exact ⟨_, List.mem_cons_self, .refl⟩
    · rcases List.mem_append.mp ha with ha | ha
      · obtain ⟨n, hn, hReach⟩ := ihBelow ha
        exact ⟨_, List.mem_cons_self, .head hn hReach⟩
      · obtain ⟨n, hn, hReach⟩ := ihBeyond ha
        exact ⟨n, List.mem_cons_of_mem _ hn, hReach⟩

/-- Afterwards all of the nodes have been seen, and all that the visited nodes lead to. -/
theorem covers (h : DepthFirst next seen nodes found) :
    (∀ a ∈ nodes, a ∈ seen ∨ a ∈ found) ∧
      ∀ a ∈ found, ∀ b ∈ next a, b ∈ seen ∨ b ∈ found := by
  induction h with
  | done => exact ⟨nofun, nofun⟩
  | old hMem _ ih => exact ⟨List.forall_mem_cons.mpr ⟨.inl hMem, ih.1⟩, ih.2⟩
  | @new seen rest below beyond a _ _ _ ihBelow ihBeyond =>
    have hBelow : ∀ b, b ∈ a :: seen ∨ b ∈ below → b ∈ seen ∨ b ∈ a :: (below ++ beyond) := by
      intro b hb
      simp only [List.mem_cons, List.mem_append] at hb ⊢
      tauto
    have hBeyond : ∀ b, b ∈ below.reverse ++ a :: seen ∨ b ∈ beyond →
        b ∈ seen ∨ b ∈ a :: (below ++ beyond) := by
      intro b hb
      simp only [List.mem_cons, List.mem_append, List.mem_reverse] at hb ⊢
      tauto
    constructor
    · refine List.forall_mem_cons.mpr ⟨.inr List.mem_cons_self, fun b hb => ?_⟩
      exact hBeyond b (ihBeyond.1 b hb)
    · intro b hb c hc
      rcases List.mem_cons.mp hb with rfl | hb
      · exact hBelow c (ihBelow.1 c hc)
      · rcases List.mem_append.mp hb with hb | hb
        · exact hBelow c (ihBelow.2 b hb c hc)
        · exact hBeyond c (ihBeyond.2 b hb c hc)

/-- Just what can be reached is visited. -/
theorem mem_iff (h : DepthFirst next [] nodes found) :
    a ∈ found ↔ ∃ n ∈ nodes, Relation.ReflTransGen (fun a b => b ∈ next a) n a := by
  refine ⟨h.exists_reaches, ?_⟩
  rintro ⟨n, hn, hReach⟩
  obtain ⟨hNodes, hNext⟩ := h.covers
  induction hReach with
  | refl => exact (hNodes n hn).resolve_left List.not_mem_nil
  | tail _ hStep ih => exact (hNext _ ih _ hStep).resolve_left List.not_mem_nil

theorem not_mem_seen (h : DepthFirst next seen nodes found) : ∀ a ∈ found, a ∉ seen := by
  induction h with
  | done => exact nofun
  | old _ _ ih => exact ih
  | new hNot _ _ ihBelow ihBeyond =>
    intro b hb hSeen
    rcases List.mem_cons.mp hb with rfl | hb
    · exact hNot hSeen
    · rcases List.mem_append.mp hb with hb | hb
      · exact ihBelow b hb (List.mem_cons_of_mem _ hSeen)
      · exact ihBeyond b hb (List.mem_append_right _ (List.mem_cons_of_mem _ hSeen))

/-- No node is visited twice. -/
theorem nodup (h : DepthFirst next seen nodes found) : found.Nodup := by
  induction h with
  | done => exact List.nodup_nil
  | old _ _ ih => exact ih
  | new _ hBelow hBeyond ihBelow ihBeyond =>
    refine List.nodup_cons.mpr ⟨fun hMem => ?_, List.nodup_append.mpr ⟨ihBelow, ihBeyond, ?_⟩⟩
    · rcases List.mem_append.mp hMem with hMem | hMem
      · exact hBelow.not_mem_seen _ hMem List.mem_cons_self
      · exact hBeyond.not_mem_seen _ hMem (List.mem_append_right _ List.mem_cons_self)
    · rintro b hb c hc rfl
      exact hBeyond.not_mem_seen b hc (List.mem_append_left _ (List.mem_reverse.mpr hb))

/-- A bound on the links that are followed, if all nodes are among `all`. -/
theorem length_flatMap_le {β : Type} (links : α → List β) {all : List α}
    (h : DepthFirst next seen nodes found) (hAll : ∀ a ∈ found, a ∈ all)
    (hLinks : ∀ a, (next a).length ≤ (links a).length) :
    (found.flatMap next).length ≤ (all.flatMap links).length := by
  obtain ⟨front, hPerm, hSub⟩ := List.subperm_of_subset h.nodup hAll
  calc (found.flatMap next).length
      = (front.flatMap next).length := (hPerm.symm.flatMap_right next).length_eq
    _ ≤ (front.flatMap links).length := by
      rw [List.length_flatMap, List.length_flatMap]
      exact List.sum_le_sum fun a _ => hLinks a
    _ ≤ (all.flatMap links).length := (hSub.flatMap links).length_le

end DepthFirst

/-- Among finitely many nodes the search comes to an end. -/
theorem exists_depthFirst {all : List α} (hNext : ∀ a ∈ all, ∀ b ∈ next a, b ∈ all)
    {seen nodes : List α} (hNodes : ∀ a ∈ nodes, a ∈ all) :
    ∃ found, DepthFirst next seen nodes found := by
  classical
  -- what has not been seen gets less with each node that is visited
  generalize hLeft : (all.toFinset \ seen.toFinset).card = left
  induction left using Nat.strong_induction_on generalizing seen nodes with
  | _ left ih =>
    have hFewer : ∀ a ∈ all, a ∉ seen → ∀ seen' : List α, a ∈ seen' → (∀ b ∈ seen, b ∈ seen') →
        (all.toFinset \ seen'.toFinset).card < left := by
      intro a ha hNot seen' hNew hOld
      rw [← hLeft]
      apply Finset.card_lt_card
      rw [Finset.ssubset_iff_of_subset]
      · exact ⟨a, by simp [ha, hNot], by simp [hNew]⟩
      · intro b hb
        rw [Finset.mem_sdiff, List.mem_toFinset, List.mem_toFinset] at hb ⊢
        exact ⟨hb.1, fun hSeen => hb.2 (hOld b hSeen)⟩
    induction nodes with
    | nil => exact ⟨[], .done⟩
    | cons a rest ihRest =>
      obtain ⟨ha, hRest⟩ := List.forall_mem_cons.mp hNodes
      by_cases hMem : a ∈ seen
      · obtain ⟨found, hFound⟩ := ihRest hRest
        exact ⟨found, .old hMem hFound⟩
      · obtain ⟨below, hBelow⟩ := ih _ (hFewer a ha hMem (a :: seen) List.mem_cons_self
          fun b hb => List.mem_cons_of_mem a hb) (hNext a ha) rfl
        obtain ⟨beyond, hBeyond⟩ := ih _ (hFewer a ha hMem (below.reverse ++ a :: seen)
          (List.mem_append_right _ List.mem_cons_self)
          fun b hb => List.mem_append_right _ (List.mem_cons_of_mem a hb)) hRest rfl
        exact ⟨_, .new hMem hBelow hBeyond⟩

/-! ## The loop with a stack -/

/-- The loop with a stack, with the nodes seen before it and those that it visits. What a node leads to
is put on top of the stack, and a node is marked when it is taken from it. -/
inductive StackLoop (next : α → List α) (ends : α → Bool) : List α → List α → List α → Prop
  | empty {seen : List α} : StackLoop next ends seen [] []
  | old {seen stack found : List α} {a : α} (mem : a ∈ seen)
      (onward : StackLoop next ends seen stack found) : StackLoop next ends seen (a :: stack) found
  /-- A node that ends the loop is the last that is visited. -/
  | last {seen stack : List α} {a : α} (notMem : a ∉ seen) (hit : ends a = true) :
      StackLoop next ends seen (a :: stack) [a]
  | new {seen stack found : List α} {a : α} (notMem : a ∉ seen) (miss : ends a = false)
      (onward : StackLoop next ends (a :: seen) (next a ++ stack) found) :
      StackLoop next ends seen (a :: stack) (a :: found)

/-- The beginning of a list up to the first element with a property. -/
def upTo (ends : α → Bool) : List α → List α
  | [] => []
  | a :: rest => if ends a then [a] else a :: upTo ends rest

section UpTo

variable {ends : α → Bool}

theorem upTo_sublist (xs : List α) : (upTo ends xs).Sublist xs := by
  induction xs with
  | nil => exact List.Sublist.slnil
  | cons a xs ih =>
    rw [upTo]
    split
    · exact (List.nil_sublist xs).cons_cons a
    · exact ih.cons_cons a

theorem find?_upTo (xs : List α) : (upTo ends xs).find? ends = xs.find? ends := by
  induction xs with
  | nil => rfl
  | cons a xs ih =>
    rw [upTo]
    split
    · rename_i hEnds
      rw [List.find?_cons_of_pos hEnds, List.find?_cons_of_pos hEnds]
    · rename_i hNot
      rw [List.find?_cons_of_neg hNot, List.find?_cons_of_neg hNot, ih]

theorem upTo_never (xs : List α) : upTo (fun _ => false) xs = xs := by
  induction xs with
  | nil => rfl
  | cons a xs ih => rw [upTo, if_neg Bool.false_ne_true, ih]

end UpTo

/-- With some nodes on top of its stack the loop does what the search from them does, and then goes on
with what is left of the stack. -/
theorem DepthFirst.stackLoop {ends : α → Bool} {seen nodes found stack rest : List α}
    (h : DepthFirst next seen nodes found)
    (hRest : StackLoop next ends (found.reverse ++ seen) stack (upTo ends rest)) :
    StackLoop next ends seen (nodes ++ stack) (upTo ends (found ++ rest)) := by
  induction h generalizing stack rest with
  | done => exact hRest
  | old hMem _ ih => exact .old hMem (ih hRest)
  | @new seen nodes below beyond a hNot _ _ ihBelow ihBeyond =>
    rw [List.cons_append, List.cons_append, upTo]
    split
    · exact .last hNot ‹_›
    · rename_i hMiss
      have hOnward : StackLoop next ends (below.reverse ++ a :: seen) (nodes ++ stack)
          (upTo ends (beyond ++ rest)) := by
        apply ihBeyond
        simpa using hRest
      rw [List.append_assoc]
      exact .new hNot (Bool.eq_false_iff.mpr hMiss) (ihBelow hOnward)

/-- The loop visits what the search does, up to the first node that ends it. -/
theorem DepthFirst.stackLoop_upTo {nodes found : List α} (h : DepthFirst next [] nodes found)
    (ends : α → Bool) : StackLoop next ends [] nodes (upTo ends found) := by
  have hEmpty : StackLoop next ends (found.reverse ++ []) [] (upTo ends []) := .empty
  have hWhole := h.stackLoop hEmpty
  rwa [List.append_nil, List.append_nil] at hWhole

/-! ## Searches with a bound -/

/-- Where a test tells nodes apart, it finds the one that is asked for. -/
theorem any_iff_mem {same : α → α → Bool} {a : α} {seen : List α}
    (h : ∀ b, b = a ∨ b ∈ seen → (same a b = true ↔ a = b)) : seen.any (same a) = true ↔ a ∈ seen := by
  rw [List.any_eq_true]
  constructor
  · rintro ⟨b, hb, hSame⟩
    rwa [(h b (.inr hb)).mp hSame]
  · exact fun hMem => ⟨a, hMem, (h a (.inl rfl)).mpr rfl⟩

/-- The function `run` goes through the loop, with a bound on its steps, and gives what `result` makes of
the nodes that it visits. This is so for the nodes that are `good`. -/
structure Bounded {β : Type} (next : α → List α) (ends : α → Bool) (good : α → Prop)
    (run : Nat → List α → List α → β) (result : List α → β) : Prop where
  closed : ∀ a, good a → ∀ b ∈ next a, good b
  empty : ∀ fuel seen, run fuel seen [] = result []
  old : ∀ fuel seen a stack, good a → (∀ b ∈ seen, good b) → a ∈ seen →
    run (fuel + 1) seen (a :: stack) = run fuel seen stack
  last : ∀ fuel seen a stack, good a → (∀ b ∈ seen, good b) → a ∉ seen → ends a = true →
    run (fuel + 1) seen (a :: stack) = result [a]
  new : ∀ fuel seen a stack found, good a → (∀ b ∈ seen, good b) → a ∉ seen → ends a = false →
    run fuel (a :: seen) (next a ++ stack) = result found →
    run (fuel + 1) seen (a :: stack) = result (a :: found)

/-- With a step for each node that comes on the stack, the loop is gone through to its end. -/
theorem Bounded.run_eq {β : Type} {ends : α → Bool} {good : α → Prop}
    {run : Nat → List α → List α → β} {result : List α → β} (h : Bounded next ends good run result)
    {seen stack found : List α} (hLoop : StackLoop next ends seen stack found)
    (hStack : ∀ a ∈ stack, good a) (hSeen : ∀ a ∈ seen, good a) {fuel : Nat}
    (hFuel : stack.length + (found.flatMap next).length ≤ fuel) : run fuel seen stack = result found := by
  induction hLoop generalizing fuel with
  | empty => exact h.empty fuel _
  | old mem _ ih =>
    obtain ⟨ha, hStack⟩ := List.forall_mem_cons.mp hStack
    rw [List.length_cons] at hFuel
    obtain ⟨fuel, rfl⟩ : ∃ k, fuel = k + 1 := ⟨fuel - 1, by omega⟩
    rw [h.old _ _ _ _ ha hSeen mem]
    exact ih hStack hSeen (by omega)
  | last notMem hit =>
    have ha := (List.forall_mem_cons.mp hStack).1
    rw [List.length_cons] at hFuel
    obtain ⟨fuel, rfl⟩ : ∃ k, fuel = k + 1 := ⟨fuel - 1, by omega⟩
    exact h.last _ _ _ _ ha hSeen notMem hit
  | new notMem miss _ ih =>
    obtain ⟨ha, hStack⟩ := List.forall_mem_cons.mp hStack
    rw [List.length_cons, List.flatMap_cons, List.length_append] at hFuel
    obtain ⟨fuel, rfl⟩ : ∃ k, fuel = k + 1 := ⟨fuel - 1, by omega⟩
    apply h.new _ _ _ _ _ ha hSeen notMem miss
    apply ih
    · exact List.forall_mem_append.mpr ⟨h.closed _ ha, hStack⟩
    · exact List.forall_mem_cons.mpr ⟨ha, hSeen⟩
    · rw [List.length_append]
      omega

/-! ## Traversals -/

/-- A list is what is visited from some nodes on. -/
structure Traversal (next : α → List α) (start order : List α) : Prop where
  /-- It is what the recursive search finds. -/
  depthFirst : ∀ found, DepthFirst next [] start found ↔ found = order
  /-- The loop with a stack comes to an end, whatever may end it, and visits the same up to there. -/
  stackLoop : ∀ ends, StackLoop next ends [] start (upTo ends order)
  mem_iff : ∀ a, a ∈ order ↔ ∃ n ∈ start, Relation.ReflTransGen (fun a b => b ∈ next a) n a
  nodup : order.Nodup

theorem DepthFirst.traversal {start order : List α} (h : DepthFirst next [] start order) :
    Traversal next start order where
  depthFirst _ := ⟨fun h' => h'.unique h, fun hEq => hEq ▸ h⟩
  stackLoop := h.stackLoop_upTo
  mem_iff _ := h.mem_iff
  nodup := h.nodup

end CodeAtlas
