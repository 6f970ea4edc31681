import CodeAtlas.Proofs.Module.OutsideBases
import CodeAtlas.Proofs.Paired

/-!
# The order of the classes above a class

At run time an attribute is looked for in one order of a class and all above it: the orders of the bases
are merged with the bases themselves, and of the first elements the leftmost one is next that stands
behind nothing that is left. Hierarchies that cannot be merged are refused.

* `Merged`: the merge of some orders, in which each of them is kept (`Merged.sublist`).
* `ResolutionOrders.mem_iff`: the order of a class is of the class and all above it.
* `ResolutionOrders.depthFirst`: along one base after another it is the order of a depth-first search.
-/

namespace CodeAtlas.Module

variable {α : Type} {lists lists' : List (List α)} {l out : List α} {a x : α}

/-! ## Merges -/

/-- The leftmost of the first elements that stands behind none in any list. -/
def FirstFree (lists : List (List α)) (a : α) : Prop :=
  ∃ before after, lists.filterMap List.head? = before ++ a :: after ∧
    (∀ b ∈ before, ∃ l ∈ lists, b ∈ l.tail) ∧ ∀ l ∈ lists, a ∉ l.tail

/-- The list is left when the element has been taken, from its front if it stands there. -/
def LeftAfter (a : α) (l l' : List α) : Prop := l = a :: l' ∨ l.head? ≠ some a ∧ l' = l

/-- The merge of some orders. -/
inductive Merged : List (List α) → List α → Prop
  | done {lists : List (List α)} (h : ∀ l ∈ lists, l = []) : Merged lists []
  | next {lists lists' : List (List α)} {a : α} {rest : List α} (hFirst : FirstFree lists a)
    (hLeft : List.Forall₂ (LeftAfter a) lists lists') (h : Merged lists' rest) : Merged lists (a :: rest)

/-- What is merged keeps its order. -/
theorem Merged.sublist (h : Merged lists out) (hl : l ∈ lists) : l.Sublist out := by
  induction h generalizing l with
  | done hEmpty => rw [hEmpty l hl]
  | next _ hLeft _ ih =>
    obtain ⟨l', hl', hAfter⟩ := exists_right_of_forall₂ hLeft hl
    obtain rfl | ⟨-, rfl⟩ := hAfter
    · exact (ih hl').cons_cons _
    · exact (ih hl').cons _

/-- Nothing else is in the merge. -/
theorem Merged.exists_mem (h : Merged lists out) (hx : x ∈ out) : ∃ l ∈ lists, x ∈ l := by
  induction h with
  | done => cases hx
  | next hFirst hLeft _ ih =>
    obtain rfl | hx := List.mem_cons.mp hx
    · obtain ⟨before, after, hHeads, -, -⟩ := hFirst
      have hHead := hHeads ▸ List.mem_append_right before List.mem_cons_self
      obtain ⟨l, hl, hHead⟩ := List.mem_filterMap.mp hHead
      exact ⟨l, hl, List.mem_of_head? hHead⟩
    · obtain ⟨l', hl', hx⟩ := ih hx
      obtain ⟨l, hl, hAfter⟩ := exists_left_of_forall₂ hLeft hl'
      obtain rfl | ⟨-, rfl⟩ := hAfter
      · exact ⟨_, hl, List.mem_cons_of_mem _ hx⟩
      · exact ⟨_, hl, hx⟩

theorem Merged.nodup (h : Merged lists out) : out.Nodup := by
  induction h with
  | done => exact List.nodup_nil
  | next hFirst hLeft hRest ih =>
    refine List.nodup_cons.mpr ⟨fun hAgain => ?_, ih⟩
    obtain ⟨before, after, -, -, hFree⟩ := hFirst
    obtain ⟨l', hl', ha⟩ := hRest.exists_mem hAgain
    obtain ⟨l, hl, hAfter⟩ := exists_left_of_forall₂ hLeft hl'
    have hTail := hFree l hl
    obtain rfl | ⟨hHead, rfl⟩ := hAfter
    · exact hTail ha
    · cases l' with
      | nil => cases ha
      | cons b l' =>
        obtain rfl | ha := List.mem_cons.mp ha
        · exact hHead rfl
        · exact hTail ha

/-! ## Orders of classes -/

variable {t : Table} {mro : ClassRef → List ClassRef} {c d : ClassRef}

/-- Each base of the class is indexed, or is the class that all extend anyhow. -/
def BasesIndexed (t : Table) (c : ClassRef) : Prop :=
  ∀ base ∈ c.cls.bases, base.dotted? = some "object" ∨
    ∃ d b, base.dotted? = some d ∧ findClass t (c.source.qualify d) = some b

/-- The order of the class is merged from those of its bases and from the bases. -/
def Linearized (t : Table) (mro : ClassRef → List ClassRef) (c : ClassRef) : Prop :=
  ∃ rest, mro c = c :: rest ∧ Merged ((projectBases t c).map mro ++ [projectBases t c]) rest

/-- The orders of a class and of all above it, where no base lies outside the modules. -/
def ResolutionOrders (t : Table) (mro : ClassRef → List ClassRef) (c : ClassRef) : Prop :=
  ∀ d, Above t c d → BasesIndexed t d ∧ Linearized t mro d

namespace ResolutionOrders

theorem of_above (h : ResolutionOrders t mro c) (hAbove : Above t c d) : ResolutionOrders t mro d :=
  fun e he => h e (hAbove.trans he)

theorem linearized (h : ResolutionOrders t mro c) : ∃ rest, mro c = c :: rest ∧
    Merged ((projectBases t c).map mro ++ [projectBases t c]) rest := (h c .refl).2

/-- The order of a base goes on in that of the class. -/
theorem sublist {rest : List ClassRef}
    (hRest : Merged ((projectBases t c).map mro ++ [projectBases t c]) rest)
    (hBase : d ∈ projectBases t c) : (mro d).Sublist rest :=
  hRest.sublist (List.mem_append_left _ (List.mem_map_of_mem hBase))

/-- What stands behind a class is one of its bases or comes from the order of one. -/
theorem exists_base_of_mem {bases rest : List ClassRef} (hRest : Merged (bases.map mro ++ [bases]) rest)
    (hd : d ∈ rest) : ∃ b ∈ bases, d = b ∨ d ∈ mro b := by
  obtain ⟨l, hl, hMem⟩ := hRest.exists_mem hd
  obtain hl | hl := List.mem_append.mp hl
  · obtain ⟨b, hb, rfl⟩ := List.mem_map.mp hl
    exact ⟨b, hb, .inr hMem⟩
  · obtain rfl := List.mem_singleton.mp hl
    exact ⟨d, hMem, .inl rfl⟩

theorem above_of_mem (h : ResolutionOrders t mro c) (hd : d ∈ mro c) : Above t c d := by
  induction hLength : (mro c).length using Nat.strongRecOn generalizing c with
  | ind n ih =>
    obtain ⟨rest, hOrder, hRest⟩ := h.linearized
    rw [hOrder, List.length_cons] at hLength
    rw [hOrder] at hd
    obtain rfl | hd := List.mem_cons.mp hd
    · exact .refl
    obtain ⟨b, hBase, hd⟩ := exists_base_of_mem hRest hd
    have hAbove : Above t c b := .single hBase
    obtain rfl | hd := hd
    · exact hAbove
    · have hShorter := (sublist hRest hBase).length_le
      exact hAbove.trans (ih (mro b).length (by omega) (h.of_above hAbove) hd rfl)

/-- The order of a class is of the class itself and of all above it. -/
theorem mem_iff (h : ResolutionOrders t mro c) : d ∈ mro c ↔ Above t c d := by
  refine ⟨h.above_of_mem, fun hAbove => ?_⟩
  induction hAbove using Relation.ReflTransGen.head_induction_on with
  | refl =>
    obtain ⟨rest, hOrder, -⟩ := h.linearized
    rw [hOrder]
    exact List.mem_cons_self
  | head hBase _ ih =>
    obtain ⟨rest, hOrder, hRest⟩ := h.linearized
    rw [hOrder]
    exact List.mem_cons_of_mem _ ((sublist hRest hBase).subset (ih (h.of_above (.single hBase))))

theorem mem_tail {b : ClassRef} (h : ResolutionOrders t mro c) (hBase : b ∈ projectBases t c)
    (hAbove : Above t b d) : d ∈ (mro c).tail := by
  obtain ⟨rest, hOrder, hRest⟩ := h.linearized
  rw [hOrder, List.tail_cons]
  exact (sublist hRest hBase).subset ((h.of_above (.single hBase)).mem_iff.mpr hAbove)

theorem length_le (h : ResolutionOrders t mro c) (hAbove : Above t c d) :
    (mro d).length ≤ (mro c).length := by
  induction hAbove using Relation.ReflTransGen.head_induction_on with
  | refl => exact Nat.le_refl _
  | head hBase _ ih =>
    obtain ⟨rest, hOrder, hRest⟩ := h.linearized
    have hUp := ih (h.of_above (.single hBase))
    have hShorter := (sublist hRest hBase).length_le
    rw [hOrder, List.length_cons]
    omega

/-- The order of a class is longer than that of any class behind it. -/
theorem length_lt_of_mem_tail (h : ResolutionOrders t mro c) (hd : d ∈ (mro c).tail) :
    (mro d).length < (mro c).length := by
  obtain ⟨rest, hOrder, hRest⟩ := h.linearized
  rw [hOrder, List.tail_cons] at hd
  obtain ⟨b, hBase, hd⟩ := exists_base_of_mem hRest hd
  have hBaseOrders := h.of_above (.single hBase)
  have hAbove : Above t b d := by
    obtain rfl | hd := hd
    · exact .refl
    · exact hBaseOrders.above_of_mem hd
  have hUp := hBaseOrders.length_le hAbove
  have hShorter := (sublist hRest hBase).length_le
  rw [hOrder, List.length_cons]
  omega

theorem above_of_mem_tail (h : ResolutionOrders t mro c) (hd : d ∈ (mro c).tail) : Above t c d :=
  h.above_of_mem (List.mem_of_mem_tail hd)

/-- What holds of a class if it holds of the classes behind it holds of each class with its orders. -/
theorem induction_tail {P : ClassRef → Prop}
    (step : ∀ c, ResolutionOrders t mro c → (∀ d ∈ (mro c).tail, P d) → P c)
    (h : ResolutionOrders t mro c) : P c := by
  induction hLength : (mro c).length using Nat.strongRecOn generalizing c with
  | ind n ih =>
    refine step c h fun d hd => ?_
    have hShorter := hLength ▸ h.length_lt_of_mem_tail hd
    exact ih (mro d).length hShorter (h.of_above (h.above_of_mem_tail hd)) rfl

/-- No class is above one of its bases. -/
theorem not_above_base (h : ResolutionOrders t mro c) (hBase : d ∈ projectBases t c) : ¬Above t d c := by
  intro hAbove
  obtain ⟨rest, hOrder, hRest⟩ := h.linearized
  have hUp := (h.of_above (.single hBase)).length_le hAbove
  have hShorter := (sublist hRest hBase).length_le
  rw [hOrder, List.length_cons] at hUp
  omega

/-- Behind a class with one base stands the order of this base. -/
theorem eq_of_single {rest : List ClassRef} (h : ResolutionOrders t mro d)
    (hRest : Merged ([d].map mro ++ [[d]]) rest) : rest = mro d := by
  have hSublist : (mro d).Sublist rest := hRest.sublist (List.mem_append_left _ List.mem_cons_self)
  have hSubset : rest ⊆ mro d := by
    intro e he
    obtain ⟨b, hb, he⟩ := exists_base_of_mem hRest he
    obtain rfl := List.mem_singleton.mp hb
    obtain rfl | he := he
    · exact h.mem_iff.mpr .refl
    · exact he
  exact (hSublist.eq_of_length_le (hRest.nodup.subperm hSubset).length_le).symm

/-- If a class has one base at most, a search through its bases goes through the order of that one. -/
theorem depthFirst_bases {rest : List ClassRef} (h : ResolutionOrders t mro c)
    (hOne : (projectBases t c).length ≤ 1)
    (hRest : Merged ((projectBases t c).map mro ++ [projectBases t c]) rest) {seen : List ClassRef}
    (hBases : ∀ b ∈ projectBases t c, DepthFirst (projectBases t) seen [b] (mro b)) :
    DepthFirst (projectBases t) seen (projectBases t c) rest := by
  match hEq : projectBases t c with
  | [] =>
    rw [hEq] at hRest
    cases hRest with
    | done => exact .done
    | next hFirst =>
      obtain ⟨before, after, hHeads, -⟩ := hFirst
      cases before <;> cases hHeads
  | [b] =>
    have hBase : b ∈ projectBases t c := hEq ▸ List.mem_cons_self
    have hSearch := hBases b hBase
    rw [hEq] at hRest
    rw [eq_of_single (h.of_above (.single hBase)) hRest]
    exact hSearch
  | _ :: _ :: _ =>
    rw [hEq] at hOne
    simp at hOne

/-- Along one base after another the order is that of a depth-first search. -/
theorem depthFirst (h : ResolutionOrders t mro c)
    (hChain : ∀ d, Above t c d → (projectBases t d).length ≤ 1) {seen : List ClassRef}
    (hSeen : ∀ d ∈ seen, ¬Above t c d) : DepthFirst (projectBases t) seen [c] (mro c) := by
  induction hLength : (mro c).length using Nat.strongRecOn generalizing c seen with
  | ind n ih =>
    obtain ⟨rest, hOrder, hRest⟩ := h.linearized
    have hNew : c ∉ seen := fun hc => hSeen c hc .refl
    have hBelow : DepthFirst (projectBases t) (c :: seen) (projectBases t c) rest := by
      refine depthFirst_bases h (hChain c .refl) hRest fun b hBase => ?_
      have hAbove : Above t c b := .single hBase
      have hShorter := (sublist hRest hBase).length_le
      rw [hOrder, List.length_cons] at hLength
      refine ih (mro b).length (by omega) (h.of_above hAbove) (fun d hd => hChain d (hAbove.trans hd))
        (fun d hd hUp => ?_) rfl
      obtain rfl | hd := List.mem_cons.mp hd
      · exact h.not_above_base hBase hUp
      · exact hSeen d hd (hAbove.trans hUp)
    rw [hOrder, ← List.append_nil rest]
    exact .new hNew hBelow .done

/-- Then what stands behind the class is in the order in which its bases are searched. -/
theorem traversal {rest : List ClassRef} (h : ResolutionOrders t mro c)
    (hChain : ∀ d, Above t c d → (projectBases t d).length ≤ 1) (hOrder : mro c = c :: rest) :
    Traversal (projectBases t) (projectBases t c) rest := by
  obtain ⟨rest', hOrder', hRest⟩ := h.linearized
  obtain rfl : rest' = rest := List.cons.inj (hOrder'.symm.trans hOrder) |>.2
  refine (depthFirst_bases h (hChain c .refl) hRest fun b hBase => ?_).traversal
  have hAbove : Above t c b := .single hBase
  exact (h.of_above hAbove).depthFirst (fun d hd => hChain d (hAbove.trans hd)) (List.forall_mem_nil _)

end ResolutionOrders

end CodeAtlas.Module
