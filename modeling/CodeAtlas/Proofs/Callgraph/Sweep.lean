import CodeAtlas.Proofs.Callgraph.Levels

/-!
# Exploring as one pass over calls

`Exploration.sweep` takes a list of calls in, one after the other, without a queue that decides what
comes next.

* `step_cases`: what one call does.
* `Swept`, `swept_of_stop_eq_none`: what a sweep finds as long as the budget lasts.
* `exists_cut_of_stop_ne_none`: where a sweep ends that exceeds the budget.
-/

namespace CodeAtlas

variable {ι κ : Type}

namespace Exploration

/-- Takes some calls in, one after the other. -/
def sweep (lim : Limits) (s : Exploration ι) (xs : List (Sighting ι)) : Exploration ι :=
  xs.foldl (fun s q => s.step lim q.source (.callee q.callee)) s

theorem sweep_nil (lim : Limits) (s : Exploration ι) : s.sweep lim [] = s := rfl

theorem sweep_cons (lim : Limits) (s : Exploration ι) (q : Sighting ι) (xs : List (Sighting ι)) :
    s.sweep lim (q :: xs) = (s.step lim q.source (.callee q.callee)).sweep lim xs := rfl

theorem sweep_append (lim : Limits) (s : Exploration ι) (xs ys : List (Sighting ι)) :
    s.sweep lim (xs ++ ys) = (s.sweep lim xs).sweep lim ys := List.foldl_append

/-! ## After the end -/

theorem step_of_stop {lim : Limits} {s : Exploration ι} (h : s.stop ≠ none) (n : Pending ι)
    (e : CallEvent ι) : s.step lim n e = s := by
  unfold step
  rw [if_pos (Option.isSome_iff_ne_none.mpr h)]

theorem foldl_step_of_stop {lim : Limits} {s : Exploration ι} (h : s.stop ≠ none) (n : Pending ι)
    (es : List (CallEvent ι)) : es.foldl (step lim n) s = s := by
  induction es with
  | nil => rfl
  | cons e es ih => rw [List.foldl_cons, step_of_stop h, ih]

theorem sweep_of_stop {lim : Limits} {s : Exploration ι} (h : s.stop ≠ none)
    (xs : List (Sighting ι)) : s.sweep lim xs = s := by
  induction xs with
  | nil => rfl
  | cons q xs ih => rw [sweep_cons, step_of_stop h, ih]

/-! ## One call -/

section Visit

variable {lim : Limits} {s : Exploration ι} {n : Pending ι} {c : Callee ι} {m : Method ι}

theorem step_callee (h : s.stop = none) :
    s.step lim n (.callee c) = (s.record n c).visit lim n c := by
  unfold step
  rw [if_neg (by simp [h])]
  rfl

theorem visit_of_none (hm : c.method = none) : s.visit lim n c = s := by
  unfold visit
  rw [hm]

theorem visit_of_mem (hm : c.method = some m) (h : c.id ∈ s.visited) : s.visit lim n c = s := by
  unfold visit
  rw [hm]
  exact if_pos h

theorem visit_of_full (hm : c.method = some m) (h : c.id ∉ s.visited)
    (hFull : lim.nodes ≤ s.visited.length) :
    s.visit lim n c = { s with stop := some .truncated } := by
  unfold visit
  rw [hm]
  exact (if_neg h).trans (if_pos hFull)

theorem visit_of_new (hm : c.method = some m) (h : c.id ∉ s.visited)
    (hRoom : ¬ lim.nodes ≤ s.visited.length) : s.visit lim n c = s.takeIn lim n c m := by
  unfold visit
  rw [hm]
  exact (if_neg h).trans (if_neg hRoom)

/-- The target of a call is passed over, ends the exploration, or is taken in. -/
theorem visit_cases (lim : Limits) (s : Exploration ι) (n : Pending ι) (c : Callee ι) :
    s.visit lim n c = s ∨ s.visit lim n c = { s with stop := some .truncated } ∨
      ∃ m, c.method = some m ∧ ¬ lim.nodes ≤ s.visited.length ∧
        s.visit lim n c = s.takeIn lim n c m := by
  cases hMethod : c.method with
  | none => exact .inl (visit_of_none hMethod)
  | some m =>
    by_cases hOld : c.id ∈ s.visited
    · exact .inl (visit_of_mem hMethod hOld)
    · by_cases hFull : lim.nodes ≤ s.visited.length
      · exact .inr (.inl (visit_of_full hMethod hOld hFull))
      · exact .inr (.inr ⟨m, rfl, hFull, visit_of_new hMethod hOld hFull⟩)

theorem takeIn_eq : s.takeIn lim n c m =
    { s with
      visited := c.id :: s.visited
      queue := s.queue ++
        if ((n.depth + 1 : Nat) : Int) < lim.depth then [⟨m, c.id, n.depth + 1⟩] else [] } := by
  unfold takeIn
  rw [Int.natCast_succ]
  split
  · rfl
  · rw [List.append_nil]

end Visit

/-- What a call does to an exploration that goes on: it is kept, and its target is passed over,
ends the exploration, or is taken in. -/
theorem step_cases (lim : Limits) {s : Exploration ι} (h : s.stop = none) (q : Sighting ι) :
    (fresh s.visited (targets [q]) = [] ∧
      s.step lim q.source (.callee q.callee) = s.record q.source q.callee) ∨
    ∃ n, fresh s.visited (targets [q]) = [n] ∧
      (lim.nodes ≤ s.visited.length ∧
        s.step lim q.source (.callee q.callee) =
          { s.record q.source q.callee with stop := some .truncated } ∨
      (s.visited.length : Int) < lim.nodes ∧
        s.step lim q.source (.callee q.callee) =
          { s.record q.source q.callee with
            visited := n.id :: s.visited
            queue := s.queue ++ if (n.depth : Int) < lim.depth then [n] else [] }) := by
  rw [step_callee h]
  cases hm : q.callee.method with
  | none =>
    have hTarget : targets [q] = [] := by simp [targets, Sighting.target?, hm]
    rw [hTarget]
    exact Or.inl ⟨rfl, visit_of_none hm⟩
  | some m =>
    have hTarget : targets [q] = [⟨m, q.callee.id, q.source.depth + 1⟩] := by
      simp [targets, Sighting.target?, hm]
    rw [hTarget, fresh]
    by_cases hOld : q.callee.id ∈ s.visited
    · exact Or.inl ⟨if_pos hOld, visit_of_mem hm hOld⟩
    · refine Or.inr ⟨_, if_neg hOld, ?_⟩
      by_cases hFull : lim.nodes ≤ s.visited.length
      · exact Or.inl ⟨hFull, visit_of_full hm hOld hFull⟩
      · have hNew : (s.record q.source q.callee).visit lim q.source q.callee =
            (s.record q.source q.callee).takeIn lim q.source q.callee m :=
          visit_of_new hm hOld hFull
        exact Or.inr ⟨by omega, hNew.trans takeIn_eq⟩

/-! ## Sweeping within the budget -/

/-- What a sweep over `xs` that leads from `s` to `t` has found if the budget lasts. -/
structure Swept (lim : Limits) (xs : List (Sighting ι)) (s t : Exploration ι) : Prop where
  edges : t.edges = (xs.map Sighting.edge).reverse ++ s.edges
  visited : t.visited = ((fresh s.visited (targets xs)).map (·.id)).reverse ++ s.visited
  queue : t.queue = s.queue ++
    (fresh s.visited (targets xs)).filter fun n => decide ((n.depth : Int) < lim.depth)
  bounded : (s.visited.length : Int) ≤ lim.nodes → (t.visited.length : Int) ≤ lim.nodes

theorem Swept.nil (lim : Limits) (s : Exploration ι) : Swept lim [] s s :=
  ⟨rfl, rfl, by simp [targets, fresh], id⟩

theorem Swept.trans {lim : Limits} {xs ys : List (Sighting ι)} {s t u : Exploration ι}
    (hst : Swept lim xs s t) (htu : Swept lim ys t u) : Swept lim (xs ++ ys) s u := by
  have hFresh : fresh s.visited (targets (xs ++ ys)) =
      fresh s.visited (targets xs) ++ fresh t.visited (targets ys) := by
    rw [targets_append, fresh_append, hst.visited]
  constructor
  · rw [htu.edges, hst.edges]
    simp
  · rw [htu.visited, hFresh, hst.visited]
    simp
  · rw [htu.queue, hFresh, hst.queue]
    simp
  · exact fun h => htu.bounded (hst.bounded h)

theorem swept_step {lim : Limits} {s : Exploration ι} {q : Sighting ι} (h : s.stop = none)
    (hq : (s.step lim q.source (.callee q.callee)).stop = none) :
    Swept lim [q] s (s.step lim q.source (.callee q.callee)) := by
  rcases step_cases lim h q with ⟨hf, hs⟩ | ⟨n, hf, ⟨-, hs⟩ | ⟨hn, hs⟩⟩
  · rw [hs]
    constructor <;> simp [hf, record, Sighting.edge]
  · rw [hs] at hq
    cases hq
  · rw [hs]
    constructor
    · simp [record, Sighting.edge]
    · simp [hf]
    · rw [hf]
      simp [List.filter_cons]
    · intro _
      simp only [List.length_cons]
      omega

/-- A sweep that has not ended has taken all calls in. -/
theorem swept_of_stop_eq_none {lim : Limits} {xs : List (Sighting ι)} {s : Exploration ι}
    (h : (s.sweep lim xs).stop = none) : Swept lim xs s (s.sweep lim xs) := by
  induction xs generalizing s with
  | nil => exact .nil lim s
  | cons q xs ih =>
    have hs : s.stop = none := by
      by_contra hs
      rw [sweep_of_stop hs] at h
      exact hs h
    rw [sweep_cons] at h ⊢
    have hq : (s.step lim q.source (.callee q.callee)).stop = none := by
      by_contra hq
      rw [sweep_of_stop hq] at h
      exact hq h
    exact (swept_step hs hq).trans (ih h)

/-! ## Exceeding the budget -/

/-- A sweep that has ended has met a target too many: it has taken the calls before it in, and kept
the call itself. -/
theorem exists_cut_of_stop_ne_none {lim : Limits} {xs : List (Sighting ι)} {s : Exploration ι}
    (hs : s.stop = none) (h : (s.sweep lim xs).stop ≠ none) :
    (s.sweep lim xs).stop = some .truncated ∧
    ∃ front q rest n, xs = front ++ q :: rest ∧ (s.sweep lim front).stop = none ∧
      fresh (s.sweep lim front).visited (targets [q]) = [n] ∧
      lim.nodes ≤ (s.sweep lim front).visited.length ∧
      (s.sweep lim xs).edges = q.edge :: (s.sweep lim front).edges := by
  induction xs generalizing s with
  | nil => exact absurd hs h
  | cons q xs ih =>
    rw [sweep_cons] at h ⊢
    by_cases hq : (s.step lim q.source (.callee q.callee)).stop = none
    · obtain ⟨hTrunc, front, q', rest, n, rfl, hFront, hn, hFull, hEdges⟩ := ih hq h
      exact ⟨hTrunc, q :: front, q', rest, n, rfl, hFront, hn, hFull, hEdges⟩
    · rw [sweep_of_stop hq]
      rcases step_cases lim hs q with ⟨-, hStep⟩ | ⟨n, hn, ⟨hFull, hStep⟩ | ⟨-, hStep⟩⟩
      · rw [hStep] at hq
        exact absurd hs hq
      · rw [hStep]
        exact ⟨rfl, [], q, xs, n, rfl, hs, hn, hFull, rfl⟩
      · rw [hStep] at hq
        exact absurd hs hq

/-! ## What does not depend on the queue -/

/-- What an exploration has found and whether it has ended. -/
def found (s : Exploration ι) : List Edge × List String × Option Stop :=
  (s.edges, s.visited, s.stop)

theorem found_eq_iff {s t : Exploration ι} :
    found s = found t ↔ s.edges = t.edges ∧ s.visited = t.visited ∧ s.stop = t.stop := by
  simp [found]

/-- Two explorations that have found the same go on alike. -/
theorem step_congr (lim : Limits) {s t : Exploration ι} (h : found s = found t) (q : Sighting ι) :
    found (s.step lim q.source (.callee q.callee)) =
        found (t.step lim q.source (.callee q.callee)) ∧
      ∃ added, (s.step lim q.source (.callee q.callee)).queue = s.queue ++ added ∧
        (t.step lim q.source (.callee q.callee)).queue = t.queue ++ added := by
  obtain ⟨hEdges, hVisited, hStop⟩ := found_eq_iff.mp h
  by_cases hs : s.stop = none
  · have ht : t.stop = none := hStop ▸ hs
    rcases step_cases lim hs q with ⟨hf, hq⟩ | ⟨n, hf, ⟨hn, hq⟩ | ⟨hn, hq⟩⟩ <;>
      rcases step_cases lim ht q with ⟨hf', hq'⟩ | ⟨n', hf', ⟨hn', hq'⟩ | ⟨hn', hq'⟩⟩ <;>
      rw [hVisited] at hf <;> rw [hf] at hf'
    · rw [hq, hq']
      exact ⟨by simp [found, record, hEdges, hVisited, hs, ht], [], by simp [record]⟩
    · cases hf'
    · cases hf'
    · cases hf'
    · rw [hq, hq']
      exact ⟨by simp [found, record, hEdges, hVisited], [], by simp [record]⟩
    · rw [hVisited] at hn
      omega
    · cases hf'
    · rw [hVisited] at hn
      omega
    · obtain rfl : n = n' := List.singleton_inj.mp hf'
      rw [hq, hq']
      exact ⟨by simp [found, record, hEdges, hVisited, hs, ht], _, rfl, rfl⟩
  · have ht : t.stop ≠ none := hStop ▸ hs
    rw [step_of_stop hs, step_of_stop ht]
    exact ⟨h, [], by simp⟩

theorem sweep_congr (lim : Limits) {s t : Exploration ι} (h : found s = found t)
    (xs : List (Sighting ι)) :
    found (s.sweep lim xs) = found (t.sweep lim xs) ∧
      ∃ added, (s.sweep lim xs).queue = s.queue ++ added ∧
        (t.sweep lim xs).queue = t.queue ++ added := by
  induction xs generalizing s t with
  | nil => exact ⟨h, [], by simp [sweep_nil]⟩
  | cons q xs ih =>
    obtain ⟨hFound, added, hs, ht⟩ := step_congr lim h q
    obtain ⟨hFound', added', hs', ht'⟩ := ih hFound
    refine ⟨hFound', added ++ added', ?_, ?_⟩
    · rw [sweep_cons, hs', hs, List.append_assoc]
    · rw [sweep_cons, ht', ht, List.append_assoc]

end Exploration

end CodeAtlas
