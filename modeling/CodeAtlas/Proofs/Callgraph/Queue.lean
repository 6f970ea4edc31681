import CodeAtlas.Proofs.Callgraph.Sweep

/-!
# The queue visits methods level by level

`Exploration.run` takes methods from a queue. While level `k` is expanded, the queue holds the rest
of level `k` and then what has been found of level `k + 1`.

* `run_level`: expanding the methods of one level is a sweep over their calls.
* `run_start`: an exploration of depth `depth` is a sweep over the calls of all levels below
  `depth`, unless the provider fails for a method of one of them.
-/

namespace CodeAtlas

variable {ι κ : Type}

namespace Exploration

/-! ## Expanding a method -/

theorem step_unresolved {lim : Limits} {s : Exploration ι} (h : s.stop = none) (n : Pending ι)
    (note : Note) : s.step lim n (.unresolved note) = { s with notes := note :: s.notes } := by
  unfold step
  rw [if_neg (by simp [h])]

theorem step_failed {lim : Limits} {s : Exploration ι} (h : s.stop = none) (n : Pending ι)
    (f : Failure) : s.step lim n (.failed f) = { s with stop := some (.failed f) } := by
  unfold step
  rw [if_neg (by simp [h])]

/-- What a step preserves, by what it can do. -/
theorem step_preserves {P : Exploration ι → Prop} {lim : Limits} {s : Exploration ι} {n : Pending ι}
    {e : CallEvent ι} (h : P s)
    (hCallee : ∀ c, e = .callee c → P ((s.record n c).visit lim n c))
    (hUnresolved : ∀ note, P { s with notes := note :: s.notes })
    (hFailed : ∀ f, P { s with stop := some (.failed f) }) : P (s.step lim n e) := by
  by_cases hStop : s.stop = none
  · cases e with
    | callee c =>
      rw [step_callee hStop]
      exact hCallee c rfl
    | unresolved note =>
      rw [step_unresolved hStop]
      exact hUnresolved note
    | failed f =>
      rw [step_failed hStop]
      exact hFailed f
  · rwa [step_of_stop hStop]

/-- Going through some events of a method is a sweep over the callees among them, unless a failure
is met. -/
theorem foldl_step_events (lim : Limits) {s : Exploration ι} (h : s.stop = none) (n : Pending ι)
    (es : List (CallEvent ι)) :
    (∃ f, (es.foldl (step lim n) s).stop = some (.failed f) ∧ .failed f ∈ es) ∨
    found (es.foldl (step lim n) s) = found (s.sweep lim ((yieldedBy es).map fun c => ⟨n, c⟩)) ∧
      (es.foldl (step lim n) s).queue =
        (s.sweep lim ((yieldedBy es).map fun c => ⟨n, c⟩)).queue ∧
      ((es.foldl (step lim n) s).stop = none → ∀ f, .failed f ∉ es) := by
  induction es generalizing s with
  | nil => exact Or.inr ⟨rfl, rfl, fun _ f => List.not_mem_nil⟩
  | cons e es ih =>
    rw [List.foldl_cons]
    cases e with
    | callee c =>
      rw [yieldedBy, List.map_cons, sweep_cons]
      by_cases hs : (s.step lim n (.callee c)).stop = none
      · rcases ih hs with ⟨f, hf, hmem⟩ | ⟨hFound, hQueue, hNone⟩
        · exact Or.inl ⟨f, hf, List.mem_cons_of_mem _ hmem⟩
        · refine Or.inr ⟨hFound, hQueue, fun hStop f hf => ?_⟩
          rcases List.mem_cons.mp hf with hf | hf
          · cases hf
          · exact hNone hStop f hf
      · rw [foldl_step_of_stop hs, sweep_of_stop hs]
        exact Or.inr ⟨rfl, rfl, fun hStop => absurd hStop hs⟩
    | unresolved note =>
      rw [step_unresolved h, yieldedBy]
      have hSame : found { s with notes := note :: s.notes } = found s := rfl
      have hs : ({ s with notes := note :: s.notes } : Exploration ι).stop = none := h
      rcases ih hs with ⟨f, hf, hmem⟩ | ⟨hFound, hQueue, hNone⟩
      · exact Or.inl ⟨f, hf, List.mem_cons_of_mem _ hmem⟩
      · obtain ⟨hCongr, added, hLeft, hRight⟩ :=
          sweep_congr lim hSame ((yieldedBy es).map fun c => ⟨n, c⟩)
        refine Or.inr ⟨hFound.trans hCongr, hQueue.trans (hLeft.trans hRight.symm), ?_⟩
        intro hStop f hf
        rcases List.mem_cons.mp hf with hf | hf
        · cases hf
        · exact hNone hStop f hf
    | failed f =>
      rw [step_failed h, foldl_step_of_stop (by simp)]
      exact Or.inl ⟨f, rfl, List.mem_cons_self⟩

variable {p : Provider ι κ} {external : Bool}

theorem found_query (m : Method ι) (s : Exploration ι) : found (s.query p m) = found s := by
  unfold query
  split <;> rfl

theorem queue_query (m : Method ι) (s : Exploration ι) : (s.query p m).queue = s.queue := by
  unfold query
  split <;> rfl

variable (p external) in
/-- Expanding a method is a sweep over its calls, unless the provider fails for them. -/
theorem expand_cases (lim : Limits) {s : Exploration ι} (h : s.stop = none) (n : Pending ι) :
    (∃ f, (s.expand p external lim n).stop = some (.failed f) ∧
      .failed f ∈ p.events external n.method) ∨
    found (s.expand p external lim n) = found (s.sweep lim (p.sightings external n)) ∧
      (s.expand p external lim n).queue = (s.sweep lim (p.sightings external n)).queue ∧
      ((s.expand p external lim n).stop = none → p.Answers external n.method) := by
  have hFound := found_query (p := p) n.method s
  have hStop : (s.query p n.method).stop = none := (found_eq_iff.mp hFound).2.2.trans h
  rcases foldl_step_events lim hStop n (p.events external n.method) with
    hFail | ⟨hSweep, hQueue, hNone⟩
  · exact Or.inl hFail
  · obtain ⟨hCongr, added, hLeft, hRight⟩ :=
      sweep_congr lim hFound (p.sightings external n)
    refine Or.inr ⟨hSweep.trans hCongr, ?_, hNone⟩
    rw [queue_query] at hLeft
    exact hQueue.trans (hLeft.trans hRight.symm)

/-! ## Running -/

theorem run_of_stop {lim : Limits} {s : Exploration ι} (h : s.stop ≠ none) :
    s.run p external lim = s := by
  unfold run
  split
  · exact absurd ‹s.stop = none› h
  · rfl

theorem run_of_queue_eq_nil {lim : Limits} {s : Exploration ι} (h : s.queue = []) :
    s.run p external lim = s := by
  unfold run
  split
  · exact absurd (h.symm.trans ‹s.queue = _ :: _›) (by simp)
  · rfl

theorem run_cons {lim : Limits} {s : Exploration ι} {n : Pending ι} {rest : List (Pending ι)}
    (h : s.stop = none) (hQueue : s.queue = n :: rest) :
    s.run p external lim =
      if lim.depth ≤ n.depth then run p external lim { s with queue := rest }
      else run p external lim (expand p external lim n { s with queue := rest }) := by
  rw [run.eq_def]
  split
  · rename_i hCons
    obtain ⟨rfl, rfl⟩ := List.cons.inj (hQueue.symm.trans hCons)
    rfl
  · rename_i hNot
    exact absurd hQueue (hNot n rest h)

/-- Expanding the methods `ns` of one level, which stand first in the queue, is a sweep over their
calls: afterwards the queue holds what stood behind them and what they have led to. -/
theorem run_level (lim : Limits) {k : Nat} (hk : (k : Int) < lim.depth) (ns : List (Pending ι))
    (hDepth : ∀ n ∈ ns, n.depth = k) (qs : List (Pending ι)) {s : Exploration ι}
    (h : s.stop = none) (hQueue : s.queue = ns ++ qs) :
    (∃ f, (s.run p external lim).stop = some (.failed f) ∧
      ∃ n ∈ ns, .failed f ∈ p.events external n.method) ∨
    ∃ t, s.run p external lim = t.run p external lim ∧
      found t = found (s.sweep lim (ns.flatMap (p.sightings external))) ∧
      (t.stop = none →
        t.queue = qs ++ (fresh s.visited (targets (ns.flatMap (p.sightings external)))).filter
          (fun n => decide ((n.depth : Int) < lim.depth)) ∧
        ∀ n ∈ ns, p.Answers external n.method) := by
  induction ns generalizing s qs with
  | nil => exact Or.inr ⟨s, rfl, rfl, fun _ => ⟨by simpa [targets, fresh] using hQueue, by simp⟩⟩
  | cons n ns ih =>
    have hn : ¬ lim.depth ≤ n.depth := by
      rw [hDepth n List.mem_cons_self]
      omega
    have hQueue' : s.queue = n :: (ns ++ qs) := hQueue
    rw [run_cons h hQueue', if_neg hn, List.flatMap_cons, targets_append, fresh_append]
    -- `u` is the exploration without `n`, and `e` the one in which `n` is expanded
    generalize hu : ({ s with queue := ns ++ qs } : Exploration ι) = u
    obtain ⟨huFound, huQueue⟩ : found u = found s ∧ u.queue = ns ++ qs := by
      subst hu
      exact ⟨rfl, rfl⟩
    have huStop : u.stop = none := (found_eq_iff.mp huFound).2.2.trans h
    have huVisited : u.visited = s.visited := (found_eq_iff.mp huFound).2.1
    have hCases := expand_cases p external lim huStop n
    generalize u.expand p external lim n = e at hCases
    rcases hCases with ⟨f, hf, hmem⟩ | ⟨heFound, heQueue, heAnswers⟩
    · left
      rw [run_of_stop (by simp [hf])]
      exact ⟨f, hf, n, List.mem_cons_self, hmem⟩
    · have heSweep : found e = found (s.sweep lim (p.sightings external n)) :=
        heFound.trans (sweep_congr lim huFound _).1
      obtain ⟨-, heVisited, heStop⟩ := found_eq_iff.mp heFound
      by_cases he : e.stop = none
      · have hSwept := swept_of_stop_eq_none (heStop ▸ he)
        have hQueue : e.queue = ns ++ (qs ++ (fresh s.visited (targets
            (p.sightings external n))).filter fun n => decide ((n.depth : Int) < lim.depth)) := by
          rw [heQueue, hSwept.queue, huQueue, huVisited, List.append_assoc]
        rcases ih (fun m hm => hDepth m (List.mem_cons_of_mem _ hm)) _ he hQueue with
          ⟨f, hf, m, hm, hmem⟩ | ⟨t, hRun, htFound, htNone⟩
        · exact Or.inl ⟨f, hf, m, List.mem_cons_of_mem _ hm, hmem⟩
        · refine Or.inr ⟨t, hRun, ?_, fun htStop => ?_⟩
          · rw [htFound, sweep_append]
            exact (sweep_congr lim heSweep _).1
          · obtain ⟨htQueue, htAnswers⟩ := htNone htStop
            constructor
            · rw [htQueue, heVisited, hSwept.visited, huVisited, List.filter_append,
                List.append_assoc]
            · intro m hm
              rcases List.mem_cons.mp hm with rfl | hm
              · exact heAnswers he
              · exact htAnswers m hm
      · refine Or.inr ⟨e, rfl, ?_, fun hNone => absurd hNone he⟩
        have hsStop : (s.sweep lim (p.sightings external n)).stop ≠ none := by
          rw [← (found_eq_iff.mp heSweep).2.2]
          exact he
        rw [sweep_append, sweep_of_stop hsStop]
        exact heSweep

/-! ## All levels -/

variable {root : Method ι} {rootId : String}

/-- The exploration `t` has the levels below `k` behind it and level `k` before it. -/
structure AtLevel (p : Provider ι κ) (external : Bool) (root : Method ι) (rootId : String)
    (depth k : Nat) (t : Exploration ι) : Prop where
  queue : t.queue = if k < depth then level p external root rootId k else []
  visited : t.visited = (frontier p external root rootId k).seen
  answers : ∀ j < k, ∀ n ∈ level p external root rootId j, p.Answers external n.method

/-- Level `k + 1` is what stays of a level's targets when the queue holds it. -/
theorem AtLevel.next {lim : Limits} {depth k : Nat} (hLim : lim.depth = depth)
    {s t : Exploration ι} (h : AtLevel p external root rootId depth k s)
    (hSwept : Swept lim ((level p external root rootId k).flatMap (p.sightings external)) s t)
    {u : Exploration ι} (huVisited : u.visited = t.visited)
    (huQueue : u.queue = (fresh s.visited (targets ((level p external root rootId k).flatMap
      (p.sightings external)))).filter fun n => decide ((n.depth : Int) < lim.depth))
    (hAnswers : ∀ n ∈ level p external root rootId k, p.Answers external n.method) :
    AtLevel p external root rootId depth (k + 1) u := by
  have hNext : fresh s.visited (targets ((level p external root rootId k).flatMap
      (p.sightings external))) = level p external root rootId (k + 1) := by
    rw [h.visited]
    rfl
  constructor
  · rw [huQueue, hNext]
    split
    · rw [List.filter_eq_self]
      intro n hn
      rw [depth_of_mem_level hn, hLim, decide_eq_true_eq]
      omega
    · rw [List.filter_eq_nil_iff]
      intro n hn
      rw [depth_of_mem_level hn, hLim, decide_eq_true_eq]
      omega
  · rw [huVisited, hSwept.visited, hNext, h.visited]
    rfl
  · intro j hj n hn
    by_cases hjk : j = k
    · subst hjk
      exact hAnswers n hn
    · exact h.answers j (by omega) n hn

/-- After `k` levels an exploration has found what a sweep over their calls finds. -/
theorem run_start_level {lim : Limits} {depth : Nat} (hLim : lim.depth = depth) {k : Nat}
    (hk : k ≤ depth) :
    (∃ f, ((start root rootId).run p external lim).stop = some (.failed f) ∧
      ∃ j < k, ∃ n ∈ level p external root rootId j, .failed f ∈ p.events external n.method) ∨
    ∃ t, (start root rootId).run p external lim = t.run p external lim ∧
      found t = found ((start root rootId).sweep lim (sightingsBelow p external root rootId k)) ∧
      (t.stop = none → AtLevel p external root rootId depth k t) := by
  induction k with
  | zero =>
    right
    by_cases hDepth : 0 < depth
    · refine ⟨start root rootId, rfl, rfl, fun _ => ⟨?_, rfl, by simp⟩⟩
      rw [if_pos hDepth]
      rfl
    · refine ⟨{ start root rootId with queue := [] }, ?_, rfl, fun _ => ⟨?_, rfl, by simp⟩⟩
      · have hCons : (start root rootId).queue = ⟨root, rootId, 0⟩ :: [] := rfl
        rw [run_cons rfl hCons]
        exact if_pos (by simp only [hLim]; omega)
      · rw [if_neg hDepth]
  | succ k ih =>
    rcases ih (by omega) with ⟨f, hf, j, hj, hFail⟩ | ⟨t, hRun, hFound, hNone⟩
    · exact Or.inl ⟨f, hf, j, by omega, hFail⟩
    · rw [sightingsBelow_succ, sweep_append]
      obtain ⟨-, -, hStop⟩ := found_eq_iff.mp hFound
      by_cases ht : t.stop = none
      · have hAt := hNone ht
        have hQueue : t.queue = level p external root rootId k ++ [] := by
          rw [hAt.queue, if_pos (by omega), List.append_nil]
        rcases run_level lim (by omega) _ (fun n hn => depth_of_mem_level hn) [] ht hQueue with
          ⟨f, hf, hFail⟩ | ⟨u, hRun', hFound', hNone'⟩
        · exact Or.inl ⟨f, hRun ▸ hf, k, by omega, hFail⟩
        · refine Or.inr ⟨u, hRun.trans hRun', hFound'.trans (sweep_congr lim hFound _).1, ?_⟩
          intro hu
          obtain ⟨-, huVisited, huStop⟩ := found_eq_iff.mp hFound'
          obtain ⟨huQueue, hAnswers⟩ := hNone' hu
          exact hAt.next hLim (swept_of_stop_eq_none (huStop ▸ hu)) huVisited huQueue hAnswers
      · rw [sweep_of_stop (hStop ▸ ht)]
        exact Or.inr ⟨t, hRun, hFound, fun hNone => absurd hNone ht⟩

/-- An exploration is a sweep over the calls of the levels below its depth, unless the provider
fails for a method of one of them. -/
theorem run_start {lim : Limits} {depth : Nat} (hLim : lim.depth = depth) :
    (∃ f, ((start root rootId).run p external lim).stop = some (.failed f) ∧
      ∃ k < depth, ∃ n ∈ level p external root rootId k,
        .failed f ∈ p.events external n.method) ∨
    found ((start root rootId).run p external lim) =
        found ((start root rootId).sweep lim (sightingsBelow p external root rootId depth)) ∧
      (((start root rootId).run p external lim).stop = none →
        ∀ k < depth, ∀ n ∈ level p external root rootId k, p.Answers external n.method) := by
  rcases run_start_level hLim (Nat.le_refl depth) with hFail | ⟨t, hRun, hFound, hNone⟩
  · exact Or.inl hFail
  · have ht : t.run p external lim = t := by
      by_cases ht : t.stop = none
      · apply run_of_queue_eq_nil
        rw [(hNone ht).queue, if_neg (by omega)]
      · exact run_of_stop ht
    rw [hRun, ht]
    exact Or.inr ⟨hFound, fun ht => (hNone ht).answers⟩

end Exploration

end CodeAtlas
