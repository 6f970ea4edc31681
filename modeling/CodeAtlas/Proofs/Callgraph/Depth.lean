import CodeAtlas.Proofs.Callgraph.Turns

/-!
# Exploring deeper

Of two explorations of one root with the same budget, the deeper one does all that the other one does
before it does anything else: the further methods that it takes into its queue stand behind.

* `Ordered`: the queue holds the rest of a level and behind it methods of the next one.
* `Keeps`, `Keeps.step`: the two in lock step, the queue of the shallower one being what is near enough
  in the queue of the other.
* `Turns.kept`: the deeper one comes to where the shallower one ends.
* `explore_deeper`: so nothing is lost by exploring deeper, and nothing changes once the budget is
  spent.
-/

namespace CodeAtlas

variable {ι κ : Type}

namespace Exploration

/-! ## The order of the queue -/

/-- Is the method near enough to be expanded? -/
def isNear (depth : Int) (n : Pending ι) : Bool := decide ((n.depth : Int) < depth)

theorem isNear_iff {depth : Int} {n : Pending ι} : isNear depth n = true ↔ (n.depth : Int) < depth :=
  decide_eq_true_iff

/-- Methods of level `k`, and behind them methods of the next level. -/
structure Ordered (k : Nat) (ns : List (Pending ι)) : Prop where
  ascending : ns.Pairwise fun a b => a.depth ≤ b.depth
  within : ∀ n ∈ ns, k ≤ n.depth ∧ n.depth ≤ k + 1

section Order

variable {k : Nat} {n : Pending ι} {ns : List (Pending ι)} {depth : Int}

theorem Ordered.of_cons (h : Ordered k (n :: ns)) : Ordered n.depth ns := by
  obtain ⟨hFirst, hRest⟩ := List.pairwise_cons.mp h.ascending
  refine ⟨hRest, fun m hm => ⟨hFirst m hm, ?_⟩⟩
  have hLow := (h.within n List.mem_cons_self).1
  have hHigh := (h.within m (List.mem_cons_of_mem n hm)).2
  omega

theorem Ordered.concat (h : Ordered k ns) (hn : n.depth = k + 1) : Ordered k (ns ++ [n]) := by
  constructor
  · rw [List.pairwise_append]
    refine ⟨h.ascending, List.pairwise_singleton _ _, fun m hm n' hn' => ?_⟩
    obtain rfl := List.mem_singleton.mp hn'
    have := (h.within m hm).2
    omega
  · intro m hm
    obtain hm | hm := List.mem_append.mp hm
    · exact h.within m hm
    · obtain rfl := List.mem_singleton.mp hm
      omega

/-- If any method is near enough, then the first one is. -/
theorem Ordered.filter_cons (h : Ordered k (n :: ns))
    (hSome : (n :: ns).filter (isNear depth) ≠ []) :
    (n :: ns).filter (isNear depth) = n :: ns.filter (isNear depth) := by
  obtain ⟨m, hm⟩ := List.exists_mem_of_ne_nil _ hSome
  obtain ⟨hMem, hNear⟩ := List.mem_filter.mp hm
  have hFirst : n.depth ≤ m.depth := by
    obtain rfl | hMem := List.mem_cons.mp hMem
    · exact Nat.le_refl _
    · exact (List.pairwise_cons.mp h.ascending).1 m hMem
  apply List.filter_cons_of_pos
  rw [isNear_iff] at hNear ⊢
  omega

end Order

theorem Ordered.step {lim : Limits} {s : Exploration ι} {n : Pending ι}
    (h : Ordered n.depth s.queue) (e : CallEvent ι) : Ordered n.depth (s.step lim n e).queue := by
  apply step_preserves (P := fun u => Ordered n.depth u.queue) h
  · intro c _
    obtain hVisit | hVisit | ⟨m, -, -, hVisit⟩ := visit_cases lim (s.record n c) n c
    · rwa [hVisit]
    · rwa [hVisit]
    · rw [hVisit, takeIn_eq]
      dsimp only
      split
      · exact h.concat rfl
      · rw [List.append_nil]
        exact h
  · exact fun _ => h
  · exact fun _ => h

theorem Ordered.expand {p : Provider ι κ} {external : Bool} {lim : Limits} {s : Exploration ι}
    {n : Pending ι} (h : Ordered n.depth s.queue) :
    Ordered n.depth (s.expand p external lim n).queue := by
  refine List.foldlRecOn (motive := fun u : Exploration ι => Ordered n.depth u.queue) _ _ ?_
    fun u hu e _ => hu.step e
  rw [queue_query]
  exact h

/-! ## Two explorations in lock step -/

/-- The exploration `u` is as far as `s`, but its queue may also hold methods at a distance of `depth`
or more. -/
structure Keeps (depth : Int) (s u : Exploration ι) : Prop where
  edges : u.edges = s.edges
  visited : u.visited = s.visited
  stop : u.stop = s.stop
  notes : u.notes = s.notes
  queried : u.queried = s.queried
  queue : s.queue = u.queue.filter (isNear depth)

section Step

variable {depth depth' nodes : Int} {s u : Exploration ι}

theorem Keeps.takeIn (h : Keeps depth s u) (hDepth : depth ≤ depth') (n : Pending ι) (c : Callee ι)
    (m : Method ι) : Keeps depth (s.takeIn ⟨depth, nodes⟩ n c m) (u.takeIn ⟨depth', nodes⟩ n c m) := by
  rw [takeIn_eq, takeIn_eq, h.visited]
  refine { h with visited := rfl, queue := ?_ }
  dsimp only
  rw [List.filter_append, ← h.queue]
  congr 1
  by_cases hNear : ((n.depth + 1 : Nat) : Int) < depth
  · have hNear' : ((n.depth + 1 : Nat) : Int) < depth' := by omega
    rw [if_pos hNear, if_pos hNear', List.filter_cons_of_pos (isNear_iff.mpr hNear), List.filter_nil]
  · rw [if_neg hNear]
    split
    · rw [List.filter_cons_of_neg (fun h => hNear (isNear_iff.mp h)), List.filter_nil]
    · rfl

theorem Keeps.visit (h : Keeps depth s u) (hDepth : depth ≤ depth') (n : Pending ι) (c : Callee ι) :
    Keeps depth (s.visit ⟨depth, nodes⟩ n c) (u.visit ⟨depth', nodes⟩ n c) := by
  cases hMethod : c.method with
  | none =>
    rw [visit_of_none hMethod, visit_of_none hMethod]
    exact h
  | some m =>
    by_cases hOld : c.id ∈ s.visited
    · rw [visit_of_mem hMethod hOld, visit_of_mem hMethod (h.visited ▸ hOld)]
      exact h
    · have hOld' : c.id ∉ u.visited := h.visited ▸ hOld
      by_cases hFull : nodes ≤ s.visited.length
      · rw [visit_of_full hMethod hOld hFull, visit_of_full hMethod hOld' (h.visited ▸ hFull)]
        exact { h with stop := rfl }
      · rw [visit_of_new hMethod hOld hFull, visit_of_new hMethod hOld' (h.visited ▸ hFull)]
        exact h.takeIn hDepth n c m

theorem Keeps.step (h : Keeps depth s u) (hDepth : depth ≤ depth') (n : Pending ι)
    (e : CallEvent ι) :
    Keeps depth (s.step ⟨depth, nodes⟩ n e) (u.step ⟨depth', nodes⟩ n e) := by
  by_cases hStop : s.stop = none
  · have hStop' : u.stop = none := h.stop.trans hStop
    cases e with
    | callee c =>
      rw [step_callee hStop, step_callee hStop']
      have hEdges : (u.record n c).edges = (s.record n c).edges := by
        rw [Exploration.record, h.edges]
        rfl
      have hRecord : Keeps depth (s.record n c) (u.record n c) := { h with edges := hEdges }
      exact hRecord.visit hDepth n c
    | unresolved note =>
      rw [step_unresolved hStop, step_unresolved hStop', h.notes]
      exact { h with notes := rfl }
    | failed f =>
      rw [step_failed hStop, step_failed hStop']
      exact { h with stop := rfl }
  · rw [step_of_stop hStop, step_of_stop (h.stop ▸ hStop)]
    exact h

theorem Keeps.expand (h : Keeps depth s u) (hDepth : depth ≤ depth') (p : Provider ι κ)
    (external : Bool) (n : Pending ι) :
    Keeps depth (s.expand p external ⟨depth, nodes⟩ n) (u.expand p external ⟨depth', nodes⟩ n) := by
  have hFold (es : List (CallEvent ι)) {s u : Exploration ι} (h : Keeps depth s u) :
      Keeps depth (es.foldl (Exploration.step ⟨depth, nodes⟩ n) s)
        (es.foldl (Exploration.step ⟨depth', nodes⟩ n) u) := by
    induction es generalizing s u with
    | nil => exact h
    | cons e es ih => exact ih (h.step hDepth n e)
  apply hFold
  rw [query, query, h.queried]
  split
  · exact { h with queried := rfl }
  · exact h

end Step

/-! ## Turn by turn -/

section Run

variable {p : Provider ι κ} {external : Bool} {depth depth' nodes : Int} {s t u : Exploration ι}

/-- The deeper exploration comes to where the other one ends. -/
theorem Turns.kept {taken : List (Pending ι)} {k : Nat}
    (hTurns : Turns p external ⟨depth, nodes⟩ s taken t) (hDepth : depth ≤ depth')
    (h : Keeps depth s u) (hOrdered : Ordered k u.queue) :
    ∃ v, Keeps depth t v ∧
      u.run p external ⟨depth', nodes⟩ = v.run p external ⟨depth', nodes⟩ := by
  induction hTurns generalizing k u with
  | done => exact ⟨u, h, rfl⟩
  | @turn s t n rest taken hStop hQueue hTurns ih =>
    -- the next method of `s` stands first in the queue of `u` too
    have hWaits := h.queue
    rw [hQueue] at hWaits
    obtain ⟨m, rest', hQueue'⟩ : ∃ m rest', u.queue = m :: rest' := by
      apply List.exists_cons_of_ne_nil
      intro hNil
      rw [hNil] at hWaits
      cases hWaits
    rw [hQueue'] at hWaits hOrdered
    have hSome : (m :: rest').filter (isNear depth) ≠ [] := hWaits ▸ List.cons_ne_nil _ _
    have hFirst := hOrdered.filter_cons hSome
    obtain ⟨rfl, rfl⟩ := List.cons.inj (hWaits.trans hFirst)
    have hNear : (n.depth : Int) < depth := by
      have hMem : n ∈ (n :: rest').filter (isNear depth) := hWaits ▸ List.mem_cons_self
      exact isNear_iff.mp (List.mem_filter.mp hMem).2
    have hPopped : Keeps depth { s with queue := rest'.filter (isNear depth) }
        { u with queue := rest' } := { h with queue := rfl }
    have hTurn (s : Exploration ι) : s.turn p external ⟨depth, nodes⟩ n =
        s.expand p external ⟨depth, nodes⟩ n := if_neg (Int.not_le.mpr hNear)
    rw [hTurn] at ih
    obtain ⟨v, hv, hRun⟩ := ih (hPopped.expand hDepth p external n) hOrdered.of_cons.expand
    refine ⟨v, hv, ?_⟩
    rw [run_cons (h.stop.trans hStop) hQueue', if_neg (by dsimp only; omega)]
    exact hRun

end Run

/-! ## What is found is kept -/

/-- The exploration `t` has what `s` has found, and perhaps more. -/
structure Grows (s t : Exploration ι) : Prop where
  edges : s.edges <:+ t.edges
  notes : s.notes <:+ t.notes
  queried : s.queried <:+ t.queried

section Grow

variable {p : Provider ι κ} {external : Bool} {lim : Limits} {s t u : Exploration ι} {n : Pending ι}

theorem Grows.refl (s : Exploration ι) : Grows s s :=
  ⟨List.suffix_refl _, List.suffix_refl _, List.suffix_refl _⟩

theorem Grows.trans (h : Grows s t) (h' : Grows t u) : Grows s u :=
  ⟨h.edges.trans h'.edges, h.notes.trans h'.notes, h.queried.trans h'.queried⟩

theorem grows_visit (c : Callee ι) : Grows s (s.visit lim n c) := by
  obtain hVisit | hVisit | ⟨m, -, -, hVisit⟩ := visit_cases lim s n c
  · rw [hVisit]
    exact .refl s
  · rw [hVisit]
    exact ⟨List.suffix_refl _, List.suffix_refl _, List.suffix_refl _⟩
  · rw [hVisit, takeIn_eq]
    exact ⟨List.suffix_refl _, List.suffix_refl _, List.suffix_refl _⟩

theorem grows_step (e : CallEvent ι) : Grows s (s.step lim n e) := by
  apply step_preserves (P := Grows s) (.refl s)
  · intro c _
    have hRecord : Grows s (s.record n c) :=
      ⟨List.suffix_cons _ _, List.suffix_refl _, List.suffix_refl _⟩
    exact hRecord.trans (grows_visit c)
  · exact fun note => ⟨List.suffix_refl _, List.suffix_cons _ _, List.suffix_refl _⟩
  · exact fun f => ⟨List.suffix_refl _, List.suffix_refl _, List.suffix_refl _⟩

theorem grows_query (m : Method ι) : Grows s (s.query p m) := by
  unfold query
  split
  · exact ⟨List.suffix_refl _, List.suffix_refl _, List.suffix_cons _ _⟩
  · exact .refl s

theorem grows_expand : Grows s (s.expand p external lim n) :=
  List.foldlRecOn (motive := fun u : Exploration ι => Grows s u) _ _ (grows_query n.method)
    fun _ hu e _ => hu.trans (grows_step e)

theorem grows_run (p : Provider ι κ) (external : Bool) (lim : Limits) (s : Exploration ι) :
    Grows s (s.run p external lim) := by
  fun_induction run p external lim s with
  | case1 s n rest hQueue hStop popped hFar ih =>
    have hPopped : Grows s popped :=
      ⟨List.suffix_refl _, List.suffix_refl _, List.suffix_refl _⟩
    exact hPopped.trans ih
  | case2 s n rest hQueue hStop popped hNear ih =>
    have hPopped : Grows s popped :=
      ⟨List.suffix_refl _, List.suffix_refl _, List.suffix_refl _⟩
    exact (hPopped.trans grows_expand).trans ih
  | case3 s hOver => exact .refl s

end Grow

/-! ## Graphs -/

section Deeper

variable (p : Provider ι κ) (external : Bool) (root : Method ι) (rootId : String)
  {depth depth' : Int} (nodes : Int)

/-- The deeper exploration is once where the other one ends, and goes on from there. -/
theorem exists_kept (hDepth : depth ≤ depth') : ∃ v,
    Keeps depth ((start root rootId).run p external ⟨depth, nodes⟩) v ∧
      (start root rootId).run p external ⟨depth', nodes⟩ = v.run p external ⟨depth', nodes⟩ := by
  have hStart : Ordered 0 (start root rootId).queue := by
    refine ⟨List.pairwise_singleton _ _, fun n hn => ?_⟩
    obtain rfl := List.mem_singleton.mp hn
    exact ⟨Nat.le_refl 0, Nat.zero_le 1⟩
  have hCons : (start root rootId).queue = ⟨root, rootId, 0⟩ :: [] := rfl
  by_cases hPos : 0 < depth
  · have hNear : isNear depth (⟨root, rootId, 0⟩ : Pending ι) = true := isNear_iff.mpr hPos
    have hKeeps : Keeps depth (start root rootId) (start root rootId) := by
      refine ⟨rfl, rfl, rfl, rfl, rfl, ?_⟩
      rw [hCons, List.filter_cons_of_pos hNear, List.filter_nil]
    obtain ⟨taken, hTurns⟩ := exists_turns p external ⟨depth, nodes⟩ (start root rootId)
    exact hTurns.kept hDepth hKeeps hStart
  · -- the shallower one leaves the root as it is
    refine ⟨start root rootId, ?_, rfl⟩
    have hFar : ¬ isNear depth (⟨root, rootId, 0⟩ : Pending ι) = true :=
      fun h => hPos (isNear_iff.mp h)
    have hEnd : ({ start root rootId with queue := [] } : Exploration ι).queue = [] := rfl
    rw [run_cons rfl hCons, if_pos (by dsimp only; omega), run_of_queue_eq_nil hEnd]
    refine ⟨rfl, rfl, rfl, rfl, rfl, ?_⟩
    rw [hCons, List.filter_cons_of_neg hFar, List.filter_nil]

/-- What exploring deeper with the same budget changes. -/
structure Deepens (shallow deep : Explored ι) : Prop where
  /-- If the deeper exploration gives a graph, then so does the other one, and no edge is lost. -/
  edges : ∀ g', deep.graph = .ok g' → ∃ g, shallow.graph = .ok g ∧ ∀ e ∈ g.edges, e ∈ g'.edges
  /-- Once the budget is spent, nothing changes. -/
  truncated : ∀ g, shallow.graph = .ok g → g.truncated = true →
    ∃ g', deep.graph = .ok g' ∧ g'.truncated = true ∧ g'.edges = g.edges
  failed : ∀ f, shallow.graph = .error f → deep.graph = .error f
  /-- The deeper exploration begins with the questions of the other one. -/
  queried : shallow.queried <+: deep.queried
  notes : shallow.notes <+: deep.notes

/-- **Depth.** Exploring deeper with the same budget loses nothing: it adds edges, and none once the
budget is spent. -/
theorem explore_deeper (hDepth : depth ≤ depth') :
    Deepens (explore p external ⟨depth, nodes⟩ root rootId)
      (explore p external ⟨depth', nodes⟩ root rootId) := by
  obtain ⟨v, hKeeps, hRun⟩ := exists_kept p external root rootId nodes hDepth
  have hGrows := grows_run p external ⟨depth', nodes⟩ v
  rw [← hRun] at hGrows
  -- an exploration that has ended does not go on
  have hEnded : ((start root rootId).run p external ⟨depth, nodes⟩).stop ≠ none →
      (start root rootId).run p external ⟨depth', nodes⟩ = v := by
    intro hStop
    rw [hRun]
    exact run_of_stop (hKeeps.stop ▸ hStop)
  constructor
  · intro g' hg'
    obtain ⟨hNot, rfl⟩ := graph_eq_ok hg'
    have hOk : ∀ f, ((start root rootId).run p external ⟨depth, nodes⟩).stop ≠
        some (.failed f) := by
      intro f hf
      apply hNot f
      rw [hEnded (by simp [hf]), hKeeps.stop, hf]
    refine ⟨_, graph_of_stop rootId ⟨depth, nodes⟩ rfl hOk, fun e he => ?_⟩
    rw [mem_sortedSet] at he ⊢
    apply hGrows.edges.subset
    rwa [hKeeps.edges]
  · intro g hg hTruncated
    obtain ⟨hNot, rfl⟩ := graph_eq_ok hg
    have hStop : ((start root rootId).run p external ⟨depth, nodes⟩).stop ≠ none :=
      Option.isSome_iff_ne_none.mp hTruncated
    have hSame := (congrArg Exploration.stop (hEnded hStop)).trans hKeeps.stop
    refine ⟨_, graph_of_stop rootId ⟨depth', nodes⟩ hSame hNot, hTruncated, ?_⟩
    dsimp only
    rw [hEnded hStop, hKeeps.edges]
  · intro f hf
    have hStop := graph_eq_error.mp hf
    apply graph_eq_error.mpr
    rw [hEnded (by simp [hStop]), hKeeps.stop, hStop]
  · apply List.reverse_prefix.mpr
    rw [← hKeeps.queried]
    exact hGrows.queried
  · apply List.reverse_prefix.mpr
    rw [← hKeeps.notes]
    exact hGrows.notes

end Deeper

/-- The budget of two identities is spent in the second level already. -/
theorem explore_deeper_jobRun : (2 : Int) ≤ 5 ∧
    Deepens (explore jobProvider true ⟨2, 2⟩ jobRun "Job.run(0)")
      (explore jobProvider true ⟨5, 2⟩ jobRun "Job.run(0)") ∧
    ((start jobRun "Job.run(0)").run jobProvider true ⟨2, 2⟩).stop = some .truncated ∧
    ((start jobRun "Job.run(0)").run jobProvider true ⟨1, 2⟩).stop = none := by
  have hDepth : (2 : Int) ≤ 5 := by decide
  refine ⟨hDepth, explore_deeper jobProvider true jobRun "Job.run(0)" 2 hDepth, ?_, ?_⟩
  · cbv
  · cbv

end Exploration

end CodeAtlas
