import CodeAtlas.Proofs.Callgraph.Turns

/-!
# What lies outside does not count

Calls that lead out of the repository, and calls that lead to nothing known, add labels to the graph
of an exploration and change nothing else.

* `Thins`: two explorations in lock step, the first of which keeps more calls.
* `Turns.thinned`: without the calls that lead outside, an exploration takes the same methods.
* `explore_external`: externals add edges to their labels, and leave the methods that are explored,
  the budget and the questions as they are.
-/

namespace CodeAtlas

variable {ι κ : Type}

namespace Exploration

/-- The exploration `u` is as far as `s`, but may not have kept the calls that satisfy `added`. -/
structure Thins (added : Edge → Prop) (s u : Exploration ι) : Prop where
  visited : u.visited = s.visited
  queue : u.queue = s.queue
  stop : u.stop = s.stop
  queried : u.queried = s.queried
  kept : ∀ e ∈ u.edges, e ∈ s.edges
  lost : ∀ e ∈ s.edges, e ∈ u.edges ∨ added e

theorem Thins.refl (added : Edge → Prop) (s : Exploration ι) : Thins added s s :=
  ⟨rfl, rfl, rfl, rfl, fun _ he => he, fun _ he => .inl he⟩

/-! ## One event -/

section Step

variable {added : Edge → Prop} {lim : Limits} {s u : Exploration ι} {e : CallEvent ι}

theorem Thins.record (h : Thins added s u) (n : Pending ι) (c : Callee ι) :
    Thins added (s.record n c) (u.record n c) := by
  refine { h with kept := fun e he => ?_, lost := fun e he => ?_ }
  · obtain rfl | he := List.mem_cons.mp he
    · exact List.mem_cons_self
    · exact List.mem_cons_of_mem _ (h.kept e he)
  · obtain rfl | he := List.mem_cons.mp he
    · exact .inl List.mem_cons_self
    · exact (h.lost e he).imp_left (List.mem_cons_of_mem _)

theorem Thins.visit (h : Thins added s u) (n : Pending ι) (c : Callee ι) :
    Thins added (s.visit lim n c) (u.visit lim n c) := by
  cases hMethod : c.method with
  | none => rwa [visit_of_none hMethod, visit_of_none hMethod]
  | some m =>
    by_cases hOld : c.id ∈ s.visited
    · rwa [visit_of_mem hMethod hOld, visit_of_mem hMethod (h.visited ▸ hOld)]
    · have hOld' : c.id ∉ u.visited := h.visited ▸ hOld
      by_cases hFull : lim.nodes ≤ s.visited.length
      · rw [visit_of_full hMethod hOld hFull, visit_of_full hMethod hOld' (h.visited ▸ hFull)]
        exact { h with stop := rfl }
      · rw [visit_of_new hMethod hOld hFull, visit_of_new hMethod hOld' (h.visited ▸ hFull),
          takeIn_eq, takeIn_eq, h.visited, h.queue]
        exact { h with visited := rfl, queue := rfl }

/-- An event that counts does the same to both. -/
theorem Thins.step (h : Thins added s u) (n : Pending ι) (hIn : e.isInward = true) :
    Thins added (s.step lim n e) (u.step lim n e) := by
  by_cases hStop : s.stop = none
  · have hStop' : u.stop = none := h.stop.trans hStop
    cases e with
    | callee c =>
      rw [step_callee hStop, step_callee hStop']
      exact (h.record n c).visit n c
    | unresolved note => cases hIn
    | failed f =>
      rw [step_failed hStop, step_failed hStop']
      exact { h with stop := rfl }
  · rwa [step_of_stop hStop, step_of_stop (h.stop ▸ hStop)]

/-- The other events leave at most a label behind. -/
theorem Thins.skip (h : Thins added s u) (n : Pending ι) (hOut : e.isInward = false)
    (hAdded : ∀ c, e = .callee c → added ⟨n.id, c.id⟩) : Thins added (s.step lim n e) u := by
  by_cases hStop : s.stop = none
  · cases e with
    | callee c =>
      rw [step_callee hStop, visit_of_none (isInward_callee.mp hOut)]
      refine { h with kept := fun e he => List.mem_cons_of_mem _ (h.kept e he), lost := ?_ }
      intro e he
      obtain rfl | he := List.mem_cons.mp he
      · exact .inr (hAdded c rfl)
      · exact h.lost e he
    | unresolved note =>
      rw [step_unresolved hStop]
      exact { h with }
    | failed f => cases hOut
  · rwa [step_of_stop hStop]

theorem Thins.foldl_step (h : Thins added s u) (n : Pending ι) (es : List (CallEvent ι))
    (hAdded : ∀ c, .callee c ∈ es → c.method = none → added ⟨n.id, c.id⟩) :
    Thins added (es.foldl (Exploration.step lim n) s)
      ((es.filter CallEvent.isInward).foldl (Exploration.step lim n) u) := by
  induction es generalizing s u with
  | nil => exact h
  | cons e es ih =>
    have hRest : ∀ c, .callee c ∈ es → c.method = none → added ⟨n.id, c.id⟩ :=
      fun c hc => hAdded c (List.mem_cons_of_mem _ hc)
    by_cases hIn : e.isInward = true
    · rw [List.filter_cons_of_pos hIn]
      exact ih (h.step n hIn) hRest
    · have hOut : e.isInward = false := Bool.eq_false_iff.mpr hIn
      rw [List.filter_cons_of_neg hIn]
      refine ih (h.skip n hOut ?_) hRest
      rintro c rfl
      exact hAdded c List.mem_cons_self (isInward_callee.mp hOut)

end Step

/-! ## Turn by turn -/

section Run

variable {p : Provider ι κ} {external external' : Bool} {added : Edge → Prop} {lim : Limits}
  {s t u : Exploration ι} {root : Method ι} {rootId : String}

theorem Thins.turn (h : Thins added s u) (n : Pending ι)
    (hAdded : ∀ c, .callee c ∈ p.events external n.method → c.method = none →
      added ⟨n.id, c.id⟩) :
    Thins added (s.turn p external lim n) (u.turn p.inward external' lim n) := by
  unfold Exploration.turn
  split
  · exact h
  · rw [expand, expand, Provider.events_inward p external]
    refine Thins.foldl_step ?_ n _ hAdded
    rw [query, query, answersCalls_inward, h.queried]
    split
    · exact { h with queried := rfl }
    · exact h

/-- Without the calls that lead outside, the same methods are taken. -/
theorem Turns.thinned {taken : List (Pending ι)} (hTurns : Turns p external lim s taken t)
    (h : Thins added s u) (external' : Bool)
    (hAdded : ∀ n ∈ taken, ∀ c, .callee c ∈ p.events external n.method → c.method = none →
      added ⟨n.id, c.id⟩) :
    ∃ v, Turns p.inward external' lim u taken v ∧ Thins added t v := by
  induction hTurns generalizing u with
  | done hEnded =>
    refine ⟨u, .done ?_, h⟩
    rwa [h.stop, h.queue]
  | @turn s t n rest taken hStop hQueue hTurns ih =>
    have hPopped : Thins added { s with queue := rest } { u with queue := rest } :=
      { h with queue := rfl }
    obtain ⟨v, hMore, hv⟩ := ih (hPopped.turn n (hAdded n List.mem_cons_self))
      fun m hm => hAdded m (List.mem_cons_of_mem _ hm)
    exact ⟨v, .turn (h.stop.trans hStop) (h.queue.trans hQueue) hMore, hv⟩

theorem mem_visited_step {n : Pending ι} {e : CallEvent ι} {id : String}
    (h : id ∈ (s.step lim n e).visited) :
    id ∈ s.visited ∨ ∃ c m, e = .callee c ∧ c.method = some m ∧ c.id = id := by
  revert h
  apply step_preserves (P := fun u => id ∈ u.visited →
    id ∈ s.visited ∨ ∃ c m, e = .callee c ∧ c.method = some m ∧ c.id = id) .inl
  · rintro c rfl h
    obtain hVisit | hVisit | ⟨m, hMethod, -, hVisit⟩ := visit_cases lim (s.record n c) n c
    · rw [hVisit] at h
      exact .inl h
    · rw [hVisit] at h
      exact .inl h
    · rw [hVisit, takeIn_eq] at h
      obtain rfl | h := List.mem_cons.mp h
      · exact .inr ⟨c, m, rfl, hMethod, rfl⟩
      · exact .inl h
  · exact fun _ h => .inl h
  · exact fun _ h => .inl h

/-- What is taken in is called from within the repository. -/
theorem mem_visited_expand {n : Pending ι} :
    ∀ id ∈ (s.expand p external lim n).visited,
      id ∈ s.visited ∨ ∃ m, p.Calls n.method m ∧ m.id = id := by
  refine List.foldlRecOn (motive := fun u : Exploration ι => ∀ id ∈ u.visited,
    id ∈ s.visited ∨ ∃ m, p.Calls n.method m ∧ m.id = id) _ _ ?_ fun u hu e he => ?_
  · intro id hid
    rw [(found_eq_iff.mp (found_query n.method s)).2.1] at hid
    exact .inl hid
  · intro id hid
    obtain hid | ⟨c, m, rfl, hMethod, rfl⟩ := mem_visited_step hid
    · exact hu id hid
    · obtain ⟨hCalls, hId⟩ := calls_of_callee he hMethod
      exact .inr ⟨m, hCalls, hId.symm⟩

theorem Turns.mem_visited {taken : List (Pending ι)} (hTurns : Turns p external lim s taken t)
    {id : String} (h : id ∈ t.visited) :
    id ∈ s.visited ∨ ∃ n ∈ taken, ∃ m, p.Calls n.method m ∧ m.id = id := by
  induction hTurns with
  | done => exact .inl h
  | @turn s t n rest taken hStop hQueue hTurns ih =>
    obtain h | ⟨m, hm, hCalls⟩ := ih h
    · rw [Exploration.turn] at h
      split at h
      · exact .inl h
      · obtain h | hCalls := mem_visited_expand id h
        · exact .inl h
        · exact .inr ⟨n, List.mem_cons_self, hCalls⟩
    · exact .inr ⟨m, List.mem_cons_of_mem _ hm, hCalls⟩

end Run

/-! ## Externals -/

section External

variable {p : Provider ι κ} {external external' : Bool} {lim : Limits} {root : Method ι}
  {rootId : String} {taken : List (Pending ι)}

/-- A call of one of the methods that leads outside has this label, and labels are asked for. -/
def Labelled (p : Provider ι κ) (external : Bool) (taken : List (Pending ι)) (e : Edge) : Prop :=
  external = true ∧ ∃ n ∈ taken, e.caller = n.id ∧ p.Outward n.method e.callee

theorem thins_run (h : Turns p external lim (start root rootId) taken
    ((start root rootId).run p external lim)) (external' : Bool) :
    Turns p.inward external' lim (start root rootId) taken
        ((start root rootId).run p.inward external' lim) ∧
      Thins (Labelled p external taken) ((start root rootId).run p external lim)
        ((start root rootId).run p.inward external' lim) := by
  have hAdded : ∀ n ∈ taken, ∀ c, .callee c ∈ p.events external n.method → c.method = none →
      Labelled p external taken ⟨n.id, c.id⟩ := by
    intro n hn c hc hLeaf
    obtain ⟨hExternal, hOut⟩ := outward_of_callee hc hLeaf
    exact ⟨hExternal, n, hn, rfl, hOut⟩
  obtain ⟨v, hTurns, hThins⟩ := h.thinned (Thins.refl _ _) external' hAdded
  obtain rfl := hTurns.eq_run
  exact ⟨hTurns, hThins⟩

/-- Externals or not, the same methods are taken. -/
theorem turns_run (h : Turns p external lim (start root rootId) taken
    ((start root rootId).run p external lim)) :
    Turns p external' lim (start root rootId) taken ((start root rootId).run p external' lim) := by
  obtain ⟨taken', hTurns⟩ := exists_turns p external' lim (start root rootId)
  obtain ⟨hIn, -⟩ := thins_run h false
  obtain ⟨hIn', -⟩ := thins_run hTurns false
  obtain ⟨rfl, -⟩ := hIn.unique hIn'
  exact hTurns

theorem map_truncated_graph {s t : Exploration ι} (h : s.stop = t.stop) :
    (s.graph rootId lim).map (·.truncated) = (t.graph rootId lim).map (·.truncated) := by
  unfold graph
  rw [h]
  split <;> rfl

/-- Of two explorations that lose nothing but labels on the way to a third, one without externals and
one with them, the second has the edges of the first and edges to labels. -/
theorem edges_of_thins {off on inward : Exploration ι} {g g' : Callgraph}
    (hOff : Thins (Labelled p false taken) off inward)
    (hOn : Thins (Labelled p true taken) on inward) (hg : off.graph rootId lim = .ok g)
    (hg' : on.graph rootId lim = .ok g') :
    (∀ e ∈ g.edges, e ∈ g'.edges) ∧
      ∀ e ∈ g'.edges, e ∈ g.edges ∨ ∃ n ∈ taken, e.caller = n.id ∧ p.Outward n.method e.callee := by
  obtain ⟨-, rfl⟩ := graph_eq_ok hg
  obtain ⟨-, rfl⟩ := graph_eq_ok hg'
  constructor
  · intro e he
    rw [mem_sortedSet] at he ⊢
    obtain he | ⟨hExternal, -⟩ := hOff.lost e he
    · exact hOn.kept e he
    · cases hExternal
  · intro e he
    rw [mem_sortedSet] at he ⊢
    obtain he | ⟨-, hLabel⟩ := hOn.lost e he
    · exact .inl (hOff.kept e he)
    · exact .inr hLabel

/-- Whether externals are asked for or not, the methods `taken` are taken, and so they are without
the calls that lead outside. Externals add edges to labels, and nothing else. -/
structure OutsideIdle (p : Provider ι κ) (lim : Limits) (root : Method ι) (rootId : String)
    (taken : List (Pending ι)) : Prop where
  turns : ∀ external, Turns p external lim (start root rootId) taken
    ((start root rootId).run p external lim)
  inward : ∀ external, Turns p.inward external lim (start root rootId) taken
    ((start root rootId).run p.inward external lim)
  inside : ∀ n ∈ taken, n = ⟨root, rootId, 0⟩ ∨ n.method.inSource = true
  budget : ∀ external, ((start root rootId).run p external lim).visited =
    ((start root rootId).run p.inward external lim).visited
  visited : ∀ external, ∀ id ∈ ((start root rootId).run p external lim).visited,
    id = rootId ∨ ∃ n ∈ taken, ∃ m, p.Calls n.method m ∧ m.id = id
  queried : (explore p true lim root rootId).queried = (explore p false lim root rootId).queried
  truncated : (explore p true lim root rootId).graph.map (·.truncated) =
    (explore p false lim root rootId).graph.map (·.truncated)
  edges : ∀ g g', (explore p false lim root rootId).graph = .ok g →
    (explore p true lim root rootId).graph = .ok g' →
      (∀ e ∈ g.edges, e ∈ g'.edges) ∧
        ∀ e ∈ g'.edges, e ∈ g.edges ∨
          ∃ n ∈ taken, e.caller = n.id ∧ p.Outward n.method e.callee

/-- Externals add edges to the labels of calls that lead outside. They do not decide which methods
are explored, nor how much of the budget is spent, nor what is asked. -/
theorem explore_external (p : Provider ι κ) (lim : Limits) (root : Method ι) (rootId : String) :
    ∃ taken, OutsideIdle p lim root rootId taken := by
  obtain ⟨taken, hTurns, hFrugal⟩ := exists_frugal_turns p false root rootId lim
  have hAll : ∀ external, Turns p external lim (start root rootId) taken
      ((start root rootId).run p external lim) := fun external => turns_run hTurns
  have hThins : ∀ external external',
      Thins (Labelled p external taken) ((start root rootId).run p external lim)
        ((start root rootId).run p.inward external' lim) :=
    fun external external' => (thins_run (hAll external) external').2
  have hOff := hThins false false
  have hOn := hThins true false
  refine ⟨taken, hAll, fun external => (thins_run hTurns external).1, ?_, ?_, ?_, ?_, ?_, ?_⟩
  · intro n hn
    exact (mem_level_inside (hFrugal.mem_level n hn)).imp_right And.left
  · exact fun external => (hThins external external).visited.symm
  · intro external id hid
    obtain hid | hCalled := (hAll external).mem_visited hid
    · exact .inl (List.mem_singleton.mp hid)
    · exact .inr hCalled
  · exact congrArg List.reverse (hOn.queried.symm.trans hOff.queried)
  · exact map_truncated_graph (hOn.stop.symm.trans hOff.stop)
  · exact fun g g' => edges_of_thins hOff hOn

end External

end Exploration

end CodeAtlas
