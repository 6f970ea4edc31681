import CodeAtlas.Proofs.Callgraph.Turns

/-!
# Edges that lead back to the root

However an exploration ends, each edge that it has kept is a call of a method that was reached through
edges kept before.

* `Trail`: a path along some edges.
* `Supported`, `Supported.step`, `Supported.turn`: every method that waits, and every method that calls
  have been kept of, lies at the end of a trail as long as its distance from the root.
* `edges_supported`: so each edge of a graph stands at the end of a trail of the graph that is shorter
  than its depth, and is a call of a method that has been explored.
-/

namespace CodeAtlas

variable {ι κ : Type}

/-- A path of `k` edges between two identities. -/
inductive Trail (edges : List Edge) (source : String) : Nat → String → Prop
  | here : Trail edges source 0 source
  | along {k : Nat} {u v : String} (trail : Trail edges source k u) (edge : ⟨u, v⟩ ∈ edges) :
      Trail edges source (k + 1) v

theorem Trail.mono {edges edges' : List Edge} {source v : String} {k : Nat}
    (h : Trail edges source k v) (hSub : ∀ e ∈ edges, e ∈ edges') : Trail edges' source k v := by
  induction h with
  | here => exact .here
  | along _ hEdge ih => exact .along ih (hSub _ hEdge)

namespace Exploration

/-! ## One step -/

section Step

variable {p : Provider ι κ} {external : Bool} {lim : Limits} {rootId : String}
  {taken : List (Pending ι)} {s : Exploration ι} {n : Pending ι} {c : Callee ι}

/-- The edge is a call of one of the methods `taken`, to which a trail leads. -/
structure Backed (p : Provider ι κ) (external : Bool) (lim : Limits) (rootId : String)
    (taken : List (Pending ι)) (edges : List Edge) (n : Pending ι) (e : Edge) : Prop where
  mem : n ∈ taken
  near : (n.depth : Int) < lim.depth
  caller : n.id = e.caller
  trail : Trail edges rootId n.depth n.id
  callee : ∃ c ∈ p.yields external n.method, c.id = e.callee

/-- Trails lead to all methods that wait and to all callers, and those called were taken. -/
structure Supported (p : Provider ι κ) (external : Bool) (lim : Limits) (rootId : String)
    (taken : List (Pending ι)) (s : Exploration ι) : Prop where
  queue : ∀ m ∈ s.queue, Trail s.edges rootId m.depth m.id
  edges : ∀ e ∈ s.edges, ∃ n, Backed p external lim rootId taken s.edges n e

theorem supported_start (root : Method ι) :
    Supported p external lim rootId [] (start root rootId) := by
  refine ⟨fun m hm => ?_, nofun⟩
  obtain rfl := List.mem_singleton.mp hm
  exact .here

theorem Backed.mono {edges edges' : List Edge} {e : Edge}
    (h : Backed p external lim rootId taken edges n e) (hSub : ∀ e ∈ edges, e ∈ edges') :
    Backed p external lim rootId taken edges' n e := { h with trail := h.trail.mono hSub }

/-- Keeping a call of a method that has been taken. -/
theorem Supported.record (h : Supported p external lim rootId taken s) (hn : n ∈ taken)
    (hNear : (n.depth : Int) < lim.depth) (hTrail : Trail s.edges rootId n.depth n.id)
    (hc : c ∈ p.yields external n.method) :
    Supported p external lim rootId taken (s.record n c) := by
  have hSub : ∀ e ∈ s.edges, e ∈ (s.record n c).edges := fun _ he => List.mem_cons_of_mem _ he
  refine ⟨fun m hm => (h.queue m hm).mono hSub, fun e he => ?_⟩
  obtain rfl | he := List.mem_cons.mp he
  · exact ⟨n, hn, hNear, rfl, hTrail.mono hSub, c, hc, rfl⟩
  · obtain ⟨m, hm⟩ := h.edges e he
    exact ⟨m, hm.mono hSub⟩

/-- Taking in the target of a call that has been kept. -/
theorem Supported.visit (h : Supported p external lim rootId taken s)
    (hTrail : Trail s.edges rootId n.depth n.id) (hEdge : ⟨n.id, c.id⟩ ∈ s.edges) :
    Supported p external lim rootId taken (s.visit lim n c) := by
  obtain hVisit | hVisit | ⟨target, -, -, hVisit⟩ := visit_cases lim s n c
  · rwa [hVisit]
  · rw [hVisit]
    exact ⟨h.queue, h.edges⟩
  · rw [hVisit, takeIn_eq]
    refine ⟨fun m hm => ?_, h.edges⟩
    obtain hm | hm := List.mem_append.mp hm
    · exact h.queue m hm
    · split at hm
      · obtain rfl := List.mem_singleton.mp hm
        exact .along hTrail hEdge
      · cases hm

theorem Supported.step (h : Supported p external lim rootId taken s) (hn : n ∈ taken)
    (hNear : (n.depth : Int) < lim.depth) (hTrail : Trail s.edges rootId n.depth n.id)
    {e : CallEvent ι} (he : ∀ c, e = .callee c → c ∈ p.yields external n.method) :
    Supported p external lim rootId taken (s.step lim n e) ∧
      Trail (s.step lim n e).edges rootId n.depth n.id := by
  apply step_preserves (P := fun u => Supported p external lim rootId taken u ∧
    Trail u.edges rootId n.depth n.id) ⟨h, hTrail⟩
  · intro c hc
    have hRecord := h.record hn hNear hTrail (he c hc)
    have hTrail' : Trail (s.record n c).edges rootId n.depth n.id :=
      hTrail.mono fun _ he => List.mem_cons_of_mem _ he
    have hEdges : ((s.record n c).visit lim n c).edges = (s.record n c).edges := by
      obtain hVisit | hVisit | ⟨m, -, -, hVisit⟩ := visit_cases lim (s.record n c) n c
      · rw [hVisit]
      · rw [hVisit]
      · rw [hVisit, takeIn_eq]
    rw [hEdges]
    exact ⟨hRecord.visit hTrail' List.mem_cons_self, hTrail'⟩
  · exact fun _ => ⟨⟨h.queue, h.edges⟩, hTrail⟩
  · exact fun _ => ⟨⟨h.queue, h.edges⟩, hTrail⟩

/-! ## One method -/

/-- However far the calls of a method have been gone through. -/
theorem Supported.foldl_step (h : Supported p external lim rootId taken s) (hn : n ∈ taken)
    (hNear : (n.depth : Int) < lim.depth) (hTrail : Trail s.edges rootId n.depth n.id)
    {es : List (CallEvent ι)} (hes : ∀ c ∈ yieldedBy es, c ∈ p.yields external n.method) :
    Supported p external lim rootId taken (es.foldl (Exploration.step lim n) s) := by
  induction es generalizing s with
  | nil => exact h
  | cons e es ih =>
    rw [List.foldl_cons]
    cases e with
    | callee c =>
      obtain ⟨hc, hRest⟩ := List.forall_mem_cons.mp hes
      obtain ⟨hStep, hTrail'⟩ := h.step hn hNear hTrail (e := .callee c) fun _ hd => by
        cases hd
        exact hc
      exact ih hStep hTrail' hRest
    | unresolved note =>
      obtain ⟨hStep, hTrail'⟩ := h.step hn hNear hTrail (e := .unresolved note) nofun
      exact ih hStep hTrail' hes
    | failed f =>
      -- after a failure nothing is kept any more
      obtain ⟨hStep, -⟩ := h.step hn hNear hTrail (e := .failed f) nofun
      have hStop : (s.step lim n (.failed f)).stop ≠ none := by
        by_cases hStop : s.stop = none
        · simp [step_failed hStop]
        · rwa [step_of_stop hStop]
      rw [foldl_step_of_stop hStop]
      exact hStep

theorem Supported.taking (h : Supported p external lim rootId taken s) (n : Pending ι) :
    Supported p external lim rootId (taken ++ [n]) s := by
  refine ⟨h.queue, fun e he => ?_⟩
  obtain ⟨m, hm⟩ := h.edges e he
  exact ⟨m, { hm with mem := List.mem_append_left _ hm.mem }⟩

/-- Taking the next method from the queue. -/
theorem Supported.turn {rest : List (Pending ι)} (h : Supported p external lim rootId taken s)
    (hQueue : s.queue = n :: rest) :
    Supported p external lim rootId (taken ++ [n])
      (({ s with queue := rest } : Exploration ι).turn p external lim n) := by
  have hPopped : Supported p external lim rootId (taken ++ [n]) { s with queue := rest } := by
    refine ⟨fun m hm => h.queue m ?_, (h.taking n).edges⟩
    rw [hQueue]
    exact List.mem_cons_of_mem n hm
  unfold Exploration.turn
  split
  · exact hPopped
  · rename_i hNear
    have hTrail : Trail s.edges rootId n.depth n.id := h.queue n (hQueue ▸ List.mem_cons_self)
    have hn : n ∈ taken ++ [n] := List.mem_append_right _ (List.mem_singleton_self n)
    rw [expand, query]
    split
    · have hQueried : Supported p external lim rootId (taken ++ [n])
          { s with queue := rest, queried := n.method :: s.queried } := ⟨hPopped.queue, hPopped.edges⟩
      exact hQueried.foldl_step hn (Int.not_le.mp hNear) hTrail fun c hc => hc
    · exact hPopped.foldl_step hn (Int.not_le.mp hNear) hTrail fun c hc => hc

end Step

/-! ## All methods -/

section Run

variable {p : Provider ι κ} {external : Bool} {lim : Limits} {root : Method ι} {rootId : String}
  {before taken : List (Pending ι)} {s t : Exploration ι}

theorem Turns.supported (hTurns : Turns p external lim s taken t)
    (h : Supported p external lim rootId before s) :
    Supported p external lim rootId (before ++ taken) t := by
  induction hTurns generalizing before with
  | done => rwa [List.append_nil]
  | turn hStop hQueue hTurns ih =>
    have hMore := ih (h.turn hQueue)
    rwa [List.append_assoc] at hMore

/-- Each edge of the graph stands at the end of a trail of the graph and is a call. The exploration
takes the methods `taken`. -/
structure EdgesSupported (p : Provider ι κ) (external : Bool) (lim : Limits) (root : Method ι)
    (rootId : String) (taken : List (Pending ι)) (g : Callgraph) : Prop where
  ends : Turns p external lim (start root rootId) taken ((start root rootId).run p external lim)
  /-- A trail that is shorter than the depth leads from the root to the caller. -/
  reached : ∀ e ∈ g.edges, ∃ k : Nat, (k : Int) < lim.depth ∧ Trail g.edges g.root k e.caller
  /-- The callee is one of a method that was explored as the caller. -/
  called : ∀ e ∈ g.edges, ∃ n ∈ asked lim taken, n.id = e.caller ∧
    n.method ∈ (explore p external lim root rootId).queried ∧
    ∃ c ∈ p.yields external n.method, c.id = e.callee
  /-- That is, one of its calls leads to the method or the label that is shown. -/
  site : ∀ e ∈ g.edges, ∃ n ∈ asked lim taken, n.id = e.caller ∧
    ((∃ m, p.Calls n.method m ∧ m.id = e.callee) ∨ external = true ∧ p.Outward n.method e.callee)

/-- What a method yields comes from one of its calls. -/
theorem calls_or_outward {m : Method ι} {c : Callee ι} (h : c ∈ p.yields external m) :
    (∃ target, p.Calls m target ∧ target.id = c.id) ∨ external = true ∧ p.Outward m c.id := by
  have hEvent := callee_mem_of_mem_yieldedBy h
  cases hMethod : c.method with
  | none => exact .inr (outward_of_callee hEvent hMethod)
  | some target =>
    obtain ⟨hCalls, hId⟩ := calls_of_callee hEvent hMethod
    exact .inl ⟨target, hCalls, hId.symm⟩

/-- A method that yields anything has answered the question for its calls. -/
theorem answersCalls_of_yields {m : Method ι} {c : Callee ι} (h : c ∈ p.yields external m) :
    p.answersCalls m = true := by
  obtain ⟨sites, hSites, -⟩ := exists_site (callee_mem_of_mem_yieldedBy h)
  rw [Provider.answersCalls, hSites]
  rfl

/-- **Support.** Every edge of a graph, truncated or not, is a call of a method that was explored, and
the graph itself holds a trail to the caller that is shorter than its depth. -/
theorem edges_supported (p : Provider ι κ) (external : Bool) (lim : Limits) (root : Method ι)
    (rootId : String) {g : Callgraph} (h : (explore p external lim root rootId).graph = .ok g) :
    ∃ taken, EdgesSupported p external lim root rootId taken g := by
  obtain ⟨taken, hTurns⟩ := exists_turns p external lim (start root rootId)
  have hSupported : Supported p external lim rootId taken
      ((start root rootId).run p external lim) := hTurns.supported (supported_start root)
  obtain ⟨-, rfl⟩ := graph_eq_ok h
  have hBacked : ∀ e ∈ sortedSet ((start root rootId).run p external lim).edges, ∃ n,
      Backed p external lim rootId taken
        (sortedSet ((start root rootId).run p external lim).edges) n e := by
    intro e he
    obtain ⟨n, hn⟩ := hSupported.edges e (mem_sortedSet.mp he)
    exact ⟨n, hn.mono fun _ => mem_sortedSet.mpr⟩
  have hAsked {n : Pending ι} (hMem : n ∈ taken) (hNear : (n.depth : Int) < lim.depth) :
      n ∈ asked lim taken := List.mem_filter.mpr ⟨hMem, decide_eq_true hNear⟩
  refine ⟨taken, hTurns, fun e he => ?_, fun e he => ?_, fun e he => ?_⟩
  · obtain ⟨n, hn⟩ := hBacked e he
    exact ⟨n.depth, hn.near, hn.caller ▸ hn.trail⟩
  · obtain ⟨n, hn⟩ := hBacked e he
    obtain ⟨c, hc, hId⟩ := hn.callee
    refine ⟨n, hAsked hn.mem hn.near, hn.caller, ?_, c, hc, hId⟩
    rw [hTurns.queried_explore]
    exact List.mem_filter.mpr
      ⟨List.mem_map_of_mem (hAsked hn.mem hn.near), answersCalls_of_yields hc⟩
  · obtain ⟨n, hn⟩ := hBacked e he
    obtain ⟨c, hc, hId⟩ := hn.callee
    exact ⟨n, hAsked hn.mem hn.near, hn.caller, hId ▸ calls_or_outward hc⟩

end Run

/-- The budget is spent in the middle of the calls of `Job.step`. -/
theorem edges_supported_jobRun : ∃ g,
    (explore jobProvider true ⟨2, 2⟩ jobRun "Job.run(0)").graph = .ok g ∧ g.truncated = true ∧
    ⟨"Job.step(1)", "Store.load(0)"⟩ ∈ g.edges ∧
    ∃ taken, EdgesSupported jobProvider true ⟨2, 2⟩ jobRun "Job.run(0)" taken g := by
  have hStop : ((start jobRun "Job.run(0)").run jobProvider true ⟨2, 2⟩).stop =
      some .truncated := by
    cbv
  have hEdge : ((start jobRun "Job.run(0)").run jobProvider true ⟨2, 2⟩).edges.head? =
      some ⟨"Job.step(1)", "Store.load(0)"⟩ := by
    cbv
  have hGraph := graph_of_stop "Job.run(0)" ⟨2, 2⟩ hStop (by simp)
  exact ⟨_, hGraph, rfl, mem_sortedSet.mpr (List.mem_of_head? hEdge),
    edges_supported jobProvider true ⟨2, 2⟩ jobRun "Job.run(0)" hGraph⟩

end Exploration

end CodeAtlas
