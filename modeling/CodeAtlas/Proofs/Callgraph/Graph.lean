import CodeAtlas.Proofs.Callgraph.Queue
import CodeAtlas.Proofs.Order
import Mathlib

/-!
# The graph of an exploration

* `compare_edge_eq_lt`: edges ascend by caller, then by callee, by code point.
* `edges_of_stop_eq_none`: an exploration that ran to its end has kept the calls of the levels
  below its depth, in their order.
* `isLevelGraph_of_not_truncated`: a graph that is not truncated holds exactly these calls.
-/

namespace CodeAtlas

open Std

variable {ι κ : Type}

/-! ## The order of edges -/

instance : TransOrd Edge :=
  inferInstanceAs (TransCmp (compareLex (compareOn Edge.caller) (compareOn Edge.callee)))

theorem compare_edge (a b : Edge) :
    compare a b = (compare a.caller b.caller).then (compare a.callee b.callee) := rfl

instance : LawfulEqOrd Edge where
  eq_of_compare {a b} h := by
    rw [compare_edge, Ordering.then_eq_eq] at h
    cases a
    cases b
    rw [Edge.mk.injEq]
    exact ⟨LawfulEqOrd.eq_of_compare h.1, LawfulEqOrd.eq_of_compare h.2⟩

/-- Edges ascend by caller, and those of one caller by callee. -/
theorem compare_edge_eq_lt (a b : Edge) :
    compare a b = .lt ↔ a.caller < b.caller ∨ a.caller = b.caller ∧ a.callee < b.callee := by
  rw [compare_edge, Ordering.then_eq_lt, compare_string_eq_lt, compare_string_eq_lt,
    LawfulEqOrd.compare_eq_iff_eq]

/-! ## From explorations to graphs -/

namespace Exploration

theorem graph_eq_error {s : Exploration ι} {rootId : String} {lim : Limits} {f : Failure} :
    s.graph rootId lim = .error f ↔ s.stop = some (.failed f) := by
  unfold graph
  split
  · simp [*]
  · rename_i hNot
    simpa using hNot f

theorem graph_of_stop {s : Exploration ι} (rootId : String) (lim : Limits) {stop : Option Stop}
    (h : s.stop = stop) (hNot : ∀ f, stop ≠ some (.failed f)) :
    s.graph rootId lim = .ok ⟨rootId, lim.depth, stop.isSome, sortedSet s.edges⟩ := by
  subst h
  unfold graph
  split
  · exact absurd ‹_› (hNot _)
  · rfl

theorem graph_eq_ok {s : Exploration ι} {rootId : String} {lim : Limits} {g : Callgraph}
    (h : s.graph rootId lim = .ok g) :
    (∀ f, s.stop ≠ some (.failed f)) ∧
      g = ⟨rootId, lim.depth, s.stop.isSome, sortedSet s.edges⟩ := by
  have hNot : ∀ f, s.stop ≠ some (.failed f) := by
    intro f hf
    rw [graph_eq_error.mpr hf] at h
    cases h
  exact ⟨hNot, Except.ok.inj (h.symm.trans (graph_of_stop rootId lim rfl hNot))⟩

end Exploration

section Explore

variable {p : Provider ι κ} {external : Bool} {root : Method ι} {rootId : String} {lim : Limits}
  {depth : Nat}

/-- An exploration fails only if the provider does, for a method that is expanded. -/
theorem exists_failed_of_graph_eq_error (hLim : lim.depth = depth) {f : Failure}
    (h : (explore p external lim root rootId).graph = .error f) :
    ∃ k < depth, ∃ n ∈ level p external root rootId k, .failed f ∈ p.events external n.method := by
  have hStop := Exploration.graph_eq_error.mp h
  rcases Exploration.run_start hLim with ⟨f', hf', hFail⟩ | ⟨hFound, -⟩
  · rw [hStop] at hf'
    cases hf'
    exact hFail
  · -- a sweep meets no failure
    have hSweep := (Exploration.found_eq_iff.mp hFound).2.2
    rw [hStop] at hSweep
    have hTrunc := Exploration.exists_cut_of_stop_ne_none (s := Exploration.start root rootId) rfl
      (by rw [← hSweep]; simp)
    rw [← hSweep] at hTrunc
    cases hTrunc.1

/-- An exploration that ran to its end has kept the calls of the levels below its depth. -/
theorem edges_of_stop_eq_none (hLim : lim.depth = depth)
    (h : ((Exploration.start root rootId).run p external lim).stop = none) :
    ((Exploration.start root rootId).run p external lim).edges =
        ((sightingsBelow p external root rootId depth).map Sighting.edge).reverse ∧
      ∀ k < depth, ∀ n ∈ level p external root rootId k, p.Answers external n.method := by
  rcases Exploration.run_start hLim with ⟨f, hf, -⟩ | ⟨hFound, hAnswers⟩
  · rw [h] at hf
    cases hf
  · obtain ⟨hEdges, -, hStop⟩ := Exploration.found_eq_iff.mp hFound
    have hSwept := Exploration.swept_of_stop_eq_none (hStop.symm.trans h)
    refine ⟨?_, hAnswers h⟩
    rw [hEdges, hSwept.edges]
    exact List.append_nil _

/-- The edges of a graph that is not truncated, all of whose callers have answered calls. -/
theorem mem_edges_of_not_truncated (hLim : lim.depth = depth) {g : Callgraph}
    (h : (explore p external lim root rootId).graph = .ok g) (hWhole : g.truncated = false) :
    (∀ e, e ∈ g.edges ↔
      ∃ k < depth, ∃ n ∈ level p external root rootId k,
        ∃ c ∈ p.yields external n.method, e = ⟨n.id, c.id⟩) ∧
      ∀ k < depth, ∀ n ∈ level p external root rootId k, p.Answers external n.method := by
  obtain ⟨-, rfl⟩ := Exploration.graph_eq_ok h
  have hStop := Option.isSome_eq_false_iff.mp hWhole
  obtain ⟨hEdges, hAnswers⟩ := edges_of_stop_eq_none hLim (Option.isNone_iff_eq_none.mp hStop)
  refine ⟨fun e => ?_, hAnswers⟩
  rw [mem_sortedSet, hEdges, List.mem_reverse, List.mem_map]
  constructor
  · rintro ⟨q, hq, rfl⟩
    obtain ⟨k, hk, hn, hc⟩ := mem_sightingsBelow.mp hq
    exact ⟨k, hk, q.source, hn, q.callee, hc, rfl⟩
  · rintro ⟨k, hk, n, hn, c, hc, rfl⟩
    exact ⟨⟨n, c⟩, mem_sightingsBelow.mpr ⟨k, hk, hn, hc⟩, rfl⟩

/-- What a graph of depth `depth` that is not truncated holds. -/
structure IsLevelGraph (p : Provider ι κ) (external : Bool) (root : Method ι) (rootId : String)
    (depth : Nat) (g : Callgraph) : Prop where
  /-- The edges are the calls of the methods in levels below `depth`. -/
  edges : ∀ e, e ∈ g.edges ↔
    ∃ k < depth, ∃ n ∈ level p external root rootId k,
      ∃ c ∈ p.yields external n.method, e = ⟨n.id, c.id⟩
  /-- Of these methods all callees are known. -/
  callees : ∀ k < depth, ∀ n ∈ level p external root rootId k,
    (p.callees external n.method).result = .ok (p.yields external n.method)
  /-- Methods further away contribute nothing. -/
  caller_near : ∀ k, depth ≤ k → ∀ n ∈ level p external root rootId k,
    ∀ e ∈ g.edges, e.caller ≠ n.id
  /-- The edges ascend strictly by code point. -/
  ascending : g.edges.Pairwise fun a b =>
    a.caller < b.caller ∨ a.caller = b.caller ∧ a.callee < b.callee
  nodup : g.edges.Nodup

end Explore

/-- **Level order.** A graph that is not truncated holds the calls of all methods at a distance
below its depth, and nothing else. -/
theorem isLevelGraph_of_not_truncated (p : Provider ι κ) (external : Bool) (root : Method ι)
    (rootId : String) (depth : Nat) (nodes : Int) {g : Callgraph}
    (h : (explore p external ⟨depth, nodes⟩ root rootId).graph = .ok g)
    (hWhole : g.truncated = false) : IsLevelGraph p external root rootId depth g := by
  obtain ⟨hMem, hAnswers⟩ := mem_edges_of_not_truncated rfl h hWhole
  have hSorted : g.edges.Pairwise fun a b => compare a b = .lt := by
    obtain ⟨-, rfl⟩ := Exploration.graph_eq_ok h
    exact pairwise_sortedSet _
  refine ⟨hMem, fun k hk n hn => Provider.result_callees (hAnswers k hk n hn), ?_, ?_, ?_⟩
  · intro k hk n hn e he hCaller
    obtain ⟨j, hj, m, hm, c, -, rfl⟩ := (hMem e).mp he
    obtain rfl : m = n := level_unique hm hn hCaller
    have := (depth_of_mem_level hm).symm.trans (depth_of_mem_level hn)
    omega
  · exact hSorted.imp (compare_edge_eq_lt _ _).mp
  · refine hSorted.imp fun hlt heq => ?_
    rw [heq, ReflOrd.compare_self] at hlt
    cases hlt

/-! ## Providers given by a table -/

/-- A provider whose methods stand in a list; `calls` gives the places of those that a method calls.
A place outside the list is a call that nothing is known of. -/
def Provider.ofTable (projects : List Project) (methods : List (Method Nat))
    (calls : Nat → List Nat) : Provider Nat Nat where
  language := "table"
  sourceNotes := []
  projects := .ok projects
  declarations := fun _ => .ok methods
  callSites := fun m => .ok ((calls m.handle).map fun place => ⟨"lookup", 0, none, place⟩)
  resolve := fun c => .ok methods[c.handle]?
  entrypoints := fun _ => .ok []
  commands := fun _ => .ok []
  envLookups := fun _ => .ok []
  literals := fun _ => .ok []

/-- A method that is found again by its place in a table. -/
def Method.ofTable (typeName name : String) (arity : Int) (inSource : Bool) (place : Nat) :
    Method Nat := ⟨typeName, name, arity, false, inSource, none, none, place⟩

/-- Five methods with a cycle, a call of oneself, two methods of one identity, and calls that leave
the repository. -/
def jobProvider : Provider Nat Nat :=
  .ofTable []
    [.ofTable "Job" "run" 0 true 0, .ofTable "Job" "step" 1 true 1, .ofTable "Job" "step" 1 true 2,
      .ofTable "Store" "load" 0 true 3, .ofTable "Log" "print" 1 false 4]
    fun
    | 0 => [1, 2, 4, 9]
    | 1 => [1, 3, 0]
    | 2 => [4]
    | 3 => [1]
    | _ => []

def jobRun : Method Nat := .ofTable "Job" "run" 0 true 0

/-- The budget of three identities just suffices for two levels of calls. -/
theorem isLevelGraph_jobRun :
    ∃ g, (explore jobProvider true ⟨2, 3⟩ jobRun "Job.run(0)").graph = .ok g ∧
      g.truncated = false ∧ IsLevelGraph jobProvider true jobRun "Job.run(0)" 2 g := by
  have hStop : ((Exploration.start jobRun "Job.run(0)").run jobProvider true ⟨2, 3⟩).stop = none := by
    cbv
  have hGraph := Exploration.graph_of_stop "Job.run(0)" ⟨2, 3⟩ hStop (by simp)
  exact ⟨_, hGraph, rfl, isLevelGraph_of_not_truncated _ _ _ _ 2 3 hGraph rfl⟩

end CodeAtlas
