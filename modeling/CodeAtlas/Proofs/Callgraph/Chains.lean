import CodeAtlas.Proofs.Callgraph.Graph

/-!
# Chains of calls

A graph knows methods by their identities only. Of the methods of one identity the exploration
expands the one that it finds first, so a call of another shows if the first makes a call to the
same identity as well.

* `CallChain.exists_level`: the identities along a chain of such calls are all taken in.
* `mem_edges_of_callChain`: no such call is missing from a graph that is not truncated.
* `lost_call`: a call that the first does not make is lost, and the graph does not tell.
-/

namespace CodeAtlas

variable {ι κ : Type}

/-! ## Calls within the repository -/

/-- One of the calls of `m` is resolved to `c`, a method of the repository. -/
def Provider.Calls (p : Provider ι κ) (m c : Method ι) : Prop :=
  ∃ sites, p.callSites m = .ok sites ∧
    ∃ site ∈ sites, p.resolve site = .ok (some c) ∧ c.inSource = true

/-- A chain of `k` calls from the root to a method, all of which satisfy `kept`. -/
inductive CallChain (p : Provider ι κ) (kept : Method ι → Method ι → Prop) (root : Method ι) :
    Nat → Method ι → Prop
  | root : CallChain p kept root 0 root
  | call {k : Nat} {m c : Method ι} (chain : CallChain p kept root k m) (called : p.Calls m c)
      (keeps : kept m c) : CallChain p kept root (k + 1) c

/-- The method that stands for the identity of `m` makes a call to the identity of `c`. -/
def Provider.Echoed (p : Provider ι κ) (external : Bool) (root : Method ι) (m c : Method ι) :
    Prop :=
  ∀ j, ∀ n ∈ level p external root root.id j, n.id = m.id →
    ∃ c', p.Calls n.method c' ∧ c'.id = c.id

section Chains

variable {p : Provider ι κ} {external : Bool} {root : Method ι}

theorem callee_mem_yieldedBy {es : List (CallEvent ι)} {c : Callee ι}
    (hAnswers : ∀ f, .failed f ∉ es) (h : .callee c ∈ es) : c ∈ yieldedBy es := by
  induction es with
  | nil => cases h
  | cons e es ih =>
    have hes : ∀ f, .failed f ∉ es := fun f hf => hAnswers f (List.mem_cons_of_mem _ hf)
    cases e with
    | callee d =>
      rcases List.mem_cons.mp h with hd | h
      · cases hd
        exact List.mem_cons_self
      · exact List.mem_cons_of_mem _ (ih hes h)
    | unresolved n =>
      rcases List.mem_cons.mp h with hd | h
      · cases hd
      · exact ih hes h
    | failed f => exact absurd List.mem_cons_self (hAnswers f)

theorem callee_mem_eventsOf {m c : Method ι} {sites : List (CallSite κ)} {site : CallSite κ}
    (hAnswers : ∀ f, .failed f ∉ p.eventsOf external m sites) (hSite : site ∈ sites)
    (hResolve : p.resolve site = .ok (some c)) (hSource : c.inSource = true) :
    .callee ⟨c.id, some c⟩ ∈ p.eventsOf external m sites := by
  induction sites with
  | nil => cases hSite
  | cons s sites ih =>
    rw [Provider.eventsOf] at hAnswers ⊢
    rcases List.mem_cons.mp hSite with rfl | hSite
    · rw [hResolve]
      simp [boundCallee, hSource]
    · split at hAnswers
      · exact absurd (List.mem_singleton_self _) (hAnswers _)
      · refine List.mem_cons_of_mem _ (List.mem_append_right _ (ih ?_ hSite))
        exact fun f hf => hAnswers f (List.mem_cons_of_mem _ (List.mem_append_right _ hf))
      · refine List.mem_append_right _ (ih ?_ hSite)
        exact fun f hf => hAnswers f (List.mem_append_right _ hf)

/-- Where the provider answers, a call within the repository yields its callee. -/
theorem Provider.Calls.mem_yields {m c : Method ι} (h : p.Calls m c)
    (hAnswers : p.Answers external m) : ⟨c.id, some c⟩ ∈ p.yields external m := by
  obtain ⟨sites, hSites, site, hSite, hResolve, hSource⟩ := h
  have hEvents : p.events external m = p.eventsOf external m sites := by
    rw [Provider.events, hSites]
  rw [Provider.Answers, hEvents] at hAnswers
  rw [Provider.yields, hEvents]
  exact callee_mem_yieldedBy hAnswers (callee_mem_eventsOf hAnswers hSite hResolve hSource)

/-- The method that stands for an identity is found but once. -/
theorem echoed_of_mem_level {j : Nat} {n : Pending ι} {m c c' : Method ι}
    (hn : n ∈ level p external root root.id j) (hid : n.id = m.id) (hCall : p.Calls n.method c')
    (hc : c'.id = c.id) : p.Echoed external root m c := by
  intro i n' hn' hid'
  obtain rfl : n' = n := level_unique hn' hn (hid'.trans hid.symm)
  exact ⟨c', hCall, hc⟩

/-- The identities along a chain of calls that are made by the methods that stand for them are found
within its length. -/
theorem CallChain.exists_level {depth k : Nat} {m : Method ι}
    (hAnswers : ∀ j < depth, ∀ n ∈ level p external root root.id j, p.Answers external n.method)
    (h : CallChain p (p.Echoed external root) root k m) (hk : k ≤ depth) :
    ∃ j ≤ k, ∃ n ∈ level p external root root.id j, n.id = m.id := by
  induction h with
  | root => exact ⟨0, Nat.le_refl _, _, List.mem_singleton_self _, rfl⟩
  | @call k m c chain called keeps ih =>
    obtain ⟨j, hj, n, hn, hid⟩ := ih (by omega)
    obtain ⟨c', hCall, hc⟩ := keeps j n hn hid
    have hYield := hCall.mem_yields (hAnswers j (by omega) n hn)
    obtain ⟨i, hi, hLevel⟩ := exists_level_of_called hn hYield rfl
    obtain ⟨n', hn', hid'⟩ := List.mem_map.mp hLevel
    exact ⟨i, by omega, n', hn', hid'.trans hc⟩

end Chains

/-! ## No call is lost -/

/-- **Completeness up to identities.** Along a chain of fewer calls than the depth, all of them made
by the methods that stand for their callers, no call is missing from a graph that is not
truncated. -/
theorem mem_edges_of_callChain (p : Provider ι κ) (external : Bool) (root : Method ι)
    (lim : Limits) {g : Callgraph} (h : (explore p external lim root root.id).graph = .ok g)
    (hWhole : g.truncated = false) :
    ∀ (k : Nat) (m : Method ι), (k : Int) < lim.depth →
      CallChain p (p.Echoed external root) root k m →
      ∀ c, p.Calls m c → p.Echoed external root m c → ⟨m.id, c.id⟩ ∈ g.edges := by
  intro k m hk hChain c _ hEcho
  obtain ⟨depth, hLim⟩ : ∃ depth : Nat, lim.depth = depth :=
    ⟨lim.depth.toNat, (Int.toNat_of_nonneg (by omega)).symm⟩
  obtain ⟨hMem, hAnswers⟩ := mem_edges_of_not_truncated hLim h hWhole
  obtain ⟨j, hj, n, hn, hid⟩ := hChain.exists_level hAnswers (by omega)
  obtain ⟨c', hCall, hc⟩ := hEcho j n hn hid
  have hYield := hCall.mem_yields (hAnswers j (by omega) n hn)
  exact (hMem _).mpr ⟨j, by omega, n, hn, _, hYield, by rw [hid, hc]⟩

theorem calls_ofTable {projects : List Project} {methods : List (Method Nat)}
    {calls : Nat → List Nat} {m c : Method Nat} (place : Nat) (hPlace : place ∈ calls m.handle)
    (hMethod : methods[place]? = some c) (hSource : c.inSource = true) :
    (Provider.ofTable projects methods calls).Calls m c := by
  refine ⟨_, rfl, ⟨"lookup", 0, none, place⟩, List.mem_map.mpr ⟨place, hPlace, rfl⟩, ?_, hSource⟩
  exact congrArg Except.ok hMethod

def jobStep (place : Nat) : Method Nat := .ofTable "Job" "step" 1 true place

def storeLoad (place : Nat) : Method Nat := .ofTable "Store" "load" 0 true place

/-- Two methods of one identity, each of which calls one of two methods of another identity. -/
def echoProvider : Provider Nat Nat :=
  .ofTable [] [jobRun, jobStep 1, jobStep 2, storeLoad 3, storeLoad 4]
    fun
    | 0 => [1, 2]
    | 1 => [3]
    | 2 => [4]
    | _ => []

/-- The call of the second method shows through that of the first. -/
theorem mem_edges_of_callChain_echo :
    ∃ g, (explore echoProvider false ⟨2, 200⟩ jobRun jobRun.id).graph = .ok g ∧
      g.truncated = false ∧
      CallChain echoProvider (echoProvider.Echoed false jobRun) jobRun 1 (jobStep 2) ∧
      ⟨(jobStep 2).id, (storeLoad 4).id⟩ ∈ g.edges := by
  have hStop :
      ((Exploration.start jobRun jobRun.id).run echoProvider false ⟨2, 200⟩).stop = none := by
    cbv
  have hGraph := Exploration.graph_of_stop jobRun.id ⟨2, 200⟩ hStop (by simp)
  have hRun : echoProvider.Calls jobRun (jobStep 2) := calls_ofTable 2 (by decide) rfl rfl
  have hFirst : echoProvider.Calls (jobStep 1) (storeLoad 3) := calls_ofTable 3 (by decide) rfl rfl
  have hSecond : echoProvider.Calls (jobStep 2) (storeLoad 4) := calls_ofTable 4 (by decide) rfl rfl
  have hLevel : level echoProvider false jobRun jobRun.id 1 = [⟨jobStep 1, "Job.step(1)", 1⟩] := by
    cbv
  have hStands : (⟨jobStep 1, "Job.step(1)", 1⟩ : Pending Nat) ∈
      level echoProvider false jobRun jobRun.id 1 := by
    rw [hLevel]
    exact List.mem_singleton_self _
  have hChain : CallChain echoProvider (echoProvider.Echoed false jobRun) jobRun 1 (jobStep 2) :=
    .call .root hRun (echoed_of_mem_level (j := 0) (List.mem_singleton_self _) rfl hRun rfl)
  have hEcho : echoProvider.Echoed false jobRun (jobStep 2) (storeLoad 4) :=
    echoed_of_mem_level hStands (by decide) hFirst (by decide)
  refine ⟨_, hGraph, rfl, hChain, ?_⟩
  exact mem_edges_of_callChain echoProvider false jobRun ⟨2, 200⟩ hGraph rfl 1 (jobStep 2)
    (by decide) hChain _ hSecond hEcho

/-- Two methods of one identity, of which only the second calls something. -/
def overloadProvider : Provider Nat Nat :=
  .ofTable [] [jobRun, jobStep 1, jobStep 2, storeLoad 3]
    fun
    | 0 => [1, 2]
    | 2 => [3]
    | _ => []

/-- The call of the second method is not in the graph, which is not truncated. -/
theorem lost_call :
    ¬ ∀ (p : Provider Nat Nat) (external : Bool) (root : Method Nat) (lim : Limits) (g : Callgraph),
      root.inSource = true → (explore p external lim root root.id).graph = .ok g →
        g.truncated = false →
        ∀ (k : Nat) (m : Method Nat), (k : Int) < lim.depth →
          CallChain p (fun _ _ => True) root k m → m.inSource = true →
          ∀ c, p.Calls m c → ⟨m.id, c.id⟩ ∈ g.edges := by
  intro h
  have hGraph : (explore overloadProvider false ⟨2, 200⟩ jobRun jobRun.id).graph =
      .ok ⟨"Job.run(0)", 2, false, [⟨"Job.run(0)", "Job.step(1)"⟩]⟩ := by
    cbv
  have hRun : overloadProvider.Calls jobRun (jobStep 2) := calls_ofTable 2 (by decide) rfl rfl
  have hLoad : overloadProvider.Calls (jobStep 2) (storeLoad 3) := calls_ofTable 3 (by decide) rfl rfl
  have hEdge := h _ _ _ _ _ rfl hGraph rfl 1 (jobStep 2) (by decide) (.call .root hRun trivial) rfl
    _ hLoad
  rw [List.mem_singleton, Edge.mk.injEq] at hEdge
  exact absurd hEdge.1 (by decide)

end CodeAtlas
