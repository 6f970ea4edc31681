import CodeAtlas.Proofs.Callgraph.Graph

/-!
# The budget of an exploration

An exploration that may take `nodes` identities in sees the calls of the levels below its depth in
their order, up to the call that leads to one identity too many.

* `IsCut`: where a list of calls is cut off, said by counting identities.
* `cut_of_sweep`: a sweep keeps such a cut, and is truncated iff all its calls together lead to too
  many identities.
* `budget_graph`: so a graph is truncated iff too many identities lie within its depth, and its
  edges are the calls up to the cut.
-/

namespace CodeAtlas

variable {ι κ : Type}

/-- `front` is `xs`, cut off right after the call that leads to the first identity beyond
`budget`. -/
structure IsCut (rootId : String) (budget : Nat) (front xs : List (Sighting ι)) : Prop where
  initial : front <+: xs
  within : ∀ shorter, shorter <+: front → shorter ≠ front →
    (identities rootId shorter).card ≤ budget
  ends : (identities rootId front).card = budget + 1 ∨
    front = xs ∧ (identities rootId xs).card ≤ budget

/-! ## Counting identities -/

theorem identities_mono (rootId : String) {xs ys : List (Sighting ι)} (h : xs <+: ys) :
    identities rootId xs ⊆ identities rootId ys := by
  obtain ⟨zs, rfl⟩ := h
  intro a ha
  rw [mem_identities] at ha ⊢
  rw [targets_append, List.map_append, List.mem_append]
  rcases ha with ha | ha
  · exact Or.inl ha
  · exact Or.inr (Or.inl ha)

/-- A call that leads to something new leads to nothing else. -/
theorem targets_singleton_of_fresh {seen : List String} {q : Sighting ι} {n : Pending ι}
    (h : fresh seen (targets [q]) = [n]) : targets [q] = [n] ∧ n.id ∉ seen := by
  obtain ⟨hMem, hNew⟩ := mem_of_mem_fresh (h ▸ List.mem_singleton_self n)
  refine ⟨?_, hNew⟩
  cases hq : q.target? with
  | none =>
    have hNil : targets [q] = [] := by simp [targets, hq]
    rw [hNil] at hMem
    cases hMem
  | some m =>
    have hOne : targets [q] = [m] := by simp [targets, hq]
    rw [hOne] at hMem ⊢
    rw [List.mem_singleton.mp hMem]

theorem identities_concat {rootId : String} {xs : List (Sighting ι)} {q : Sighting ι}
    {n : Pending ι} (h : targets [q] = [n]) :
    identities rootId (xs ++ [q]) = insert n.id (identities rootId xs) := by
  ext a
  rw [Finset.mem_insert, mem_identities, mem_identities, targets_append, h, List.map_append,
    List.mem_append]
  simp only [List.map_cons, List.map_nil, List.mem_singleton]
  tauto

namespace Exploration

variable (lim : Limits) (root : Method ι) (rootId : String)

variable {lim root rootId} in
/-- What a sweep from the root takes in are the identities that its calls lead to, each once. -/
theorem visited_of_sweep_start {xs : List (Sighting ι)}
    (h : ((start root rootId).sweep lim xs).stop = none) :
    (∀ a, a ∈ ((start root rootId).sweep lim xs).visited ↔ a ∈ identities rootId xs) ∧
      ((start root rootId).sweep lim xs).visited.length = (identities rootId xs).card := by
  have hVisited := (swept_of_stop_eq_none h).visited
  have hStart : (start root rootId).visited = [rootId] := rfl
  have hMem : ∀ a, a ∈ ((start root rootId).sweep lim xs).visited ↔ a ∈ identities rootId xs := by
    intro a
    rw [hVisited, hStart, List.mem_append, List.mem_reverse, mem_ids_fresh, mem_identities,
      List.mem_singleton]
    tauto
  have hNodup : ((start root rootId).sweep lim xs).visited.Nodup := by
    rw [hVisited, hStart]
    exact nodup_fresh (List.nodup_singleton rootId)
  refine ⟨hMem, ?_⟩
  rw [← List.toFinset_card_of_nodup hNodup]
  congr 1
  ext a
  rw [List.mem_toFinset, hMem]

/-- A sweep keeps the calls up to the cut, and it is truncated iff there are more identities than
the budget allows. -/
theorem cut_of_sweep {nodes : Nat} (hNodes : 1 ≤ nodes) (hLim : lim.nodes = nodes)
    (xs : List (Sighting ι)) :
    (((start root rootId).sweep lim xs).stop ≠ none ↔ nodes < (identities rootId xs).card) ∧
      ∃ front, IsCut rootId nodes front xs ∧
        ((start root rootId).sweep lim xs).edges = (front.map Sighting.edge).reverse := by
  have hBound : ∀ {ys : List (Sighting ι)}, ((start root rootId).sweep lim ys).stop = none →
      (identities rootId ys).card ≤ nodes := by
    intro ys hys
    have hStart : ((start root rootId).visited.length : Int) ≤ lim.nodes := by
      simp only [start, List.length_cons, List.length_nil, hLim]
      omega
    have hLength := (swept_of_stop_eq_none hys).bounded hStart
    rw [(visited_of_sweep_start hys).2, hLim] at hLength
    omega
  by_cases h : ((start root rootId).sweep lim xs).stop = none
  · have hCard := hBound h
    refine ⟨⟨fun hNot => absurd h hNot, fun hLt => absurd hCard (by omega)⟩, xs, ?_, ?_⟩
    · refine ⟨List.prefix_rfl, fun shorter hShorter _ => ?_, Or.inr ⟨rfl, hCard⟩⟩
      exact (Finset.card_le_card (identities_mono rootId hShorter)).trans hCard
    · rw [(swept_of_stop_eq_none h).edges]
      exact List.append_nil _
  · obtain ⟨-, front, q, rest, n, rfl, hFront, hFresh, hFull, hEdges⟩ :=
      exists_cut_of_stop_ne_none (s := start root rootId) rfl h
    obtain ⟨hMem, hLength⟩ := visited_of_sweep_start hFront
    obtain ⟨hTarget, hNew⟩ := targets_singleton_of_fresh hFresh
    have hCard : (identities rootId (front ++ [q])).card = nodes + 1 := by
      rw [identities_concat hTarget, Finset.card_insert_of_notMem (fun hn => hNew ((hMem _).mpr hn))]
      have := hBound hFront
      rw [hLim, hLength] at hFull
      omega
    have hInitial : front ++ [q] <+: front ++ q :: rest := ⟨rest, by simp⟩
    refine ⟨⟨fun _ => ?_, fun _ => h⟩, front ++ [q], ⟨hInitial, ?_, Or.inl hCard⟩, ?_⟩
    · have := Finset.card_le_card (identities_mono rootId hInitial)
      omega
    · intro shorter hShorter hNe
      rcases List.prefix_concat_iff.mp hShorter with hEq | hPrefix
      · exact absurd hEq hNe
      · exact (Finset.card_le_card (identities_mono rootId hPrefix)).trans (hBound hFront)
    · rw [hEdges, (swept_of_stop_eq_none hFront).edges]
      simp [start]

end Exploration

/-! ## Graphs -/

/-- What a graph of depth `depth` holds for which at most `nodes` identities are taken in. -/
structure IsBudgetGraph (p : Provider ι κ) (external : Bool) (root : Method ι) (rootId : String)
    (depth nodes : Nat) (g : Callgraph) : Prop where
  /-- It is truncated iff more than `nodes` identities lie within `depth` calls from the root. -/
  truncated_iff : g.truncated = true ↔
    ∃ ids : Finset String, nodes < ids.card ∧
      ∀ a ∈ ids, ∃ j ≤ depth, Walk p external root rootId j a
  /-- The edges are the calls in their order, cut off at the first identity too many. -/
  edges : ∃ front, IsCut rootId nodes front (sightingsBelow p external root rootId depth) ∧
    ∀ e, e ∈ g.edges ↔ ∃ q ∈ front, q.edge = e

theorem mem_identities_sightingsBelow {p : Provider ι κ} {external : Bool} {root : Method ι}
    {rootId : String} {depth : Nat} {a : String} :
    a ∈ identities rootId (sightingsBelow p external root rootId depth) ↔
      ∃ j ≤ depth, Walk p external root rootId j a := by
  rw [identities_sightingsBelow, List.mem_toFinset, mem_seen_iff, within_iff_level]

theorem isBudgetGraph_of_graph_eq_ok {p : Provider ι κ} {external : Bool} {root : Method ι}
    {rootId : String} {depth nodes : Nat} (hNodes : 1 ≤ nodes) {g : Callgraph}
    (h : (explore p external ⟨depth, nodes⟩ root rootId).graph = .ok g) :
    IsBudgetGraph p external root rootId depth nodes g := by
  obtain ⟨hNot, rfl⟩ := Exploration.graph_eq_ok h
  have hFound : Exploration.found ((Exploration.start root rootId).run p external ⟨depth, nodes⟩) =
      Exploration.found ((Exploration.start root rootId).sweep ⟨depth, nodes⟩
        (sightingsBelow p external root rootId depth)) := by
    have hLim : (⟨depth, nodes⟩ : Limits).depth = depth := rfl
    rcases Exploration.run_start hLim with ⟨f, hf, -⟩ | ⟨hFound, -⟩
    · exact absurd hf (hNot f)
    · exact hFound
  obtain ⟨hEdges, -, hStop⟩ := Exploration.found_eq_iff.mp hFound
  obtain ⟨hTruncated, front, hCut, hFront⟩ := Exploration.cut_of_sweep ⟨depth, nodes⟩ root rootId
    hNodes rfl (sightingsBelow p external root rootId depth)
  constructor
  · rw [Option.isSome_iff_ne_none, hStop, hTruncated]
    constructor
    · exact fun hLt => ⟨_, hLt, fun a ha => mem_identities_sightingsBelow.mp ha⟩
    · rintro ⟨ids, hLt, hIds⟩
      refine hLt.trans_le (Finset.card_le_card fun a ha => ?_)
      exact mem_identities_sightingsBelow.mpr (hIds a ha)
  · refine ⟨front, hCut, fun e => ?_⟩
    rw [mem_sortedSet, hEdges, hFront, List.mem_reverse, List.mem_map]

/-- **Budget.** An exploration of at most `nodes` identities gives the calls that one without a
budget sees, up to the first identity too many, and says whether there is one. It gives nothing only
if the provider fails for a method that is expanded. -/
theorem budget_graph (p : Provider ι κ) (external : Bool) (root : Method ι) (rootId : String)
    (depth nodes : Nat) (hNodes : 1 ≤ nodes) :
    (∀ g, (explore p external ⟨depth, nodes⟩ root rootId).graph = .ok g →
      IsBudgetGraph p external root rootId depth nodes g) ∧
    (∀ f, (explore p external ⟨depth, nodes⟩ root rootId).graph = .error f →
      ∃ k < depth, ∃ n ∈ level p external root rootId k,
        .failed f ∈ p.events external n.method) ∧
    ∀ unlimited : Int,
      ((Exploration.start root rootId).run p external ⟨depth, unlimited⟩).stop = none →
      ((Exploration.start root rootId).run p external ⟨depth, unlimited⟩).edges.reverse =
        (sightingsBelow p external root rootId depth).map Sighting.edge := by
  refine ⟨fun g h => isBudgetGraph_of_graph_eq_ok hNodes h,
    fun f h => exists_failed_of_graph_eq_error rfl h, fun unlimited h => ?_⟩
  rw [(edges_of_stop_eq_none rfl h).1, List.reverse_reverse]

/-- A budget of two identities is exceeded in the middle of the calls of `Job.step`. -/
theorem budget_graph_jobRun :
    1 ≤ 2 ∧ ∃ g, (explore jobProvider true ⟨2, 2⟩ jobRun "Job.run(0)").graph = .ok g ∧
      g.truncated = true ∧ IsBudgetGraph jobProvider true jobRun "Job.run(0)" 2 2 g := by
  have hStop : ((Exploration.start jobRun "Job.run(0)").run jobProvider true ⟨2, 2⟩).stop =
      some .truncated := by
    cbv
  have hGraph := Exploration.graph_of_stop "Job.run(0)" ⟨2, 2⟩ hStop (by simp)
  exact ⟨by decide, _, hGraph, rfl,
    (budget_graph jobProvider true jobRun "Job.run(0)" 2 2 (by decide)).1 _ hGraph⟩

end CodeAtlas
