import CodeAtlas.Sections
import CodeAtlas.Proofs.Callgraph.Chains
import CodeAtlas.Proofs.Callgraph.Group
import CodeAtlas.Proofs.Callgraph.Root
import CodeAtlas.Proofs.Traced
import Mathlib.Data.Multiset.Bind

/-!
# The section of call graphs

What the roots of a request have to do with each other: nothing.

* `yieldsIf_callgraphSection`: the section shows what each root finds at each place.
* `eq_of_mem_foundAt`: two graphs of one root in one project are the same.
* `rootsIndependent`: hence the order of the roots makes no difference, and every project shows the
  graphs that the roots yield alone.
-/

namespace CodeAtlas

open Std

variable {ι κ : Type}

/-! ## What a root finds -/

theorem result_resolveRoot (p : Provider ι κ) (project : Project) (r : Root) :
    (resolveRoot p project r).result = (p.declarations project).map r.select := by
  have hAsk : (p.ask (p.declarations project)).result = p.declarations project := rfl
  rw [resolveRoot, Traced.result_bind, hAsk]
  cases p.declarations project with
  | error f => rfl
  | ok declared =>
    simp only [bind, Except.bind, Except.map]
    cases hSelect : r.select declared with
    | notFound => rfl
    | found ambiguous m others => cases ambiguous <;> rfl

theorem result_rootGraph (p : Provider ι κ) (request : CallgraphRequest) (project : Project)
    (r : Root) {declared : List (Method ι)} (hDeclared : p.declarations project = .ok declared) :
    (rootGraph p request project r).result =
      match r.select declared with
      | .notFound => .ok []
      | .found _ m _ =>
        (explore p request.external request.limits m m.id).graph.map fun g => [(project.ref, g)] := by
  rw [rootGraph, Traced.result_bind, result_resolveRoot, hDeclared]
  simp only [Except.map, bind, Except.bind]
  cases r.select declared with
  | notFound => rfl
  | found ambiguous m others =>
    have hTraced : (explore p request.external request.limits m m.id).traced.result =
        (explore p request.external request.limits m m.id).graph := rfl
    simp only [Traced.bind, Traced.note, hTraced]
    cases (explore p request.external request.limits m m.id).graph with
    | error f => rfl
    | ok g =>
      dsimp only
      split <;> rfl

/-- The roots that a text stands for: one, or none if it is malformed. -/
def rootsIn (text : String) : List Root :=
  match Root.parse text with
  | .ok (some r) => [r]
  | _ => []

/-- The graph that a text finds in a project, if any. -/
def foundAt (request : CallgraphRequest) (p : Provider ι κ) (project : Project) (text : String) :
    List (ProjectRef × Callgraph) :=
  (rootsIn text).flatMap fun r => itemsOf (rootGraph p request project r).result

/-- Every project of every provider. -/
def places (providers : List (Provider ι κ)) : List (Provider ι κ × Project) :=
  providers.flatMap fun p => (itemsOf p.projects).map fun project => (p, project)

theorem mem_places {providers : List (Provider ι κ)} {x : Provider ι κ × Project} :
    x ∈ places providers ↔ x.1 ∈ providers ∧ x.2 ∈ itemsOf x.1.projects := by
  simp only [places, List.mem_flatMap, List.mem_map]
  constructor
  · rintro ⟨p, hp, project, hProject, rfl⟩
    exact ⟨hp, hProject⟩
  · exact fun ⟨hp, hProject⟩ => ⟨x.1, hp, x.2, hProject, rfl⟩

/-- What some texts find anywhere. -/
def foundBy (request : CallgraphRequest) (providers : List (Provider ι κ)) (texts : List String) :
    List (ProjectRef × Callgraph) :=
  (places providers).flatMap fun x => texts.flatMap fun text => foundAt request x.1 x.2 text

/-- A text can be read, and no provider fails for it. -/
structure Extracts (request : CallgraphRequest) (providers : List (Provider ι κ)) (text : String) :
    Prop where
  parsed : (Root.parse text).isOk = true
  listed : ∀ p ∈ providers, p.projects.isOk = true
  explored : ∀ p ∈ providers, ∀ project ∈ itemsOf p.projects, ∀ r ∈ rootsIn text,
    (rootGraph p request project r).result.isOk = true

theorem yieldsIf_readRoots (texts : List String) :
    YieldsIf (readRoots texts) (∀ text ∈ texts, (Root.parse text).isOk = true)
      (texts.flatMap rootsIn) := by
  induction texts with
  | nil => exact (YieldsIf.pure []).congr_cond (by simp)
  | cons text texts ih =>
    rw [readRoots, List.flatMap_cons, rootsIn]
    cases hParse : Root.parse text with
    | error f =>
      refine YieldsIf.congr_cond (YieldsIf.of_error rfl) ⟨False.elim, fun h => ?_⟩
      have hOk := h text List.mem_cons_self
      rw [hParse] at hOk
      cases hOk
    | ok parsed =>
      have hCond : (True ∧ ∀ t ∈ texts, (Root.parse t).isOk = true) ↔
          ∀ t ∈ text :: texts, (Root.parse t).isOk = true := by
        rw [List.forall_mem_cons, hParse]
        simp [Except.isOk, Except.toBool]
      refine YieldsIf.congr_cond ((YieldsIf.pure parsed).bind ?_) hCond
      cases parsed with
      | none => exact ih
      | some r => exact ih.map (YieldsIf.pure _)

theorem yieldsIf_projectGraphs (request : CallgraphRequest) (roots : List Root)
    (p : Provider ι κ) (project : Project) :
    YieldsIf (projectGraphs p request roots project)
      (∀ r ∈ roots, (rootGraph p request project r).result.isOk = true)
      (roots.flatMap fun r => itemsOf (rootGraph p request project r).result) :=
  YieldsIf.collect fun r _ => yieldsIf_itemsOf (rootGraph p request project r)

theorem yieldsIf_providerGraphs (request : CallgraphRequest) (roots : List Root)
    (p : Provider ι κ) :
    YieldsIf (providerGraphs request roots p)
      (p.projects.isOk = true ∧ ∀ project ∈ itemsOf p.projects, ∀ r ∈ roots,
        (rootGraph p request project r).result.isOk = true)
      ((itemsOf p.projects).flatMap fun project =>
        roots.flatMap fun r => itemsOf (rootGraph p request project r).result) :=
  (yieldsIf_ofExcept p.projects).bind
    (YieldsIf.collect fun project _ => yieldsIf_projectGraphs request roots p project)

theorem foundBy_eq (request : CallgraphRequest) (providers : List (Provider ι κ))
    (texts : List String) :
    foundBy request providers texts =
      (providers.map fun p => (itemsOf p.projects).flatMap fun project =>
        (texts.flatMap rootsIn).flatMap fun r =>
          itemsOf (rootGraph p request project r).result).flatten := by
  rw [foundBy, places, List.flatMap_assoc, ← List.flatMap_def]
  refine congrArg (providers.flatMap ·) (funext fun p => ?_)
  rw [List.flatMap_map]
  refine congrArg ((itemsOf p.projects).flatMap ·) (funext fun project => ?_)
  exact List.flatMap_assoc.symm

theorem forall_extracts_iff (request : CallgraphRequest) (providers : List (Provider ι κ))
    {texts : List String} (hSome : texts ≠ []) :
    ((∀ text ∈ texts, (Root.parse text).isOk = true) ∧
      ∀ p ∈ providers, p.projects.isOk = true ∧ ∀ project ∈ itemsOf p.projects,
        ∀ r ∈ texts.flatMap rootsIn, (rootGraph p request project r).result.isOk = true) ↔
      ∀ text ∈ texts, Extracts request providers text := by
  constructor
  · rintro ⟨hParsed, hProviders⟩ text hText
    refine ⟨hParsed text hText, fun p hp => (hProviders p hp).1, ?_⟩
    intro p hp project hProject r hr
    exact (hProviders p hp).2 project hProject r (List.mem_flatMap.mpr ⟨text, hText, hr⟩)
  · intro h
    refine ⟨fun text hText => (h text hText).parsed, fun p hp => ⟨?_, ?_⟩⟩
    · obtain ⟨text, hText⟩ := List.exists_mem_of_ne_nil texts hSome
      exact (h text hText).listed p hp
    · intro project hProject r hr
      obtain ⟨text, hText, hr⟩ := List.mem_flatMap.mp hr
      exact (h text hText).explored p hp project hProject r hr

/-- The section shows what the roots find at each place. -/
theorem yieldsIf_callgraphSection (request : CallgraphRequest) (providers : List (Provider ι κ)) :
    YieldsIf (callgraphSection request providers)
      (∀ text ∈ request.roots, Extracts request providers text)
      (nonEmpty? (groupCallgraphs (Assoc.gather (foundBy request providers request.roots)))) := by
  rw [callgraphSection]
  split
  · rename_i hNone
    have hFound : foundBy request providers [] = [] := List.flatMap_eq_nil_iff.mpr fun _ _ => rfl
    have hGroup : nonEmpty? (groupCallgraphs (Assoc.gather [])) = none := by
      simp [Assoc.gather, groupCallgraphs, sortBy, nonEmpty?]
    rw [List.isEmpty_iff.mp hNone, hFound, hGroup]
    exact (YieldsIf.pure none).congr_cond ⟨fun _ => List.forall_mem_nil _, fun _ => trivial⟩
  · rename_i hSome
    refine YieldsIf.congr_cond ?_
      (forall_extracts_iff request providers (by simpa using hSome))
    refine (yieldsIf_readRoots request.roots).bind ?_
    refine YieldsIf.map (YieldsIf.mapM fun p _ => yieldsIf_providerGraphs request _ p) ?_
    rw [foundBy_eq]
    exact (YieldsIf.pure _).noted _

/-! ## Graphs of one root -/

/-- Declarations of one project that share an identity look the same. -/
def Provider.DistinctDeclarations (p : Provider ι κ) : Prop :=
  ∀ project ∈ itemsOf p.projects, ∀ declared, p.declarations project = .ok declared →
    ∀ m ∈ declared, ∀ m' ∈ declared, m.id = m'.id → m.Same m'

theorem mem_foundAt {request : CallgraphRequest} {p : Provider ι κ} {project : Project}
    {text : String} {x : ProjectRef × Callgraph} (h : x ∈ foundAt request p project text) :
    ∃ (r : Root) (declared : List (Method ι)) (ambiguous : Bool) (m : Method ι)
      (others : List (Method ι)) (g : Callgraph), p.declarations project = .ok declared ∧
        r.select declared = .found ambiguous m others ∧
        (explore p request.external request.limits m m.id).graph = .ok g ∧
        x = (project.ref, g) := by
  obtain ⟨r, -, hx⟩ := List.mem_flatMap.mp h
  cases hDeclared : p.declarations project with
  | error f =>
    rw [rootGraph, Traced.result_bind, result_resolveRoot, hDeclared] at hx
    cases hx
  | ok declared =>
    rw [result_rootGraph p request project r hDeclared] at hx
    cases hSelect : r.select declared with
    | notFound =>
      rw [hSelect] at hx
      cases hx
    | found ambiguous m others =>
      rw [hSelect] at hx
      dsimp only at hx
      cases hGraph : (explore p request.external request.limits m m.id).graph with
      | error f =>
        rw [hGraph] at hx
        cases hx
      | ok g =>
        rw [hGraph] at hx
        exact ⟨r, declared, ambiguous, m, others, g, rfl, hSelect, hGraph, List.mem_singleton.mp hx⟩

/-- Two graphs of one root in one project are the same. -/
theorem eq_of_mem_foundAt {request : CallgraphRequest} {p : Provider ι κ} {project : Project}
    (hDistinct : p.DistinctDeclarations) (hProject : project ∈ itemsOf p.projects)
    {text text' : String} {x x' : ProjectRef × Callgraph}
    (h : x ∈ foundAt request p project text) (h' : x' ∈ foundAt request p project text')
    (hRoot : x.2.root = x'.2.root) : x = x' := by
  obtain ⟨r, declared, ambiguous, m, others, g, hDeclared, hSelect, hGraph, rfl⟩ := mem_foundAt h
  obtain ⟨r', declared', ambiguous', m', others', g', hDeclared', hSelect', hGraph', rfl⟩ :=
    mem_foundAt h'
  obtain rfl : declared = declared' := Except.ok.inj (hDeclared.symm.trans hDeclared')
  have hId : m.id = m'.id := by
    obtain ⟨-, rfl⟩ := Exploration.graph_eq_ok hGraph
    obtain ⟨-, rfl⟩ := Exploration.graph_eq_ok hGraph'
    exact hRoot
  have hSame : m.Same m' := hDistinct project hProject declared hDeclared m
    (Root.select_eq_found hSelect).2.1 m' (Root.select_eq_found hSelect').2.1 hId
  obtain rfl : m = m' := Root.select_unique hSelect hSelect' hSame
  obtain rfl : g = g' := Except.ok.inj (hGraph.symm.trans hGraph')
  rfl

/-! ## Orders of roots -/

theorem eq_of_perm_of_forall_eq {α : Type} {xs ys : List α} (h : xs.Perm ys)
    (hAll : ∀ a ∈ xs, ∀ b ∈ xs, a = b) : xs = ys := by
  cases xs with
  | nil => exact (List.nil_perm.mp h).symm
  | cons a xs =>
    have hSame : a :: xs = List.replicate (xs.length + 1) a :=
      List.eq_replicate_iff.mpr ⟨rfl, fun b hb => (hAll a List.mem_cons_self b hb).symm⟩
    rw [hSame] at h ⊢
    exact List.replicate_perm.mp h

/-- The order of the roots makes no difference to the graphs of a project. -/
theorem rootedGraphs_congr (request : CallgraphRequest) {providers : List (Provider ι κ)}
    (hDistinct : ∀ p ∈ providers, p.DistinctDeclarations) {texts texts' : List String}
    (h : texts.Perm texts') (q : ProjectRef) :
    rootedGraphs (foundBy request providers texts) q =
      rootedGraphs (foundBy request providers texts') q := by
  refine sortBy_eq_of_filter_eq Callgraph.order fun a => ?_
  rw [foundBy, foundBy, Assoc.valuesOf_flatMap, Assoc.valuesOf_flatMap, List.filter_flatMap,
    List.filter_flatMap]
  refine List.flatMap_congr fun x hx => ?_
  -- the graphs of one root that are found at one place are all the same
  refine eq_of_perm_of_forall_eq ((Assoc.perm_valuesOf (h.flatMap_right _)).filter _) ?_
  intro g hg g' hg'
  obtain ⟨hp, hProject⟩ := mem_places.mp hx
  obtain ⟨hValue, hRoot⟩ := List.mem_filter.mp hg
  obtain ⟨hValue', hRoot'⟩ := List.mem_filter.mp hg'
  obtain ⟨text, -, hFound⟩ := List.mem_flatMap.mp (Assoc.mem_valuesOf.mp hValue)
  obtain ⟨text', -, hFound'⟩ := List.mem_flatMap.mp (Assoc.mem_valuesOf.mp hValue')
  have hRoots : g.root = g'.root :=
    (Callgraph.order_eq_eq.mp (eq_of_beq hRoot)).symm.trans
      (Callgraph.order_eq_eq.mp (eq_of_beq hRoot'))
  exact congrArg Prod.snd (eq_of_mem_foundAt (hDistinct _ hp) hProject hFound hFound' hRoots)

theorem perm_flatMap_comm {α β γ : Type} (xs : List α) (ys : List β) (f : α → β → List γ) :
    (xs.flatMap fun x => ys.flatMap fun y => f x y).Perm
      (ys.flatMap fun y => xs.flatMap fun x => f x y) := by
  rw [← Multiset.coe_eq_coe]
  simp only [← Multiset.coe_bind]
  exact Multiset.bind_bind (xs : Multiset α) (ys : Multiset β)

/-- What some texts find together is what they find one by one. -/
theorem perm_foundBy (request : CallgraphRequest) (providers : List (Provider ι κ))
    (texts : List String) :
    (foundBy request providers texts).Perm
      (texts.flatMap fun text => foundBy request providers [text]) := by
  refine (perm_flatMap_comm _ _ _).trans (List.Perm.of_eq ?_)
  refine congrArg (texts.flatMap ·) (funext fun text => ?_)
  simp [foundBy]

/-! ## Providers that answer -/

/-- A provider that answers every question about projects, declarations and calls. -/
structure Provider.Total (p : Provider ι κ) : Prop where
  projects : p.projects.isOk = true
  declarations : ∀ project, (p.declarations project).isOk = true
  callSites : ∀ m, (p.callSites m).isOk = true
  resolve : ∀ c, (p.resolve c).isOk = true

theorem Provider.Total.answers {p : Provider ι κ} (h : p.Total) (external : Bool)
    (m : Method ι) : p.Answers external m := by
  have hSites : ∀ sites f, .failed f ∉ p.eventsOf external m sites := by
    intro sites f
    induction sites with
    | nil => exact List.not_mem_nil
    | cons site sites ih =>
      obtain ⟨found, hFound⟩ := exists_of_isOk (h.resolve site)
      rw [eventsOf, hFound]
      cases found with
      | none =>
        dsimp only
        split <;> simp [ih]
      | some target => simp [ih]
  obtain ⟨sites, hCallSites⟩ := exists_of_isOk (h.callSites m)
  intro f
  rw [events, hCallSites]
  exact hSites sites f

/-- Exploring fails for no limits, negative ones included. -/
theorem Provider.Total.isOk_graph {p : Provider ι κ} (h : p.Total) (external : Bool)
    (lim : Limits) (root : Method ι) (rootId : String) :
    (explore p external lim root rootId).graph.isOk = true := by
  by_cases hLim : lim.depth ≤ 0
  · have hRun : (Exploration.start root rootId).run p external lim =
        { Exploration.start root rootId with queue := [] } := by
      rw [Exploration.run_cons rfl rfl, if_pos (by simpa using hLim)]
      exact Exploration.run_of_queue_eq_nil rfl
    have hStop : ((Exploration.start root rootId).run p external lim).stop = none := by
      rw [hRun]
      rfl
    rw [explore, Exploration.graph_of_stop rootId lim hStop (by simp)]
    rfl
  · obtain ⟨depth, hDepth⟩ : ∃ depth : Nat, lim.depth = depth :=
      ⟨lim.depth.toNat, (Int.toNat_of_nonneg (by omega)).symm⟩
    cases hGraph : (explore p external lim root rootId).graph with
    | ok g => rfl
    | error f =>
      obtain ⟨k, -, n, -, hFail⟩ := exists_failed_of_graph_eq_error hDepth hGraph
      exact absurd hFail (h.answers external n.method f)

theorem Provider.Total.isOk_rootGraph {p : Provider ι κ} (h : p.Total)
    (request : CallgraphRequest) (project : Project) (r : Root) :
    (rootGraph p request project r).result.isOk = true := by
  obtain ⟨declared, hDeclared⟩ := exists_of_isOk (h.declarations project)
  rw [result_rootGraph p request project r hDeclared]
  cases r.select declared with
  | notFound => rfl
  | found ambiguous m others =>
    obtain ⟨g, hGraph⟩ := exists_of_isOk (h.isOk_graph request.external request.limits m m.id)
    dsimp only
    rw [hGraph]
    rfl

/-- If all providers answer, only a text that cannot be read stops the section. -/
theorem extracts_iff_readable {request : CallgraphRequest} {providers : List (Provider ι κ)}
    (hTotal : ∀ p ∈ providers, p.Total) (text : String) :
    Extracts request providers text ↔ Root.Readable text := by
  rw [← Root.parse_isOk_iff]
  constructor
  · exact fun h => h.parsed
  · intro h
    exact ⟨h, fun p hp => (hTotal p hp).projects,
      fun p hp project _ r _ => (hTotal p hp).isOk_rootGraph request project r⟩

/-! ## Independence -/

/-- The request for other roots. -/
def CallgraphRequest.withRoots (request : CallgraphRequest) (texts : List String) :
    CallgraphRequest := { request with roots := texts }

/-- The roots of a request do not influence each other. -/
structure RootsIndependent (request : CallgraphRequest) (providers : List (Provider ι κ)) :
    Prop where
  /-- Their order makes no difference. -/
  perm : ∀ texts, texts.Perm request.roots → ∀ v,
    (callgraphSection (request.withRoots texts) providers).result = .ok v ↔
      (callgraphSection request providers).result = .ok v
  /-- There is a section if there is one for every root alone. -/
  alone : (callgraphSection request providers).result.isOk = true ↔
    ∀ text ∈ request.roots,
      (callgraphSection (request.withRoots [text]) providers).result.isOk = true
  /-- A project has the graphs that the roots yield alone, and each as often. -/
  graphs : ∀ v, (callgraphSection request providers).result = .ok v →
    ∀ w : String → Option (List ProjectCallgraphs),
      (∀ text ∈ request.roots,
        (callgraphSection (request.withRoots [text]) providers).result = .ok (w text)) →
      ∀ q, (graphsUnder q v).Perm (request.roots.flatMap fun text => graphsUnder q (w text))
  /-- If the providers answer, there is a section unless a parameter count is too long. -/
  readable : (∀ p ∈ providers, p.Total) →
    ((callgraphSection request providers).result.isOk = true ↔
      ∀ text ∈ request.roots, Root.Readable text)

theorem yieldsIf_withRoots (request : CallgraphRequest) (providers : List (Provider ι κ))
    (texts : List String) :
    YieldsIf (callgraphSection (request.withRoots texts) providers)
      (∀ text ∈ texts, Extracts request providers text)
      (nonEmpty? (groupCallgraphs (Assoc.gather (foundBy request providers texts)))) := by
  have h := yieldsIf_callgraphSection (request.withRoots texts) providers
  refine h.congr_cond (forall₂_congr fun text _ => ?_)
  exact ⟨fun h => ⟨h.parsed, h.listed, h.explored⟩, fun h => ⟨h.parsed, h.listed, h.explored⟩⟩

/-- **Independence of roots.** Wherever declarations that share an identity look the same, no root
changes, drops or repeats a graph of another. -/
theorem rootsIndependent (request : CallgraphRequest) (providers : List (Provider ι κ))
    (hDistinct : ∀ p ∈ providers, p.DistinctDeclarations) :
    RootsIndependent request providers := by
  have hSection := yieldsIf_callgraphSection request providers
  have hOther := yieldsIf_withRoots request providers
  refine ⟨?_, ?_, ?_, ?_⟩
  · intro texts hPerm v
    have hGroup := group_congr (rootedGraphs_congr request hDistinct hPerm)
    rw [hOther texts v, hSection v, hGroup]
    simp only [hPerm.mem_iff]
  · rw [hSection.isOk_iff]
    refine forall₂_congr fun text _ => ?_
    rw [(hOther [text]).isOk_iff, List.forall_mem_singleton]
  · intro v hv w hw q
    obtain ⟨-, rfl⟩ := (hSection v).mp hv
    have hAlone : ∀ text ∈ request.roots,
        graphsUnder q (w text) = rootedGraphs (foundBy request providers [text]) q := by
      intro text hText
      rw [((hOther [text] _).mp (hw text hText)).2, graphsUnder_group]
    rw [graphsUnder_group, List.flatMap_congr hAlone]
    refine (rootedGraphs_perm q).trans ?_
    refine (Assoc.perm_valuesOf (perm_foundBy request providers request.roots)).trans ?_
    rw [Assoc.valuesOf_flatMap]
    exact List.Perm.flatMap_left _ fun text _ => (rootedGraphs_perm q).symm
  · intro hTotal
    rw [hSection.isOk_iff]
    exact forall₂_congr fun text _ => extracts_iff_readable hTotal text

/-- A project with two overloads that share an identity. -/
def jobProject : Project := ⟨"App", "app", "table", ⟨"", ["app"]⟩⟩

def rootedProvider : Provider Nat Nat :=
  .ofTable [jobProject] [jobRun, jobStep 1, jobStep 2]
    fun
    | 0 => [1, 2]
    | _ => []

theorem distinct_rootedProvider : rootedProvider.DistinctDeclarations := by
  rintro project - declared hDeclared m hm m' hm' hId
  obtain rfl := Except.ok.inj hDeclared
  have hIds : jobRun.id ≠ (jobStep 1).id ∧ jobRun.id ≠ (jobStep 2).id := by decide
  simp only [List.mem_cons, List.not_mem_nil, or_false] at hm hm'
  rcases hm with rfl | rfl | rfl
  · rcases hm' with rfl | rfl | rfl
    · exact ⟨rfl, rfl, rfl, rfl, rfl⟩
    · exact absurd hId hIds.1
    · exact absurd hId hIds.2
  · rcases hm' with rfl | rfl | rfl
    · exact absurd hId.symm hIds.1
    · exact ⟨rfl, rfl, rfl, rfl, rfl⟩
    · exact ⟨rfl, rfl, rfl, rfl, rfl⟩
  · rcases hm' with rfl | rfl | rfl
    · exact absurd hId.symm hIds.2
    · exact ⟨rfl, rfl, rfl, rfl, rfl⟩
    · exact ⟨rfl, rfl, rfl, rfl, rfl⟩

/-- Two of the roots name the same declaration, one is malformed and one names nothing. -/
theorem rootsIndependent_rootedProvider :
    (∀ p ∈ [rootedProvider], p.DistinctDeclarations) ∧
      RootsIndependent
        ⟨["Job.step", "global::Job.step/1", "Job", "Job.stop", "Job.run"], ⟨2, 200⟩, false⟩
        [rootedProvider] := by
  have hDistinct : ∀ p ∈ [rootedProvider], p.DistinctDeclarations := by
    intro p hp
    obtain rfl := List.mem_singleton.mp hp
    exact distinct_rootedProvider
  exact ⟨hDistinct, rootsIndependent _ _ hDistinct⟩

/-! ## A parameter count that is too long -/

theorem total_rootedProvider : rootedProvider.Total :=
  ⟨rfl, fun _ => rfl, fun _ => rfl, fun _ => rfl⟩

theorem parse_jobRun : Root.parse "Job.run" = .ok (some ⟨"Job.run", "Job", "run", none⟩) := by
  have hTrim : Text.trimBy Text.isBlank "Job.run".toList = "Job.run".toList := by decide
  have hCut : Root.cutArity "Job.run".toList = none := by decide
  have hSpec : Root.ofSpec "Job.run" (String.ofList "Job.run".toList) none =
      some ⟨"Job.run", "Job", "run", none⟩ := by decide
  simp only [Root.parse, hTrim, hCut, hSpec]
  rfl

/-- A root with a parameter count of `n` digits. -/
def countedRoot (n : Nat) : String := String.ofList ("Job.run".toList ++ '/' :: List.replicate n '1')

theorem readable_countedRoot {n : Nat} (hn : n ≠ 0) :
    Root.Readable (countedRoot n) ↔ n ≤ Text.maxDigits := by
  have hDigits : ∀ c ∈ List.replicate n '1', Text.isDigit c = true := by
    intro c hc
    rw [List.eq_of_mem_replicate hc, Text.isDigit_low (by decide)]
    decide
  have hLast : ∀ c ∈ (List.replicate n '1').getLast?, Text.isBlank c = false := by
    intro c hc
    rw [List.eq_of_mem_replicate (List.mem_of_getLast? hc)]
    decide
  have hHead : ∀ c ∈ "Job.run".toList.head?, Text.isBlank c = false := by
    intro c hc
    obtain rfl : 'J' = c := Option.some.inj hc
    decide
  have hIff : Root.Readable (countedRoot n) ↔ (List.replicate n '1').length ≤ Text.maxDigits :=
    Root.readable_ofList_iff (by decide) hHead (by decide) (by simpa using hn) hDigits hLast
  rw [hIff, List.length_replicate]

theorem foundBy_jobRun (texts : List String) :
    foundBy ⟨texts, ⟨2, 200⟩, false⟩ [rootedProvider] ["Job.run"] =
      [(⟨"App", "app"⟩, ⟨"Job.run(0)", 2, false, [⟨"Job.run(0)", "Job.step(1)"⟩]⟩)] := by
  have hPlaces : places [rootedProvider] = [(rootedProvider, jobProject)] := rfl
  have hRoots : rootsIn "Job.run" = [⟨"Job.run", "Job", "run", none⟩] := by
    rw [rootsIn, parse_jobRun]
  have hSelect : (⟨"Job.run", "Job", "run", none⟩ : Root).select [jobRun, jobStep 1, jobStep 2] =
      .found false jobRun [] := by
    cbv
  have hGraph : (explore rootedProvider false ⟨2, 200⟩ jobRun jobRun.id).graph =
      .ok ⟨"Job.run(0)", 2, false, [⟨"Job.run(0)", "Job.step(1)"⟩]⟩ := by
    cbv
  have hResult := result_rootGraph rootedProvider ⟨texts, ⟨2, 200⟩, false⟩ jobProject
    ⟨"Job.run", "Job", "run", none⟩ rfl
  rw [hSelect] at hResult
  dsimp only at hResult
  rw [hGraph] at hResult
  rw [foundBy, hPlaces, List.flatMap_singleton, List.flatMap_singleton, foundAt, hRoots,
    List.flatMap_singleton, hResult]
  rfl

/-- The graph that a root yields alone is lost if another root cannot be read. -/
theorem dropped_graph :
    ¬ ∀ (request : CallgraphRequest) (providers : List (Provider Nat Nat)),
      (∀ p ∈ providers, p.DistinctDeclarations) → (∀ p ∈ providers, p.Total) →
        ∀ text ∈ request.roots, ∀ w,
          (callgraphSection (request.withRoots [text]) providers).result = .ok w →
          ∀ q, ∀ g ∈ graphsUnder q w,
            ∃ v, (callgraphSection request providers).result = .ok v ∧ g ∈ graphsUnder q v := by
  intro h
  have hTotal : ∀ p ∈ [rootedProvider], p.Total := List.forall_mem_singleton.mpr total_rootedProvider
  have hDistinct : ∀ p ∈ [rootedProvider], p.DistinctDeclarations :=
    List.forall_mem_singleton.mpr distinct_rootedProvider
  have hReadable : Root.Readable "Job.run" := by
    rw [← Root.parse_isOk_iff, parse_jobRun]
    rfl
  obtain ⟨long, hLong⟩ : ∃ long, ¬ Root.Readable long := by
    refine ⟨countedRoot (Text.maxDigits + 1), ?_⟩
    rw [readable_countedRoot (by omega)]
    omega
  have hAlone := (yieldsIf_withRoots ⟨["Job.run", long], ⟨2, 200⟩, false⟩ [rootedProvider]
    ["Job.run"] _).mpr
      ⟨List.forall_mem_singleton.mpr ((extracts_iff_readable hTotal _).mpr hReadable), rfl⟩
  have hFound : (⟨"Job.run(0)", 2, false, [⟨"Job.run(0)", "Job.step(1)"⟩]⟩ : Callgraph) ∈
      rootedGraphs (foundBy ⟨["Job.run", long], ⟨2, 200⟩, false⟩ [rootedProvider] ["Job.run"])
        ⟨"App", "app"⟩ := by
    rw [(rootedGraphs_perm _).mem_iff, Assoc.mem_valuesOf, foundBy_jobRun]
    exact List.mem_singleton_self _
  rw [← graphsUnder_group] at hFound
  obtain ⟨v, hv, -⟩ := h ⟨["Job.run", long], ⟨2, 200⟩, false⟩ [rootedProvider] hDistinct hTotal
    "Job.run" List.mem_cons_self _ hAlone ⟨"App", "app"⟩ _ hFound
  -- the other root stops the section
  have hExtracts := ((yieldsIf_callgraphSection _ _ v).mp hv).1 long
    (List.mem_cons_of_mem _ (List.mem_singleton_self _))
  exact hLong ((extracts_iff_readable hTotal _).mp hExtracts)

end CodeAtlas
