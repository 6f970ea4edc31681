import CodeAtlas.Sections
import CodeAtlas.Proofs.Assoc
import CodeAtlas.Proofs.Order

/-!
# Grouped call graphs

* `graphsUnder_group`: grouping loses nothing and adds nothing, a project has its own graphs, by
  their roots.
* `group_congr`: the groups depend on nothing else.
-/

namespace CodeAtlas

open Std

/-! ## The orders -/

theorem ProjectRef.order_eq_eq {a b : ProjectRef} : a.order b = .eq ↔ a = b := by
  show compareLex (compareOn (·.name)) (compareOn (·.path)) a b = .eq ↔ a = b
  cases a
  cases b
  simp [compareLex, compareOn]

instance : TransCmp ProjectCallgraphs.order :=
  inferInstanceAs (TransCmp (compareLex (compareOn fun g : ProjectCallgraphs => g.project.name)
    (compareOn fun g => g.project.path)))

instance : TransCmp Callgraph.order := inferInstanceAs (TransCmp (compareOn Callgraph.root))

theorem Callgraph.order_eq_eq {a b : Callgraph} : a.order b = .eq ↔ a.root = b.root := by
  show compare a.root b.root = .eq ↔ a.root = b.root
  exact LawfulEqOrd.compare_eq_iff_eq

/-! ## Groups -/

/-- The graphs that a section shows under a project. -/
def graphsUnder (q : ProjectRef) (section? : Option (List ProjectCallgraphs)) : List Callgraph :=
  ((section?.getD []).filter (·.project == q)).flatMap (·.graphs)

section Group

/-- Groups of different projects, of which one has the project of `a` or none. -/
theorem filter_groups (a : ProjectCallgraphs) (F : ProjectRef → List Callgraph)
    {ks : List ProjectRef} (hNodup : ks.Nodup) :
    (ks.map fun q => (⟨q, F q⟩ : ProjectCallgraphs)).filter (a.order · == .eq) =
      if a.project ∈ ks then [⟨a.project, F a.project⟩] else [] := by
  have hOrder : (fun g : ProjectCallgraphs => a.order g == .eq) ∘ (fun q => ⟨q, F q⟩) =
      (· == a.project) := by
    funext q
    rw [Bool.eq_iff_iff, Function.comp_apply, beq_iff_eq, beq_iff_eq]
    exact ProjectRef.order_eq_eq.trans eq_comm
  rw [List.filter_map, hOrder, List.filter_beq]
  split
  · rename_i hMem
    rw [List.count_eq_one_of_mem hNodup hMem]
    rfl
  · rename_i hMem
    rw [List.count_eq_zero_of_not_mem hMem]
    rfl

variable (pairs : List (ProjectRef × Callgraph))

/-- The graphs found under a project, by their roots. -/
def rootedGraphs (q : ProjectRef) : List Callgraph :=
  sortBy Callgraph.order (Assoc.valuesOf q pairs)

variable {pairs} {pairs' : List (ProjectRef × Callgraph)}

theorem rootedGraphs_perm (q : ProjectRef) :
    (rootedGraphs pairs q).Perm (Assoc.valuesOf q pairs) := sortBy_perm _ _

theorem rootedGraphs_eq_nil {q : ProjectRef} :
    rootedGraphs pairs q = [] ↔ q ∉ pairs.map (·.1) := by
  rw [← Assoc.valuesOf_eq_nil]
  constructor
  · exact fun h => List.nil_perm.mp (h ▸ rootedGraphs_perm q)
  · exact fun h => List.perm_nil.mp (h ▸ rootedGraphs_perm q)

/-- Every project with graphs has its group. -/
theorem groupCallgraphs_gather :
    groupCallgraphs (Assoc.gather pairs) =
      sortBy ProjectCallgraphs.order
        ((firsts (pairs.map (·.1))).map fun q => ⟨q, rootedGraphs pairs q⟩) := by
  have hAll : ∀ f ∈ (firsts (pairs.map (·.1))).map fun k => (k, Assoc.valuesOf k pairs),
      (!f.2.isEmpty) = true := by
    intro f hf
    obtain ⟨k, hk, rfl⟩ := List.mem_map.mp hf
    have hne : Assoc.valuesOf k pairs ≠ [] := fun h => Assoc.valuesOf_eq_nil.mp h (mem_firsts.mp hk)
    simpa using hne
  rw [groupCallgraphs, Assoc.gather_eq, List.filter_eq_self.mpr hAll, List.map_map]
  rfl

/-- The group of a project. -/
theorem filter_group (pairs : List (ProjectRef × Callgraph)) (a : ProjectCallgraphs) :
    (groupCallgraphs (Assoc.gather pairs)).filter (a.order · == .eq) =
      if rootedGraphs pairs a.project = [] then []
      else [⟨a.project, rootedGraphs pairs a.project⟩] := by
  rw [groupCallgraphs_gather, filter_sortBy, filter_groups a _ (nodup_firsts _)]
  by_cases hMem : a.project ∈ pairs.map (·.1)
  · rw [if_pos (mem_firsts.mpr hMem), if_neg (rootedGraphs_eq_nil.not.mpr (not_not.mpr hMem))]
  · rw [if_neg (mem_firsts.not.mpr hMem), if_pos (rootedGraphs_eq_nil.mpr hMem)]

/-- A project has the graphs that were found under it, by their roots. -/
theorem graphsUnder_group (q : ProjectRef) :
    graphsUnder q (nonEmpty? (groupCallgraphs (Assoc.gather pairs))) = rootedGraphs pairs q := by
  have hFilter := filter_group pairs ⟨q, []⟩
  have hOrder : (fun g : ProjectCallgraphs => ProjectCallgraphs.order ⟨q, []⟩ g == .eq) =
      (·.project == q) := by
    funext g
    rw [Bool.eq_iff_iff, beq_iff_eq, beq_iff_eq]
    exact ProjectRef.order_eq_eq.trans eq_comm
  have hSection : ∀ gs : List ProjectCallgraphs, (nonEmpty? gs).getD [] = gs := by
    intro gs
    cases gs <;> rfl
  rw [hOrder] at hFilter
  rw [graphsUnder, hSection, hFilter]
  split
  · rename_i hNone
    exact hNone.symm
  · exact List.append_nil _

/-- The groups depend on what stands under each project. -/
theorem group_congr (h : ∀ q, rootedGraphs pairs q = rootedGraphs pairs' q) :
    groupCallgraphs (Assoc.gather pairs) = groupCallgraphs (Assoc.gather pairs') := by
  have hSorted : ∀ ps : List (ProjectRef × Callgraph),
      (groupCallgraphs (Assoc.gather ps)).Pairwise fun a b =>
        (ProjectCallgraphs.order a b).isLE = true := by
    intro ps
    rw [groupCallgraphs_gather]
    exact pairwise_sortBy _ _
  refine eq_of_pairwise_of_filter_eq ProjectCallgraphs.order (hSorted pairs) (hSorted pairs') ?_
  intro a
  rw [filter_group, filter_group, h]

end Group

end CodeAtlas
