import CodeAtlas.Proofs.Files.Put
import CodeAtlas.Proofs.Module.Unnoticed

/-!
# Where projects are found

* `pairwise_found`: the projects of a repository lie in different directories with packaging files,
  unless the repository itself is the only project.
* `nodup_refs`, `nodup_directories`: they are told apart by their references and by their
  directories.
-/

namespace CodeAtlas.Module

open CodeAtlas.Files (Entry Path Visit pathText pathText_injective)
open CodeAtlas.Files.Entry (Leads Proper)

variable {root : Path} {top : Entry}

/-- The way from the repository to the directory of a project. -/
def placeOf (root : Path) (p : Project) : List String := p.directory.parts.drop root.parts.length

theorem filesOf_eq (root : Path) (top : Entry) (p : Project) : filesOf root top p =
    ((top.descend? (placeOf root p)).map (modulesOf (placeOf root p))).getD [] := rfl

/-- A project is in a directory with a packaging file, to which names lead. -/
structure FoundAt (root : Path) (top : Entry) (p : Project) (names : List String) : Prop where
  directory_eq : p.directory = root.append ⟨"", names⟩
  marked : ∃ e marker, top.Leads names e ∧ e.isDirectory = true ∧ marker? e = some marker ∧
    p.path = pathText (names ++ [marker])

theorem FoundAt.placeOf_eq {p : Project} {names : List String} (h : FoundAt root top p names) :
    placeOf root p = names := by
  rw [placeOf, h.directory_eq]
  exact List.drop_left

theorem projectAt_eq_some {v : Visit} {p : Project} (h : (projectAt root v).result = .ok (some p)) :
    ∃ marker, marker? v.entry = some marker ∧ p.directory = root.append ⟨"", v.path⟩ ∧
      p.path = pathText (v.path ++ [marker]) := by
  rw [projectAt] at h
  cases hMarker : marker? v.entry with
  | none =>
    rw [hMarker] at h
    cases h
  | some marker =>
    rw [hMarker] at h
    obtain ⟨name, -, hDone⟩ := Traced.ok_of_bind h
    cases hDone
    exact ⟨marker, rfl, rfl, rfl⟩

/-- The places of projects that are found among visited directories. -/
theorem exists_places {vs : List Visit} {os : List (Option Project)}
    (h : (vs.mapM (projectAt root)).result = .ok os)
    (hVisits : ∀ v ∈ vs, top.Leads v.path v.entry ∧ v.entry.isDirectory = true) :
    ∃ places, places.Sublist (vs.map (·.path)) ∧
      List.Forall₂ (FoundAt root top) (os.filterMap id) places := by
  induction vs generalizing os with
  | nil =>
    rw [List.mapM_nil] at h
    obtain rfl := Except.ok.inj h
    exact ⟨[], .slnil, .nil⟩
  | cons v vs ih =>
    rw [List.mapM_cons] at h
    obtain ⟨o, ho, hRest⟩ := Traced.ok_of_bind h
    obtain ⟨os', hos, hDone⟩ := Traced.ok_of_bind hRest
    obtain rfl := Except.ok.inj hDone
    obtain ⟨hv, hvs⟩ := List.forall_mem_cons.mp hVisits
    obtain ⟨places, hSub, hFound⟩ := ih hos hvs
    cases o with
    | none => exact ⟨places, hSub.cons _, hFound⟩
    | some p =>
      obtain ⟨marker, hMarker, hDirectory, hPath⟩ := projectAt_eq_some ho
      refine ⟨v.path :: places, hSub.cons_cons _, .cons ⟨hDirectory, ?_⟩ hFound⟩
      exact ⟨v.entry, marker, hv.1, hv.2, hMarker, hPath⟩

/-- If there are packaging files, they alone settle what projects there are. -/
theorem result_findProjects {os : List (Option Project)}
    (h : ((top.walk entered []).mapM (projectAt root)).result = .ok os)
    (hSome : (os.filterMap id).isEmpty = false) :
    (findProjects root top).result = .ok (os.filterMap id) := by
  refine (Traced.result_bind_of_ok h _).trans ?_
  dsimp only
  rw [hSome, Bool.false_and]
  rfl

theorem found_cases {ps : List Project} (hTop : top.Proper)
    (h : (findProjects root top).result = .ok ps) :
    (∃ p, ps = [p] ∧ p.directory = root) ∨
      ∃ places, places.Nodup ∧ List.Forall₂ (FoundAt root top) ps places := by
  rw [findProjects] at h
  obtain ⟨os, hos, hRest⟩ := Traced.ok_of_bind h
  dsimp only at hRest
  split at hRest
  · obtain rfl := Except.ok.inj hRest
    exact .inl ⟨_, rfl, rfl⟩
  · obtain rfl := Except.ok.inj hRest
    have hVisited : ∀ v ∈ top.walk entered [], top.Leads v.path v.entry ∧
        v.entry.isDirectory = true := by
      intro v hv
      obtain ⟨names, hPath, hLeads, hDirectory, -⟩ := Entry.mem_walk.mp hv
      rw [hPath, List.nil_append]
      exact ⟨hLeads, hDirectory⟩
    obtain ⟨places, hSub, hFound⟩ := exists_places hos hVisited
    exact .inr ⟨places, (Entry.nodup_paths hTop).sublist hSub, hFound⟩

/-- Projects that are found lie in different directories. -/
theorem pairwise_found {R : Project → Project → Prop} {ps : List Project} (hTop : top.Proper)
    (h : (findProjects root top).result = .ok ps)
    (hR : ∀ p q names names', FoundAt root top p names → FoundAt root top q names' →
      names ≠ names' → R p q) : ps.Pairwise R := by
  obtain ⟨p, rfl, -⟩ | ⟨places, hNodup, hFound⟩ := found_cases hTop h
  · exact List.pairwise_singleton R p
  · clear h
    induction hFound with
    | nil => exact .nil
    | @cons p names ps places hp hps ih =>
      obtain ⟨hNew, hNodup⟩ := List.nodup_cons.mp hNodup
      refine .cons (fun q hq => ?_) (ih hNodup)
      obtain ⟨names', hMem, hq'⟩ := exists_right_of_forall₂ hps hq
      exact hR p q names names' hp hq' fun hEq => hNew (hEq ▸ hMem)

theorem nodup_directories {ps : List Project} (hTop : top.Proper)
    (h : (findProjects root top).result = .ok ps) : (ps.map (·.directory)).Nodup := by
  refine List.pairwise_map.mpr (pairwise_found hTop h fun p q names names' hp hq hne hEq => hne ?_)
  rw [← hp.placeOf_eq, ← hq.placeOf_eq, placeOf, placeOf, hEq]

theorem nodup_refs {ps : List Project} (hTop : top.Proper)
    (h : (findProjects root top).result = .ok ps) : (ps.map (·.ref)).Nodup := by
  have hMarkers : ∀ m ∈ markers, '/' ∉ m.toList := by decide
  have hSlash : ∀ names e marker, top.Leads names e → marker? e = some marker →
      ∀ n ∈ names ++ [marker], '/' ∉ n.toList := by
    intro names e marker hLeads hMarker n hn
    rcases List.mem_append.mp hn with hn | hn
    · exact hTop.slash_not_mem hLeads n hn
    · obtain rfl := List.mem_singleton.mp hn
      exact hMarkers _ (List.mem_of_find?_eq_some hMarker)
  refine List.pairwise_map.mpr (pairwise_found hTop h fun p q names names' hp hq hne hEq => hne ?_)
  obtain ⟨e, marker, hLeads, -, hMarker, hPath⟩ := hp.marked
  obtain ⟨e', marker', hLeads', -, hMarker', hPath'⟩ := hq.marked
  have hPaths : pathText (names ++ [marker]) = pathText (names' ++ [marker']) := by
    rw [← hPath, ← hPath']
    exact congrArg ProjectRef.path hEq
  have hPlaces := pathText_injective (by simp) (by simp) (hSlash _ _ _ hLeads hMarker)
    (hSlash _ _ _ hLeads' hMarker') hPaths
  exact (List.append_inj' hPlaces rfl).1

end CodeAtlas.Module
