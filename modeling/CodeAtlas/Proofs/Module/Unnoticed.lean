import CodeAtlas.Module.Provider
import CodeAtlas.Proofs.Files.Prune
import CodeAtlas.Proofs.Traced
import Mathlib.Data.List.Find

/-!
# What is not noticed about modules

Looking for projects and modules takes notice of few names. Whatever lies under other names is not
read.

* `modulesOf_prune`, `findProjects_prune`: modules and projects are the same without it.
* `provide_congr`: so is the provider for a repository.
-/

namespace CodeAtlas.Module

open Std
open CodeAtlas.Files (Entry Path Visit)
open CodeAtlas.Files.Entry (under Visible HidesOnly AlikeUpTo)

/-- Is something looked for under this name? -/
def notices (name : String) : Bool :=
  markers.contains name || name = sourceDirectory || Files.suffix name = ".py"

theorem notices_marker {name : String} (h : name ∈ markers) : notices name = true := by
  rw [notices, List.contains_iff_mem.mpr h, Bool.true_or, Bool.true_or]

theorem notices_packageFile : notices packageFile = true := by decide

theorem notices_sourceDirectory : notices sourceDirectory = true := by decide

/-- An entry under a name that is not looked for. -/
def Unnoticed (_ : List String) (e : Entry) : Prop := notices e.name = false

variable {H : List String → Bool} {e : Entry}

/-! ## Single directories -/

theorem child?_prune {name : String} (h : e.HidesOnly H Unnoticed) (hName : notices name = true) :
    (e.prune H).child? name = (e.child? name).map (Entry.prune (under H [name])) := by
  refine h.child?_eq fun c hChild hNot => ?_
  rw [Unnoticed, Entry.name_of_child? hChild, hName] at hNot
  cases hNot

theorem holds_prune {name : String} (h : e.HidesOnly H Unnoticed) (hName : notices name = true) :
    holds (e.prune H) name = holds e name := by
  rw [holds, holds, child?_prune h hName]
  cases e.child? name with
  | none => rfl
  | some c => exact Entry.exists?_congr (Entry.label_prune _ c)

theorem marker?_prune (h : e.HidesOnly H Unnoticed) : marker? (e.prune H) = marker? e :=
  List.find?_congr fun _ hName => holds_prune h (notices_marker hName)

theorem isModuleFile_prune (H : List String → Bool) (e : Entry) :
    isModuleFile (e.prune H) = isModuleFile e := by
  rw [isModuleFile, isModuleFile, Entry.name_prune, Entry.isFile_congr (Entry.label_prune H e)]

theorem isPackage_prune (h : e.HidesOnly H Unnoticed) : isPackage (e.prune H) = isPackage e := by
  rw [isPackage, isPackage, Entry.isDirectory_congr (Entry.label_prune H e),
    holds_prune h notices_packageFile]

/-! ## What is hidden -/

theorem not_isModuleFile (h : notices e.name = false) : isModuleFile e = false := by
  rw [notices, Bool.or_eq_false_iff] at h
  rw [isModuleFile, h.2, Bool.and_false]

/-- A directory in which everything can be hidden holds nothing that is looked for. -/
theorem not_holds {name : String} (h : e.HidesOnly (fun _ => true) Unnoticed)
    (hName : notices name = true) : holds e name = false := by
  rw [← holds_prune h hName, holds, Entry.child?, Entry.children_prune_all]
  rfl

theorem not_isPackage (h : e.HidesOnly (fun _ => true) Unnoticed) : isPackage e = false := by
  rw [isPackage, not_holds h notices_packageFile, Bool.and_false]

theorem marker?_eq_none (h : e.HidesOnly (fun _ => true) Unnoticed) : marker? e = none :=
  List.find?_eq_none.mpr fun name hName => by
    rw [not_holds h (notices_marker hName)]
    exact Bool.false_ne_true

/-! ## Modules -/

section Modules

variable {path : List String} {c : Entry}

/-- What is hidden is neither a module nor a package. -/
theorem not_module_of_hidden (h : e.HidesOnly H Unnoticed) (hc : c ∈ e.children)
    (hHead : H [c.name] = true) : isModuleFile c = false ∧ isPackage c = false := by
  have hLeads := Entry.leads_of_mem hc
  have hHidden : ¬ Visible H [c.name] := fun hVisible => by
    rw [(Entry.visible_cons.mp hVisible).1] at hHead
    cases hHead
  exact ⟨not_isModuleFile (h _ _ hLeads hHidden), not_isPackage (h.all hLeads hHidden)⟩

/-- The modules under one name of a package. -/
def partModules (path : List String) (package : String) (e : Entry) : List ModuleFile :=
  if isModuleFile e then
    [⟨path ++ [e.name], memberName package e.name, e.content?.getD []⟩]
  else if e.name != cacheDirectory && isPackage e then
    packageModules (path ++ [e.name]) (package ++ "." ++ e.name) e
  else []

theorem packageParts_eq (path : List String) (package : String) (es : List Entry) :
    packageParts path package es = es.map fun e => (e.name, partModules path package e) := by
  induction es with
  | nil => rw [packageParts, List.map_nil]
  | cons e es ih =>
    rw [packageParts, List.map_cons, ih]
    rfl

theorem packageModules_directory (path : List String) (package n : String) (cs : List Entry) :
    packageModules path package (.directory n cs) =
      (sortBy (compareOn Entry.name) cs).flatMap (partModules path package) := by
  have hSort : sortBy (compareOn Prod.fst) (cs.map fun e => (e.name, partModules path package e)) =
      (sortBy (compareOn Entry.name) cs).map fun e => (e.name, partModules path package e) :=
    sortBy_map (fun _ _ => rfl) cs
  rw [packageModules, packageParts_eq, mergeSort_eq_sortBy Prod.fst, hSort, List.flatMap_map]

theorem packageModules_prune {package : String} (h : e.HidesOnly H Unnoticed) :
    packageModules path package (e.prune H) = packageModules path package e := by
  induction e using Entry.inductionOn generalizing H path package with
  | file n bytes => rw [Entry.prune]
  | broken n => rw [Entry.prune]
  | directory n cs ih =>
    have hChildren := Entry.flatMap_sorted_children_prune (H := H) (e := .directory n cs)
      (f := partModules path package) ?_ ?_
    · rw [Entry.prune, packageModules_directory, packageModules_directory]
      exact hChildren
    · intro c hc _
      have hBelow : c.HidesOnly (under H [c.name]) Unnoticed := h.below (Entry.leads_of_mem hc)
      rw [partModules, partModules, isModuleFile_prune, isPackage_prune hBelow, Entry.name_prune,
        Entry.content?_congr (Entry.label_prune _ c), ih c hc hBelow]
    · intro c hc hHead
      obtain ⟨hFile, hPackage⟩ := not_module_of_hidden h hc hHead
      rw [partModules, hFile, hPackage, Bool.and_false]
      rfl

theorem topModules_prune (h : e.HidesOnly H Unnoticed) :
    topModules path (e.prune H) = topModules path e := by
  rw [topModules, topModules, isModuleFile_prune, isPackage_prune h, marker?_prune h,
    Entry.name_prune, Entry.content?_congr (Entry.label_prune _ e), packageModules_prune h]

theorem sourceRoot_prune (path : List String) (h : e.HidesOnly H Unnoticed) :
    ∃ H', (sourceRoot path e).2.HidesOnly H' Unnoticed ∧
      sourceRoot path (e.prune H) = ((sourceRoot path e).1, (sourceRoot path e).2.prune H') := by
  rw [sourceRoot, sourceRoot, child?_prune h notices_sourceDirectory]
  cases hChild : e.child? sourceDirectory with
  | none => exact ⟨H, h, rfl⟩
  | some c =>
    have hBelow : c.HidesOnly (under H [sourceDirectory]) Unnoticed :=
      h.below (Entry.leads_of_child? hChild)
    dsimp only [Option.map_some]
    rw [Entry.isDirectory_congr (Entry.label_prune _ c)]
    split
    · exact ⟨_, hBelow, rfl⟩
    · exact ⟨H, h, rfl⟩

theorem modulesOf_prune (h : e.HidesOnly H Unnoticed) :
    modulesOf path (e.prune H) = modulesOf path e := by
  obtain ⟨H', hRoot, hSource⟩ := sourceRoot_prune path h
  rw [modulesOf, modulesOf, hSource]
  generalize sourceRoot path e = found at *
  obtain ⟨place, root⟩ := found
  dsimp only [Entry.sortedChildren]
  rw [mergeSort_eq_sortBy Entry.name, mergeSort_eq_sortBy Entry.name]
  refine Entry.flatMap_sorted_children_prune ?_ ?_
  · intro c hc _
    have hBelow : c.HidesOnly (under H' [c.name]) Unnoticed := hRoot.below (Entry.leads_of_mem hc)
    exact topModules_prune hBelow
  · intro c hc hHead
    obtain ⟨hFile, hPackage⟩ := not_module_of_hidden hRoot hc hHead
    rw [topModules, hFile, hPackage]
    rfl

theorem modulesOf_eq_nil (h : e.HidesOnly (fun _ => true) Unnoticed) : modulesOf path e = [] := by
  have hRoot : sourceRoot path (e.prune fun _ => true) = (path, e.prune fun _ => true) := by
    rw [sourceRoot, Entry.child?, Entry.children_prune_all]
    rfl
  rw [← modulesOf_prune h, modulesOf, hRoot]
  dsimp only [Entry.sortedChildren]
  rw [Entry.children_prune_all, List.mergeSort_nil, List.flatMap_nil]

theorem filesOf_prune {root : Path} (h : e.HidesOnly H Unnoticed) :
    filesOf root (e.prune H) = filesOf root e := by
  funext p
  rw [filesOf, filesOf]
  generalize p.directory.parts.drop root.parts.length = place
  by_cases hVisible : Visible H place
  · rw [Entry.descend?_prune hVisible]
    cases hFound : e.descend? place with
    | none => rfl
    | some d =>
      have hBelow : d.HidesOnly (under H place) Unnoticed := h.below (Entry.leads_of_descend? hFound)
      exact modulesOf_prune hBelow
  · rw [Entry.descend?_prune_of_not_visible hVisible]
    cases hFound : e.descend? place with
    | none => rfl
    | some d =>
      have hAll : d.HidesOnly (fun _ => true) Unnoticed :=
        h.all (Entry.leads_of_descend? hFound) hVisible
      exact (modulesOf_eq_nil hAll).symm

end Modules

/-! ## Projects -/

section Projects

variable {root : Path}

theorem nameFrom_prune {directory : Path} {file : String} (h : e.HidesOnly H Unnoticed)
    (hFile : notices file = true) :
    nameFrom directory (e.prune H) file = nameFrom directory e file := by
  rw [nameFrom, nameFrom, child?_prune h hFile]
  cases e.child? file with
  | none => rfl
  | some c =>
    have hLabel := Entry.label_prune (under H [file]) c
    rw [Option.map_some, Option.filter_some, Option.filter_some, Entry.exists?_congr hLabel]
    cases c.exists? with
    | false => rfl
    | true =>
      rw [if_pos rfl, if_pos rfl]
      dsimp only
      rw [Entry.content?_congr hLabel]

theorem projectAt_prune {place : List String} (h : e.HidesOnly H Unnoticed) :
    projectAt root ⟨place, e.prune H⟩ = projectAt root ⟨place, e⟩ := by
  have hPixi : notices "pixi.toml" = true := notices_marker (by decide)
  have hPyproject : notices "pyproject.toml" = true := notices_marker (by decide)
  have hName : ∀ directory, projectName directory (e.prune H) = projectName directory e := by
    intro directory
    rw [projectName, projectName, nameFrom_prune h hPixi, nameFrom_prune h hPyproject]
  rw [projectAt, projectAt]
  dsimp only
  rw [marker?_prune h, hName]

/-- The directories that are entered in search of projects. -/
def entered (_ : List String) (name : String) : Bool :=
  !skippedDirectories.contains name && !Text.startsWith name "."

/-- What is done about a directory on the way, which is nothing if it is no project. -/
def projectSteps (root : Path) (v : Visit) : List (Traced (List Project)) :=
  if (marker? v.entry).isSome then [Option.toList <$> projectAt root v] else []

theorem gather_projectSteps (root : Path) (v : Visit) :
    Option.toList <$> projectAt root v = Traced.gather (projectSteps root v) := by
  rw [projectSteps]
  cases hMarker : marker? v.entry with
  | some marker => exact (Traced.gather_singleton _).symm
  | none =>
    rw [projectAt, hMarker]
    rfl

theorem findProjects_eq (root : Path) (top : Entry) : findProjects root top = (do
    let found ← Traced.gather ((top.walk entered []).flatMap (projectSteps root))
    if found.isEmpty && !(modulesOf [] top).isEmpty then
      return [⟨packageName root.name, "", language, root⟩]
    return found) := by
  rw [← Traced.gather_map fun v _ => gather_projectSteps root v, Traced.gather_toList,
    LawfulMonad.bind_assoc, findProjects]
  rfl

theorem findProjects_prune (h : e.HidesOnly H Unnoticed) :
    findProjects root (e.prune H) = findProjects root e := by
  have hWalk : ((e.prune H).walk entered []).flatMap (projectSteps root) =
      (e.walk entered []).flatMap (projectSteps root) := by
    refine Entry.flatMap_walk_prune ?_ ?_
    · intro names d hLeads _ _
      have hBelow : d.HidesOnly (under H names) Unnoticed := h.below hLeads
      rw [projectSteps, projectSteps]
      dsimp only
      rw [marker?_prune hBelow, projectAt_prune hBelow]
    · intro names d hLeads _ hHidden
      have hAll : d.HidesOnly (fun _ => true) Unnoticed := h.all hLeads hHidden
      rw [projectSteps]
      dsimp only
      rw [marker?_eq_none hAll]
      rfl
  rw [findProjects_eq, findProjects_eq, hWalk, modulesOf_prune h]

end Projects

/-- The provider for a repository does not depend on what lies under other names. -/
theorem provide_congr {root : Path} {e e' : Entry} (h : Entry.AlikeUpTo Unnoticed e e') :
    provide root e' = provide root e := by
  refine h.eq fun H e hHides => ?_
  have hLibrary : Library.ofProjects root (e.prune H) = Library.ofProjects root e := by
    funext projects
    rw [Library.ofProjects, Library.ofProjects, filesOf_prune hHides]
  rw [provide, provide, findProjects_prune hHides, hLibrary]

end CodeAtlas.Module
