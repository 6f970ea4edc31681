import CodeAtlas.Compilation.Provider
import CodeAtlas.Proofs.Files.Place
import CodeAtlas.Proofs.Files.Prune
import CodeAtlas.Proofs.Traced
import Mathlib.Data.List.Find

/-!
# What is not noticed about units

Looking for projects and units reads some files of a build and what lies below the directories of
sources.

* `findProjects_congr`: the projects are the same for disks that agree about the files of the build.
* `provide_congr`: so is the provider if the directories of sources differ in nothing but what is no
  unit.
-/

namespace CodeAtlas.Compilation

open Std
open CodeAtlas.Files (Disk Entry Path)
open CodeAtlas.Files.Entry (under Visible HidesOnly AlikeUpTo)

variable {d d' : Disk} {root : Path}

/-! ## Files of a build -/

/-- The paths that are looked up for the directory of a project. -/
def lookedUp (directory : Path) : List Path :=
  sourceRoot directory :: (buildFiles ++ settingsFiles).map directory.child

/-- Two disks agree about the paths that are looked up for the directory of a project. -/
def AgreeAt (d d' : Disk) (directory : Path) : Prop := ∀ p ∈ lookedUp directory, d.Agrees d' p

namespace AgreeAt

variable {directory : Path} {name : String}

theorem build (h : AgreeAt d d' directory) (hName : name ∈ buildFiles) :
    d.Agrees d' (directory.child name) :=
  h _ (List.mem_cons_of_mem _ (List.mem_map_of_mem (List.mem_append_left _ hName)))

theorem settings (h : AgreeAt d d' directory) (hName : name ∈ settingsFiles) :
    d.Agrees d' (directory.child name) :=
  h _ (List.mem_cons_of_mem _ (List.mem_map_of_mem (List.mem_append_right _ hName)))

theorem source (h : AgreeAt d d' directory) : d.Agrees d' (sourceRoot directory) :=
  h _ List.mem_cons_self

theorem pom (h : AgreeAt d d' directory) : d.Agrees d' (directory.child pomFile) :=
  h.build List.mem_cons_self

end AgreeAt

theorem buildFile?_congr {directory : Path}
    (h : ∀ name ∈ buildFiles, d.Agrees d' (directory.child name)) :
    buildFile? d' directory = buildFile? d directory :=
  List.find?_congr fun name hName => (h name hName).exists?_eq

theorem readText_congr {p : Path} (h : d.Agrees d' p) : readText d' p = readText d p := by
  rw [readText, readText, h.read_eq]

theorem readPom_congr {p : Path} (h : d.Agrees d' p) : readPom d' p = readPom d p := by
  rw [readPom, readPom, h.read_eq]

/-! ## Parts of a build -/

theorem listedParts_congr {files : List String}
    (h : ∀ name ∈ files, d.Agrees d' (root.child name)) :
    listedParts d' root files = listedParts d root files := by
  induction files with
  | nil => rfl
  | cons file files ih =>
    obtain ⟨hFile, hFiles⟩ := List.forall_mem_cons.mp h
    rw [listedParts, listedParts, hFile.exists?_eq, readText_congr hFile, ih hFiles]

theorem partNames_congr (h : AgreeAt d d' root) : partNames d' root = partNames d root := by
  rw [partNames, partNames, pomModules, pomModules, h.pom.exists?_eq, readPom_congr h.pom,
    listedParts_congr fun _ hName => h.settings hName]

/-- The directory of a part of a build by its name. -/
def partPath (root : Path) (name : String) : Path := root.append (.ofText name)

theorem partDirectories_congr {names : List (Option String)}
    (h : ∀ name, some name ∈ names → d.Agrees d' (partPath root name)) :
    partDirectories d' root names = partDirectories d root names := by
  induction names with
  | nil => rfl
  | cons name names ih =>
    cases name with
    | none => rfl
    | some name =>
      have hHere : d.Agrees d' (root.append (.ofText name)) := h name List.mem_cons_self
      rw [partDirectories, partDirectories, hHere.isDirectory_eq,
        ih fun n hn => h n (List.mem_cons_of_mem _ hn)]

theorem exists_of_mem_partDirectories {names : List (Option String)} {found : List Path}
    (h : partDirectories d root names = .ok found) {p : Path} (hp : p ∈ found) :
    ∃ name, some name ∈ names ∧ p = partPath root name := by
  induction names generalizing found with
  | nil =>
    obtain rfl := Except.ok.inj h
    cases hp
  | cons name names ih =>
    cases name with
    | none => cases h
    | some name =>
      rw [partDirectories] at h
      cases hRest : partDirectories d root names with
      | error f =>
        rw [hRest] at h
        cases h
      | ok others =>
        rw [hRest] at h
        obtain rfl := Except.ok.inj h
        have hCases : p = partPath root name ∨ p ∈ others := by
          split at hp
          · exact List.mem_cons.mp hp
          · exact Or.inr hp
        rcases hCases with rfl | hp
        · exact ⟨name, List.mem_cons_self, rfl⟩
        · obtain ⟨n, hn, hPath⟩ := ih hRest hp
          exact ⟨n, List.mem_cons_of_mem _ hn, hPath⟩

/-! ## Projects -/

theorem settingsName_congr {directory : Path} {files : List String}
    (h : ∀ name ∈ files, d.Agrees d' (directory.child name)) :
    settingsName d' directory files = settingsName d directory files := by
  induction files with
  | nil => rfl
  | cons file files ih =>
    obtain ⟨hFile, hFiles⟩ := List.forall_mem_cons.mp h
    rw [settingsName, settingsName, readText_congr hFile, ih hFiles]

theorem projectAt_congr {directory : Path} (h : AgreeAt d d' directory) :
    projectAt d' root directory = projectAt d root directory := by
  have hSettings : settingsName d' directory settingsFiles = settingsName d directory settingsFiles :=
    settingsName_congr fun _ hFile => h.settings hFile
  have hName : ∀ build, projectName d' directory build = projectName d directory build := by
    intro build
    rw [projectName, projectName, artifactName, artifactName, readPom_congr h.pom, hSettings]
  rw [projectAt, projectAt, buildFile?_congr fun _ hFile => h.build hFile, hName]

theorem directory_of_projectAt {directory : Path} {p : Project}
    (h : (projectAt d root directory).result = .ok p) : p.directory = directory := by
  have hDone : ∀ path : String, (do
      return ⟨← projectName d directory (buildFile? d directory), path, language, directory⟩ :
        Traced Project).result = .ok p → p.directory = directory := by
    intro path h
    obtain ⟨name, -, h⟩ := Traced.ok_of_bind h
    obtain rfl := Except.ok.inj h
    rfl
  rw [projectAt] at h
  dsimp only at h
  split at h
  · obtain ⟨path, -, h⟩ := Traced.ok_of_bind h
    exact hDone path h
  · obtain ⟨path, -, h⟩ := Traced.ok_of_bind h
    exact hDone path h

/-- The directories that may be projects: that of the repository and those of its parts. -/
def considered (d : Disk) (root : Path) : List Path :=
  if (buildFile? d root).isNone then []
  else root :: ((itemsOf (partNames d root).result).filterMap id).map (partPath root)

theorem root_mem_considered (h : (buildFile? d root).isNone = false) : root ∈ considered d root := by
  rw [considered, h, if_neg Bool.false_ne_true]
  exact List.mem_cons_self

theorem part_mem_considered {names : List (Option String)} {name : String}
    (h : (buildFile? d root).isNone = false) (hNames : (partNames d root).result = .ok names)
    (hName : some name ∈ names) : partPath root name ∈ considered d root := by
  rw [considered, h, if_neg Bool.false_ne_true, hNames]
  exact List.mem_cons_of_mem _ (List.mem_map_of_mem (List.mem_filterMap.mpr ⟨_, hName, rfl⟩))

/-- Projects are made from directories that may be projects. -/
theorem considered_of_mem_findProjects {projects : List Project}
    (h : (findProjects d root).result = .ok projects) {p : Project} (hp : p ∈ projects) :
    p.directory ∈ considered d root := by
  cases hBuild : (buildFile? d root).isNone with
  | true =>
    rw [findProjects, hBuild] at h
    obtain rfl := Except.ok.inj h
    cases hp
  | false =>
    rw [findProjects, hBuild] at h
    obtain ⟨names, hNames, h⟩ := Traced.ok_of_bind h
    obtain ⟨parts, hParts, h⟩ := Traced.ok_of_bind h
    obtain ⟨found, hFound, h⟩ := Traced.ok_of_bind h
    obtain rfl := Except.ok.inj h
    have hMem := (sortBy_perm _ _).mem_iff.mp hp
    obtain ⟨directory, hDirectory, hProject⟩ := Traced.exists_of_mem_mapM hFound hMem
    rw [directory_of_projectAt hProject]
    have hCases : directory = root ∨ directory ∈ parts := by
      split at hDirectory
      · exact List.mem_cons.mp hDirectory
      · exact Or.inr hDirectory
    rcases hCases with rfl | hPart
    · exact root_mem_considered hBuild
    · obtain ⟨name, hName, rfl⟩ := exists_of_mem_partDirectories hParts hPart
      exact part_mem_considered hBuild hNames hName

/-- Two disks agree about the files of a build. -/
structure SameBuild (d d' : Disk) (root : Path) : Prop where
  build : ∀ name ∈ buildFiles, d.Agrees d' (root.child name)
  directory : ∀ p ∈ considered d root, d.Agrees d' p
  lookedUp : ∀ p ∈ considered d root, AgreeAt d d' p

theorem findProjects_congr (h : SameBuild d d' root) :
    findProjects d' root = findProjects d root := by
  rw [findProjects, findProjects, buildFile?_congr h.build]
  cases hBuild : (buildFile? d root).isNone with
  | true => rfl
  | false =>
    have hRoot := h.lookedUp root (root_mem_considered hBuild)
    rw [partNames_congr hRoot, hRoot.source.isDirectory_eq]
    refine Traced.bind_congr_of_ok fun names hNames => ?_
    have hParts : ∀ name, some name ∈ names → partPath root name ∈ considered d root :=
      fun name hName => part_mem_considered hBuild hNames hName
    rw [partDirectories_congr fun name hName => h.directory _ (hParts name hName)]
    refine Traced.bind_congr_of_ok fun parts hFound => ?_
    have hEach : ∀ p ∈ root :: parts, projectAt d' root p = projectAt d root p := by
      intro p hp
      rcases List.mem_cons.mp hp with rfl | hp
      · exact projectAt_congr hRoot
      · obtain ⟨name, hName, rfl⟩ := exists_of_mem_partDirectories hFound hp
        exact projectAt_congr (h.lookedUp _ (hParts name hName))
    have hDirectories : ∀ p ∈ (if parts.isEmpty || d.isDirectory (sourceRoot root) then root :: parts
        else parts), p ∈ root :: parts := by
      intro p hp
      split at hp
      · exact hp
      · exact List.mem_cons_of_mem _ hp
    exact congrArg (· >>= _) (Traced.mapM_congr fun p hp => hEach p (hDirectories p hp))

/-! ## Units -/

/-- No unit is read at a place: the name has another ending, or the way there is skipped. -/
def NoUnit (names : List String) (e : Entry) : Prop :=
  Text.endsWith e.name ".java" = false ∨ names.any skippedDirectories.contains = true

/-- What is read of the bytes of a unit, if there is one. -/
def unitBytes (place : List String) (e : Entry) : List (List String × Option (List UInt8)) :=
  if Text.endsWith e.name ".java" && !(place ++ [e.name]).any skippedDirectories.contains then
    [(place ++ [e.name], e.content?)]
  else []

/-- What is read of the bytes of the units below a directory of sources. -/
def allBytes (top : Entry) : List (List String × Option (List UInt8)) :=
  (top.walk (fun _ _ => true) []).flatMap fun v => v.entry.children.flatMap (unitBytes v.path)

theorem map_unitEntries (top : Entry) :
    ((unitEntries top).filter fun x => !x.1.any skippedDirectories.contains).map
      (fun x => (x.1, x.2.content?)) = allBytes top := by
  have hVisit : ∀ (place : List String) (cs : List Entry),
      ((((cs.filter fun e => Text.endsWith e.name ".java").map fun e => (place ++ [e.name], e)).filter
        fun x => !x.1.any skippedDirectories.contains).map fun x => (x.1, x.2.content?)) =
      cs.flatMap (unitBytes place) := by
    intro place cs
    induction cs with
    | nil => rfl
    | cons c cs ih =>
      rw [List.flatMap_cons, ← ih, unitBytes, List.filter_cons]
      cases Text.endsWith c.name ".java" with
      | false => rfl
      | true =>
        rw [if_pos rfl, List.map_cons, List.filter_cons, Bool.true_and]
        split <;> rfl
  rw [unitEntries, List.filter_flatMap, List.map_flatMap, allBytes]
  exact congrArg (List.flatMap · _) (funext fun v => hVisit v.path v.entry.children)

theorem allBytes_prune {H : List String → Bool} {e : Entry} (h : e.HidesOnly H NoUnit) :
    allBytes (e.prune H) = allBytes e := by
  refine Entry.flatMap_walk_children_prune h ?_ ?_
  · intro H place c
    rw [unitBytes, unitBytes, Entry.name_prune, Entry.content?_congr (Entry.label_prune H c)]
  · rintro names c - (hName | hSkipped)
    · rw [unitBytes, hName]
      rfl
    · rw [unitBytes, List.nil_append, hSkipped, Bool.not_true, Bool.and_false]
      rfl

theorem map_unitsOf {directory : Path} {top : Entry}
    (h : d.entry? (sourceRoot directory) = some top) :
    (unitsOf d root directory).map (fun x => (x.1, x.2.content?)) =
      (sortBy (compareOn (·.1)) (allBytes top)).map fun x =>
        ((sourceRoot directory).parts.drop root.parts.length ++ x.1, x.2) := by
  have hSort : sortBy (compareOn Prod.fst) (((unitEntries top).filter fun x =>
        !x.1.any skippedDirectories.contains).map fun x => (x.1, x.2.content?)) =
      (sortBy (compareOn Prod.fst) ((unitEntries top).filter fun x =>
        !x.1.any skippedDirectories.contains)).map fun x => (x.1, x.2.content?) :=
    sortBy_map (fun _ _ => rfl) _
  rw [unitsOf, h, ← map_unitEntries, hSort, List.map_map, List.map_map]
  rfl

/-! ## The provider -/

namespace Library

theorem addFile_congr {l : Library} {path : String} {e e' : Entry} (h : e.content? = e'.content?) :
    l.addFile path e = l.addFile path e' := by
  rw [addFile, addFile, h]

/-- Nothing but the bytes of units is read. -/
theorem addFiles_congr {l : Library} {files files' : List (List String × Entry)}
    (h : files.map (fun x => (x.1, x.2.content?)) = files'.map fun x => (x.1, x.2.content?)) :
    l.addFiles files = l.addFiles files' := by
  induction files generalizing l files' with
  | nil =>
    obtain rfl := List.map_eq_nil_iff.mp h.symm
    rfl
  | cons x files ih =>
    cases files' with
    | nil => cases h
    | cons x' files' =>
      obtain ⟨path, e⟩ := x
      obtain ⟨path', e'⟩ := x'
      obtain ⟨hHead, hRest⟩ := List.cons.inj h
      obtain ⟨hPath, hContent⟩ := Prod.mk.inj hHead
      obtain rfl : path = path' := hPath
      rw [addFiles, addFiles, addFile_congr hContent]
      dsimp only
      rw [ih hRest]

end Library

/-- The directories of sources differ in nothing but what is no unit. -/
def SameUnits (d d' : Disk) (root : Path) : Prop :=
  ∀ p ∈ considered d root, ∀ top, d.entry? (sourceRoot p) = some top →
    ∃ top', d'.entry? (sourceRoot p) = some top' ∧ AlikeUpTo NoUnit top top'

theorem map_unitsOf_congr (h : SameBuild d d' root) (hUnits : SameUnits d d' root) {p : Path}
    (hp : p ∈ considered d root) :
    (unitsOf d' root p).map (fun x => (x.1, x.2.content?)) =
      (unitsOf d root p).map fun x => (x.1, x.2.content?) := by
  cases hTop : d.entry? (sourceRoot p) with
  | none =>
    have hLabel := (h.lookedUp p hp).source
    rw [Disk.Agrees, hTop, Option.map_none, Option.map_eq_none_iff] at hLabel
    rw [unitsOf, unitsOf, hTop, hLabel]
  | some top =>
    obtain ⟨top', hTop', hAlike⟩ := hUnits p hp top hTop
    rw [map_unitsOf hTop, map_unitsOf hTop', hAlike.eq fun _ _ hHides => allBytes_prune hHides]

/-- The provider for a repository does not depend on anything but files of the build and units. -/
theorem provide_congr (h : SameBuild d d' root) (hUnits : SameUnits d d' root) :
    provide d' root = provide d root := by
  rw [provide, provide, findProjects_congr h]
  refine Traced.bind_congr_of_ok fun projects hProjects => ?_
  have hLibrary : Library.ofProjects d' root projects = Library.ofProjects d root projects := by
    refine List.foldl_ext _ _ _ fun l p hp => ?_
    have hDirectory := considered_of_mem_findProjects hProjects hp
    rw [Library.addProject, Library.addProject,
      Library.addFiles_congr (map_unitsOf_congr h hUnits hDirectory)]
  rw [hLibrary]

end CodeAtlas.Compilation
