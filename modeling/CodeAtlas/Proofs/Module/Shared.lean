import CodeAtlas.Proofs.Module.Found
import Mathlib

/-!
# Modules that projects share

The modules of a project are in the directories that are entered for it. A packaging file keeps a
directory out only directly below the one in which the names of the modules begin. Further down, and
for that directory itself, nobody looks.

* `exists_modulesOf`: where the modules of a project are.
* `apart_iff`: two projects share modules just if those of one begin in a directory that is entered
  for the other.
* `ownership`: projects have their modules to themselves if no directory that is entered for one of
  them, other than its own, has a packaging file.
-/

namespace CodeAtlas.Module

open CodeAtlas.Files (Entry Path Visit)
open CodeAtlas.Files.Entry (Leads Proper)

/-! ## Directories that are entered -/

/-- Names lead from a package to one that is entered along with it. -/
inductive InPackage : Entry → List String → Entry → Prop
  | here (e : Entry) : InPackage e [] e
  | down {e c d : Entry} {names : List String} :
      c ∈ e.children → c.name ≠ cacheDirectory → isPackage c = true → InPackage c names d →
      InPackage e (c.name :: names) d

/-- Names lead from the directory in which the modules of a project begin to one that is entered for
the project. -/
inductive Enters : Entry → List String → Entry → Prop
  | here (e : Entry) : Enters e [] e
  | package {e c d : Entry} {names : List String} :
      c ∈ e.children → isPackage c = true → c.name ∉ skippedDirectories → marker? c = none →
      InPackage c names d → Enters e (c.name :: names) d

section Entering

variable {e d d' : Entry} {names names' : List String}

theorem InPackage.leads (h : InPackage e names d) : e.Leads names d := by
  induction h with
  | here e => exact .here e
  | down hc _ _ _ ih => exact (Entry.leads_of_mem hc).trans ih

theorem InPackage.trans (h : InPackage e names d) (h' : InPackage d names' d') :
    InPackage e (names ++ names') d' := by
  induction h with
  | here e => exact h'
  | down hc hName hPackage _ ih => exact .down hc hName hPackage (ih h')

/-- On the way to a package all packages are entered. -/
theorem InPackage.above (h : InPackage e (names ++ names') d') : ∃ d, InPackage e names d := by
  induction names generalizing e with
  | nil => exact ⟨e, .here e⟩
  | cons n names ih =>
    cases h with
    | down hc hName hPackage hRest =>
      obtain ⟨d, hd⟩ := ih hRest
      exact ⟨d, .down hc hName hPackage hd⟩

theorem Enters.leads (h : Enters e names d) : e.Leads names d := by
  cases h with
  | here => exact .here _
  | package hc _ _ _ hRest => exact (Entry.leads_of_mem hc).trans hRest.leads

theorem Enters.above (h : Enters e (names ++ names') d') : ∃ d, Enters e names d := by
  cases names with
  | nil => exact ⟨e, .here e⟩
  | cons n names =>
    cases h with
    | package hc hPackage hName hMarker hRest =>
      obtain ⟨d, hd⟩ := hRest.above
      exact ⟨d, .package hc hPackage hName hMarker hd⟩

theorem cacheDirectory_skipped : cacheDirectory ∈ skippedDirectories := by decide

/-- Below the first name everything is entered that would be entered from there. -/
theorem Enters.trans (h : Enters e names d) (h' : Enters d names' d') :
    Enters e (names ++ names') d' := by
  cases h with
  | here => exact h'
  | package hc hPackage hName hMarker hRest =>
    refine .package hc hPackage hName hMarker (hRest.trans ?_)
    cases h' with
    | here => exact .here _
    | package hc' hPackage' hName' _ hRest' =>
      refine .down hc' (fun hCache => hName' ?_) hPackage' hRest'
      rw [hCache]
      exact cacheDirectory_skipped

end Entering

/-! ## Where modules are -/

/-- Is this the name of a file that is no module at the top of a project? -/
def isTool (name : String) : Bool := toolFiles.contains name || isTestFile name

section Modules

variable {path : List String} {e : Entry} {q : List String}

theorem isModuleFile_eq_false (h : isPackage e = true) : isModuleFile e = false := by
  rw [isPackage, Bool.and_eq_true] at h
  rw [isModuleFile, Entry.isFile_eq_false h.1, Bool.false_and]

theorem exists_partModules {package : String} : (∃ f ∈ partModules path package e, f.path = q) ↔
    (isModuleFile e = true ∧ q = path ++ [e.name]) ∨
      (e.name ≠ cacheDirectory ∧ isPackage e = true ∧
        ∃ f ∈ packageModules (path ++ [e.name]) (package ++ "." ++ e.name) e, f.path = q) := by
  rw [partModules]
  cases hFile : isModuleFile e with
  | true =>
    have hPackage : isPackage e ≠ true := fun h => by simp [isModuleFile_eq_false h] at hFile
    simp [hPackage, eq_comm]
  | false => cases isPackage e <;> by_cases hName : e.name = cacheDirectory <;> simp [hName]

theorem not_mem_of_inPackage {names : List String} {c d : Entry} (h : e.children = [])
    (hIn : InPackage e names d) : c ∉ d.children := by
  cases hIn with
  | here =>
    rw [h]
    exact List.not_mem_nil
  | down hc =>
    rw [h] at hc
    cases hc

theorem exists_mem_flatMap {α β : Type} {xs : List α} {g : α → List β} {P : β → Prop} :
    (∃ b ∈ xs.flatMap g, P b) ↔ ∃ a ∈ xs, ∃ b ∈ g a, P b := by
  simp only [List.mem_flatMap]
  constructor
  · rintro ⟨b, ⟨a, ha, hb⟩, h⟩
    exact ⟨a, ha, b, hb, h⟩
  · rintro ⟨a, ha, b, hb, h⟩
    exact ⟨b, ⟨a, ha, hb⟩, h⟩

theorem exists_packageModules {package : String} :
    (∃ f ∈ packageModules path package e, f.path = q) ↔
      ∃ names d c, InPackage e names d ∧ c ∈ d.children ∧ isModuleFile c = true ∧
        q = path ++ names ++ [c.name] := by
  induction e using Entry.inductionOn generalizing path package with
  | file n bytes =>
    refine iff_of_false (by simp [packageModules]) ?_
    rintro ⟨names, d, c, hIn, hc, -⟩
    exact not_mem_of_inPackage rfl hIn hc
  | broken n =>
    refine iff_of_false (by simp [packageModules]) ?_
    rintro ⟨names, d, c, hIn, hc, -⟩
    exact not_mem_of_inPackage rfl hIn hc
  | directory n cs ih =>
    have hParts : (∃ f ∈ packageModules path package (.directory n cs), f.path = q) ↔
        ∃ c ∈ cs, ∃ f ∈ partModules path package c, f.path = q := by
      rw [packageModules_directory, exists_mem_flatMap]
      simp only [(sortBy_perm _ cs).mem_iff]
    rw [hParts]
    constructor
    · rintro ⟨c, hc, hPart⟩
      obtain ⟨hFile, rfl⟩ | ⟨hName, hPackage, hBelow⟩ := exists_partModules.mp hPart
      · exact ⟨[], _, c, .here _, hc, hFile, by rw [List.append_nil]⟩
      · obtain ⟨names, d, c', hIn, hc', hFile, rfl⟩ := (ih c hc).mp hBelow
        exact ⟨c.name :: names, d, c', .down hc hName hPackage hIn, hc', hFile, by simp⟩
    · rintro ⟨names, d, c, hIn, hc, hFile, rfl⟩
      cases hIn with
      | here => exact ⟨c, hc, exists_partModules.mpr (.inl ⟨hFile, by rw [List.append_nil]⟩)⟩
      | @down _ c' _ names hc' hName hPackage hIn =>
        refine ⟨c', hc', exists_partModules.mpr (.inr ⟨hName, hPackage, ?_⟩)⟩
        exact (ih c' hc').mpr ⟨names, d, c, hIn, hc, hFile, by simp⟩

theorem exists_topModules : (∃ f ∈ topModules path e, f.path = q) ↔
    (isModuleFile e = true ∧ isTool e.name = false ∧ q = path ++ [e.name]) ∨
      (isPackage e = true ∧ e.name ∉ skippedDirectories ∧ marker? e = none ∧
        ∃ f ∈ packageModules (path ++ [e.name]) e.name e, f.path = q) := by
  rw [topModules, ← isTool]
  cases hFile : isModuleFile e with
  | true =>
    have hPackage : isPackage e ≠ true := fun h => by simp [isModuleFile_eq_false h] at hFile
    cases isTool e.name <;> simp [hPackage, eq_comm]
  | false =>
    cases isPackage e <;> by_cases hName : e.name ∈ skippedDirectories <;>
      cases marker? e <;> simp [hName]

/-- Where the modules of a project are. -/
theorem exists_modulesOf : (∃ f ∈ modulesOf path e, f.path = q) ↔
    ∃ names d c, Enters (sourceRoot path e).2 names d ∧ c ∈ d.children ∧ isModuleFile c = true ∧
      (names = [] → isTool c.name = false) ∧ q = (sourceRoot path e).1 ++ names ++ [c.name] := by
  rw [modulesOf]
  generalize sourceRoot path e = found
  obtain ⟨place, start⟩ := found
  dsimp only
  have hTops : (∃ f ∈ start.sortedChildren.flatMap (topModules place), f.path = q) ↔
      ∃ c ∈ start.children, ∃ f ∈ topModules place c, f.path = q := by
    rw [exists_mem_flatMap]
    simp only [Entry.sortedChildren, List.mem_mergeSort]
  rw [hTops]
  constructor
  · rintro ⟨c, hc, hTop⟩
    obtain ⟨hFile, hTool, rfl⟩ | ⟨hPackage, hName, hMarker, hBelow⟩ := exists_topModules.mp hTop
    · exact ⟨[], _, c, .here _, hc, hFile, fun _ => hTool, by rw [List.append_nil]⟩
    · obtain ⟨names, d, c', hIn, hc', hFile, rfl⟩ := exists_packageModules.mp hBelow
      exact ⟨c.name :: names, d, c', .package hc hPackage hName hMarker hIn, hc', hFile,
        fun hNil => absurd hNil (List.cons_ne_nil _ _), by simp⟩
  · rintro ⟨names, d, c, hEnters, hc, hFile, hTool, rfl⟩
    cases hEnters with
    | here => exact ⟨c, hc, exists_topModules.mpr (.inl ⟨hFile, hTool rfl, by rw [List.append_nil]⟩)⟩
    | @package c' _ names hc' hPackage hName hMarker hIn =>
      refine ⟨c', hc', exists_topModules.mpr (.inr ⟨hPackage, hName, hMarker, ?_⟩)⟩
      exact exists_packageModules.mpr ⟨names, d, c, hIn, hc, hFile, by simp⟩

end Modules

/-! ## Projects whose modules meet -/

section Sharing

variable {root : Path} {top : Entry} {p q : Project}

/-- The directory in which the modules of a project begin, and the way to it. -/
def sourceAt (root : Path) (top : Entry) (p : Project) : Option (List String × Entry) :=
  (top.descend? (placeOf root p)).map (sourceRoot (placeOf root p))

theorem sourceRoot_cases (path : List String) (e : Entry) : sourceRoot path e = (path, e) ∨
    ∃ c, e.child? sourceDirectory = some c ∧ sourceRoot path e = (path ++ [sourceDirectory], c) := by
  rw [sourceRoot]
  cases hChild : e.child? sourceDirectory with
  | none => exact .inl rfl
  | some c =>
    dsimp only
    split
    · exact .inr ⟨c, rfl, rfl⟩
    · exact .inl rfl

theorem leads_sourceAt {s : List String × Entry} (h : sourceAt root top p = some s) :
    top.Leads s.1 s.2 := by
  obtain ⟨e, he, rfl⟩ := Option.map_eq_some_iff.mp h
  have hLeads := Entry.leads_of_descend? he
  obtain hRoot | ⟨c, hChild, hRoot⟩ := sourceRoot_cases (placeOf root p) e
  · rw [hRoot]
    exact hLeads
  · rw [hRoot]
    exact hLeads.trans (Entry.leads_of_child? hChild)

theorem exists_filesOf {place : List String} : (∃ f ∈ filesOf root top p, f.path = place) ↔
    ∃ s names d c, sourceAt root top p = some s ∧ Enters s.2 names d ∧ c ∈ d.children ∧
      isModuleFile c = true ∧ (names = [] → isTool c.name = false) ∧
      place = s.1 ++ names ++ [c.name] := by
  rw [filesOf_eq, sourceAt]
  cases top.descend? (placeOf root p) with
  | none => simp
  | some e =>
    rw [Option.map_some, Option.map_some, Option.getD_some, exists_modulesOf]
    constructor
    · rintro ⟨names, d, c, h⟩
      exact ⟨_, names, d, c, rfl, h⟩
    · rintro ⟨s, names, d, c, hs, h⟩
      obtain rfl := Option.some.inj hs
      exact ⟨names, d, c, h⟩

/-- Two lists of modules have no file in common. -/
def Apart (xs ys : List ModuleFile) : Prop := ∀ f ∈ xs, ∀ g ∈ ys, f.path ≠ g.path

/-- The modules of the second project begin in a directory that is entered for the first. -/
def Reaches (root : Path) (top : Entry) (p q : Project) : Prop :=
  ∃ s t names, sourceAt root top p = some s ∧ sourceAt root top q = some t ∧
    t.1 = s.1 ++ names ∧ Enters s.2 names t.2

/-- Then all modules of the second are also of the first. -/
theorem Reaches.exists_file (h : Reaches root top p q) {g : ModuleFile}
    (hg : g ∈ filesOf root top q) : ∃ f ∈ filesOf root top p, f.path = g.path := by
  obtain ⟨s, t, names, hs, ht, hPlace, hEnters⟩ := h
  obtain ⟨t', names', d, c, ht', hBelow, hc, hFile, hTool, hPath⟩ := exists_filesOf.mp ⟨g, hg, rfl⟩
  obtain rfl := Option.some.inj (ht.symm.trans ht')
  refine exists_filesOf.mpr ⟨s, names ++ names', d, c, hs, hEnters.trans hBelow, hc, hFile, ?_, ?_⟩
  · exact fun hNil => hTool (List.append_eq_nil_iff.mp hNil).2
  · rw [hPath, hPlace, List.append_assoc s.1]

theorem eq_of_leads (hTop : top.Proper) {names : List String} {d d' : Entry}
    (h : top.Leads names d) (h' : top.Leads names d') : d = d' := by
  have hDistinct : top.Distinct := fun _ _ hLeads => (hTop.of_leads hLeads).nodup_children
  exact Option.some.inj
    ((hDistinct.descend?_of_leads h).symm.trans (hDistinct.descend?_of_leads h'))

/-- A directory that is entered on the way to another project's modules is that where they begin. -/
theorem reaches_of_enters (hTop : top.Proper) {s t : List String × Entry} {front rest : List String}
    {d : Entry} (hs : sourceAt root top p = some s) (ht : sourceAt root top q = some t)
    (hPlace : t.1 = s.1 ++ front) (hEnters : Enters s.2 (front ++ rest) d) :
    Reaches root top p q := by
  obtain ⟨d', hd'⟩ := hEnters.above
  have hLeads : top.Leads t.1 d' := hPlace ▸ (leads_sourceAt hs).trans hd'.leads
  obtain rfl := eq_of_leads hTop hLeads (leads_sourceAt ht)
  exact ⟨s, t, front, hs, ht, hPlace, hd'⟩

/-- Two projects have no module in common, unless the modules of one of them begin in a directory
that is entered for the other. -/
theorem apart_iff (hTop : top.Proper) : Apart (filesOf root top p) (filesOf root top q) ↔
    (Reaches root top p q → filesOf root top q = []) ∧
      (Reaches root top q p → filesOf root top p = []) := by
  constructor
  · intro hApart
    refine ⟨fun hReaches => ?_, fun hReaches => ?_⟩
    · refine List.eq_nil_iff_forall_not_mem.mpr fun g hg => ?_
      obtain ⟨f, hf, hEq⟩ := hReaches.exists_file hg
      exact hApart f hf g hg hEq
    · refine List.eq_nil_iff_forall_not_mem.mpr fun f hf => ?_
      obtain ⟨g, hg, hEq⟩ := hReaches.exists_file hf
      exact hApart f hf g hg hEq.symm
  · rintro ⟨hForth, hBack⟩ f hf g hg hEq
    obtain ⟨s, names, d, c, hs, hEnters, -, -, -, hPath⟩ := exists_filesOf.mp ⟨f, hf, rfl⟩
    obtain ⟨t, names', d', c', ht, hEnters', -, -, -, hPath'⟩ := exists_filesOf.mp ⟨g, hg, rfl⟩
    have hPlaces : s.1 ++ names = t.1 ++ names' :=
      (List.append_inj' (hPath.symm.trans (hEq.trans hPath')) rfl).1
    obtain ⟨front, hPlace, rfl⟩ | ⟨front, hPlace, rfl⟩ := List.append_eq_append_iff.mp hPlaces
    · rw [hForth (reaches_of_enters hTop hs ht hPlace hEnters)] at hg
      cases hg
    · rw [hBack (reaches_of_enters hTop ht hs hPlace hEnters')] at hf
      cases hf

/-- No directory that is entered for a project, other than its own, has a packaging file. -/
def Unmarked (root : Path) (top : Entry) (p : Project) : Prop :=
  ∀ s names d, sourceAt root top p = some s → Enters s.2 names d → (marker? d).isSome = true →
    s.1 ++ names = placeOf root p

theorem sourceAt_of_found (hTop : top.Proper) {names : List String} {e : Entry}
    (h : FoundAt root top p names) (hLeads : top.Leads names e) :
    sourceAt root top p = some (sourceRoot names e) := by
  have hDistinct : top.Distinct := fun _ _ hBelow => (hTop.of_leads hBelow).nodup_children
  rw [sourceAt, h.placeOf_eq, hDistinct.descend?_of_leads hLeads]
  rfl

theorem FoundAt.exists_leads {names : List String} (h : FoundAt root top p names) :
    ∃ e, top.Leads names e ∧ (marker? e).isSome = true := by
  obtain ⟨e, marker, hLeads, -, hMarker, -⟩ := h.marked
  exact ⟨e, hLeads, Option.isSome_of_eq_some hMarker⟩

theorem not_reaches (hTop : top.Proper) {names names' : List String}
    (hp : FoundAt root top p names) (hq : FoundAt root top q names') (hne : names ≠ names')
    (hpOwn : Unmarked root top p) (hqOwn : Unmarked root top q) : ¬ Reaches root top p q := by
  rintro ⟨s, t, way, hs, ht, hPlace, hEnters⟩
  obtain ⟨e, hLeads, hMarked⟩ := hq.exists_leads
  obtain rfl := Option.some.inj (ht.symm.trans (sourceAt_of_found hTop hq hLeads))
  have hOwn : ∀ way d, Enters s.2 way d → (marker? d).isSome = true → s.1 ++ way = names :=
    fun way d hd hMarked => hp.placeOf_eq ▸ hpOwn s way d hs hd hMarked
  obtain hRoot | ⟨c, hChild, hRoot⟩ := sourceRoot_cases names' e
  · -- the modules of the second project begin in its own directory
    rw [hRoot] at hPlace hEnters
    exact hne ((hOwn way e hEnters hMarked).symm.trans hPlace.symm)
  · rw [hRoot] at hPlace hEnters
    dsimp only at hPlace hEnters
    obtain rfl | ⟨front, n, rfl⟩ := List.eq_nil_or_concat' way
    · -- the modules of both begin in the same directory
      obtain ⟨e', hLeads', hMarked'⟩ := hp.exists_leads
      obtain rfl := Option.some.inj (hs.symm.trans (sourceAt_of_found hTop hp hLeads'))
      rw [List.append_nil] at hPlace
      obtain hRoot' | ⟨c', -, hRoot'⟩ := sourceRoot_cases names e'
      · rw [hRoot'] at hEnters
        cases hEnters
        have hSame := hqOwn _ [] e' ht (by rw [hRoot]; exact .here _) hMarked'
        rw [hRoot, hq.placeOf_eq] at hSame
        simp at hSame
      · rw [hRoot'] at hPlace
        exact hne (List.append_inj' hPlace rfl).1.symm
    · -- the directory of the second project is entered on the way to its modules
      rw [← List.append_assoc] at hPlace
      obtain ⟨hFront, -⟩ := List.append_inj' hPlace rfl
      obtain ⟨d, hd⟩ := hEnters.above
      have hAt : top.Leads names' d := hFront ▸ (leads_sourceAt hs).trans hd.leads
      obtain rfl := eq_of_leads hTop hAt hLeads
      exact hne ((hOwn front d hd hMarked).symm.trans hFront.symm)

end Sharing

/-- Which modules the projects of a repository share. -/
structure Ownership (root : Path) (top : Entry) (ps : List Project) : Prop where
  /-- Projects have different directories. -/
  directories : (ps.map (·.directory)).Nodup
  /-- Projects share modules just if the modules of one of them, of which there are some, begin in a
  directory that is entered for the other. -/
  apart_iff : ∀ p ∈ ps, ∀ q ∈ ps, Apart (filesOf root top p) (filesOf root top q) ↔
    (Reaches root top p q → filesOf root top q = []) ∧
      (Reaches root top q p → filesOf root top p = [])
  /-- There is nothing to share if no directory that is entered for a project, other than its own,
  has a packaging file. -/
  apart : (∀ p ∈ ps, Unmarked root top p) →
    ps.Pairwise fun p q => Apart (filesOf root top p) (filesOf root top q)

theorem ownership {root : Path} {top : Entry} {ps : List Project} (hTop : top.Proper)
    (h : (findProjects root top).result = .ok ps) : Ownership root top ps where
  directories := nodup_directories hTop h
  apart_iff _ _ _ _ := Module.apart_iff hTop
  apart := by
    intro hUnmarked
    have hFound : ps.Pairwise fun p q => ∃ names names',
        FoundAt root top p names ∧ FoundAt root top q names' ∧ names ≠ names' :=
      pairwise_found hTop h fun p q names names' hp hq hne => ⟨names, names', hp, hq, hne⟩
    refine hFound.imp_of_mem fun {p q} hpMem hqMem ⟨names, names', hp, hq, hne⟩ => ?_
    have hpOwn := hUnmarked p hpMem
    have hqOwn := hUnmarked q hqMem
    refine (Module.apart_iff hTop).mpr ⟨fun hReaches => ?_, fun hReaches => ?_⟩
    · exact absurd hReaches (not_reaches hTop hp hq hne hpOwn hqOwn)
    · exact absurd hReaches (not_reaches hTop hq hp hne.symm hqOwn hpOwn)

/-- A project in a directory of another project's package. -/
def innerTop (files : List Entry) : Entry := .directory "sub" (.file "setup.py" [] :: files)

def packageTop (files : List Entry) : Entry :=
  .directory "pkg" [.file "__init__.py" [], innerTop files]

def nestedTop (files : List Entry) : Entry :=
  .directory "repo" [.file "setup.py" [], packageTop files]

def outerProject : Project := ⟨"repo", "setup.py", "python", ⟨"", ["repo"]⟩⟩

def innerProject : Project := ⟨"sub", "pkg/sub/setup.py", "python", ⟨"", ["repo", "pkg", "sub"]⟩⟩

theorem proper_nestedTop : (nestedTop []).Proper := by
  have hInner : (innerTop []).Proper :=
    .directory (by decide) (by decide) (List.forall_mem_singleton.mpr (.file _ _))
  have hPackage : (packageTop []).Proper := .directory (by decide) (by decide)
    (List.forall_mem_cons.mpr ⟨.file _ _, List.forall_mem_singleton.mpr hInner⟩)
  exact .directory (by decide) (by decide)
    (List.forall_mem_cons.mpr ⟨.file _ _, List.forall_mem_singleton.mpr hPackage⟩)

/-- A directory that is no package is not entered for the project around it. -/
theorem unmarked_nestedTop : ∀ p ∈ [outerProject, innerProject],
    Unmarked ⟨"", ["repo"]⟩ (nestedTop []) p := by
  have hOuter : sourceAt ⟨"", ["repo"]⟩ (nestedTop []) outerProject = some ([], nestedTop []) := rfl
  have hInner : sourceAt ⟨"", ["repo"]⟩ (nestedTop []) innerProject =
      some (["pkg", "sub"], innerTop []) := rfl
  refine List.forall_mem_cons.mpr ⟨?_, List.forall_mem_singleton.mpr ?_⟩
  · intro s names d hs hEnters hMarked
    obtain rfl := Option.some.inj (hOuter.symm.trans hs)
    cases hEnters with
    | here => rfl
    | package hc hPackage _ hMarker hRest =>
      obtain rfl | rfl := List.mem_pair.mp hc
      · cases hPackage
      · cases hRest with
        | here =>
          rw [hMarker] at hMarked
          cases hMarked
        | down hc' _ hPackage' =>
          obtain rfl | rfl := List.mem_pair.mp hc'
          · cases hPackage'
          · cases hPackage'
  · intro s names d hs hEnters hMarked
    obtain rfl := Option.some.inj (hInner.symm.trans hs)
    cases hEnters with
    | here => rfl
    | package hc hPackage =>
      obtain rfl := List.mem_singleton.mp hc
      cases hPackage

theorem ownership_nestedTop :
    Ownership ⟨"", ["repo"]⟩ (nestedTop []) [outerProject, innerProject] ∧
      ∀ p ∈ [outerProject, innerProject], Unmarked ⟨"", ["repo"]⟩ (nestedTop []) p := by
  have hFound : (((nestedTop []).walk entered []).mapM (projectAt ⟨"", ["repo"]⟩)).result =
      .ok [some outerProject, none, some innerProject] := by cbv
  exact ⟨ownership proper_nestedTop (result_findProjects hFound rfl), unmarked_nestedTop⟩

/-- The modules of a package belong to two projects, although it has a packaging file of its own. -/
theorem not_apart_nestedTop :
    (findProjects ⟨"", ["repo"]⟩ (nestedTop [.file "__init__.py" []])).result =
      .ok [outerProject, innerProject] ∧
      outerProject.directory ≠ innerProject.directory ∧
      ¬ Apart (filesOf ⟨"", ["repo"]⟩ (nestedTop [.file "__init__.py" []]) outerProject)
        (filesOf ⟨"", ["repo"]⟩ (nestedTop [.file "__init__.py" []]) innerProject) := by
  have hFound : (((nestedTop [.file "__init__.py" []]).walk entered []).mapM
      (projectAt ⟨"", ["repo"]⟩)).result = .ok [some outerProject, none, some innerProject] := by cbv
  have hPackage : InPackage (packageTop [.file "__init__.py" []]) ["sub"]
      (innerTop [.file "__init__.py" []]) :=
    .down (c := innerTop [.file "__init__.py" []]) (.tail _ (.head _)) (by decide) (by decide)
      (.here _)
  have hEnters : Enters (nestedTop [.file "__init__.py" []]) ["pkg", "sub"]
      (innerTop [.file "__init__.py" []]) :=
    .package (c := packageTop [.file "__init__.py" []]) (.tail _ (.head _)) (by decide) (by decide)
      (by decide) hPackage
  have hOuter : sourceAt ⟨"", ["repo"]⟩ (nestedTop [.file "__init__.py" []]) outerProject =
      some ([], nestedTop [.file "__init__.py" []]) := rfl
  have hInner : sourceAt ⟨"", ["repo"]⟩ (nestedTop [.file "__init__.py" []]) innerProject =
      some (["pkg", "sub"], innerTop [.file "__init__.py" []]) := rfl
  have hReaches : Reaches ⟨"", ["repo"]⟩ (nestedTop [.file "__init__.py" []]) outerProject
      innerProject := ⟨_, _, _, hOuter, hInner, rfl, hEnters⟩
  obtain ⟨g, hg, -⟩ := exists_filesOf.mpr ⟨_, [], _, .file "__init__.py" [], hInner, .here _,
    .tail _ (.head _), by decide, fun _ => by decide, rfl⟩
  obtain ⟨f, hf, hEq⟩ := hReaches.exists_file hg
  exact ⟨result_findProjects hFound rfl, by decide, fun hApart => hApart f hf g hg hEq⟩

end CodeAtlas.Module
