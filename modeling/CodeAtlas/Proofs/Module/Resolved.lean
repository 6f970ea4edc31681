import CodeAtlas.Proofs.Module.Found
import CodeAtlas.Proofs.Module.Targets
import Mathlib

/-!
# What calls in a repository refer to

The modules from which calls are answered are those whose declarations the provider lists, project by
project.

* `Library.sources_ofProjects`: every module that has been read belongs to a project.
* `landing_resolve`: a target inside the modules is listed among the declarations of a project, or it
  is a constructor that a class has without declaring it.
-/

namespace CodeAtlas.Module

open CodeAtlas.Files (Entry Path)

namespace Library

variable {l : Library}

/-! ## Reading -/

/-- Modules are at the places of their numbers, and names lead to modules that have been read. -/
structure Sound (l : Library) : Prop where
  numbers : l.sources.map (·.number) = List.range l.sources.length
  read : ∀ s ∈ l.sources, s.Read
  table : ∀ x ∈ l.table, x.2 ∈ l.sources

theorem sound_empty : Sound empty where
  numbers := rfl
  read s h := by cases h
  table x h := by cases h

theorem sources_addSource (l : Library) (s : Source) :
    (l.addSource s).sources = l.sources ++ [s] := by
  rw [addSource]
  split <;> rfl

theorem Sound.addSource (h : l.Sound) {s : Source} (hNumber : s.number = l.sources.length)
    (hRead : s.Read) : (l.addSource s).Sound where
  numbers := by
    rw [sources_addSource, List.map_append, h.numbers, List.map_singleton, hNumber,
      List.length_append, List.length_singleton, List.range_succ]
  read s' hs' := by
    rw [sources_addSource] at hs'
    rcases List.mem_append.mp hs' with hs' | hs'
    · exact h.read s' hs'
    · obtain rfl := List.mem_singleton.mp hs'
      exact hRead
  table x hx := by
    rw [sources_addSource]
    rw [Library.addSource] at hx
    split at hx
    · exact List.mem_append_left _ (h.table x hx)
    · rcases List.mem_append.mp hx with hx | hx
      · exact List.mem_append_left _ (h.table x hx)
      · obtain rfl := List.mem_singleton.mp hx
        exact List.mem_append_right _ (List.mem_singleton_self s)

theorem sources_addFile (l : Library) (f : ModuleFile) :
    (l.addFile f).1.sources = l.sources ++ (l.addFile f).2.toList := by
  rw [addFile]
  dsimp only
  split
  · exact (List.append_nil _).symm
  · exact sources_addSource _ _

theorem sources_addFiles (l : Library) (files : List ModuleFile) :
    (l.addFiles files).1.sources = l.sources ++ (l.addFiles files).2 := by
  induction files generalizing l with
  | nil => exact (List.append_nil _).symm
  | cons f files ih =>
    rw [addFiles]
    dsimp only
    rw [ih, sources_addFile, List.append_assoc]

theorem byProject_addFile (l : Library) (f : ModuleFile) :
    (l.addFile f).1.byProject = l.byProject := by
  rw [addFile]
  dsimp only
  split
  · rfl
  · rw [addSource]
    split <;> rfl

theorem byProject_addFiles (l : Library) (files : List ModuleFile) :
    (l.addFiles files).1.byProject = l.byProject := by
  induction files generalizing l with
  | nil => rfl
  | cons f files ih =>
    rw [addFiles]
    dsimp only
    rw [ih, byProject_addFile]

theorem Sound.addFile (h : l.Sound) (f : ModuleFile) : (l.addFile f).1.Sound := by
  rw [Library.addFile]
  dsimp only
  split
  · exact ⟨h.numbers, h.read, h.table⟩
  · exact h.addSource rfl ⟨_, _, _, _, rfl⟩

theorem Sound.addFiles (h : l.Sound) (files : List ModuleFile) : (l.addFiles files).1.Sound := by
  induction files generalizing l with
  | nil => exact h
  | cons f files ih =>
    rw [Library.addFiles]
    exact ih (h.addFile f)

theorem Sound.addProject (h : l.Sound) (p : ProjectRef) (files : List ModuleFile) :
    (l.addProject p files).Sound :=
  ⟨(h.addFiles files).numbers, (h.addFiles files).read, (h.addFiles files).table⟩

/-! ## Projects -/

theorem sources_addProject (l : Library) (p : Project) (files : List ModuleFile) :
    (l.addProject p.ref files).sources = l.sources ++ (l.addProject p.ref files).modules p := by
  have hModules : (l.addProject p.ref files).modules p = (l.addFiles files).2 := by
    rw [modules, addProject, Assoc.lookup_put_self]
    rfl
  rw [hModules]
  exact sources_addFiles l files

theorem modules_addProject_of_ne {p q : Project} (h : q.ref ≠ p.ref) (l : Library)
    (files : List ModuleFile) : (l.addProject p.ref files).modules q = l.modules q := by
  rw [modules, modules, addProject, Assoc.lookup_put_of_ne h, byProject_addFiles]

variable (root : Path) (top : Entry)

/-- Reads the modules of further projects. -/
def addProjects (l : Library) (ps : List Project) : Library :=
  ps.foldl (fun l p => l.addProject p.ref (filesOf root top p)) l

variable {root top}

theorem Sound.addProjects (h : l.Sound) (ps : List Project) : (l.addProjects root top ps).Sound := by
  induction ps generalizing l with
  | nil => exact h
  | cons p ps ih => exact ih (h.addProject _ _)

theorem modules_addProjects_of_not_mem {q : Project} {ps : List Project} (h : q.ref ∉ ps.map (·.ref))
    (l : Library) : (l.addProjects root top ps).modules q = l.modules q := by
  induction ps generalizing l with
  | nil => rfl
  | cons p ps ih =>
    rw [List.map_cons, List.mem_cons, not_or] at h
    exact (ih h.2 _).trans (modules_addProject_of_ne h.1 l _)

theorem sources_addProjects {ps : List Project} (h : (ps.map (·.ref)).Nodup) (l : Library) :
    (l.addProjects root top ps).sources =
      l.sources ++ ps.flatMap (l.addProjects root top ps).modules := by
  induction ps generalizing l with
  | nil => exact (List.append_nil _).symm
  | cons p ps ih =>
    obtain ⟨hNew, hRest⟩ := List.nodup_cons.mp h
    have hOwn : ((l.addProject p.ref (filesOf root top p)).addProjects root top ps).modules p =
        (l.addProject p.ref (filesOf root top p)).modules p :=
      modules_addProjects_of_not_mem hNew _
    refine (ih hRest _).trans ?_
    rw [sources_addProject, ← hOwn, List.append_assoc]
    rfl

/-- The modules of the projects, one project after another, are all that have been read. -/
theorem sources_ofProjects {ps : List Project} (h : (ps.map (·.ref)).Nodup) :
    (ofProjects root top ps).sources = ps.flatMap (ofProjects root top ps).modules :=
  sources_addProjects h empty

theorem sound_ofProjects (ps : List Project) : (ofProjects root top ps).Sound :=
  sound_empty.addProjects ps

end Library

/-! ## Targets -/

/-- The provider lists a function among the declarations of a project. -/
def Lists (pr : Provider (Option FunctionRef) CallRef) (target : Target) : Prop :=
  ∃ p ∈ itemsOf pr.projects, target ∈ itemsOf (pr.declarations p)

/-- Where a call can lead inside the modules of a library. -/
structure Landing (pr : Provider (Option FunctionRef) CallRef) (l : Library) (target : Target) :
    Prop where
  /-- The target is listed among the declarations of a project, or it is a constructor that a class of
  the modules has without declaring it, with none or a listed one that it inherits. -/
  listed : Lists pr target ∨ ∃ c count inherited, c.Known l.sources ∧ c.methods initName = [] ∧
    target = implicitConstructor c count inherited ∧
    ∀ s f, inherited = some (s, f) → Lists pr (targetOf s f)
  /-- It stands in one of the modules. -/
  file : ∃ s ∈ l.sources, target.file = some s.path
  /-- Its function is one of the modules, and not one that signatures hide. -/
  shown : ∀ r, target.handle = some r → ∃ k, l.caller? r = some k ∧
    k.source.hasStubs k.function.number = false

section Answering

variable {root : Path} {top : Entry} {ps : List Project} {l : Library}

theorem lists_targetOf (hSources : l.sources = ps.flatMap l.modules) {s : Source} (hs : s ∈ l.sources)
    {f : Function} (hf : f ∈ s.visible) : Lists (l.provider ps) (targetOf s f) := by
  rw [hSources] at hs
  obtain ⟨p, hp, hs⟩ := List.mem_flatMap.mp hs
  exact ⟨p, hp, List.mem_flatMap.mpr ⟨s, hs, List.mem_map_of_mem hf⟩⟩

theorem caller?_of_visible (h : l.Sound) {s : Source} (hs : s ∈ l.sources) {f : Function}
    (hf : f ∈ s.visible) : l.caller? ⟨s.number, f.number⟩ = some ⟨s, f⟩ ∧
      s.hasStubs f.number = false := by
  obtain ⟨hMem, hShown⟩ := List.mem_filter.mp hf
  have hSource : l.sources[s.number]? = some s := getElem?_of_map_eq_range h.numbers hs
  have hFunction : s.function? f.number = some f := (h.read s hs).sound.getElem?_number hMem
  refine ⟨?_, by simpa using hShown⟩
  rw [Library.caller?, hSource, Option.bind_some, hFunction]
  rfl

theorem landing_of_lands (h : l.Sound) (hSources : l.sources = ps.flatMap l.modules)
    {target : Target} (hLands : Lands l.sources target) : Landing (l.provider ps) l target := by
  cases hLands with
  | @declared s f hs hf =>
    refine ⟨.inl (lists_targetOf hSources hs hf), ⟨s, hs, rfl⟩, ?_⟩
    rintro r ⟨⟩
    exact ⟨_, caller?_of_visible h hs hf⟩
  | @implicit c count inherited hc hNone hInherited =>
    refine ⟨.inr ⟨c, count, inherited, hc, hNone, rfl, fun s f hEq => ?_⟩, ⟨c.source, hc.1, rfl⟩, ?_⟩
    · obtain ⟨hs, hf⟩ := hInherited s f hEq
      exact lists_targetOf hSources hs hf
    · intro r hr
      obtain ⟨⟨s, f⟩, hEq, rfl⟩ := Option.map_eq_some_iff.mp hr
      obtain ⟨hs, hf⟩ := hInherited s f hEq
      exact ⟨_, caller?_of_visible h hs hf⟩

theorem landing_resolve {pr : Provider (Option FunctionRef) CallRef} (hTop : top.Proper)
    (h : (provide root top).result = .ok pr) {call : CallSite CallRef} {target : Target}
    (hResolve : pr.resolve call = .ok (some target)) (hIn : target.inSource = true) :
    Landing pr (Library.ofProjects root top (itemsOf pr.projects)) target := by
  obtain ⟨ps, hps, hDone⟩ := Traced.ok_of_bind h
  obtain rfl := Except.ok.inj hDone
  have hSound : (Library.ofProjects root top ps).Sound := Library.sound_ofProjects ps
  refine landing_of_lands hSound (Library.sources_ofProjects (nodup_refs hTop hps)) ?_
  have hCall : (Library.ofProjects root top ps).resolve call = .ok (some target) := hResolve
  rw [Library.resolve] at hCall
  split at hCall
  · rename_i caller hCaller
    obtain ⟨s, hs, hFunction⟩ := Option.bind_eq_some_iff.mp hCaller
    obtain ⟨f, -, rfl⟩ := Option.map_eq_some_iff.mp hFunction
    exact Caller.answer_resolve hSound.table hSound.read (List.mem_of_getElem? hs) _ _ hCall hIn
  · cases hCall

end Answering

/-! ### A repository with one module -/

def echoProject : Project := ⟨"repo", "setup.py", "python", ⟨"", ["repo"]⟩⟩

def soleFile (content : List UInt8) : Entry := .file "m.py" content

/-- A repository of one project with one module. -/
def soleTop (content : List UInt8) : Entry :=
  .directory "repo" [.file "setup.py" [], .directory "src" [soleFile content]]

def soleSource (body : List Stmt) : Source := sourceOf 0 "m" "src/m.py" body

def soleLibrary (body : List Stmt) : Library :=
  ⟨[soleSource body], [("m", soleSource body)], [(echoProject.ref, [soleSource body])], []⟩

section Sole

variable (content : List UInt8)

theorem proper_soleTop : (soleTop content).Proper := by
  have hFile : '/' ∉ "m.py".toList := by decide
  have hNames : ["setup.py", "src"].Nodup := by decide
  have hSetup : '/' ∉ "setup.py".toList := by decide
  have hFolder : '/' ∉ "src".toList := by decide
  have hSource : (Entry.directory "src" [soleFile content]).Proper :=
    .directory (List.nodup_singleton _) (List.forall_mem_singleton.mpr hFile)
      (List.forall_mem_singleton.mpr (.file _ _))
  exact .directory hNames
    (List.forall_mem_cons.mpr ⟨hSetup, List.forall_mem_singleton.mpr hFolder⟩)
    (List.forall_mem_cons.mpr ⟨.file _ _, List.forall_mem_singleton.mpr hSource⟩)

theorem modules_sole (path : List String) :
    (Entry.directory "src" [soleFile content]).sortedChildren.flatMap (topModules path) =
      [⟨path ++ ["m.py"], "m", content⟩] := by
  have hSorted : (Entry.directory "src" [soleFile content]).sortedChildren = [soleFile content] :=
    List.mergeSort_singleton _
  have hFile : isModuleFile (soleFile content) = true := by
    have hSuffix : Files.suffix "m.py" = ".py" := by decide
    exact decide_eq_true hSuffix
  have hPlain : toolFiles.contains "m.py" = false ∧ isTestFile "m.py" = false := by decide
  have hStem : Files.stem "m.py" = "m" := by decide
  have hName : (soleFile content).name = "m.py" := rfl
  rw [hSorted, List.flatMap_singleton, topModules, hFile, hName, hPlain.1, hPlain.2, hStem]
  rfl

variable {content} {body : List Stmt}

theorem ofProjects_soleTop (h : Library.readFile ⟨["src", "m.py"], "m", content⟩ = some body) :
    Library.ofProjects ⟨"", ["repo"]⟩ (soleTop content) [echoProject] = soleLibrary body := by
  have hFiles : filesOf ⟨"", ["repo"]⟩ (soleTop content) echoProject =
      [⟨["src", "m.py"], "m", content⟩] := modules_sole content ["src"]
  rw [Library.ofProjects, List.foldl_cons, List.foldl_nil, hFiles, Library.addProject,
    Library.addFiles, Library.addFile, h]
  rfl

theorem provide_soleTop (h : Library.readFile ⟨["src", "m.py"], "m", content⟩ = some body) :
    (provide ⟨"", ["repo"]⟩ (soleTop content)).result =
      .ok ((soleLibrary body).provider [echoProject]) := by
  have hFound : (((soleTop content).walk entered []).mapM (projectAt ⟨"", ["repo"]⟩)).result =
      .ok [some echoProject, none] := by cbv
  have hProvide := Traced.result_bind_of_ok (result_findProjects hFound rfl) fun projects =>
    (pure ((Library.ofProjects ⟨"", ["repo"]⟩ (soleTop content) projects).provider projects) : Traced _)
  have hLibrary : Library.ofProjects ⟨"", ["repo"]⟩ (soleTop content) ([some echoProject, none].filterMap id) =
      soleLibrary body := ofProjects_soleTop h
  rw [hLibrary] at hProvide
  exact hProvide

end Sole

/-! ### A function that calls itself -/

def echoParams : Params := ⟨[], [], none, [], [], none, []⟩

def echoBody : List Stmt := [.expr 2 (.call 2 (.name "f" false) [] [])]

def echoStmt : Stmt := .function 1 "f" echoParams echoBody [] none

def echoSource : Source := sourceOf 0 "m" "src/m.py" [echoStmt]

def echoFunction : Function := functionOf 0 none 1 "f" echoParams echoBody [] (.stmt echoStmt)

def echoFile : Entry := .file "m.py" (Text.encode "def f():\n f()\n")

def echoTop : Entry := .directory "repo" [.file "setup.py" [], .directory "src" [echoFile]]

def echoCall : CallSite CallRef := ⟨"f", 0, some 2, ⟨⟨0, 0⟩, ⟨2, .name "f" false, [], []⟩⟩⟩

theorem proper_echoTop : echoTop.Proper := proper_soleTop _

theorem modules_echo (path : List String) :
    (Entry.directory "src" [echoFile]).sortedChildren.flatMap (topModules path) =
      [⟨path ++ ["m.py"], "m", Text.encode "def f():\n f()\n"⟩] := modules_sole _ path

theorem readFile_echo :
    Library.readFile ⟨["src", "m.py"], "m", Text.encode "def f():\n f()\n"⟩ = some [echoStmt] := by
  cbv

theorem ofProjects_echoTop : Library.ofProjects ⟨"", ["repo"]⟩ echoTop [echoProject] =
    ⟨[echoSource], [("m", echoSource)], [(echoProject.ref, [echoSource])], []⟩ :=
  ofProjects_soleTop readFile_echo

theorem resolve_echoCall : (Library.ofProjects ⟨"", ["repo"]⟩ echoTop [echoProject]).resolve echoCall =
    .ok (some (targetOf echoSource echoFunction)) := by
  have hHead : (Caller.mk echoSource echoFunction).qualifyHead true "f" = some "m.f" := by cbv
  have hCaller : (Library.ofProjects ⟨"", ["repo"]⟩ echoTop [echoProject]).caller?
      echoCall.handle.caller = some ⟨echoSource, echoFunction⟩ := by
    rw [ofProjects_echoTop]
    rfl
  rw [Library.resolve, hCaller, ofProjects_echoTop]
  dsimp only
  rw [Caller.resolve]
  dsimp only [echoCall]
  rw [hHead]
  rfl

theorem landing_echoCall : ∃ pr, (provide ⟨"", ["repo"]⟩ echoTop).result = .ok pr ∧
    pr.resolve echoCall = .ok (some (targetOf echoSource echoFunction)) ∧
    Landing pr (Library.ofProjects ⟨"", ["repo"]⟩ echoTop (itemsOf pr.projects))
      (targetOf echoSource echoFunction) := by
  have hFound : ((echoTop.walk entered []).mapM (projectAt ⟨"", ["repo"]⟩)).result =
      .ok [some echoProject, none] := by cbv
  have hProvide := Traced.result_bind_of_ok (result_findProjects hFound rfl) fun projects =>
    (pure ((Library.ofProjects ⟨"", ["repo"]⟩ echoTop projects).provider projects) : Traced _)
  exact ⟨_, hProvide, resolve_echoCall, landing_resolve proper_echoTop hProvide resolve_echoCall rfl⟩

end CodeAtlas.Module
