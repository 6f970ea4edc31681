import CodeAtlas.Detection
import CodeAtlas.Proofs.Failing
import CodeAtlas.Proofs.Module.Targets

/-!
# Failures of the providers of a repository

The providers that are found for a repository fail in order, and looking for them fails in no way that
is this tool's own.

* `Module.failsOnly_resolve`, `Compilation.failsOnly_findProjects`: what answers and the search for
  projects can fail with, one lemma for each step.
* `failsOnly_detect`, `orderly_detect`: so for all providers of a repository.
* `Tree.failsOnly_scan`: the same for its file tree.
-/

namespace CodeAtlas

open Failure (Foreign Tolerable)
open Files (Disk Entry Path)

variable {ι κ μ σ : Type}

/-! ## Providers side by side -/

theorem Provider.Orderly.embed {p : Provider ι κ} (h : p.Orderly) (method : ι → μ)
    (method? : μ → Option ι) (call : κ → σ) (call? : σ → Option κ) :
    (p.embed method method? call call?).Orderly where
  projects := h.projects
  declarations project := (h.declarations project).map _
  callSites m := by
    rw [Provider.embed]
    dsimp only
    split
    · exact (h.callSites _).map _
    · exact .ok []
  resolve c := by
    rw [Provider.embed]
    dsimp only
    split
    · exact (h.resolve _).map _
    · exact .ok none
  entrypoints := h.entrypoints
  commands := h.commands
  envLookups := h.envLookups
  literals := h.literals

/-! ## Modules -/

namespace Module

theorem failsOnly_memberOfTable (v : Option Toml.Value) (key : String) :
    FailsOnly Foreign (memberOfTable v key) := by
  rw [memberOfTable.eq_def]
  split
  · exact .ok none
  · exact .ok _
  · exact .error rfl

theorem failsOnly_namedIn (t : Toml.Table) : FailsOnly Foreign (namedIn t) := by
  refine .bind (failsOnly_memberOfTable _ _) fun found _ => ?_
  split
  · exact .ok _
  · refine .bind (failsOnly_memberOfTable _ _) fun tool _ => ?_
    exact .bind (failsOnly_memberOfTable _ _) fun _ _ => .ok _

theorem failsOnly_readName (v : Toml.Value) : FailsOnly Foreign (readName v) := by
  rw [readName.eq_def]
  split
  · exact .ok _
  · exact .error rfl
  · exact .error rfl

theorem failsOnly_nameFrom (directory : Path) (project : Entry) (file : String) :
    FailsOnly Foreign (nameFrom directory project file).result := by
  rw [nameFrom]
  split
  · exact .ok none
  · split
    · exact .ok none
    · exact .ok none
    · refine Traced.failsOnly_bind (failsOnly_namedIn _) fun named _ => ?_
      cases named with
      | none => exact .ok none
      | some v => exact Traced.failsOnly_bind (failsOnly_readName v) fun _ _ => .ok _

theorem failsOnly_projectName (directory : Path) (project : Entry) :
    FailsOnly Foreign (projectName directory project).result := by
  refine Traced.failsOnly_bind (failsOnly_nameFrom _ _ _) fun first _ => ?_
  cases first with
  | some name => exact .ok name
  | none =>
    refine Traced.failsOnly_bind (failsOnly_nameFrom _ _ _) fun second _ => ?_
    cases second <;> exact .ok _

theorem failsOnly_findProjects (root : Path) (top : Entry) :
    FailsOnly Foreign (findProjects root top).result := by
  refine Traced.failsOnly_bind (Traced.failsOnly_mapM fun v _ => ?_) fun found _ => ?_
  · rw [projectAt]
    split
    · exact .ok none
    · exact Traced.failsOnly_bind (failsOnly_projectName _ _) fun _ _ => .ok _
  · dsimp only
    split <;> exact .ok _

theorem failsOnly_fieldCount (c : Class) : FailsOnly Foreign c.fieldCount := by
  refine .foldlM (fun count s _ => ?_) 0
  split
  · split
    · exact .ok _
    · exact .error rfl
  · exact .ok _

theorem failsOnly_constructorOf (t : Table) (c : ClassRef) (n : Nat) :
    FailsOnly Foreign (constructorOf t c n) := by
  rw [constructorOf]
  split
  · exact .ok _
  · dsimp only
    split
    · exact .bind (failsOnly_fieldCount c.cls) fun _ _ => .ok _
    · exact .ok _

theorem failsOnly_methodOf (t : Table) (c : ClassRef) (name : String) (n : Nat) :
    FailsOnly Foreign (methodOf t c name n) := by
  rw [methodOf]
  split
  · exact failsOnly_constructorOf t c n
  · split <;> exact .ok _

theorem failsOnly_inheritedMethod (t : Table) (c : ClassRef) (name : String) (n : Nat) :
    FailsOnly Foreign (inheritedMethod t c name n) := by
  rw [inheritedMethod]
  split
  · exact .ok _
  · split
    · exact failsOnly_constructorOf t _ n
    · exact .ok _

theorem failsOnly_memberOf (t : Table) (c : ClassRef) (names : List String) (n : Nat) :
    FailsOnly Foreign (memberOf t c names n) := by
  rw [memberOf]
  split
  · exact failsOnly_constructorOf t c n
  · split
    · exact .ok none
    · split
      · exact failsOnly_constructorOf t _ n
      · exact failsOnly_methodOf t _ _ n

theorem failsOnly_resolveNameWithin (t : Table) (n hops : Nat) (qualified : String) :
    FailsOnly Foreign (resolveNameWithin t n hops qualified) := by
  fun_induction resolveNameWithin t n hops qualified with
  | case4 => exact failsOnly_memberOf t _ _ n
  | case5 => assumption
  | _ => exact .ok _

theorem failsOnly_dottedTarget (t : Table) (c : Caller) (func : Expr) (n : Nat) :
    FailsOnly Foreign (c.dottedTarget t func n) := by
  rw [Caller.dottedTarget]
  split
  · exact .ok none
  · split
    · exact failsOnly_resolveNameWithin t n maxHops _
    · exact .ok none

theorem failsOnly_resolve (t : Table) (c : Caller) (call : Call) :
    FailsOnly Foreign (c.resolve t call) := by
  have hName := failsOnly_resolveNameWithin t call.argCount maxHops
  rw [Caller.resolve]
  split
  · split
    · exact hName _
    · exact .ok none
  · split
    · split
      · exact failsOnly_inheritedMethod t _ _ _
      · exact .ok none
    · split
      · split
        · exact failsOnly_methodOf t _ _ _
        · exact .ok none
      · split
        · exact hName _
        · exact failsOnly_dottedTarget t c _ _
  · exact .ok none

theorem orderly_provider (l : Library) (projects : List Project) : (l.provider projects).Orderly where
  projects := .ok projects
  declarations _ := .ok _
  callSites m := by
    rw [Library.provider]
    dsimp only
    rw [Library.callSites]
    split
    · exact .ok []
    · refine .mapM fun call _ => ?_
      rw [showCall]
      split
      · exact .ok _
      · exact .error nofun
  resolve c := by
    rw [Library.provider]
    dsimp only
    rw [Library.resolve]
    split
    · exact (failsOnly_resolve l.table _ _).mono fun _ => Foreign.tolerable
    · exact .ok none
  entrypoints _ := .ok _
  commands _ := .ok _
  envLookups _ := .ok _
  literals _ := .ok _

end Module

/-! ## Units -/

namespace Compilation

theorem failsOnly_readText (disk : Disk) (path : Path) : FailsOnly Foreign (readText disk path) := by
  rw [readText]
  split
  · exact .error rfl
  · split
    · exact .error rfl
    · exact .ok _

theorem failsOnly_listedParts (disk : Disk) (root : Path) (files : List String) :
    FailsOnly Foreign (listedParts disk root files).result := by
  induction files with
  | nil => exact .ok []
  | cons file rest ih =>
    rw [listedParts]
    split
    · exact ih
    · have hText := failsOnly_readText disk (root.child file)
      split
      · exact .ok _
      · exact Traced.failsOnly_bind (.ok ()) fun _ _ => ih
      · rename_i hError
        exact .error (hText _ hError)

theorem failsOnly_partNames (disk : Disk) (root : Path) :
    FailsOnly Foreign (partNames disk root).result := by
  refine Traced.failsOnly_bind ?_ fun found _ => ?_
  · rw [pomModules]
    split
    · exact .ok []
    · split <;> exact .ok _
  · cases found with
    | nil => exact Traced.failsOnly_bind (failsOnly_listedParts disk root _) fun _ _ => .ok _
    | cons => exact .ok _

theorem failsOnly_partDirectories (disk : Disk) (root : Path) (names : List (Option String)) :
    FailsOnly Foreign (partDirectories disk root names) := by
  induction names with
  | nil => exact .ok []
  | cons name rest ih =>
    cases name with
    | none => exact .error rfl
    | some name =>
      rw [partDirectories]
      exact .bind ih fun others _ => .ok _

theorem failsOnly_artifactName (disk : Disk) (path : Path) :
    FailsOnly Foreign (artifactName disk path).result := by
  rw [artifactName]
  split
  · exact .ok none
  · split
    · exact .ok none
    · exact .ok _
    · exact .error rfl

theorem failsOnly_settingsName (disk : Disk) (directory : Path) (files : List String) :
    FailsOnly Foreign (settingsName disk directory files) := by
  induction files with
  | nil => exact .ok none
  | cons file rest ih =>
    have hText := failsOnly_readText disk (directory.child file)
    rw [settingsName]
    split
    · exact ih
    · rename_i hError
      exact .error (hText _ hError)
    · split
      · exact .ok _
      · exact ih

theorem failsOnly_projectName (disk : Disk) (directory : Path) (build : Option String) :
    FailsOnly Foreign (projectName disk directory build).result := by
  rw [projectName]
  split
  on_goal 1 => refine Traced.failsOnly_bind (failsOnly_artifactName disk _) fun described _ => ?_
  on_goal 2 => refine Traced.failsOnly_bind (.ok none) fun described _ => ?_
  all_goals
    cases described with
    | some name => exact .ok name
    | none =>
      refine Traced.failsOnly_bind (failsOnly_settingsName disk directory _) fun named _ => ?_
      cases named <;> exact .ok _

theorem failsOnly_projectAt (disk : Disk) (root directory : Path) :
    FailsOnly Foreign (projectAt disk root directory).result := by
  have hNamed : ∀ path : String, FailsOnly Foreign
      (do return ⟨← projectName disk directory (buildFile? disk directory), path, language,
        directory⟩ : Traced Project).result :=
    fun _ => Traced.failsOnly_bind (failsOnly_projectName disk directory _) fun _ _ => .ok _
  rw [projectAt]
  dsimp only
  split
  · refine Traced.failsOnly_bind (Traced.failsOnly_map ?_ _) fun path _ => hNamed path
    rw [relativeParts]
    split
    · exact .ok _
    · exact .error rfl
  · exact Traced.failsOnly_bind (.ok "") fun path _ => hNamed path

theorem failsOnly_findProjects (disk : Disk) (root : Path) :
    FailsOnly Foreign (findProjects disk root).result := by
  rw [findProjects]
  split
  · exact .ok []
  · refine Traced.failsOnly_bind (failsOnly_partNames disk root) fun names _ => ?_
    refine Traced.failsOnly_bind (failsOnly_partDirectories disk root names) fun parts _ => ?_
    refine Traced.failsOnly_bind (Traced.failsOnly_mapM fun directory _ => ?_) fun _ _ => .ok _
    exact failsOnly_projectAt disk root directory

theorem orderly_provider (l : Library) (projects : List Project) : (l.provider projects).Orderly where
  projects := .ok projects
  declarations _ := .ok _
  callSites _ := .ok _
  resolve _ := .ok _
  entrypoints _ := .ok _
  commands _ := .ok _
  envLookups _ := .ok _
  literals _ := .ok _

end Compilation

/-! ## The repository -/

theorem failsOnly_detect (disk : Disk) (root : Path) :
    FailsOnly Foreign (detect disk root).result := by
  refine Traced.failsOnly_bind ?_ fun modules _ => ?_
  · exact Traced.failsOnly_bind (Module.failsOnly_findProjects root _) fun _ _ => .ok _
  · refine Traced.failsOnly_bind ?_ fun units _ => .ok _
    exact Traced.failsOnly_bind (Compilation.failsOnly_findProjects disk root) fun _ _ => .ok _

/-- All providers of a repository fail in order. -/
theorem orderly_detect {disk : Disk} {root : Path} {ps : List (Provider MethodRef CallRef)}
    (h : (detect disk root).result = .ok ps) : ∀ p ∈ ps, p.Orderly := by
  obtain ⟨modules, hModules, h⟩ := Traced.ok_of_bind h
  obtain ⟨found, -, hModules⟩ := Traced.ok_of_bind hModules
  obtain rfl := Except.ok.inj hModules
  obtain ⟨units, hUnits, h⟩ := Traced.ok_of_bind h
  obtain ⟨directories, -, hUnits⟩ := Traced.ok_of_bind hUnits
  obtain rfl := Except.ok.inj hUnits
  obtain rfl := Except.ok.inj h
  intro p hp
  rcases List.mem_pair.mp (List.mem_filter.mp hp).1 with rfl | rfl
  · exact (Module.orderly_provider _ _).embed _ _ _ _
  · exact (Compilation.orderly_provider _ _).embed _ _ _ _

/-! ## The file tree -/

namespace Tree

/-- A part of a pattern is refused, if at all, for a failure from outside. -/
def Part.Fair (p : Part) : Prop := ∀ f, p = .refused f → f.Foreign

theorem Part.fair_node (n : Regex.Node) : (Part.node n).Fair := nofun

theorem Part.fair_meaningless : Part.meaningless.Fair := nofun

theorem Part.fair_refused {f : Failure} (h : f.Foreign) : (Part.refused f).Fair := by
  rintro _ ⟨⟩
  exact h

theorem Part.Fair.andThen {a b : Part} (ha : a.Fair) (hb : b.Fair) : (a.andThen b).Fair := by
  cases a with
  | node m =>
    cases b with
    | node n => exact fair_node _
    | meaningless => exact hb
    | refused f => exact hb
  | meaningless => exact ha
  | refused f => exact ha

theorem Part.Fair.behind {b : Part} (hb : b.Fair) (n : Regex.Node) :
    ((Part.node n).andThen b).Fair :=
  (fair_node n).andThen hb

theorem fair_readClass (negated : Bool) (content : List Char) : (readClass negated content).Fair := by
  rw [readClass]
  split
  · exact Part.fair_node _
  · exact Part.fair_refused rfl

theorem fair_readSegment (fuel : Nat) (cs : List Char) : (readSegment fuel cs).Fair := by
  fun_induction readSegment fuel cs with
  | case1 | case2 => exact Part.fair_node _
  | case3 => exact Part.fair_refused rfl
  | case4 fuel c rest ih => exact ih.behind _
  | case5 fuel rest ih => exact ih.behind _
  | case6 fuel rest ih => exact ih.behind _
  | case7 fuel rest negated content after _ ih => exact (fair_readClass _ _).andThen ih
  | case8 => exact Part.fair_meaningless
  | case9 fuel c rest _ _ _ _ _ ih => exact ih.behind _

theorem fair_segmentNode (s : String) : (segmentNode s).Fair := by
  rw [segmentNode]
  split
  · exact Part.fair_node _
  · exact fair_readSegment _ _

theorem fair_segmentsNode (first joined : Bool) (segments : List String) :
    (segmentsNode first joined segments).Fair := by
  fun_induction segmentsNode first joined segments with
  | case1 | case2 => exact Part.fair_node _
  | case3 _ rest _ ih => exact ih.behind _
  | case4 _ _ rest _ _ ih => exact ih.behind _
  | case5 _ _ s rest _ lead tail ih =>
    have hTail : tail.Fair := by
      show Part.Fair (if rest.isEmpty then Part.node segmentEnd else segmentsNode false true rest)
      split
      · exact Part.fair_node _
      · exact ih
    exact ((fair_segmentNode s).andThen hTail).behind _

theorem fair_patternNode (pattern : String) : (patternNode pattern).Fair := by
  rw [patternNode]
  split
  · exact Part.fair_refused rfl
  · split
    · exact Part.fair_node _
    · exact Part.fair_node _
    · exact Part.fair_node _
    · exact (fair_segmentsNode _ _ _).behind _

theorem failsOnly_readLine (line : String) : FailsOnly Foreign (readLine line) := by
  rw [readLine]
  split
  · exact .ok none
  · dsimp only
    split
    · exact .ok _
    · exact .ok none
    · rename_i f hRefused
      exact .error (fair_patternNode _ f hRefused)

theorem failsOnly_filterFor (settings : TreeSettings) (top : Entry) :
    FailsOnly Foreign (filterFor settings top) := by
  rw [filterFor]
  split
  · refine .bind ?_ fun globs _ => .ok _
    rw [readIgnoreFile]
    split
    · exact .bind (.mapM fun line _ => failsOnly_readLine line) fun _ _ => .ok _
    · exact .ok []
  · exact .ok _

theorem failsOnly_scan (settings : TreeSettings) (top : Entry) :
    FailsOnly Foreign (scan settings top).result := by
  cases hFilter : filterFor settings top with
  | ok f =>
    rw [result_scan hFilter]
    exact .ok _
  | error f =>
    have hScan : (scan settings top).result = .error f := Traced.result_bind_of_error hFilter _
    rw [hScan]
    exact .error (failsOnly_filterFor settings top f hFilter)

end Tree

end CodeAtlas
