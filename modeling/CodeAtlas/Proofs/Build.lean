import CodeAtlas.Build
import CodeAtlas.Proofs.Impaired
import CodeAtlas.Proofs.Tree.Scan

/-!
# Isolation of sections

What failing questions do to an index: a section one of whose own questions fails is missing, and
every other section is what it would have been.

* `impairs_entrypoints`, `impairs_commands`, `impairs_configs`, `impairs_callgraphs`: the questions
  at whose failure a section is lost.
* `isolated_assemble`: hence a failure costs no other section, and there is an index in every case.
* `assemble_eq_error`, `assemble_fails`: what costs the index as a whole.
-/

namespace CodeAtlas

open CodeAtlas.Files (Entry)

variable {ι κ α β γ : Type}

/-! ## Questions of the sections -/

/-- The answer for one of the projects is `f`. -/
def QueryFails (ask : Provider ι κ → Project → Except Failure α) (providers : List (Provider ι κ))
    (f : Failure) : Prop :=
  ∃ q ∈ providers, ∃ project ∈ itemsOf q.projects, ask q project = .error f

/-- A question fails that the environment variables are found by. Literals are asked for only if
there is a prefix to compare them with. -/
def KeysFail (prefixes : List String) (providers : List (Provider ι κ)) (f : Failure) : Prop :=
  QueryFails Provider.envLookups providers f ∨
    (∃ text ∈ prefixes, text ≠ "") ∧ QueryFails Provider.literals providers f

/-- A question fails that the call graphs are found by: for the declarations of a project, or for the
calls of a method that is expanded from a root. -/
def GraphsFail (request : CallgraphRequest) (providers : List (Provider ι κ)) (f : Failure) :
    Prop :=
  ∃ q ∈ providers, ∃ project ∈ itemsOf q.projects, ∃ text ∈ request.roots, ∃ r ∈ rootsIn text,
    q.declarations project = .error f ∨
      ∃ declared ambiguous m others, q.declarations project = .ok declared ∧
        r.select declared = .found ambiguous m others ∧
        ∃ k : Nat, (k : Int) < request.limits.depth ∧
          ∃ n ∈ level q request.external m m.id k, q.FailsAt n.method f

/-! ## Impaired sections -/

/-- A failure that costs a section, for the reason `Hit`. -/
def Costs (Hit : Failure → Prop) (f : Failure) : Prop := f.isRecoverable = true ∧ Hit f

theorem MayFail.costs {Hit : Failure → Prop} {x y : Except Failure α} (h : MayFail x y)
    (hHit : ∀ f, y = .error f → Hit f) : Impairs (Costs Hit) x y :=
  Impairs.imp h fun f hf hRecoverable => ⟨hRecoverable, hHit f hf⟩

section Sections

variable {Hit : Failure → Prop}

theorem impairs_listed {p q : Provider ι κ} (h : q.projects = p.projects)
    {f g : Project → Traced (List γ)}
    (hEach : ∀ project ∈ itemsOf q.projects, Impairs Hit (f project).result (g project).result) :
    Impairs Hit (do return (← (← p.listProjects).mapM f).flatten : Traced (List γ)).result
      (do return (← (← q.listProjects).mapM g).flatten : Traced (List γ)).result := by
  refine Impairs.bind (Or.inl h) fun projects hProjects => ?_
  refine Impairs.collect (List.forall₂_same.mpr fun project hProject => ?_)
  have hItems : itemsOf q.projects = projects := congrArg itemsOf hProjects
  exact hEach project (hItems ▸ hProject)

variable {ps qs : List (Provider ι κ)} (h : List.Forall₂ Provider.Impaired ps qs)

include h

theorem impairs_providers {f g : Provider ι κ → Traced γ}
    (hEach : ∀ p ∈ ps, ∀ q ∈ qs, p.Impaired q → Impairs Hit (f p).result (g q).result) :
    Impairs Hit (ps.mapM f).result (qs.mapM g).result := by
  exact Impairs.mapM (forall₂_imp_of_mem h hEach)

theorem impairs_entrypoints :
    Impairs (Costs (QueryFails Provider.entrypoints qs)) (entrypointSection ps).result
      (entrypointSection qs).result := by
  refine Impairs.bind (impairs_providers h fun p _ q hq hImpaired => ?_) fun _ _ => .refl _
  refine impairs_listed hImpaired.projects fun project hProject => ?_
  refine Impairs.bind ?_ fun _ _ => .refl _
  exact (hImpaired.entrypoints project).costs fun f hf => ⟨q, hq, project, hProject, hf⟩

theorem impairs_commands (settings : Settings) :
    Impairs (Costs (QueryFails Provider.commands qs)) (allowedCommands settings ps).result
      (allowedCommands settings qs).result := by
  refine Impairs.bind (.refl _) fun allowed _ => ?_
  refine Impairs.bind (impairs_providers h fun p _ q hq hImpaired => ?_) fun _ _ => .refl _
  refine impairs_listed hImpaired.projects fun project hProject => ?_
  exact (hImpaired.commands project).costs fun f hf => ⟨q, hq, project, hProject, hf⟩

theorem impairs_configs (prefixes : List String) :
    Impairs (Costs (KeysFail prefixes qs)) (configSection prefixes ps).result
      (configSection prefixes qs).result := by
  refine Impairs.bind (impairs_providers h fun p _ q hq hImpaired => ?_) fun _ _ => .refl _
  refine impairs_listed hImpaired.projects fun project hProject => ?_
  refine Impairs.bind ?_ fun _ _ => ?_
  · exact (hImpaired.envLookups project).costs fun f hf => Or.inl ⟨q, hq, project, hProject, hf⟩
  · split
    · exact .refl _
    · rename_i hSome
      refine Impairs.bind ?_ fun _ _ => .refl _
      refine (hImpaired.literals project).costs fun f hf => Or.inr ⟨?_, q, hq, project, hProject, hf⟩
      simpa [List.filter_eq_nil_iff] using hSome

omit h in
theorem impairs_rootGraph {request : CallgraphRequest} (hDepth : 0 ≤ request.limits.depth)
    {p q : Provider ι κ} (hTotal : p.Total) (hImpaired : p.Impaired q) (hq : q ∈ qs)
    {project : Project} (hProject : project ∈ itemsOf q.projects) {text : String}
    (hText : text ∈ request.roots) {r : Root} (hr : r ∈ rootsIn text) :
    Impairs (Costs (GraphsFail request qs)) (rootGraph p request project r).result
      (rootGraph q request project r).result := by
  refine Impairs.bind ?_ fun resolved hResolved => ?_
  · refine Impairs.bind ?_ fun _ _ => .refl _
    exact (hImpaired.declarations project).costs fun f hf =>
      ⟨q, hq, project, hProject, text, hText, r, hr, Or.inl hf⟩
  · rw [result_resolveRoot] at hResolved
    cases resolved with
    | notFound => exact .refl _
    | found ambiguous m others =>
      obtain ⟨declared, hDeclared, hSelect⟩ : ∃ declared, q.declarations project = .ok declared ∧
          r.select declared = .found ambiguous m others := by
        cases hDeclared : q.declarations project with
        | error f =>
          rw [hDeclared] at hResolved
          cases hResolved
        | ok declared =>
          rw [hDeclared] at hResolved
          exact ⟨declared, rfl, Except.ok.inj hResolved⟩
      refine Impairs.bind (.refl _) fun _ _ => Impairs.bind ?_ fun _ _ => .refl _
      refine (hImpaired.graph hTotal request.external hDepth m m.id).imp fun f _ hFail => ?_
      obtain ⟨k, hk, n, hn, hAt⟩ := hFail
      exact ⟨hImpaired.isRecoverable_of_failsAt hTotal hAt, q, hq, project, hProject, text, hText, r,
        hr, Or.inr ⟨declared, ambiguous, m, others, hDeclared, hSelect, k, hk, n, hn, hAt⟩⟩

theorem impairs_callgraphs (request : CallgraphRequest) (hDepth : 0 ≤ request.limits.depth)
    (hTotal : ∀ p ∈ ps, p.Total) :
    Impairs (Costs (GraphsFail request qs)) (callgraphSection request ps).result
      (callgraphSection request qs).result := by
  rw [callgraphSection, callgraphSection]
  split
  · exact .refl _
  refine Impairs.bind (.refl _) fun roots hRoots => ?_
  obtain ⟨-, rfl⟩ := (yieldsIf_readRoots request.roots _).mp hRoots
  refine Impairs.bind (impairs_providers h fun p hp q hq hImpaired => ?_) fun _ _ => .refl _
  refine impairs_listed hImpaired.projects fun project hProject => ?_
  refine Impairs.collect (List.forall₂_same.mpr fun r hr => ?_)
  obtain ⟨text, hText, hr⟩ := List.mem_flatMap.mp hr
  exact impairs_rootGraph hDepth (hTotal p hp) hImpaired hq hProject hText hr

end Sections

/-! ## Sections without failures -/

section Faultless

variable {ps : List (Provider ι κ)} (h : ∀ p ∈ ps, p.Faultless)

theorem isOk_listed {p : Provider ι κ} (hProjects : p.projects.isOk = true)
    {f : Project → Traced (List γ)} (hEach : ∀ project, (f project).result.isOk = true) :
    (do return (← (← p.listProjects).mapM f).flatten : Traced (List γ)).result.isOk = true :=
  Traced.isOk_bind hProjects fun _ =>
    Traced.isOk_bind (Traced.isOk_mapM fun project _ => hEach project) fun _ => rfl

include h

theorem isOk_entrypoints : (entrypointSection ps).result.isOk = true := by
  refine Traced.isOk_bind (Traced.isOk_mapM fun p hp => ?_) fun _ => rfl
  refine isOk_listed (h p hp).projects fun project => ?_
  refine Traced.isOk_bind ((h p hp).entrypoints project) fun found => ?_
  dsimp only
  split <;> rfl

theorem isOk_commands {settings : Settings}
    (hAllowed : (readAllowed settings.allowRegex).isOk = true) :
    (allowedCommands settings ps).result.isOk = true := by
  refine Traced.isOk_bind hAllowed fun allowed => ?_
  refine Traced.isOk_bind (Traced.isOk_mapM fun p hp => ?_) fun _ => rfl
  exact isOk_listed (h p hp).projects (h p hp).commands

theorem isOk_configs (prefixes : List String) :
    (configSection prefixes ps).result.isOk = true := by
  refine Traced.isOk_bind (Traced.isOk_mapM fun p hp => ?_) fun _ => rfl
  refine isOk_listed (h p hp).projects fun project => ?_
  refine Traced.isOk_bind ((h p hp).envLookups project) fun looked => ?_
  dsimp only
  split
  · rfl
  · exact Traced.isOk_bind ((h p hp).literals project) fun _ => rfl

theorem isOk_callgraphs (request : CallgraphRequest)
    (hReadable : ∀ text ∈ request.roots, Root.Readable text) :
    (callgraphSection request ps).result.isOk = true := by
  rw [(yieldsIf_callgraphSection request ps).isOk_iff]
  exact fun text hText =>
    (extracts_iff_readable (fun p hp => (h p hp).toTotal) text).mpr (hReadable text hText)

theorem isOk_projectEntries : (projectEntries ps).result.isOk = true := by
  refine Traced.isOk_bind (Traced.isOk_mapM fun p hp => ?_) fun _ => rfl
  exact Traced.isOk_bind (h p hp).projects fun _ => rfl

end Faultless

/-! ## The index -/

/-- A section is what it would have been, or it is lost. -/
def KeptOrLost (Lost : Prop) (clean found : Option α) : Prop := found = clean ∨ found = none ∧ Lost

theorem result_tolerant (name : String) (tolerates : Failure → Bool) (body : Traced (Option α)) :
    (tolerant name tolerates body).result =
      match body.result with
      | .ok found => .ok found
      | .error f => if tolerates f then .ok none else .error f := by
  have hAttempt : body.attempt.result = .ok body.result := rfl
  rw [tolerant, Traced.result_bind, hAttempt]
  simp only [bind, Except.bind]
  cases body.result with
  | ok found => rfl
  | error f =>
    dsimp only
    cases tolerates f <;> rfl

/-- A section whose questions fail is lost. -/
theorem keptOrLost_of_impairs (settings : Settings) (name : String) {tolerates : Failure → Bool}
    {Hit : Failure → Prop} {x y : Traced (Option α)}
    (hClean : settings.enabled name = true → x.result.isOk = true)
    (h : Impairs Hit x.result y.result) (hTolerates : ∀ f, Hit f → tolerates f = true) :
    ∃ clean found, (wanted settings name (tolerant name tolerates x)).result = .ok clean ∧
      (wanted settings name (tolerant name tolerates y)).result = .ok found ∧
      KeptOrLost (settings.enabled name = true ∧ ∃ f, y.result = .error f ∧ Hit f) clean found := by
  rw [wanted, wanted]
  split
  · rename_i hEnabled
    obtain ⟨clean, hx⟩ := exists_of_isOk (hClean hEnabled)
    refine ⟨clean, ?_⟩
    rw [result_tolerant, result_tolerant, hx]
    rcases h with hSame | ⟨f, hf, hHit⟩
    · rw [hSame, hx]
      exact ⟨clean, rfl, rfl, Or.inl rfl⟩
    · rw [hf]
      dsimp only
      rw [if_pos (hTolerates f hHit)]
      exact ⟨none, rfl, rfl, Or.inr ⟨rfl, hEnabled, f, rfl, hHit⟩⟩
  · exact ⟨none, none, rfl, rfl, Or.inl rfl⟩

/-- How the index `found` of a run in which questions fail relates to `clean`, that of the run without
failures. A section is missing only if it is wanted and one of its own questions failed. -/
structure Isolated (settings : Settings) (providers : List (Provider ι κ))
    (tree : Traced (List FileEntry)) (clean found : Index) : Prop where
  about : found.about = clean.about
  projects : found.projects = clean.projects
  tree : KeptOrLost
    (settings.enabled "tree" = true ∧ ∃ f, tree.result = .error f ∧ f.isSystem = true)
    clean.tree found.tree
  entrypoints : KeptOrLost
    (settings.enabled "entrypoints" = true ∧ ∃ f, (entrypointSection providers).result = .error f ∧
      Costs (QueryFails Provider.entrypoints providers) f)
    clean.entrypoints found.entrypoints
  commands : KeptOrLost
    (settings.enabled "commands" = true ∧ ∃ f,
      (allowedCommands settings providers).result = .error f ∧
      Costs (QueryFails Provider.commands providers) f)
    clean.commands found.commands
  configs : KeptOrLost
    (settings.enabled "configs" = true ∧ ∃ f,
      (configSection settings.envPrefixes providers).result = .error f ∧
      Costs (KeysFail settings.envPrefixes providers) f)
    clean.configs found.configs
  callgraphs : KeptOrLost
    (settings.enabled "callgraphs" = true ∧ ∃ f,
      (callgraphSection settings.request providers).result = .error f ∧
      Costs (GraphsFail settings.request providers) f)
    clean.callgraphs found.callgraphs

theorem keptOrLost_tree {settings : Settings} {top : Entry} {tree : Traced (List FileEntry)}
    (hIgnore : settings.enabled "tree" = true → (Tree.filterFor settings.tree top).isOk = true)
    (h : Impairs (·.isSystem = true) (Tree.scan settings.tree top).result tree.result) :
    ∃ clean found, (wanted settings "tree" (tolerant "tree" Failure.isSystem
        (some <$> Tree.scan settings.tree top))).result = .ok clean ∧
      (wanted settings "tree" (tolerant "tree" Failure.isSystem (some <$> tree))).result =
        .ok found ∧
      KeptOrLost
        (settings.enabled "tree" = true ∧ ∃ f, tree.result = .error f ∧ f.isSystem = true)
        clean found := by
  have hSome : Impairs (fun f => tree.result = .error f ∧ f.isSystem = true)
      (some <$> Tree.scan settings.tree top).result (some <$> tree).result :=
    Impairs.bind (h.imp fun f hf hSystem => ⟨hf, hSystem⟩) fun _ _ => .refl _
  have hScan (hEnabled : settings.enabled "tree" = true) :
      (some <$> Tree.scan settings.tree top).result.isOk = true := by
    obtain ⟨filter, hFilter⟩ := exists_of_isOk (hIgnore hEnabled)
    refine Traced.isOk_bind ?_ fun _ => rfl
    rw [Tree.result_scan hFilter]
    rfl
  obtain ⟨clean, found, hClean, hFound, hKept⟩ :=
    keptOrLost_of_impairs settings "tree" hScan hSome fun _ => And.right
  refine ⟨clean, found, hClean, hFound, hKept.imp_right ?_⟩
  rintro ⟨hNone, hEnabled, f, -, hf⟩
  exact ⟨hNone, hEnabled, f, hf⟩

theorem isOk_aboutRun (around : Surroundings) : (aboutRun around).result.isOk = true := by
  refine Traced.isOk_bind ?_ fun _ => rfl
  rw [fixedStamp]
  split
  · rfl
  · split <;> rfl

theorem Settings.validate_eq_ok {settings : Settings} (h : settings.validate = .ok ()) :
    0 ≤ settings.limits.depth ∧ (readAllowed settings.allowRegex).isOk = true := by
  unfold validate at h
  split_ifs at h with hDepth
  refine ⟨not_lt.mp hDepth, ?_⟩
  unfold checkRegex at h
  split at h
  · rename_i hRegex
    rw [hRegex]
    rfl
  · cases h
  · cases h

theorem result_assemble {around : Surroundings} {root : String} {settings : Settings}
    {providers : List (Provider ι κ)} {tree : Traced (List FileEntry)} {index : Index}
    (hValid : settings.validate = .ok ()) (hSome : providers ≠ [])
    (hAbout : (aboutRun around).result = .ok index.about)
    (hProjects : (projectEntries providers).result = .ok index.projects)
    (hTree : (wanted settings "tree"
      (tolerant "tree" Failure.isSystem (some <$> tree))).result = .ok index.tree)
    (hEntrypoints : (wanted settings "entrypoints" (tolerant "entrypoints" Failure.isRecoverable
      (entrypointSection providers))).result = .ok index.entrypoints)
    (hCommands : (wanted settings "commands" (tolerant "commands" Failure.isRecoverable
      (allowedCommands settings providers))).result = .ok index.commands)
    (hConfigs : (wanted settings "configs" (tolerant "configs" Failure.isRecoverable
      (configSection settings.envPrefixes providers))).result = .ok index.configs)
    (hCallgraphs : (wanted settings "callgraphs" (tolerant "callgraphs" Failure.isRecoverable
      (callgraphSection settings.request providers))).result = .ok index.callgraphs) :
    (assemble around root settings (pure providers) tree).result = .ok index := by
  have hValidated : (Traced.ofExcept settings.validate).result = .ok () := hValid
  have hNone : providers.isEmpty = false := by simpa using hSome
  rw [assemble, Traced.result_bind_of_ok hValidated,
    Traced.result_bind_of_ok (Traced.result_pure providers), hNone]
  simp only [Bool.false_eq_true, if_false]
  rw [Traced.result_bind_of_ok hAbout, Traced.result_bind_of_ok hProjects,
    Traced.result_bind_of_ok hTree, Traced.result_bind_of_ok hEntrypoints,
    Traced.result_bind_of_ok hCommands, Traced.result_bind_of_ok hConfigs,
    Traced.result_bind_of_ok hCallgraphs]
  rfl

/-- A file tree that fails, and not as the system does, ends the run. -/
theorem assemble_eq_error {around : Surroundings} {root : String} {settings : Settings}
    {providers : List (Provider ι κ)} {tree : Traced (List FileEntry)} {f : Failure}
    (hValid : settings.validate = .ok ()) (hSome : providers ≠ [])
    (hFaultless : ∀ p ∈ providers, p.Faultless) (hEnabled : settings.enabled "tree" = true)
    (hTree : tree.result = .error f) (hOther : f.isSystem = false) :
    (assemble around root settings (pure providers) tree).result = .error f := by
  have hValidated : (Traced.ofExcept settings.validate).result = .ok () := hValid
  have hNone : providers.isEmpty = false := by simpa using hSome
  obtain ⟨about, hAbout⟩ := exists_of_isOk (isOk_aboutRun around)
  obtain ⟨projects, hProjects⟩ := exists_of_isOk (isOk_projectEntries hFaultless)
  have hAttempt : (some <$> tree).attempt.result = .ok (.error f) :=
    congrArg Except.ok (Traced.result_bind_of_error hTree _)
  have hWanted : (wanted settings "tree"
      (tolerant "tree" Failure.isSystem (some <$> tree))).result = .error f := by
    rw [wanted, if_pos hEnabled, tolerant, Traced.result_bind_of_ok hAttempt]
    dsimp only
    rw [hOther]
    rfl
  rw [assemble, Traced.result_bind_of_ok hValidated,
    Traced.result_bind_of_ok (Traced.result_pure providers), hNone]
  simp only [Bool.false_eq_true, if_false]
  rw [Traced.result_bind_of_ok hAbout, Traced.result_bind_of_ok hProjects]
  exact Traced.result_bind_of_error hWanted _

theorem result_projectEntries_eq {ps qs : List (Provider ι κ)}
    (h : List.Forall₂ Provider.Impaired ps qs) :
    (projectEntries qs).result = (projectEntries ps).result := by
  have hImpairs : Impairs (fun _ => False) (projectEntries ps).result (projectEntries qs).result := by
    refine Impairs.bind (impairs_providers h fun p _ q _ hImpaired => ?_) fun _ _ => .refl _
    refine Impairs.bind (Or.inl hImpaired.projects) fun projects _ => ?_
    rw [hImpaired.language]
    exact .refl _
  rcases hImpairs with hSame | ⟨_, _, hFalse⟩
  · exact hSame
  · exact hFalse.elim

/-- **Isolation of sections.** In every run with providers, whatever questions but those for the
projects fail, there is an index, and a failure costs no section but the one whose question it
was. -/
theorem isolated_assemble (around : Surroundings) (root : String) (settings : Settings)
    (top : Entry) (tree : Traced (List FileEntry)) {ps qs : List (Provider ι κ)}
    (hValid : settings.validate = .ok ()) (hSome : ps ≠ []) (hFaultless : ∀ p ∈ ps, p.Faultless)
    (hImpaired : List.Forall₂ Provider.Impaired ps qs)
    (hIgnore : settings.enabled "tree" = true → (Tree.filterFor settings.tree top).isOk = true)
    (hReadable : settings.enabled "callgraphs" = true → ∀ text ∈ settings.roots, Root.Readable text)
    (hTree : Impairs (·.isSystem = true) (Tree.scan settings.tree top).result tree.result) :
    ∃ clean found,
      (assemble around root settings (pure ps) (Tree.scan settings.tree top)).result = .ok clean ∧
      (assemble around root settings (pure qs) tree).result = .ok found ∧
      Isolated settings qs tree clean found := by
  obtain ⟨hDepth, hAllowed⟩ := Settings.validate_eq_ok hValid
  have hTotal : ∀ p ∈ ps, p.Total := fun p hp => (hFaultless p hp).toTotal
  have hSome' : qs ≠ [] := by
    rintro rfl
    exact hSome (List.forall₂_nil_right_iff.mp hImpaired)
  obtain ⟨about, hAbout⟩ := exists_of_isOk (isOk_aboutRun around)
  obtain ⟨projects, hProjects⟩ := exists_of_isOk (isOk_projectEntries hFaultless)
  have hProjects' := (result_projectEntries_eq hImpaired).trans hProjects
  obtain ⟨tree₀, tree₁, hTree₀, hTree₁, hKeptTree⟩ := keptOrLost_tree hIgnore hTree
  obtain ⟨entrypoints₀, entrypoints₁, hEntrypoints₀, hEntrypoints₁, hKeptEntrypoints⟩ :=
    keptOrLost_of_impairs settings "entrypoints" (fun _ => isOk_entrypoints hFaultless)
      (impairs_entrypoints hImpaired) fun _ => And.left
  obtain ⟨commands₀, commands₁, hCommands₀, hCommands₁, hKeptCommands⟩ :=
    keptOrLost_of_impairs settings "commands" (fun _ => isOk_commands hFaultless hAllowed)
      (impairs_commands hImpaired settings) fun _ => And.left
  obtain ⟨configs₀, configs₁, hConfigs₀, hConfigs₁, hKeptConfigs⟩ :=
    keptOrLost_of_impairs settings "configs"
      (fun _ => isOk_configs hFaultless settings.envPrefixes)
      (impairs_configs hImpaired settings.envPrefixes) fun _ => And.left
  obtain ⟨callgraphs₀, callgraphs₁, hCallgraphs₀, hCallgraphs₁, hKeptCallgraphs⟩ :=
    keptOrLost_of_impairs settings "callgraphs"
      (fun hEnabled => isOk_callgraphs hFaultless settings.request (hReadable hEnabled))
      (impairs_callgraphs hImpaired settings.request hDepth hTotal) fun _ => And.left
  exact ⟨⟨about, projects, tree₀, entrypoints₀, commands₀, configs₀, callgraphs₀⟩,
    ⟨about, projects, tree₁, entrypoints₁, commands₁, configs₁, callgraphs₁⟩,
    result_assemble hValid hSome hAbout hProjects hTree₀ hEntrypoints₀ hCommands₀ hConfigs₀
      hCallgraphs₀,
    result_assemble hValid hSome' hAbout hProjects' hTree₁ hEntrypoints₁ hCommands₁ hConfigs₁
      hCallgraphs₁,
    rfl, rfl, hKeptTree, hKeptEntrypoints, hKeptCommands, hKeptConfigs, hKeptCallgraphs⟩

/-! ### Failures of two kinds -/

theorem faultless_rootedProvider : rootedProvider.Faultless :=
  ⟨total_rootedProvider, fun _ => rfl, fun _ => rfl, fun _ => rfl, fun _ => rfl⟩

/-- The entrypoints cannot be found, and the calls of `Job.run` break off after the first. -/
def brokenProvider : Provider Nat Nat :=
  { rootedProvider with
    callSites := fun m =>
      if m.handle = 0 then .ok [⟨"lookup", 0, none, 1⟩, ⟨"lookup", 0, none, 9⟩]
      else rootedProvider.callSites m
    resolve := fun c => if c.handle = 9 then .error .system else rootedProvider.resolve c
    entrypoints := fun _ => .error (.provider "no entrypoints") }

theorem impaired_brokenProvider : rootedProvider.Impaired brokenProvider where
  language := rfl
  projects := rfl
  declarations _ := .refl _
  callSites m := by
    by_cases hRun : m.handle = 0
    · refine Or.inr ⟨_, _, rfl, if_pos hRun, ?_⟩
      rw [hRun]
      exact ⟨[⟨"lookup", 0, none, 1⟩], ⟨"lookup", 0, none, 9⟩, [], .system, ⟨_, rfl⟩, rfl, rfl⟩
    · exact Or.inl (Or.inl (if_neg hRun))
  resolve c := by
    by_cases hBroken : c.handle = 9
    · exact Or.inr ⟨.system, if_pos hBroken, rfl⟩
    · exact Or.inl (if_neg hBroken)
  entrypoints _ := Or.inr ⟨_, rfl, rfl⟩
  commands _ := .refl _
  envLookups _ := .refl _
  literals _ := .refl _

theorem filterFor_of_child?_eq_none {settings : TreeSettings} {top : Entry}
    (h : top.child? Tree.ignoreFileName = none) : (Tree.filterFor settings top).isOk = true := by
  rw [Tree.filterFor, Tree.readIgnoreFile, h]
  cases settings.useIgnoreFile <;> rfl

theorem isolated_assemble_brokenProvider :
    ({ Settings.default with roots := ["Job.run"] }).validate = .ok () ∧
      rootedProvider.Faultless ∧ rootedProvider.Impaired brokenProvider ∧
      ∃ clean found,
        (assemble default "app" { Settings.default with roots := ["Job.run"] }
          (pure [rootedProvider]) (Tree.scan TreeSettings.default (.directory "" []))).result =
            .ok clean ∧
        (assemble default "app" { Settings.default with roots := ["Job.run"] }
          (pure [brokenProvider]) (Traced.fail .system)).result = .ok found ∧
        Isolated { Settings.default with roots := ["Job.run"] } [brokenProvider]
          (Traced.fail .system) clean found := by
  have hReadable : Root.Readable "Job.run" := by
    rw [← Root.parse_isOk_iff, parse_jobRun]
    rfl
  refine ⟨rfl, faultless_rootedProvider, impaired_brokenProvider, ?_⟩
  exact isolated_assemble default "app" { Settings.default with roots := ["Job.run"] }
    (.directory "" []) (Traced.fail .system) rfl (by simp)
    (List.forall_mem_singleton.mpr faultless_rootedProvider)
    (.cons impaired_brokenProvider .nil) (fun _ => filterFor_of_child?_eq_none rfl)
    (fun _ => List.forall_mem_singleton.mpr hReadable) (Or.inr ⟨.system, rfl, rfl⟩)

/-- A repository whose ignore file holds a line without meaning. -/
def strayTree : Entry := .directory "" [.file Tree.ignoreFileName [92, 10]]

theorem scan_strayTree :
    (Tree.scan Settings.default.tree strayTree).result = .error .ignoreLine := by
  have hLines : Text.lines (String.ofList (Text.unifyLineEnds (Text.decodeLossy [92, 10]))) =
      ["\\"] := by
    cbv
  have hTrim : Tree.trimLine "\\" = "\\" := by decide
  have hLine : Tree.readLine "\\" = .error .ignoreLine := by
    rw [Tree.readLine, hTrim]
    rfl
  have hContent : (strayTree.child? Tree.ignoreFileName).bind (·.content?) = some [92, 10] := rfl
  have hRead : Tree.readIgnoreFile strayTree = .error .ignoreLine := by
    rw [Tree.readIgnoreFile, hContent]
    dsimp only
    rw [hLines, Tree.readLines, List.mapM_cons, hLine]
    rfl
  have hFilter : Tree.filterFor Settings.default.tree strayTree = .error .ignoreLine := by
    rw [Tree.filterFor, hRead]
    rfl
  rw [Tree.scan, hFilter]
  rfl

/-- An index needs a provider, and an ignore line without meaning costs it as a whole. -/
theorem assemble_fails :
    ¬ (∀ (around : Surroundings) (root : String) (settings : Settings) (top : Entry)
        (ps : List (Provider Nat Nat)),
      settings.validate = .ok () → (∀ p ∈ ps, p.Faultless) →
        (assemble around root settings (pure ps) (Tree.scan settings.tree top)).result.isOk = true) ∧
    ¬ ∀ (around : Surroundings) (root : String) (settings : Settings) (top : Entry)
        (ps : List (Provider Nat Nat)),
      settings.validate = .ok () → (∀ p ∈ ps, p.Faultless) → ps ≠ [] →
        (assemble around root settings (pure ps) (Tree.scan settings.tree top)).result.isOk =
          true := by
  constructor
  · intro h
    have hNone : (assemble default "app" Settings.default (pure ([] : List (Provider Nat Nat)))
        (Tree.scan Settings.default.tree strayTree)).result = .error (.noProject "app") := rfl
    have hOk := h default "app" Settings.default strayTree [] rfl (List.forall_mem_nil _)
    rw [hNone] at hOk
    cases hOk
  · intro h
    have hStray : (assemble default "app" Settings.default (pure [rootedProvider])
        (Tree.scan Settings.default.tree strayTree)).result = .error .ignoreLine :=
      assemble_eq_error rfl (by simp) (List.forall_mem_singleton.mpr faultless_rootedProvider) rfl
        scan_strayTree rfl
    have hOk := h default "app" Settings.default strayTree [rootedProvider] rfl
      (List.forall_mem_singleton.mpr faultless_rootedProvider) (by simp)
    rw [hStray] at hOk
    cases hOk

end CodeAtlas
