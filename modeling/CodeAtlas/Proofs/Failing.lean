import CodeAtlas.Proofs.Build

/-!
# How an index can fail

Some failures are this tool's own: it refuses settings, it finds no project, or a provider cannot
answer. The others are met on the way.

* `FailsOnly`: all failures of a result are of some kind; a computation fails like its parts.
* `failsOnly_callgraphs` and its siblings: sections of providers that fail in order fail in ways that
  are tolerated, or that are not this tool's own.
* `failsOnly_assemble`: with settings within their bounds, the only failure of this tool's own that ends
  the making of an index is that there is nothing to index.
-/

namespace CodeAtlas

variable {ι κ α β γ : Type}

/-! ## Kinds of failures -/

/-- All failures of `x` are of the kind `P`. -/
def FailsOnly (P : Failure → Prop) (x : Except Failure α) : Prop := ∀ f, x = .error f → P f

namespace FailsOnly

variable {P Q : Failure → Prop}

theorem ok (a : α) : FailsOnly P (.ok a) := by
  intro f hf
  cases hf

theorem error {f : Failure} (h : P f) : FailsOnly P (.error f : Except Failure α) := by
  intro g hg
  cases hg
  exact h

theorem of_isOk {x : Except Failure α} (h : x.isOk = true) : FailsOnly P x := by
  obtain ⟨a, rfl⟩ := exists_of_isOk h
  exact ok a

theorem mono {x : Except Failure α} (h : FailsOnly P x) (hKind : ∀ f, P f → Q f) : FailsOnly Q x :=
  fun f hf => hKind f (h f hf)

theorem bind {x : Except Failure α} {f : α → Except Failure β} (hx : FailsOnly P x)
    (hf : ∀ a, x = .ok a → FailsOnly P (f a)) : FailsOnly P (x >>= f) := by
  intro e he
  cases x with
  | error e' =>
    cases he
    exact hx e rfl
  | ok a => exact hf a rfl e he

theorem map {x : Except Failure α} (hx : FailsOnly P x) (f : α → β) : FailsOnly P (x.map f) := by
  cases x with
  | error e => exact error (hx e rfl)
  | ok a => exact ok (f a)

theorem mapM {f : α → Except Failure β} {xs : List α} (h : ∀ a ∈ xs, FailsOnly P (f a)) :
    FailsOnly P (xs.mapM f) := by
  induction xs with
  | nil =>
    rw [List.mapM_nil]
    exact ok []
  | cons a xs ih =>
    obtain ⟨ha, hxs⟩ := List.forall_mem_cons.mp h
    rw [List.mapM_cons]
    exact ha.bind fun b _ => (ih hxs).bind fun bs _ => ok (b :: bs)

theorem foldlM {f : β → α → Except Failure β} {xs : List α}
    (h : ∀ b, ∀ a ∈ xs, FailsOnly P (f b a)) (b : β) : FailsOnly P (xs.foldlM f b) := by
  induction xs generalizing b with
  | nil =>
    rw [List.foldlM_nil]
    exact ok b
  | cons a xs ih =>
    rw [List.foldlM_cons]
    refine (h b a List.mem_cons_self).bind fun c _ => ih (fun c d hd => ?_) c
    exact h c d (List.mem_cons_of_mem _ hd)

end FailsOnly

namespace Traced

variable {P : Failure → Prop}

theorem failsOnly_bind {x : Traced α} {f : α → Traced β} (hx : FailsOnly P x.result)
    (hf : ∀ a, x.result = .ok a → FailsOnly P (f a).result) : FailsOnly P (x >>= f).result := by
  rw [result_bind]
  exact hx.bind hf

theorem failsOnly_map {x : Traced α} (hx : FailsOnly P x.result) (f : α → β) :
    FailsOnly P (f <$> x).result := by
  rw [map_eq_pure_bind]
  exact failsOnly_bind hx fun a _ => .ok (f a)

theorem failsOnly_mapM {f : α → Traced β} {xs : List α} (h : ∀ a ∈ xs, FailsOnly P (f a).result) :
    FailsOnly P (xs.mapM f).result := by
  rw [result_mapM]
  exact .mapM h

theorem failsOnly_collect {f : α → Traced (List β)} {xs : List α}
    (h : ∀ a ∈ xs, FailsOnly P (f a).result) :
    FailsOnly P (do return (← xs.mapM f).flatten : Traced (List β)).result :=
  failsOnly_bind (failsOnly_mapM h) fun bss _ => .ok bss.flatten

end Traced

namespace Failure

/-- The failures that this tool makes itself. -/
def isOwn : Failure → Bool
  | settings _ | noProject _ | provider _ => true
  | _ => false

/-- A failure from outside. -/
def Foreign (f : Failure) : Prop := f.isOwn = false

/-- Of this tool's own failures, those that cost no more than a section. -/
def Tolerable (f : Failure) : Prop := f.isOwn = true → f.isRecoverable = true

theorem Foreign.tolerable {f : Failure} (h : f.Foreign) : f.Tolerable := by
  intro hOwn
  rw [h] at hOwn
  cases hOwn

theorem foreign_of_not_recoverable {f : Failure} (h : f.Tolerable) (hNot : f.isRecoverable = false) :
    f.Foreign := by
  cases hOwn : f.isOwn with
  | false => exact hOwn
  | true => exact absurd (h hOwn) (by simp [hNot])

end Failure

open Failure (Foreign Tolerable)

/-! ## Sections -/

/-- A provider that fails in order: its questions fail in tolerable ways, and the question for its
projects, whose failure costs the index, in none of this tool's own. -/
structure Provider.Orderly (p : Provider ι κ) : Prop where
  projects : FailsOnly Foreign p.projects
  declarations : ∀ project, FailsOnly Tolerable (p.declarations project)
  callSites : ∀ m, FailsOnly Tolerable (p.callSites m)
  resolve : ∀ c, FailsOnly Tolerable (p.resolve c)
  entrypoints : ∀ project, FailsOnly Tolerable (p.entrypoints project)
  commands : ∀ project, FailsOnly Tolerable (p.commands project)
  envLookups : ∀ project, FailsOnly Tolerable (p.envLookups project)
  literals : ∀ project, FailsOnly Tolerable (p.literals project)

theorem foreign_regexFailure (fault : Regex.Fault) : (regexFailure fault).Foreign := by
  cases fault <;> rfl

theorem failsOnly_readAllowed (pattern : Option String) :
    FailsOnly Foreign (readAllowed pattern) := by
  cases pattern with
  | none => exact .ok none
  | some text =>
    rw [readAllowed]
    split
    · exact .ok none
    · split
      · exact .ok _
      · exact .error (foreign_regexFailure _)

theorem failsOnly_parse (text : String) : FailsOnly Foreign (Root.parse text) := by
  rw [Root.parse]
  split
  · refine .bind ?_ fun n _ => .ok _
    rw [Root.arityValue]
    split
    · exact .ok _
    · exact .error rfl
  · exact .ok _

theorem failsOnly_readRoots (texts : List String) : FailsOnly Foreign (readRoots texts).result := by
  induction texts with
  | nil => exact .ok []
  | cons text texts ih =>
    rw [readRoots]
    refine Traced.failsOnly_bind (failsOnly_parse text) fun r _ => ?_
    cases r with
    | some r => exact Traced.failsOnly_bind ih fun rs _ => .ok (r :: rs)
    | none => exact Traced.failsOnly_bind (.ok ()) fun _ _ => ih

section Sections

variable {ps : List (Provider ι κ)} (h : ∀ p ∈ ps, p.Orderly)

theorem Provider.Orderly.listed {p : Provider ι κ} (h : p.Orderly) {f : Project → Traced (List γ)}
    (hEach : ∀ project, FailsOnly Tolerable (f project).result) :
    FailsOnly Tolerable (do return (← (← p.listProjects).mapM f).flatten : Traced (List γ)).result :=
  Traced.failsOnly_bind (h.projects.mono fun _ => Foreign.tolerable) fun _ _ =>
    Traced.failsOnly_collect fun project _ => hEach project

theorem Provider.failsOnly_ask {P : Failure → Prop} (p : Provider ι κ) {answer : Except Failure α}
    (h : FailsOnly P answer) : FailsOnly P (p.ask answer).result :=
  Traced.failsOnly_bind (.ok ()) fun _ _ => h

theorem Provider.Orderly.graph {p : Provider ι κ} (h : p.Orderly) (external : Bool) {lim : Limits}
    (hDepth : 0 ≤ lim.depth) (root : Method ι) (rootId : String) :
    FailsOnly Tolerable (explore p external lim root rootId).graph := by
  intro f hf
  have hLim : lim.depth = lim.depth.toNat := (Int.toNat_of_nonneg hDepth).symm
  obtain ⟨k, -, n, -, hMem⟩ := exists_failed_of_graph_eq_error hLim hf
  rcases Provider.failsAt_of_failed_mem_events hMem with hCalls | ⟨sites, -, c, -, hResolve⟩
  · exact h.callSites n.method f hCalls
  · exact h.resolve c f hResolve

theorem Provider.Orderly.rootGraph {p : Provider ι κ} (h : p.Orderly) {request : CallgraphRequest}
    (hDepth : 0 ≤ request.limits.depth) (project : Project) (r : Root) :
    FailsOnly Tolerable (rootGraph p request project r).result := by
  rw [CodeAtlas.rootGraph]
  refine Traced.failsOnly_bind ?_ fun resolved _ => ?_
  · rw [result_resolveRoot]
    exact (h.declarations project).map _
  · cases resolved with
    | notFound => exact .ok []
    | found ambiguous m others =>
      refine Traced.failsOnly_bind (.ok ()) fun _ _ => ?_
      refine Traced.failsOnly_bind (h.graph request.external hDepth m m.id) fun graph _ => ?_
      dsimp only
      split <;> exact .ok [(project.ref, graph)]

include h

theorem failsOnly_entrypoints : FailsOnly Tolerable (entrypointSection ps).result := by
  refine Traced.failsOnly_bind (Traced.failsOnly_mapM fun p hp => ?_) fun _ _ => .ok _
  refine (h p hp).listed fun project => ?_
  refine Traced.failsOnly_bind (p.failsOnly_ask ((h p hp).entrypoints project)) fun found _ => ?_
  dsimp only
  split <;> exact .ok _

theorem failsOnly_commands (settings : Settings) :
    FailsOnly Tolerable (allowedCommands settings ps).result := by
  have hAllowed := (failsOnly_readAllowed settings.allowRegex).mono fun _ => Foreign.tolerable
  refine Traced.failsOnly_bind hAllowed fun allowed _ => ?_
  refine Traced.failsOnly_bind (Traced.failsOnly_mapM fun p hp => ?_) fun _ _ => .ok _
  exact (h p hp).listed fun project => p.failsOnly_ask ((h p hp).commands project)

theorem failsOnly_configs (prefixes : List String) :
    FailsOnly Tolerable (configSection prefixes ps).result := by
  refine Traced.failsOnly_bind (Traced.failsOnly_mapM fun p hp => ?_) fun _ _ => .ok _
  refine (h p hp).listed fun project => ?_
  refine Traced.failsOnly_bind (p.failsOnly_ask ((h p hp).envLookups project)) fun looked _ => ?_
  dsimp only
  split
  · exact .ok _
  · exact Traced.failsOnly_bind (p.failsOnly_ask ((h p hp).literals project)) fun _ _ => .ok _

theorem failsOnly_callgraphs {request : CallgraphRequest} (hDepth : 0 ≤ request.limits.depth) :
    FailsOnly Tolerable (callgraphSection request ps).result := by
  rw [callgraphSection]
  split
  · exact .ok none
  · have hRoots := (failsOnly_readRoots request.roots).mono fun _ => Foreign.tolerable
    refine Traced.failsOnly_bind hRoots fun roots _ => ?_
    refine Traced.failsOnly_bind (Traced.failsOnly_mapM fun p hp => ?_) fun _ _ => .ok _
    refine (h p hp).listed fun project => ?_
    exact Traced.failsOnly_collect fun r _ => (h p hp).rootGraph hDepth project r

theorem failsOnly_projectEntries : FailsOnly Foreign (projectEntries ps).result := by
  refine Traced.failsOnly_bind (Traced.failsOnly_mapM fun p hp => ?_) fun _ _ => .ok _
  exact Traced.failsOnly_bind (h p hp).projects fun _ _ => .ok _

end Sections

/-! ## The index -/

/-- What is left of the failures of a section once those that are tolerated have cost it. -/
theorem failsOnly_wanted (settings : Settings) (name : String) {tolerates : Failure → Bool}
    {P Q : Failure → Prop} {body : Traced (Option α)} (h : FailsOnly P body.result)
    (hLeft : ∀ f, P f → tolerates f = false → Q f) :
    FailsOnly Q (wanted settings name (tolerant name tolerates body)).result := by
  rw [wanted]
  split
  · rw [result_tolerant]
    split
    · exact .ok _
    · rename_i f hf
      split
      · exact .ok none
      · exact .error (hLeft f (h f hf) (Bool.eq_false_iff.mpr ‹_›))
  · exact .ok none

/-- Making an index fails in ways that are not this tool's own, but for want of projects. -/
theorem failsOnly_assemble {around : Surroundings} {root : String} {settings : Settings}
    {providers : Traced (List (Provider ι κ))} {tree : Traced (List FileEntry)}
    (hValid : settings.validate = .ok ()) (hProviders : FailsOnly Foreign providers.result)
    (hOrderly : ∀ ps, providers.result = .ok ps → ∀ p ∈ ps, p.Orderly)
    (hTree : FailsOnly Foreign tree.result) :
    FailsOnly (fun f => f.Foreign ∨ f = .noProject root ∧ providers.result = .ok [])
      (assemble around root settings providers tree).result := by
  have hDepth := (Settings.validate_eq_ok hValid).1
  have hForeign : ∀ {β : Type} {x : Except Failure β}, FailsOnly Foreign x →
      FailsOnly (fun f => f.Foreign ∨ f = .noProject root ∧ providers.result = .ok []) x :=
    fun h => h.mono fun _ => Or.inl
  rw [assemble]
  refine Traced.failsOnly_bind (.of_isOk (congrArg Except.isOk hValid)) fun _ _ => ?_
  refine Traced.failsOnly_bind (hForeign hProviders) fun ps hFound => ?_
  have hEach := hOrderly ps hFound
  split
  · rename_i hNone
    rw [List.isEmpty_iff] at hNone
    refine Traced.failsOnly_bind (.error (.inr ⟨rfl, ?_⟩)) fun _ h => ?_
    · rw [hFound, hNone]
    · cases h
  · refine Traced.failsOnly_bind (.of_isOk (isOk_aboutRun around)) fun about _ => hForeign ?_
    refine Traced.failsOnly_bind (failsOnly_projectEntries hEach) fun projects _ => ?_
    have hLeft : ∀ f, Tolerable f → f.isRecoverable = false → f.Foreign :=
      fun _ => Failure.foreign_of_not_recoverable
    refine Traced.failsOnly_bind ?_ fun tree _ => ?_
    · exact failsOnly_wanted settings "tree" (Traced.failsOnly_map hTree some) fun _ h _ => h
    refine Traced.failsOnly_bind ?_ fun entrypoints _ => ?_
    · exact failsOnly_wanted settings "entrypoints" (failsOnly_entrypoints hEach) hLeft
    refine Traced.failsOnly_bind ?_ fun commands _ => ?_
    · exact failsOnly_wanted settings "commands" (failsOnly_commands hEach settings) hLeft
    refine Traced.failsOnly_bind ?_ fun configs _ => ?_
    · exact failsOnly_wanted settings "configs" (failsOnly_configs hEach settings.envPrefixes) hLeft
    refine Traced.failsOnly_bind ?_ fun callgraphs _ => .ok _
    exact failsOnly_wanted settings "callgraphs" (failsOnly_callgraphs hEach hDepth) hLeft

end CodeAtlas
