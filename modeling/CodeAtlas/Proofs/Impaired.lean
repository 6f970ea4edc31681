import CodeAtlas.Proofs.Callgraph.Queue
import CodeAtlas.Proofs.Rearranged
import CodeAtlas.Proofs.Sections.Callgraphs

/-!
# Providers that fail for some questions

* `Impairs`: a result is what it was, or a failure of a certain kind. Computations that are put
  together from such results are impaired in the same way (`Impairs.bind`, `Impairs.collect`).
* `Provider.Impaired.events`: the calls of a method are met as they were, perhaps up to a failure.
* `Provider.Impaired.graph`: hence an exploration finds the same graph or meets such a failure.
-/

namespace CodeAtlas

variable {ι κ α β γ : Type}

/-! ## Results that may be failures -/

/-- The second result is the first, or a failure of the kind `Hit`. -/
def Impairs (Hit : Failure → Prop) (x y : Except Failure α) : Prop :=
  y = x ∨ ∃ f, y = .error f ∧ Hit f

namespace Impairs

variable {Hit Hit' : Failure → Prop}

theorem refl (x : Except Failure α) : Impairs Hit x x := Or.inl rfl

theorem imp {x y : Except Failure α} (h : Impairs Hit x y)
    (hHit : ∀ f, y = .error f → Hit f → Hit' f) : Impairs Hit' x y := by
  rcases h with h | ⟨f, hf, hHit'⟩
  · exact Or.inl h
  · exact Or.inr ⟨f, hf, hHit f hf hHit'⟩

/-- A failure of the second result is of the kind if the first is none. -/
theorem hit {x y : Except Failure α} (h : Impairs Hit x y) (hx : x.isOk = true) {f : Failure}
    (hy : y = .error f) : Hit f := by
  rcases h with rfl | ⟨f', hf', hHit⟩
  · rw [hy] at hx
    cases hx
  · obtain rfl := Except.error.inj (hy.symm.trans hf')
    exact hHit

theorem bind {x y : Traced α} {f g : α → Traced β} (h : Impairs Hit x.result y.result)
    (hNext : ∀ a, y.result = .ok a → Impairs Hit (f a).result (g a).result) :
    Impairs Hit (x >>= f).result (y >>= g).result := by
  rw [Traced.result_bind, Traced.result_bind]
  rcases h with h | ⟨e, he, hHit⟩
  · rw [← h]
    cases hy : y.result with
    | error e => exact refl _
    | ok a => exact hNext a hy
  · rw [he]
    exact Or.inr ⟨e, rfl, hHit⟩

theorem mapM {f : α → Traced γ} {g : β → Traced γ} {xs : List α} {ys : List β}
    (h : List.Forall₂ (fun a b => Impairs Hit (f a).result (g b).result) xs ys) :
    Impairs Hit (xs.mapM f).result (ys.mapM g).result := by
  induction h with
  | nil =>
    rw [List.mapM_nil, List.mapM_nil]
    exact refl _
  | cons hHead _ ih =>
    rw [List.mapM_cons, List.mapM_cons]
    exact bind hHead fun c _ => bind ih fun cs _ => refl _

/-- A collection from parts that may fail. -/
theorem collect {f : α → Traced (List γ)} {g : β → Traced (List γ)} {xs : List α} {ys : List β}
    (h : List.Forall₂ (fun a b => Impairs Hit (f a).result (g b).result) xs ys) :
    Impairs Hit (do return (← xs.mapM f).flatten : Traced (List γ)).result
      (do return (← ys.mapM g).flatten : Traced (List γ)).result :=
  bind (mapM h) fun _ _ => refl _

end Impairs

/-! ## Questions that fail -/

/-- A result that was no failure may be one that leaves the rest of a run intact. -/
def MayFail (x y : Except Failure α) : Prop := Impairs (·.isRecoverable = true) x y

namespace Provider

/-- The list `sites'` goes on as `sites` does up to a call at which the provider fails. -/
def BreaksOff (q : Provider ι κ) (sites sites' : List (CallSite κ)) : Prop :=
  ∃ before c after f, before <+: sites ∧ sites' = before ++ c :: after ∧ q.resolve c = .error f

/-- The provider `q` answers like `p`, but fails for some questions. The calls of a method may also
break off on the way. -/
structure Impaired (p q : Provider ι κ) : Prop where
  language : q.language = p.language
  projects : q.projects = p.projects
  declarations : ∀ project, MayFail (p.declarations project) (q.declarations project)
  callSites : ∀ m, MayFail (p.callSites m) (q.callSites m) ∨
    ∃ sites sites', p.callSites m = .ok sites ∧ q.callSites m = .ok sites' ∧
      q.BreaksOff sites sites'
  resolve : ∀ c, MayFail (p.resolve c) (q.resolve c)
  entrypoints : ∀ project, MayFail (p.entrypoints project) (q.entrypoints project)
  commands : ∀ project, MayFail (p.commands project) (q.commands project)
  envLookups : ∀ project, MayFail (p.envLookups project) (q.envLookups project)
  literals : ∀ project, MayFail (p.literals project) (q.literals project)

/-- A provider that answers every question. -/
structure Faultless (p : Provider ι κ) : Prop extends p.Total where
  entrypoints : ∀ project, (p.entrypoints project).isOk = true
  commands : ∀ project, (p.commands project).isOk = true
  envLookups : ∀ project, (p.envLookups project).isOk = true
  literals : ∀ project, (p.literals project).isOk = true

/-- One of the questions about the calls of `m` fails with `f`. -/
def FailsAt (q : Provider ι κ) (m : Method ι) (f : Failure) : Prop :=
  q.callSites m = .error f ∨
    ∃ sites, q.callSites m = .ok sites ∧ ∃ c ∈ sites, q.resolve c = .error f

end Provider

/-! ## The calls of a method -/

/-- What is met at a call that is answered with `found`. -/
def eventsAt (external : Bool) (m : Method ι) (c : CallSite κ) :
    Option (Method ι) → List (CallEvent ι)
  | none => .unresolved (.unresolvedCall c.text c.argCount m.file c.line) ::
      if external then (looseCallee c.text).map .callee else []
  | some target => (boundCallee external target).map .callee

theorem not_failed_mem_eventsAt {external : Bool} {m : Method ι} {c : CallSite κ}
    {found : Option (Method ι)} (f : Failure) : .failed f ∉ eventsAt external m c found := by
  cases found with
  | none => cases external <;> simp [eventsAt]
  | some target => simp [eventsAt]

namespace Provider

variable {p q : Provider ι κ} {external : Bool} {m : Method ι} {c : CallSite κ}
  {sites : List (CallSite κ)} {f : Failure}

theorem eventsOf_of_error (h : p.resolve c = .error f) :
    p.eventsOf external m (c :: sites) = [.failed f] := by
  rw [eventsOf, h]

theorem eventsOf_of_ok {found : Option (Method ι)} (h : p.resolve c = .ok found) :
    p.eventsOf external m (c :: sites) =
      eventsAt external m c found ++ p.eventsOf external m sites := by
  rw [eventsOf, h]
  cases found <;> rfl

theorem exists_of_failed_mem_eventsOf (h : .failed f ∈ q.eventsOf external m sites) :
    ∃ c ∈ sites, q.resolve c = .error f := by
  induction sites with
  | nil => cases h
  | cons c sites ih =>
    cases hResolve : q.resolve c with
    | error e =>
      rw [eventsOf_of_error hResolve] at h
      obtain rfl : f = e := by simpa using h
      exact ⟨c, List.mem_cons_self, hResolve⟩
    | ok found =>
      rw [eventsOf_of_ok hResolve] at h
      rcases List.mem_append.mp h with h | h
      · exact absurd h (not_failed_mem_eventsAt f)
      · obtain ⟨d, hd, hFail⟩ := ih h
        exact ⟨d, List.mem_cons_of_mem _ hd, hFail⟩

theorem failsAt_of_failed_mem_events (h : .failed f ∈ q.events external m) : q.FailsAt m f := by
  rw [events] at h
  cases hSites : q.callSites m with
  | error e =>
    rw [hSites] at h
    obtain rfl : f = e := by simpa using h
    exact Or.inl hSites
  | ok sites =>
    rw [hSites] at h
    exact Or.inr ⟨sites, hSites, exists_of_failed_mem_eventsOf h⟩

end Provider

/-- The events `es'` are `es`, or go on like `es` up to a failure. -/
def MetAs (es es' : List (CallEvent ι)) : Prop :=
  es' = es ∨ ∃ before f, before <+: es ∧ es' = before ++ [.failed f]

theorem MetAs.of_failed (es : List (CallEvent ι)) (f : Failure) : MetAs es [.failed f] :=
  Or.inr ⟨[], f, List.nil_prefix, rfl⟩

theorem MetAs.append_left {es es' : List (CallEvent ι)} (h : MetAs es es')
    (head : List (CallEvent ι)) : MetAs (head ++ es) (head ++ es') := by
  rcases h with rfl | ⟨before, f, hBefore, rfl⟩
  · exact Or.inl rfl
  · exact Or.inr ⟨head ++ before, f, (List.prefix_append_right_inj head).mpr hBefore,
      (List.append_assoc _ _ _).symm⟩

namespace Provider.Impaired

variable {p q : Provider ι κ} (h : p.Impaired q) (external : Bool) (m : Method ι)

include h

theorem eventsOf_cons (c : CallSite κ) {sites sites' : List (CallSite κ)}
    (hRest : MetAs (p.eventsOf external m sites) (q.eventsOf external m sites')) :
    MetAs (p.eventsOf external m (c :: sites)) (q.eventsOf external m (c :: sites')) := by
  rcases h.resolve c with hSame | ⟨f, hFail, -⟩
  · cases hResolve : p.resolve c with
    | error f =>
      rw [eventsOf_of_error hResolve, eventsOf_of_error (hSame.trans hResolve)]
      exact Or.inl rfl
    | ok found =>
      rw [eventsOf_of_ok hResolve, eventsOf_of_ok (hSame.trans hResolve)]
      exact hRest.append_left _
  · rw [eventsOf_of_error hFail]
    exact .of_failed _ f

theorem eventsOf (sites : List (CallSite κ)) :
    MetAs (p.eventsOf external m sites) (q.eventsOf external m sites) := by
  induction sites with
  | nil => exact Or.inl rfl
  | cons c sites ih => exact h.eventsOf_cons external m c ih

theorem eventsOf_breaksOff {sites sites' : List (CallSite κ)} (hBreaks : q.BreaksOff sites sites') :
    MetAs (p.eventsOf external m sites) (q.eventsOf external m sites') := by
  obtain ⟨before, c, after, f, ⟨rest, rfl⟩, rfl, hFail⟩ := hBreaks
  induction before with
  | nil =>
    rw [List.nil_append, List.nil_append, eventsOf_of_error hFail]
    exact .of_failed _ f
  | cons d before ih => exact h.eventsOf_cons external m d ih

/-- The calls of a method are met as they were, perhaps up to a failure. -/
theorem events : MetAs (p.events external m) (q.events external m) := by
  rw [Provider.events, Provider.events]
  rcases h.callSites m with (hSame | ⟨f, hFail, -⟩) | ⟨sites, sites', hSites, hSites', hBreaks⟩
  · rw [hSame]
    cases p.callSites m with
    | error f => exact Or.inl rfl
    | ok sites => exact h.eventsOf external m sites
  · rw [hFail]
    exact .of_failed _ f
  · rw [hSites, hSites']
    exact h.eventsOf_breaksOff external m hBreaks

end Provider.Impaired

/-! ## Explorations -/

namespace Exploration

/-- Events that go on up to a failure have the same effect, unless the failure is met. -/
theorem foldl_step_metAs (lim : Limits) (s : Exploration ι) (n : Pending ι)
    {es es' : List (CallEvent ι)} (h : MetAs es es') :
    es'.foldl (step lim n) s = es.foldl (step lim n) s ∨
      ∃ f, (es'.foldl (step lim n) s).stop = some (.failed f) := by
  rcases h with rfl | ⟨before, f, ⟨rest, rfl⟩, rfl⟩
  · exact Or.inl rfl
  · rw [List.foldl_append, List.foldl_append]
    by_cases hStop : (before.foldl (step lim n) s).stop = none
    · refine Or.inr ⟨f, ?_⟩
      rw [List.foldl_cons, step_failed hStop]
      rfl
    · rw [foldl_step_of_stop hStop, foldl_step_of_stop hStop]
      exact Or.inl rfl

variable {p q : Provider ι κ} (h : p.Impaired q) (hTotal : p.Total) (external : Bool)
  (lim : Limits)

include h hTotal

theorem expand_impaired {s : Exploration ι} (hStop : s.stop = none) (n : Pending ι) :
    s.expand q external lim n = s.expand p external lim n ∨
      ∃ f, (s.expand q external lim n).stop = some (.failed f) := by
  rw [expand, expand]
  cases hSites : q.callSites n.method with
  | error f =>
    have hEvents : q.events external n.method = [.failed f] := by
      rw [Provider.events, hSites]
    have hQuery : s.query q n.method = s := by
      rw [query, Provider.answersCalls, hSites]
      rfl
    refine Or.inr ⟨f, ?_⟩
    rw [hEvents, hQuery, List.foldl_cons, step_failed hStop]
    rfl
  | ok sites =>
    have hQuery : s.query q n.method = s.query p n.method := by
      rw [query, query, Provider.answersCalls, Provider.answersCalls, hSites, hTotal.callSites]
      rfl
    rw [hQuery]
    exact foldl_step_metAs lim _ n (h.events external n.method)

theorem run_impaired (s : Exploration ι) :
    s.run q external lim = s.run p external lim ∨
      ∃ f, (s.run q external lim).stop = some (.failed f) := by
  induction s using run.induct p external lim with
  | case1 s source rest hQueue hStop popped hFar ih =>
    rw [run_cons hStop hQueue, run_cons hStop hQueue, if_pos hFar, if_pos hFar]
    exact ih
  | case2 s source rest hQueue hStop popped hNear ih =>
    rw [run_cons hStop hQueue, run_cons hStop hQueue, if_neg hNear, if_neg hNear]
    rcases expand_impaired h hTotal external lim (s := popped) hStop source with hSame | ⟨f, hFail⟩
    · rw [hSame]
      exact ih
    · rw [run_of_stop (p := q) (by rw [hFail]; simp)]
      exact Or.inr ⟨f, hFail⟩
  | case3 s hEnd =>
    have hRun : ∀ r : Provider ι κ, s.run r external lim = s := by
      intro r
      by_cases hStop : s.stop = none
      · cases hQueue : s.queue with
        | nil => exact run_of_queue_eq_nil hQueue
        | cons source rest => exact absurd (hEnd source rest hStop hQueue) id
      · exact run_of_stop hStop
    rw [hRun, hRun]
    exact Or.inl rfl

end Exploration

namespace Provider.Impaired

variable {p q : Provider ι κ} (h : p.Impaired q) (hTotal : p.Total)

include h hTotal

theorem isRecoverable_of_failsAt {m : Method ι} {f : Failure} (hFail : q.FailsAt m f) :
    f.isRecoverable = true := by
  rcases hFail with hFail | ⟨sites, -, c, -, hFail⟩
  · rcases h.callSites m with hMay | ⟨sites, sites', -, hSites, -⟩
    · exact hMay.hit (hTotal.callSites m) hFail
    · rw [hFail] at hSites
      cases hSites
  · exact (h.resolve c).hit (hTotal.resolve c) hFail

/-- An exploration finds the same graph, or a question about the calls of a method fails that it
expands. -/
theorem graph (external : Bool) {lim : Limits} (hDepth : 0 ≤ lim.depth) (root : Method ι)
    (rootId : String) :
    Impairs
      (fun f => ∃ k : Nat, (k : Int) < lim.depth ∧
        ∃ n ∈ level q external root rootId k, q.FailsAt n.method f)
      (explore p external lim root rootId).graph (explore q external lim root rootId).graph := by
  obtain ⟨depth, hLim⟩ : ∃ depth : Nat, lim.depth = depth :=
    ⟨lim.depth.toNat, (Int.toNat_of_nonneg hDepth).symm⟩
  rcases Exploration.run_impaired h hTotal external lim (.start root rootId) with hSame | ⟨f, hFail⟩
  · refine Or.inl ?_
    rw [explore, explore, hSame]
  · have hGraph : (explore q external lim root rootId).graph = .error f :=
      Exploration.graph_eq_error.mpr hFail
    obtain ⟨k, hk, n, hn, hMem⟩ := exists_failed_of_graph_eq_error hLim hGraph
    exact Or.inr ⟨f, hGraph, k, by omega, n, hn, failsAt_of_failed_mem_events hMem⟩

end Provider.Impaired

end CodeAtlas
