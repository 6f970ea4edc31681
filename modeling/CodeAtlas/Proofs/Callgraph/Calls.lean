import CodeAtlas.Proofs.Callgraph.Chains

/-!
# Calls within the repository and calls out of it

A call leads to a method of the repository, to one outside, or to nothing that is known. Only the
first kind can be explored; the other two are shown by a label if externals are asked for.

* `exists_site`: every callee comes from a call.
* `mem_level_inside`: levels hold methods of the repository, under their own identities.
* `Provider.events_inward`: without the calls that lead outside, a method yields the same but for
  labels and notes.
-/

namespace CodeAtlas

variable {ι κ : Type}

section Calls

variable {p : Provider ι κ} {external : Bool} {m : Method ι} {c : Callee ι}

/-! ## Where callees come from -/

theorem callee_mem_map {cs : List (Callee ι)} :
    CallEvent.callee c ∈ cs.map CallEvent.callee ↔ c ∈ cs := by
  simp

theorem exists_site_of_eventsOf {sites : List (CallSite κ)}
    (h : .callee c ∈ p.eventsOf external m sites) : ∃ site ∈ sites,
      (∃ target, p.resolve site = .ok (some target) ∧ c ∈ boundCallee external target) ∨
        external = true ∧ p.resolve site = .ok none ∧ c ∈ looseCallee site.text := by
  induction sites with
  | nil => cases h
  | cons site sites ih =>
    have hRest : .callee c ∈ p.eventsOf external m sites → ∃ site' ∈ site :: sites,
        (∃ target, p.resolve site' = .ok (some target) ∧ c ∈ boundCallee external target) ∨
          external = true ∧ p.resolve site' = .ok none ∧ c ∈ looseCallee site'.text := by
      intro h
      obtain ⟨site', hMem, hSite⟩ := ih h
      exact ⟨site', List.mem_cons_of_mem _ hMem, hSite⟩
    rw [Provider.eventsOf] at h
    split at h
    · obtain h := List.mem_singleton.mp h
      cases h
    · rename_i hResolve
      obtain h | h := List.mem_cons.mp h
      · cases h
      · obtain h | h := List.mem_append.mp h
        · split at h
          · rename_i hExternal
            exact ⟨site, List.mem_cons_self, .inr ⟨hExternal, hResolve, callee_mem_map.mp h⟩⟩
          · cases h
        · exact hRest h
    · rename_i target hResolve
      obtain h | h := List.mem_append.mp h
      · exact ⟨site, List.mem_cons_self, .inl ⟨target, hResolve, callee_mem_map.mp h⟩⟩
      · exact hRest h

/-- Every callee comes from a call, resolved or not. -/
theorem exists_site (h : .callee c ∈ p.events external m) :
    ∃ sites, p.callSites m = .ok sites ∧ ∃ site ∈ sites,
      (∃ target, p.resolve site = .ok (some target) ∧ c ∈ boundCallee external target) ∨
        external = true ∧ p.resolve site = .ok none ∧ c ∈ looseCallee site.text := by
  rw [Provider.events] at h
  split at h
  · obtain h := List.mem_singleton.mp h
    cases h
  · rename_i sites hSites
    exact ⟨sites, hSites, exists_site_of_eventsOf h⟩

theorem mem_looseCallee {text : String} :
    c ∈ looseCallee text ↔ Text.strip text ≠ "" ∧ c = ⟨Text.strip text, none⟩ := by
  rw [looseCallee]
  split <;> simp [*]

theorem mem_boundCallee {target : Method ι} : c ∈ boundCallee external target ↔
    target.inSource = true ∧ c = ⟨target.id, some target⟩ ∨
      target.inSource = false ∧ external = true ∧ c = ⟨target.id, none⟩ := by
  rw [boundCallee]
  cases target.inSource <;> cases external <;> simp

/-- A callee that can be explored is a method of the repository, shown under its identity. -/
theorem calls_of_callee {target : Method ι} (h : .callee c ∈ p.events external m)
    (hTarget : c.method = some target) : p.Calls m target ∧ c.id = target.id := by
  obtain ⟨sites, hSites, site, hSite, ⟨found, hResolve, hc⟩ | ⟨-, -, hc⟩⟩ := exists_site h
  · obtain ⟨hIn, rfl⟩ | ⟨-, -, rfl⟩ := mem_boundCallee.mp hc
    · obtain rfl := Option.some.inj hTarget
      exact ⟨⟨sites, hSites, site, hSite, hResolve, hIn⟩, rfl⟩
    · cases hTarget
  · obtain ⟨-, rfl⟩ := mem_looseCallee.mp hc
    cases hTarget

theorem Provider.Calls.inSource {m target : Method ι} (h : p.Calls m target) :
    target.inSource = true := by
  obtain ⟨_, -, _, -, -, hIn⟩ := h
  exact hIn

theorem callee_mem_of_mem_yieldedBy {es : List (CallEvent ι)} (h : c ∈ yieldedBy es) :
    .callee c ∈ es := by
  induction es with
  | nil => cases h
  | cons e es ih =>
    cases e with
    | callee d =>
      obtain rfl | h := List.mem_cons.mp h
      · exact List.mem_cons_self
      · exact List.mem_cons_of_mem _ (ih h)
    | unresolved note => exact List.mem_cons_of_mem _ (ih h)
    | failed f => cases h

/-- Levels hold methods of the repository under their own identities, the root perhaps aside. -/
theorem mem_level_inside {root : Method ι} {rootId : String} {k : Nat} {n : Pending ι}
    (h : n ∈ level p external root rootId k) :
    n = ⟨root, rootId, 0⟩ ∨ n.method.inSource = true ∧ n.id = n.method.id := by
  cases k with
  | zero => exact .inl (List.mem_singleton.mp h)
  | succ k =>
    obtain ⟨q, hq, hTarget⟩ := List.mem_filterMap.mp (mem_of_mem_fresh h).1
    obtain ⟨source, -, hq⟩ := List.mem_flatMap.mp hq
    obtain ⟨-, hYield⟩ := mem_sightings.mp hq
    obtain ⟨target, hMethod, rfl⟩ := Option.map_eq_some_iff.mp hTarget
    obtain ⟨hCalls, hId⟩ := calls_of_callee (callee_mem_of_mem_yieldedBy hYield) hMethod
    exact .inr ⟨hCalls.inSource, hId⟩

end Calls

/-! ## Calls that lead outside -/

/-- Some call of the method that leads out of the repository or to nothing known has the label. -/
def Provider.Outward (p : Provider ι κ) (m : Method ι) (label : String) : Prop :=
  ∃ sites, p.callSites m = .ok sites ∧ ∃ site ∈ sites,
    p.resolve site = .ok none ∧ Text.strip site.text = label ∧ label ≠ "" ∨
      ∃ target, p.resolve site = .ok (some target) ∧ target.inSource = false ∧ target.id = label

/-- A callee that cannot be explored shows such a label, and only if externals are asked for. -/
theorem outward_of_callee {p : Provider ι κ} {external : Bool} {m : Method ι} {c : Callee ι}
    (h : .callee c ∈ p.events external m) (hLeaf : c.method = none) :
    external = true ∧ p.Outward m c.id := by
  obtain ⟨sites, hSites, site, hSite, ⟨target, hResolve, hc⟩ | ⟨hExternal, hResolve, hc⟩⟩ :=
    exists_site h
  · obtain ⟨-, rfl⟩ | ⟨hOut, hExternal, rfl⟩ := mem_boundCallee.mp hc
    · cases hLeaf
    · exact ⟨hExternal, sites, hSites, site, hSite, .inr ⟨target, hResolve, hOut, rfl⟩⟩
  · obtain ⟨hLabel, rfl⟩ := mem_looseCallee.mp hc
    exact ⟨hExternal, sites, hSites, site, hSite, .inl ⟨hResolve, rfl, hLabel⟩⟩

/-- Does a call lead to a method of the repository, or is there no answer? -/
def Provider.leadsIn (p : Provider ι κ) (site : CallSite κ) : Bool :=
  match p.resolve site with
  | .ok (some target) => target.inSource
  | .ok none => false
  | .error _ => true

/-- The same provider without the calls that lead outside. -/
def Provider.inward (p : Provider ι κ) : Provider ι κ :=
  { p with callSites := fun m => (p.callSites m).map (·.filter p.leadsIn) }

/-- Does an event count for what is explored? -/
def CallEvent.isInward : CallEvent ι → Bool
  | .callee c => c.explorable
  | .unresolved _ => false
  | .failed _ => true

theorem isInward_callee {c : Callee ι} :
    (CallEvent.callee c).isInward = false ↔ c.method = none := by
  rw [CallEvent.isInward, Callee.explorable, Option.isSome_eq_false_iff, Option.isNone_iff_eq_none]

theorem callSites_inward (p : Provider ι κ) (m : Method ι) :
    p.inward.callSites m = (p.callSites m).map (·.filter p.leadsIn) := rfl

theorem answersCalls_inward (p : Provider ι κ) (m : Method ι) :
    p.inward.answersCalls m = p.answersCalls m := by
  rw [Provider.answersCalls, Provider.answersCalls, callSites_inward]
  cases p.callSites m <;> rfl

theorem filter_looseCallee (text : String) :
    ((looseCallee text).map CallEvent.callee).filter (CallEvent.isInward (ι := ι)) = [] := by
  rw [List.filter_eq_nil_iff]
  intro e he
  obtain ⟨c, hc, rfl⟩ := List.mem_map.mp he
  obtain ⟨-, rfl⟩ := mem_looseCallee.mp hc
  exact Bool.false_ne_true

theorem filter_boundCallee (external : Bool) (target : Method ι) :
    ((boundCallee external target).map CallEvent.callee).filter CallEvent.isInward =
      if target.inSource then [.callee ⟨target.id, some target⟩] else [] := by
  rw [boundCallee]
  by_cases hIn : target.inSource = true
  · rw [if_pos hIn, if_pos hIn]
    rfl
  · rw [if_neg hIn, if_neg hIn]
    cases external <;> rfl

theorem eventsOf_inward (p : Provider ι κ) (external external' : Bool) (m : Method ι)
    (sites : List (CallSite κ)) :
    p.inward.eventsOf external' m (sites.filter p.leadsIn) =
      (p.eventsOf external m sites).filter CallEvent.isInward := by
  induction sites with
  | nil => rfl
  | cons site sites ih =>
    have hResolve : p.inward.resolve site = p.resolve site := rfl
    rw [List.filter_cons, Provider.leadsIn, Provider.eventsOf]
    cases h : p.resolve site with
    | error f =>
      rw [if_pos rfl, Provider.eventsOf, hResolve, h]
      rfl
    | ok found =>
      cases found with
      | none =>
        dsimp only
        rw [if_neg Bool.false_ne_true, ih, List.filter_cons_of_neg Bool.false_ne_true,
          List.filter_append]
        cases external with
        | false => rfl
        | true => rw [if_pos rfl, filter_looseCallee, List.nil_append]
      | some target =>
        dsimp only
        rw [List.filter_append, ← ih, filter_boundCallee]
        by_cases hIn : target.inSource = true
        · rw [if_pos hIn, if_pos hIn, Provider.eventsOf, hResolve, h]
          dsimp only
          rw [boundCallee, if_pos hIn]
          rfl
        · rw [if_neg hIn, if_neg hIn, List.nil_append]

/-- Without the calls that lead outside, a method yields the same but for labels and notes. -/
theorem Provider.events_inward (p : Provider ι κ) (external external' : Bool) (m : Method ι) :
    p.inward.events external' m = (p.events external m).filter CallEvent.isInward := by
  rw [Provider.events, Provider.events, callSites_inward]
  cases p.callSites m with
  | error f => rfl
  | ok sites => exact eventsOf_inward p external external' m sites

end CodeAtlas
