import CodeAtlas.Proofs.Callgraph.Calls

/-!
# The turns of an exploration

An exploration takes one method after the other from its queue.

* `exists_turns`, `Turns.unique`: the turns of an exploration come to an end, and it alone settles
  which methods they take.
* `Underway`, `Underway.turn`: the methods taken are those of the levels, in their order.
* `explore_frugal`: there are no more turns than identities that may be taken in, and calls are asked
  for once per identity, below the depth only.
-/

namespace CodeAtlas

variable {ι κ : Type}

namespace Exploration

section Turns

variable {p : Provider ι κ} {external : Bool} {lim : Limits} {s t : Exploration ι}

/-- What is done with a method that has been taken from the queue. -/
def turn (p : Provider ι κ) (external : Bool) (lim : Limits) (n : Pending ι) (s : Exploration ι) :
    Exploration ι :=
  if lim.depth ≤ n.depth then s else s.expand p external lim n

/-- Turn by turn `s` becomes `t`, which has come to its end. The list holds the methods that are
taken from the queue on the way. -/
inductive Turns (p : Provider ι κ) (external : Bool) (lim : Limits) :
    Exploration ι → List (Pending ι) → Exploration ι → Prop
  | done {s : Exploration ι} (ended : s.stop ≠ none ∨ s.queue = []) : Turns p external lim s [] s
  | turn {s t : Exploration ι} {n : Pending ι} {rest taken : List (Pending ι)}
      (goesOn : s.stop = none) (queue : s.queue = n :: rest)
      (turns : Turns p external lim (({ s with queue := rest }).turn p external lim n) taken t) :
      Turns p external lim s (n :: taken) t

/-- An exploration comes to its end in finitely many turns. -/
theorem exists_turns (p : Provider ι κ) (external : Bool) (lim : Limits) (s : Exploration ι) :
    ∃ taken, Turns p external lim s taken (s.run p external lim) := by
  fun_induction run p external lim s with
  | case1 s n rest hQueue hStop popped hFar ih =>
    obtain ⟨taken, hTurns⟩ := ih
    refine ⟨n :: taken, .turn hStop hQueue ?_⟩
    rw [turn, if_pos hFar]
    exact hTurns
  | case2 s n rest hQueue hStop popped hNear ih =>
    obtain ⟨taken, hTurns⟩ := ih
    refine ⟨n :: taken, .turn hStop hQueue ?_⟩
    rw [turn, if_neg hNear]
    exact hTurns
  | case3 s hOver =>
    refine ⟨[], .done ?_⟩
    by_cases hStop : s.stop = none
    · cases hQueue : s.queue with
      | nil => exact .inr rfl
      | cons n rest => exact absurd hQueue (hOver n rest hStop)
    · exact .inl hStop

theorem Turns.unique {taken taken' : List (Pending ι)} {t' : Exploration ι}
    (h : Turns p external lim s taken t) (h' : Turns p external lim s taken' t') :
    taken = taken' ∧ t = t' := by
  induction h generalizing taken' t' with
  | @done s hOver =>
    cases h' with
    | done => exact ⟨rfl, rfl⟩
    | turn hStop hQueue => simp [hStop, hQueue] at hOver
  | turn hStop hQueue _ ih =>
    cases h' with
    | done hOver => simp [hStop, hQueue] at hOver
    | turn _ hQueue' hTurns =>
      obtain ⟨rfl, rfl⟩ := List.cons.inj (hQueue.symm.trans hQueue')
      obtain ⟨rfl, rfl⟩ := ih hTurns
      exact ⟨rfl, rfl⟩

theorem Turns.eq_run {taken : List (Pending ι)} (h : Turns p external lim s taken t) :
    t = s.run p external lim := by
  obtain ⟨_, hRun⟩ := exists_turns p external lim s
  exact (h.unique hRun).2

/-! ## Questions -/

/-- The methods whose calls are asked for, among those that are taken from the queue. -/
def asked (lim : Limits) (taken : List (Pending ι)) : List (Pending ι) :=
  taken.filter fun n => (n.depth : Int) < lim.depth

theorem queried_step (n : Pending ι) (e : CallEvent ι) : (s.step lim n e).queried = s.queried := by
  cases e with
  | callee c =>
    simp only [step, meet, visit]
    split
    · rfl
    · split
      · rfl
      · split
        · rfl
        · split <;> rfl
  | unresolved note => rw [step]; split <;> rfl
  | failed f => rw [step]; split <;> rfl

theorem queried_expand (n : Pending ι) : (s.expand p external lim n).queried =
    if p.answersCalls n.method then n.method :: s.queried else s.queried := by
  have hFold : ((p.events external n.method).foldl (step lim n) (s.query p n.method)).queried =
      (s.query p n.method).queried :=
    List.foldlRecOn (motive := fun u : Exploration ι => u.queried = (s.query p n.method).queried)
      _ _ rfl fun u hu e _ => (queried_step n e).trans hu
  rw [expand, hFold, query]
  split <;> rfl

/-- The trace of questions shows those that the provider answers. -/
theorem Turns.queried_eq {taken : List (Pending ι)} (h : Turns p external lim s taken t) :
    t.queried.reverse =
      s.queried.reverse ++ ((asked lim taken).map (·.method)).filter p.answersCalls := by
  induction h with
  | done => simp [asked]
  | @turn s t n rest taken hStop hQueue hTurns ih =>
    rw [ih, Exploration.turn, asked, asked, List.filter_cons]
    by_cases hFar : lim.depth ≤ n.depth
    · rw [if_pos hFar, if_neg (by simpa using hFar)]
    · rw [if_neg hFar, if_pos (by simpa using hFar), queried_expand, List.map_cons,
        List.filter_cons]
      split <;> simp

theorem Turns.queried_explore {root : Method ι} {rootId : String} {taken : List (Pending ι)}
    (h : Turns p external lim (start root rootId) taken ((start root rootId).run p external lim)) :
    (explore p external lim root rootId).queried =
      ((asked lim taken).map (·.method)).filter p.answersCalls := by
  rw [explore, h.queried_eq]
  rfl

end Turns

/-! ## How much is taken in -/

section Room

variable {p : Provider ι κ} {external : Bool} {lim : Limits} {s : Exploration ι}

/-- At most `lim.nodes` identities are taken in, but always the root. -/
def InRoom (lim : Limits) (s : Exploration ι) : Prop := (s.visited.length : Int) ≤ max 1 lim.nodes

theorem InRoom.visit (h : s.InRoom lim) (n : Pending ι) (c : Callee ι) :
    (s.visit lim n c).InRoom lim := by
  obtain hVisit | hVisit | ⟨m, -, hRoom, hVisit⟩ := visit_cases lim s n c
  · rwa [hVisit]
  · rwa [hVisit]
  · rw [hVisit, takeIn_eq]
    simp only [InRoom, List.length_cons] at h ⊢
    omega

theorem InRoom.step (h : s.InRoom lim) (n : Pending ι) (e : CallEvent ι) :
    (s.step lim n e).InRoom lim := by
  refine step_preserves h (fun c _ => ?_) (fun _ => h) (fun _ => h)
  have hRecord : (s.record n c).InRoom lim := h
  exact hRecord.visit n c

theorem InRoom.expand (h : s.InRoom lim) (n : Pending ι) :
    (s.expand p external lim n).InRoom lim := by
  refine List.foldlRecOn _ _ ?_ fun u hu e _ => hu.step n e
  rw [InRoom, (found_eq_iff.mp (found_query n.method s)).2.1]
  exact h

theorem InRoom.turn (h : s.InRoom lim) (n : Pending ι) :
    (s.turn p external lim n).InRoom lim := by
  unfold Exploration.turn
  split
  · exact h
  · exact h.expand n

end Room

/-! ## Methods in the order of the levels -/

section Order

variable {p : Provider ι κ} {external : Bool} {root : Method ι} {rootId : String} {lim : Limits}

/-- What the methods `done` of level `k` have led to in the level below. -/
def ahead (p : Provider ι κ) (external : Bool) (root : Method ι) (rootId : String) (k : Nat)
    (done : List (Pending ι)) : List (Pending ι) :=
  fresh (frontier p external root rootId k).seen (targets (done.flatMap (p.sightings external)))

/-- The exploration `s` has taken the methods of the levels above `k` and those in `done`; those in
`rest` wait, and behind them what has been found of the level below. -/
structure Underway (p : Provider ι κ) (external : Bool) (root : Method ι) (rootId : String)
    (lim : Limits) (k : Nat) (done rest taken : List (Pending ι)) (s : Exploration ι) : Prop where
  near : (k : Int) < lim.depth
  level_eq : level p external root rootId k = done ++ rest
  ids : ((taken ++ rest).map (·.id)).reverse = (frontier p external root rootId k).seen
  mem_level : ∀ n ∈ taken, n ∈ level p external root rootId n.depth
  queue : s.queue = rest ++
    (ahead p external root rootId k done).filter fun n => decide ((n.depth : Int) < lim.depth)
  visited : s.visited = ((ahead p external root rootId k done).map (·.id)).reverse ++
    (frontier p external root rootId k).seen

theorem underway_start (h : 0 < lim.depth) :
    Underway p external root rootId lim 0 [] [⟨root, rootId, 0⟩] [] (start root rootId) where
  near := h
  level_eq := rfl
  ids := rfl
  mem_level n hn := by cases hn
  queue := by simp [start, ahead, targets, fresh]
  visited := by simp [start, ahead, targets, fresh, frontier]

namespace Underway

variable {k : Nat} {done rest taken : List (Pending ι)} {n : Pending ι} {s : Exploration ι}

/-- Behind the last method of a level begins the next one. -/
theorem below (h : Underway p external root rootId lim k done [] taken s) (hQueue : s.queue ≠ []) :
    Underway p external root rootId lim (k + 1) [] (level p external root rootId (k + 1)) taken s := by
  have hDone : level p external root rootId k = done := h.level_eq.trans (List.append_nil _)
  have hNext : ahead p external root rootId k done = level p external root rootId (k + 1) := by
    rw [← hDone]
    rfl
  have hAhead : ∀ done, done = [] → ahead p external root rootId (k + 1) done = [] := by
    rintro _ rfl
    rfl
  have hWaits := h.queue
  rw [hNext, List.nil_append] at hWaits
  have hNear : ((k + 1 : Nat) : Int) < lim.depth := by
    obtain ⟨m, rest, hm⟩ := List.exists_cons_of_ne_nil hQueue
    have hMem : m ∈ s.queue := hm ▸ List.mem_cons_self
    rw [hWaits] at hMem
    obtain ⟨hLevel, hDepth⟩ := List.mem_filter.mp hMem
    rw [depth_of_mem_level hLevel] at hDepth
    exact of_decide_eq_true hDepth
  constructor
  · exact hNear
  · rfl
  · have hIds := h.ids
    rw [List.append_nil] at hIds
    rw [List.map_append, List.reverse_append, hIds]
    rfl
  · exact h.mem_level
  · rw [hWaits, hAhead _ rfl, List.filter_nil, List.append_nil, List.filter_eq_self]
    intro m hm
    rw [depth_of_mem_level hm]
    exact decide_eq_true hNear
  · rw [h.visited, hNext, hAhead _ rfl]
    rfl

/-- Taking the next method of a level. -/
theorem turn (h : Underway p external root rootId lim k done (n :: rest) taken s)
    (hStop : s.stop = none) {u : Exploration ι} (hu : found u = found s)
    (huQueue : u.queue = rest ++
      (ahead p external root rootId k done).filter fun n => decide ((n.depth : Int) < lim.depth))
    (hGoesOn : (u.turn p external lim n).stop = none) :
    Underway p external root rootId lim k (done ++ [n]) rest (taken ++ [n])
      (u.turn p external lim n) := by
  have hLevel : n ∈ level p external root rootId k := by
    rw [h.level_eq]
    exact List.mem_append_right _ List.mem_cons_self
  have hDepth := depth_of_mem_level hLevel
  have hTurn : u.turn p external lim n = u.expand p external lim n := by
    refine if_neg ?_
    rw [hDepth]
    exact Int.not_le.mpr h.near
  obtain ⟨-, huVisited, huStop⟩ := found_eq_iff.mp hu
  rw [hTurn] at hGoesOn ⊢
  obtain ⟨f, hFail, -⟩ | ⟨hFound, hQueue, -⟩ := expand_cases p external lim (huStop.trans hStop) n
  · rw [hGoesOn] at hFail
    cases hFail
  obtain ⟨-, hVisited, hSweepStop⟩ := found_eq_iff.mp hFound
  have hSwept := swept_of_stop_eq_none (hSweepStop.symm.trans hGoesOn)
  have hAhead : ahead p external root rootId k (done ++ [n]) =
      ahead p external root rootId k done ++ fresh u.visited (targets (p.sightings external n)) := by
    rw [huVisited, h.visited, ahead, List.flatMap_append, targets_append, fresh_append,
      List.flatMap_singleton]
    rfl
  constructor
  · exact h.near
  · rw [h.level_eq, List.append_assoc]
    rfl
  · rw [List.append_assoc]
    exact h.ids
  · intro m hm
    obtain hm | hm := List.mem_append.mp hm
    · exact h.mem_level m hm
    · obtain rfl := List.mem_singleton.mp hm
      rw [hDepth]
      exact hLevel
  · rw [hQueue, hSwept.queue, huQueue, hAhead, List.filter_append, List.append_assoc]
  · rw [hVisited, hSwept.visited, hAhead, List.map_append, List.reverse_append, List.append_assoc,
      ← h.visited, huVisited]

end Underway

/-! ## Frugality -/

/-- How often and for which methods an exploration asks that takes the methods `taken`. -/
structure Frugal (p : Provider ι κ) (external : Bool) (root : Method ι) (rootId : String)
    (lim : Limits) (taken : List (Pending ι)) : Prop where
  length_le : (taken.length : Int) ≤ max 1 lim.nodes
  nodup : (taken.map (·.id)).Nodup
  mem_level : ∀ n ∈ taken, n ∈ level p external root rootId n.depth

theorem Underway.frugal {k : Nat} {n : Pending ι} {done rest taken : List (Pending ι)}
    {s : Exploration ι} (h : Underway p external root rootId lim k done (n :: rest) taken s)
    (hRoom : s.InRoom lim) : Frugal p external root rootId lim (taken ++ [n]) := by
  have hIds : (taken ++ [n]).map (·.id) <+: (taken ++ n :: rest).map (·.id) := by
    refine List.IsPrefix.map _ ⟨rest, ?_⟩
    rw [List.append_assoc]
    rfl
  have hSeen : ((taken ++ n :: rest).map (·.id)).Nodup := by
    rw [← List.nodup_reverse, h.ids]
    exact nodup_seen k
  have hLevel : n ∈ level p external root rootId k := by
    rw [h.level_eq]
    exact List.mem_append_right _ List.mem_cons_self
  constructor
  · have hTaken := hIds.length_le
    have hAll := congrArg List.length h.ids
    have hVisited := congrArg List.length h.visited
    rw [InRoom] at hRoom
    simp only [List.length_map, List.length_append, List.length_reverse, List.length_cons] at *
    omega
  · exact hSeen.sublist hIds.sublist
  · intro m hm
    obtain hm | hm := List.mem_append.mp hm
    · exact h.mem_level m hm
    · obtain rfl := List.mem_singleton.mp hm
      rw [depth_of_mem_level hLevel]
      exact hLevel

/-- The method that stands first in the queue is the next one of its level. -/
theorem Underway.next {k : Nat} {n : Pending ι} {done wait rest taken : List (Pending ι)}
    {s : Exploration ι} (h : Underway p external root rootId lim k done wait taken s)
    (hQueue : s.queue = n :: rest) :
    ∃ k done wait, Underway p external root rootId lim k done (n :: wait) taken s ∧
      rest = wait ++ (ahead p external root rootId k done).filter
        fun n => decide ((n.depth : Int) < lim.depth) := by
  cases wait with
  | nil =>
    have hBelow := h.below (by simp [hQueue])
    have hFirst := hBelow.queue
    cases hLevel : level p external root rootId (k + 1) with
    | nil =>
      rw [hLevel, hQueue] at hFirst
      cases hFirst
    | cons m wait =>
      rw [hLevel] at hBelow hFirst
      obtain ⟨rfl, hRest⟩ := List.cons.inj (hQueue.symm.trans hFirst)
      exact ⟨k + 1, [], wait, hBelow, hRest⟩
  | cons m wait =>
    obtain ⟨rfl, hRest⟩ := List.cons.inj (hQueue.symm.trans h.queue)
    exact ⟨k, done, wait, h, hRest⟩

/-- However far an exploration has come, it goes on frugally. -/
theorem Turns.frugal {s t : Exploration ι} {before taken : List (Pending ι)}
    (h : Turns p external lim s taken t) (hRoom : s.InRoom lim)
    (hBefore : Frugal p external root rootId lim before)
    (hUnder : s.stop = none →
      ∃ k done wait, Underway p external root rootId lim k done wait before s) :
    Frugal p external root rootId lim (before ++ taken) := by
  induction h generalizing before with
  | done => rwa [List.append_nil]
  | @turn s t n rest taken hStop hQueue hTurns ih =>
    obtain ⟨k, done, wait, hs⟩ := hUnder hStop
    obtain ⟨k, done, wait, hs, hRest⟩ := hs.next hQueue
    have hPopped : InRoom lim { s with queue := rest } := hRoom
    have hMore := ih (hPopped.turn n) (hs.frugal hRoom)
      fun hGoesOn => ⟨k, _, wait, hs.turn hStop rfl hRest hGoesOn⟩
    rwa [List.append_assoc] at hMore

variable (p external root rootId lim) in
theorem exists_frugal_turns : ∃ taken,
    Turns p external lim (start root rootId) taken ((start root rootId).run p external lim) ∧
      Frugal p external root rootId lim taken := by
  obtain ⟨taken, hTurns⟩ := exists_turns p external lim (start root rootId)
  refine ⟨taken, hTurns, ?_⟩
  by_cases hDepth : 0 < lim.depth
  · have hRoom : (start root rootId).InRoom lim := le_max_left 1 lim.nodes
    have hNone : Frugal p external root rootId lim [] :=
      ⟨by simp, List.nodup_nil, fun n hn => nomatch hn⟩
    exact hTurns.frugal hRoom hNone fun _ => ⟨0, [], _, underway_start hDepth⟩
  · -- nothing is near enough to be expanded: the root is taken and left as it is
    have hOver : Turns p external lim (start root rootId) [⟨root, rootId, 0⟩]
        { start root rootId with queue := [] } := by
      have hFar : lim.depth ≤ ((⟨root, rootId, 0⟩ : Pending ι).depth : Int) := Int.not_lt.mp hDepth
      refine .turn rfl rfl ?_
      rw [turn, if_pos hFar]
      exact .done (.inr rfl)
    obtain ⟨rfl, -⟩ := hTurns.unique hOver
    refine ⟨le_max_left 1 lim.nodes, List.nodup_singleton _, fun n hn => ?_⟩
    obtain rfl := List.mem_singleton.mp hn
    exact List.mem_singleton_self _

/-- The identities of what is taken are the canonical ones if the root's is. -/
theorem Frugal.id_eq {taken : List (Pending ι)} (h : Frugal p external root rootId lim taken)
    (hRoot : rootId = root.id) {n : Pending ι} (hn : n ∈ taken) : n.id = n.method.id := by
  obtain rfl | ⟨-, hId⟩ := mem_level_inside (h.mem_level n hn)
  · exact hRoot
  · exact hId

/-- An exploration takes the methods `taken` until it ends, and its questions are few. -/
structure FewQuestions (p : Provider ι κ) (external : Bool) (lim : Limits) (root : Method ι)
    (rootId : String) (taken : List (Pending ι)) : Prop where
  ends : Turns p external lim (start root rootId) taken ((start root rootId).run p external lim)
  turns_le : (taken.length : Int) ≤ max 1 lim.nodes
  asked_le : ((asked lim taken).length : Int) ≤ max 1 lim.nodes
  once : ((asked lim taken).map (·.id)).Nodup
  once_canonical : rootId = root.id → ((asked lim taken).map (·.method.id)).Nodup
  near : ∀ n ∈ asked lim taken, n ∈ level p external root rootId n.depth
  far : ∀ k : Nat, lim.depth ≤ k → ∀ m ∈ level p external root rootId k,
    m.id ∉ (asked lim taken).map (·.id)
  queried : (explore p external lim root rootId).queried =
    ((asked lim taken).map (·.method)).filter p.answersCalls

/-- Every exploration ends, and asks for the calls of at most as many methods as identities may be
taken in, for each identity once at most and for none whose distance from the root is the depth or
more. -/
theorem explore_frugal (p : Provider ι κ) (external : Bool) (lim : Limits) (root : Method ι)
    (rootId : String) : ∃ taken, FewQuestions p external lim root rootId taken := by
  obtain ⟨taken, hTurns, hFrugal⟩ := exists_frugal_turns p external root rootId lim
  have hAsked : (asked lim taken).Sublist taken := List.filter_sublist
  have hOnce : ((asked lim taken).map (·.id)).Nodup := hFrugal.nodup.sublist (hAsked.map _)
  refine ⟨taken, hTurns, hFrugal.length_le, ?_, hOnce, ?_, ?_, ?_, hTurns.queried_explore⟩
  · have hLength := hAsked.length_le
    have hTaken := hFrugal.length_le
    omega
  · intro hRoot
    have hIds : (asked lim taken).map (·.method.id) = (asked lim taken).map (·.id) :=
      List.map_congr_left fun n hn => (hFrugal.id_eq hRoot (hAsked.subset hn)).symm
    rw [hIds]
    exact hOnce
  · exact fun n hn => hFrugal.mem_level n (hAsked.subset hn)
  · intro k hk m hm hMem
    obtain ⟨n, hn, hId⟩ := List.mem_map.mp hMem
    obtain ⟨hTaken, hNear⟩ := List.mem_filter.mp hn
    -- an identity has one level, and that of `n` is not too far
    obtain rfl := level_unique (hFrugal.mem_level n hTaken) hm hId
    rw [depth_of_mem_level hm, decide_eq_true_eq] at hNear
    omega

end Order

end Exploration

end CodeAtlas
