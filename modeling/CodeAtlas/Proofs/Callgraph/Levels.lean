import CodeAtlas.Callgraph.Explore
import Mathlib.Data.Finset.Card

/-!
# Levels of a call graph

A description of call graphs that knows no queue: level `0` holds the root, and level `k + 1` the
methods called from level `k` whose identities occur in no earlier level, each identity once and
represented by the method under which it is first seen.

* `mem_level_succ`: what level `k + 1` holds.
* `level_unique`: an identity has one level and one method that stands for it.
* `within_iff_level`: the level of an identity is its distance from the root.
-/

namespace CodeAtlas

variable {ι κ : Type}

/-! ## The callees of a method -/

/-- The callees among some events, up to the first failure. -/
def yieldedBy : List (CallEvent ι) → List (Callee ι)
  | [] => []
  | .callee c :: rest => c :: yieldedBy rest
  | .unresolved _ :: rest => yieldedBy rest
  | .failed _ :: _ => []

/-- The callees that the calls of a method yield before the provider fails, if it does. -/
def Provider.yields (p : Provider ι κ) (external : Bool) (m : Method ι) : List (Callee ι) :=
  yieldedBy (p.events external m)

/-- Does the provider answer for all calls of a method? -/
def Provider.Answers (p : Provider ι κ) (external : Bool) (m : Method ι) : Prop :=
  ∀ f, .failed f ∉ p.events external m

theorem result_calleesOf {es : List (CallEvent ι)} (h : ∀ f, .failed f ∉ es) :
    (calleesOf es).result = .ok (yieldedBy es) := by
  induction es with
  | nil => rfl
  | cons e es ih =>
    have hes : (calleesOf es).result = .ok (yieldedBy es) :=
      ih fun f hf => h f (List.mem_cons_of_mem _ hf)
    cases e with
    | callee c =>
      rw [calleesOf, Traced.result_bind, hes]
      rfl
    | unresolved n =>
      rw [calleesOf, Traced.result_bind]
      exact hes
    | failed f => exact absurd List.mem_cons_self (h f)

/-- Where the provider answers, what is yielded is the list of callees. -/
theorem Provider.result_callees {p : Provider ι κ} {external : Bool} {m : Method ι}
    (h : p.Answers external m) : (p.callees external m).result = .ok (p.yields external m) :=
  result_calleesOf h

/-! ## Calls seen on the way -/

/-- A call, with the method at some distance from the root that makes it. -/
structure Sighting (ι : Type) where
  source : Pending ι
  callee : Callee ι

namespace Sighting

def edge (q : Sighting ι) : Edge := ⟨q.source.id, q.callee.id⟩

/-- The method that the call leads to, if it can be explored. -/
def target? (q : Sighting ι) : Option (Pending ι) :=
  q.callee.method.map fun m => ⟨m, q.callee.id, q.source.depth + 1⟩

end Sighting

/-- The calls of a method. -/
def Provider.sightings (p : Provider ι κ) (external : Bool) (n : Pending ι) : List (Sighting ι) :=
  (p.yields external n.method).map fun c => ⟨n, c⟩

/-- The methods that some calls lead to. -/
def targets (xs : List (Sighting ι)) : List (Pending ι) := xs.filterMap Sighting.target?

theorem targets_append (xs ys : List (Sighting ι)) :
    targets (xs ++ ys) = targets xs ++ targets ys := List.filterMap_append

/-- The methods whose identities are not in `seen`, each identity where it first occurs. -/
def fresh (seen : List String) : List (Pending ι) → List (Pending ι)
  | [] => []
  | n :: rest => if n.id ∈ seen then fresh seen rest else n :: fresh (n.id :: seen) rest

theorem fresh_append (seen : List String) (ns ms : List (Pending ι)) :
    fresh seen (ns ++ ms) =
      fresh seen ns ++ fresh (((fresh seen ns).map (·.id)).reverse ++ seen) ms := by
  induction ns generalizing seen with
  | nil => rfl
  | cons n ns ih =>
    rw [List.cons_append, fresh, fresh]
    split
    · exact ih seen
    · rw [ih (n.id :: seen)]
      simp

theorem mem_of_mem_fresh {seen : List String} {ns : List (Pending ι)} {n : Pending ι}
    (h : n ∈ fresh seen ns) : n ∈ ns ∧ n.id ∉ seen := by
  induction ns generalizing seen with
  | nil => cases h
  | cons m ns ih =>
    rw [fresh] at h
    split at h
    · exact ⟨List.mem_cons_of_mem _ (ih h).1, (ih h).2⟩
    · rcases List.mem_cons.mp h with rfl | h
      · exact ⟨List.mem_cons_self, ‹_›⟩
      · exact ⟨List.mem_cons_of_mem _ (ih h).1, fun hs => (ih h).2 (List.mem_cons_of_mem _ hs)⟩

theorem mem_ids_fresh {seen : List String} {ns : List (Pending ι)} {a : String} :
    a ∈ (fresh seen ns).map (·.id) ↔ a ∈ ns.map (·.id) ∧ a ∉ seen := by
  induction ns generalizing seen with
  | nil => simp [fresh]
  | cons n ns ih =>
    rw [fresh]
    split
    · rw [ih, List.map_cons, List.mem_cons]
      constructor
      · exact fun h => ⟨Or.inr h.1, h.2⟩
      · rintro ⟨rfl | h, hs⟩
        · contradiction
        · exact ⟨h, hs⟩
    · rw [List.map_cons, List.map_cons, List.mem_cons, List.mem_cons, ih, List.mem_cons]
      by_cases ha : a = n.id
      · subst ha
        simp [*]
      · simp [ha]

theorem nodup_fresh {seen : List String} {ns : List (Pending ι)} (hs : seen.Nodup) :
    (((fresh seen ns).map (·.id)).reverse ++ seen).Nodup := by
  induction ns generalizing seen with
  | nil => exact hs
  | cons n ns ih =>
    rw [fresh]
    split
    · exact ih hs
    · have := ih (List.nodup_cons.mpr ⟨‹_›, hs⟩)
      simpa using this

/-! ## Levels -/

/-- A level of the exploration. -/
structure Frontier (ι : Type) where
  /-- The identities of this level and of all before it, latest first. -/
  seen : List String
  level : List (Pending ι)

/-- The level below. -/
def Frontier.next (p : Provider ι κ) (external : Bool) (f : Frontier ι) : Frontier ι :=
  let found := fresh f.seen (targets (f.level.flatMap (p.sightings external)))
  ⟨(found.map (·.id)).reverse ++ f.seen, found⟩

section Levels

variable (p : Provider ι κ) (external : Bool) (root : Method ι) (rootId : String)

def frontier : Nat → Frontier ι
  | 0 => ⟨[rootId], [⟨root, rootId, 0⟩]⟩
  | k + 1 => (frontier k).next p external

/-- The methods at distance `k` from the root, in the order in which they are found. -/
def level (k : Nat) : List (Pending ι) := (frontier p external root rootId k).level

/-- The calls of the methods at a distance below `depth`, in the order in which they are seen. -/
def sightingsBelow (depth : Nat) : List (Sighting ι) :=
  (List.range depth).flatMap fun k =>
    (level p external root rootId k).flatMap (p.sightings external)

variable {p external root rootId}

theorem sightingsBelow_succ (depth : Nat) :
    sightingsBelow p external root rootId (depth + 1) =
      sightingsBelow p external root rootId depth ++
        (level p external root rootId depth).flatMap (p.sightings external) := by
  simp [sightingsBelow, List.range_succ]

theorem mem_sightings {n : Pending ι} {q : Sighting ι} :
    q ∈ p.sightings external n ↔ q.source = n ∧ q.callee ∈ p.yields external n.method := by
  cases q
  simp only [Provider.sightings, List.mem_map, Sighting.mk.injEq]
  constructor
  · rintro ⟨c, hc, rfl, rfl⟩
    exact ⟨rfl, hc⟩
  · rintro ⟨rfl, hc⟩
    exact ⟨_, hc, rfl, rfl⟩

theorem mem_sightingsBelow {depth : Nat} {q : Sighting ι} :
    q ∈ sightingsBelow p external root rootId depth ↔
      ∃ k < depth, q.source ∈ level p external root rootId k ∧
        q.callee ∈ p.yields external q.source.method := by
  simp only [sightingsBelow, List.mem_flatMap, List.mem_range, mem_sightings]
  constructor
  · rintro ⟨k, hk, n, hn, rfl, hc⟩
    exact ⟨k, hk, hn, hc⟩
  · rintro ⟨k, hk, hn, hc⟩
    exact ⟨k, hk, q.source, hn, rfl, hc⟩

theorem mem_ids_targets {ns : List (Pending ι)} {a : String} :
    a ∈ (targets (ns.flatMap (p.sightings external))).map (·.id) ↔
      ∃ n ∈ ns, ∃ c ∈ p.yields external n.method, c.explorable = true ∧ c.id = a := by
  simp only [targets, List.mem_map, List.mem_filterMap, List.mem_flatMap, mem_sightings]
  constructor
  · rintro ⟨t, ⟨q, ⟨n, hn, rfl, hc⟩, ht⟩, rfl⟩
    obtain ⟨m, hm, rfl⟩ := Option.map_eq_some_iff.mp ht
    exact ⟨q.source, hn, q.callee, hc, by simp [Callee.explorable, hm], rfl⟩
  · rintro ⟨n, hn, c, hc, hm, rfl⟩
    obtain ⟨m, hm⟩ := Option.isSome_iff_exists.mp hm
    exact ⟨⟨m, c.id, n.depth + 1⟩, ⟨⟨n, c⟩, ⟨n, hn, rfl, hc⟩, by simp [Sighting.target?, hm]⟩, rfl⟩

theorem mem_seen_iff {k : Nat} {a : String} :
    a ∈ (frontier p external root rootId k).seen ↔
      ∃ j ≤ k, a ∈ (level p external root rootId j).map (·.id) := by
  induction k with
  | zero =>
    constructor
    · exact fun h => ⟨0, Nat.le_refl _, h⟩
    · rintro ⟨j, hj, h⟩
      obtain rfl : j = 0 := by omega
      exact h
  | succ k ih =>
    rw [frontier, Frontier.next, List.mem_append, List.mem_reverse, ih]
    constructor
    · rintro (h | ⟨j, hj, h⟩)
      · exact ⟨k + 1, Nat.le_refl _, h⟩
      · exact ⟨j, by omega, h⟩
    · rintro ⟨j, hj, h⟩
      by_cases hk : j = k + 1
      · subst hk
        exact Or.inl h
      · exact Or.inr ⟨j, by omega, h⟩

/-- Level `k + 1` holds the identities of the callees of level `k` that occur in no earlier
level. -/
theorem mem_level_succ {k : Nat} {a : String} :
    a ∈ (level p external root rootId (k + 1)).map (·.id) ↔
      (∃ n ∈ level p external root rootId k, ∃ c ∈ p.yields external n.method,
        c.explorable = true ∧ c.id = a) ∧
      ∀ j ≤ k, a ∉ (level p external root rootId j).map (·.id) := by
  rw [level, frontier, Frontier.next, mem_ids_fresh, mem_ids_targets, mem_seen_iff]
  simp only [not_exists, not_and]
  rfl

theorem depth_of_mem_level {k : Nat} {n : Pending ι} (h : n ∈ level p external root rootId k) :
    n.depth = k := by
  induction k generalizing n with
  | zero =>
    obtain rfl := List.mem_singleton.mp h
    rfl
  | succ k ih =>
    obtain ⟨q, hq, ht⟩ := List.mem_filterMap.mp (mem_of_mem_fresh h).1
    obtain ⟨m, hm, hqm⟩ := List.mem_flatMap.mp hq
    obtain ⟨hs, -⟩ := mem_sightings.mp hqm
    obtain ⟨-, -, rfl⟩ := Option.map_eq_some_iff.mp ht
    rw [hs, ih hm]

theorem nodup_seen (k : Nat) : (frontier p external root rootId k).seen.Nodup := by
  induction k with
  | zero => exact List.nodup_singleton rootId
  | succ k ih => exact nodup_fresh ih

theorem nodup_level (k : Nat) : ((level p external root rootId k).map (·.id)).Nodup := by
  cases k with
  | zero => exact List.nodup_singleton rootId
  | succ k =>
    have h : (frontier p external root rootId (k + 1)).seen.Nodup := nodup_seen (k + 1)
    rw [frontier, Frontier.next] at h
    exact List.nodup_reverse.mp (List.nodup_append.mp h).1

/-- An identity has one level and one method that stands for it. -/
theorem level_unique {j k : Nat} {n m : Pending ι} (hn : n ∈ level p external root rootId j)
    (hm : m ∈ level p external root rootId k) (h : n.id = m.id) : n = m := by
  have hjk : ∀ {i l : Nat} {a b : Pending ι}, a ∈ level p external root rootId i →
      b ∈ level p external root rootId l → a.id = b.id → ¬ i < l := by
    intro i l a b ha hb hab hil
    obtain ⟨l, rfl⟩ : ∃ l', l = l' + 1 := ⟨l - 1, by omega⟩
    have hOld : b.id ∉ (level p external root rootId i).map (·.id) :=
      (mem_level_succ.mp (List.mem_map_of_mem hb)).2 i (by omega)
    exact hOld (hab ▸ List.mem_map_of_mem ha)
  obtain rfl : j = k := by
    have h1 := hjk hn hm h
    have h2 := hjk hm hn h.symm
    omega
  exact List.inj_on_of_nodup_map (nodup_level j) hn hm h

end Levels

/-! ## Distances -/

section Distance

variable (p : Provider ι κ) (external : Bool) (root : Method ι) (rootId : String)

/-- A chain of `k` calls from the root to an identity, each call made by the method that stands for
the identity before it. -/
inductive Walk : Nat → String → Prop
  | root : Walk 0 rootId
  | call {k j : Nat} {n : Pending ι} {c : Callee ι} (walk : Walk k n.id)
      (stands : n ∈ level p external root rootId j) (called : c ∈ p.yields external n.method)
      (explorable : c.explorable = true) : Walk (k + 1) c.id

variable {p external root rootId}

/-- A callee of a level belongs to the level below or to one before it. -/
theorem exists_level_of_called {j : Nat} {n : Pending ι} {c : Callee ι}
    (hn : n ∈ level p external root rootId j) (hc : c ∈ p.yields external n.method)
    (hExp : c.explorable = true) :
    ∃ i ≤ j + 1, c.id ∈ (level p external root rootId i).map (·.id) := by
  by_cases hOld : ∃ i ≤ j, c.id ∈ (level p external root rootId i).map (·.id)
  · obtain ⟨i, hi, h⟩ := hOld
    exact ⟨i, by omega, h⟩
  · refine ⟨j + 1, Nat.le_refl _, mem_level_succ.mpr ⟨⟨n, hn, c, hc, hExp, rfl⟩, ?_⟩⟩
    exact fun i hi h => hOld ⟨i, hi, h⟩

theorem Walk.exists_level {k : Nat} {a : String} (h : Walk p external root rootId k a) :
    ∃ j ≤ k, a ∈ (level p external root rootId j).map (·.id) := by
  induction h with
  | root => exact ⟨0, Nat.le_refl _, List.mem_singleton_self _⟩
  | @call k j n c walk stands called explorable ih =>
    obtain ⟨i, hi, hn⟩ := ih
    obtain ⟨n', hn', hid⟩ := List.mem_map.mp hn
    obtain rfl := level_unique hn' stands hid
    obtain ⟨l, hl, hc⟩ := exists_level_of_called hn' called explorable
    exact ⟨l, by omega, hc⟩

theorem walk_of_mem_level {k : Nat} {a : String}
    (h : a ∈ (level p external root rootId k).map (·.id)) : Walk p external root rootId k a := by
  induction k generalizing a with
  | zero =>
    obtain rfl : a = rootId := List.mem_singleton.mp h
    exact .root
  | succ k ih =>
    obtain ⟨⟨n, hn, c, hc, hexp, rfl⟩, -⟩ := mem_level_succ.mp h
    exact .call (ih (List.mem_map_of_mem hn)) hn hc hexp

/-- The identities within `k` calls from the root are those of the levels up to `k`. -/
theorem within_iff_level {k : Nat} {a : String} :
    (∃ j ≤ k, Walk p external root rootId j a) ↔
      ∃ j ≤ k, a ∈ (level p external root rootId j).map (·.id) := by
  constructor
  · rintro ⟨j, hj, h⟩
    obtain ⟨i, hi, ha⟩ := h.exists_level
    exact ⟨i, by omega, ha⟩
  · rintro ⟨j, hj, h⟩
    exact ⟨j, hj, walk_of_mem_level h⟩

end Distance

/-! ## Identities taken in -/

/-- The root's identity and those that some calls lead to. -/
def identities (rootId : String) (xs : List (Sighting ι)) : Finset String :=
  (rootId :: (targets xs).map (·.id)).toFinset

theorem mem_identities {rootId a : String} {xs : List (Sighting ι)} :
    a ∈ identities rootId xs ↔ a = rootId ∨ a ∈ (targets xs).map (·.id) := by
  simp [identities]

/-- Through the calls of the first `k` levels the identities up to level `k` become known. -/
theorem identities_sightingsBelow {p : Provider ι κ} {external : Bool} {root : Method ι}
    {rootId : String} (k : Nat) :
    identities rootId (sightingsBelow p external root rootId k) =
      (frontier p external root rootId k).seen.toFinset := by
  induction k with
  | zero => rfl
  | succ k ih =>
    ext a
    have hk : a ∈ (frontier p external root rootId k).seen ↔
        a = rootId ∨ a ∈ (targets (sightingsBelow p external root rootId k)).map (·.id) := by
      rw [← List.mem_toFinset, ← ih, mem_identities]
    rw [mem_identities, sightingsBelow_succ, targets_append, List.map_append, List.mem_append,
      ← or_assoc, ← hk, List.mem_toFinset, frontier, Frontier.next, List.mem_append,
      List.mem_reverse, mem_ids_fresh]
    by_cases ha : a ∈ (frontier p external root rootId k).seen
    · simp [ha]
    · simp only [ha, false_or, not_false_eq_true, and_true, or_false]
      rfl

end CodeAtlas
