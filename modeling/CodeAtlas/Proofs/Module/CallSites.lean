import CodeAtlas.Module.Provider
import CodeAtlas.Proofs.Module.Places
import CodeAtlas.Proofs.Module.Resolved

/-!
# The calls of a function

A node stands at a place in some trees: its index, behind the index of each node above it. Places are
ordered like words, so a node comes before what is below it, and this before its later siblings.

The calls of a function are listed in this order. A call of `super` is left out where it is the receiver
of a call, and all that stands inside it is left out with it.

* `mem_spots`, `pairwise_spots`, `map_spots`: the calls of a tree with their places.
* `listsCalls_calls`: the calls of some trees are all but those at receivers or below them.
* `callsListed`: so for the calls that a library lists; no call is lost just if none stands inside a
  receiver.
* `not_listed_inside`: a call in the arguments of a receiver is lost.
-/

namespace CodeAtlas.Module

variable {α : Type}

/-! ## Lists with places -/

/-- Lists with places inside some nodes as one list, with the places inside what holds the nodes. -/
def placed : List (List (List Nat × α)) → List (List Nat × α)
  | [] => []
  | xs :: rest => (xs.map fun x => (0 :: x.1, x.2)) ++ (placed rest).map fun x => (Inner.next x.1, x.2)

theorem map_placed (xss : List (List (List Nat × α))) :
    (placed xss).map (·.2) = xss.flatMap fun xs => xs.map (·.2) := by
  induction xss with
  | nil => rfl
  | cons xs rest ih =>
    rw [placed, List.map_append, List.map_map, List.map_map, List.flatMap_cons, ← ih]
    rfl

theorem mem_placed {xss : List (List (List Nat × α))} {p : List Nat} {a : α} :
    (p, a) ∈ placed xss ↔ ∃ i q xs, p = i :: q ∧ xss[i]? = some xs ∧ (q, a) ∈ xs := by
  induction xss generalizing p with
  | nil => simp [placed]
  | cons xs rest ih =>
    rw [placed, List.mem_append, List.mem_map, List.mem_map]
    constructor
    · rintro (⟨⟨q, b⟩, hMem, hEq⟩ | ⟨⟨q, b⟩, hMem, hEq⟩)
      · obtain ⟨rfl, rfl⟩ := Prod.mk.inj hEq
        exact ⟨0, q, xs, rfl, rfl, hMem⟩
      · obtain ⟨rfl, rfl⟩ := Prod.mk.inj hEq
        obtain ⟨i, r, ys, rfl, hys, hMem⟩ := ih.mp hMem
        exact ⟨i + 1, r, ys, rfl, hys, hMem⟩
    · rintro ⟨i, q, ys, rfl, hys, hMem⟩
      cases i with
      | zero =>
        obtain rfl := Option.some.inj hys
        exact .inl ⟨(q, a), hMem, rfl⟩
      | succ i => exact .inr ⟨(i :: q, a), ih.mpr ⟨i, q, ys, rfl, hys, hMem⟩, rfl⟩

theorem pairwise_placed {xss : List (List (List Nat × α))}
    (h : ∀ xs ∈ xss, xs.Pairwise fun x y => x.1 < y.1) :
    (placed xss).Pairwise fun x y => x.1 < y.1 := by
  induction xss with
  | nil => exact List.Pairwise.nil
  | cons xs rest ih =>
    obtain ⟨hHead, hRest⟩ := List.forall_mem_cons.mp h
    rw [placed, List.pairwise_append, List.pairwise_map, List.pairwise_map]
    refine ⟨?_, (ih hRest).imp Inner.next_lt_next, ?_⟩
    · exact hHead.imp fun hLt => List.cons_lt_cons_iff.mpr (.inr ⟨rfl, hLt⟩)
    · intro x hx y hy
      obtain ⟨x, -, rfl⟩ := List.mem_map.mp hx
      obtain ⟨⟨q, b⟩, hMem, rfl⟩ := List.mem_map.mp hy
      obtain ⟨i, r, -, rfl, -⟩ := mem_placed.mp hMem
      exact Inner.zero_cons_lt_next x.1 (List.cons_ne_nil i r)

/-! ## Places of nodes -/

/-- The node at a place below a node. -/
def Node.at? (n : Node) : List Nat → Option Node
  | [] => some n
  | i :: p => n.children[i]?.bind fun c => c.at? p

/-- The node at a place in some trees. -/
def nodeAt? (ns : List Node) : List Nat → Option Node
  | [] => none
  | i :: p => ns[i]?.bind fun n => n.at? p

/-- The call at a place in some trees. -/
def callAt? (ns : List Node) (p : List Nat) : Option Call := (nodeAt? ns p).bind Node.call?

theorem Node.at?_append (n : Node) (p q : List Nat) : n.at? (p ++ q) = (n.at? p).bind (·.at? q) := by
  induction p generalizing n with
  | nil => rfl
  | cons i p ih =>
    rw [List.cons_append, at?, at?]
    cases n.children[i]? with
    | none => rfl
    | some c => exact ih c

theorem nodeAt?_append {ns : List Node} {p : List Nat} {n : Node} (h : nodeAt? ns p = some n)
    (q : List Nat) : nodeAt? ns (p ++ q) = n.at? q := by
  cases p with
  | nil => cases h
  | cons i p =>
    obtain ⟨m, hm, hn⟩ := Option.bind_eq_some_iff.mp h
    rw [List.cons_append, nodeAt?, hm, Option.bind_some, m.at?_append, hn, Option.bind_some]

/-- At `p` stands the receiver of a call, and it is a call of `super`. -/
def IsReceiver (ns : List Node) (p : List Nat) : Prop :=
  ∃ q c, p = q ++ [0, 0] ∧ callAt? ns q = some c ∧ c.startsAtSuper = true

/-- Some calls are those in the trees, each once and in the order of their places, but for the places
`Out`. -/
def ListsCalls (ns : List Node) (Out : List Nat → Prop) (calls : List Call) : Prop :=
  ∃ spots : List (List Nat × Call), spots.map (·.2) = calls ∧
    spots.Pairwise (fun x y => x.1 < y.1) ∧ ∀ p c, (p, c) ∈ spots ↔ callAt? ns p = some c ∧ ¬ Out p

/-! ## Listed calls -/

namespace Node

/-- Is the first node below the node passed over? -/
def passes (n : Node) : Bool := n.call?.any (·.startsAtSuper)

theorem searched_eq (n : Node) : n.searched = if n.passes then n.children.drop 1 else n.children := by
  rw [searched, passes]
  cases n.call? with
  | none => rfl
  | some c => rfl

theorem exists_of_passes {n : Node} (h : n.passes = true) : ∃ line value attr args keywords,
    n = .expr (.call line (.attribute value attr) args keywords) ∧ value.isSuperCall = true := by
  obtain ⟨c, hCall, hStart⟩ := (Option.any_eq_true _ _).mp h
  rw [Call.startsAtSuper] at hStart
  split at hStart
  · rename_i value attr hFunc
    unfold call? at hCall
    split at hCall
    · obtain rfl := Option.some.inj hCall
      dsimp only at hFunc
      subst hFunc
      exact ⟨_, value, attr, _, _, rfl, hStart⟩
    · cases hCall
  · cases hStart

/-- The listed calls of a tree with their places. -/
def spots (n : Node) : List (List Nat × Call) :=
  (n.call?.toList.map fun c => ([], c)) ++
    placed ((if n.passes then [[]] else []) ++ n.searched.attach.map fun c => spots c.1)
termination_by sizeOf n
decreasing_by exact sizeOf_lt (mem_children_of_mem_searched c.2)

/-- What is listed below each node below a node. -/
def slots (n : Node) : List (List (List Nat × Call)) :=
  (if n.passes then [[]] else []) ++ n.searched.map spots

theorem spots_eq (n : Node) :
    n.spots = (n.call?.toList.map fun c => ([], c)) ++ placed n.slots := by
  rw [spots, slots, List.attach_map_val]

theorem calls_eq (n : Node) : n.calls = n.call?.toList ++ n.searched.flatMap calls := by
  rw [calls, List.flatMap_def, List.attach_map_val, ← List.flatMap_def]

theorem map_spots (n : Node) : n.spots.map (·.2) = n.calls := by
  induction n using spots.induct with
  | case1 n ih =>
    have hSlots : n.slots.flatMap (fun xs => xs.map (·.2)) = n.searched.flatMap calls := by
      have hEach : ∀ c ∈ n.searched, c.spots.map (·.2) = c.calls := fun c hc => ih ⟨c, hc⟩
      rw [slots, List.flatMap_append, List.flatMap_map, List.flatMap_congr hEach]
      split <;> rfl
    rw [spots_eq, calls_eq, List.map_append, List.map_map, map_placed, hSlots]
    exact congrArg (· ++ _) (List.map_id _)

theorem pairwise_spots (n : Node) : n.spots.Pairwise fun x y => x.1 < y.1 := by
  induction n using spots.induct with
  | case1 n ih =>
    have hSlots : ∀ xs ∈ n.slots, xs.Pairwise fun x y => x.1 < y.1 := by
      intro xs hxs
      rcases List.mem_append.mp hxs with hNone | hSome
      · split at hNone
        · obtain rfl := List.mem_singleton.mp hNone
          exact List.Pairwise.nil
        · cases hNone
      · obtain ⟨c, hc, rfl⟩ := List.mem_map.mp hSome
        exact ih ⟨c, hc⟩
    rw [spots_eq, List.pairwise_append]
    refine ⟨?_, pairwise_placed hSlots, ?_⟩
    · cases n.call? with
      | none => exact List.Pairwise.nil
      | some c => exact List.pairwise_singleton _ _
    · -- the node comes before all that stands below it
      rintro x hx ⟨p, c⟩ hMem
      obtain ⟨d, -, rfl⟩ := List.mem_map.mp hx
      obtain ⟨i, q, -, rfl, -⟩ := mem_placed.mp hMem
      exact List.nil_lt_cons i q

/-- The place is that of a first node that is passed over, or one below it. -/
def Passed (n : Node) (p : List Nat) : Prop :=
  ∃ q r k, p = q ++ 0 :: r ∧ n.at? q = some k ∧ k.passes = true

theorem not_passed_nil (n : Node) : ¬ n.Passed [] := by
  rintro ⟨q, r, k, hEq, -⟩
  simp at hEq

theorem passed_cons {n : Node} {i : Nat} {p : List Nat} : n.Passed (i :: p) ↔
    i = 0 ∧ n.passes = true ∨ ∃ m, n.children[i]? = some m ∧ m.Passed p := by
  constructor
  · rintro ⟨q, r, k, hEq, hAt, hk⟩
    cases q with
    | nil =>
      obtain ⟨rfl, rfl⟩ := List.cons.inj hEq
      obtain rfl := Option.some.inj hAt
      exact .inl ⟨rfl, hk⟩
    | cons j q =>
      obtain ⟨rfl, rfl⟩ := List.cons.inj hEq
      obtain ⟨m, hm, hAt⟩ := Option.bind_eq_some_iff.mp hAt
      exact .inr ⟨m, hm, q, r, k, rfl, hAt, hk⟩
  · rintro (⟨rfl, hn⟩ | ⟨m, hm, q, r, k, rfl, hAt, hk⟩)
    · exact ⟨[], p, n, rfl, rfl, hn⟩
    · exact ⟨i :: q, r, k, rfl, Option.bind_eq_some_iff.mpr ⟨m, hm, hAt⟩, hk⟩

/-- What is listed below a node is nothing where it is passed over. -/
theorem getElem?_slots {n : Node} {i : Nat} {xs : List (List Nat × Call)} :
    n.slots[i]? = some xs ↔ ∃ m, n.children[i]? = some m ∧
      xs = if i = 0 ∧ n.passes = true then [] else m.spots := by
  rw [slots, searched_eq]
  cases hPasses : n.passes with
  | false => simp [eq_comm]
  | true =>
    obtain ⟨line, value, attr, args, keywords, rfl, -⟩ := exists_of_passes hPasses
    cases i with
    | zero => simp [children, ofExpr, eq_comm]
    | succ i =>
      rw [if_pos rfl, if_pos rfl, List.singleton_append, List.getElem?_cons_succ, List.getElem?_map,
        List.getElem?_drop, Nat.add_comm 1 i]
      simp [eq_comm]

theorem mem_spots {n : Node} {p : List Nat} {c : Call} :
    (p, c) ∈ n.spots ↔ (n.at? p).bind call? = some c ∧ ¬ n.Passed p := by
  induction p generalizing n with
  | nil =>
    rw [spots_eq, List.mem_append, and_iff_left n.not_passed_nil]
    constructor
    · rintro (hSelf | hBelow)
      · obtain ⟨d, hd, hEq⟩ := List.mem_map.mp hSelf
        obtain ⟨-, rfl⟩ := Prod.mk.inj hEq
        exact Option.mem_toList.mp hd
      · obtain ⟨i, q, xs, hEq, -⟩ := mem_placed.mp hBelow
        cases hEq
    · intro h
      exact .inl (List.mem_map.mpr ⟨c, Option.mem_toList.mpr h, rfl⟩)
  | cons i p ih =>
    have hBelow : (i :: p, c) ∈ n.spots ↔ (i :: p, c) ∈ placed n.slots := by
      rw [spots_eq, List.mem_append, or_iff_right]
      intro hSelf
      obtain ⟨d, -, hEq⟩ := List.mem_map.mp hSelf
      cases hEq
    rw [hBelow, mem_placed, passed_cons, at?]
    constructor
    · rintro ⟨j, q, xs, hEq, hSlot, hMem⟩
      obtain ⟨rfl, rfl⟩ := List.cons.inj hEq
      obtain ⟨m, hm, rfl⟩ := getElem?_slots.mp hSlot
      split at hMem
      · cases hMem
      · rename_i hSearched
        obtain ⟨hCall, hNot⟩ := ih.mp hMem
        refine ⟨by rw [hm]; exact hCall, ?_⟩
        rintro (hFirst | ⟨m', hm', hPassed⟩)
        · exact hSearched hFirst
        · obtain rfl := Option.some.inj (hm.symm.trans hm')
          exact hNot hPassed
    · rintro ⟨hCall, hNot⟩
      obtain ⟨k, hk, hCall⟩ := Option.bind_eq_some_iff.mp hCall
      obtain ⟨m, hm, hk⟩ := Option.bind_eq_some_iff.mp hk
      refine ⟨i, p, m.spots, rfl, getElem?_slots.mpr ⟨m, hm, ?_⟩, ih.mpr ⟨?_, ?_⟩⟩
      · rw [if_neg fun hFirst => hNot (.inl hFirst)]
      · rw [hk]
        exact hCall
      · exact fun hPassed => hNot (.inr ⟨m, hm, hPassed⟩)

end Node

/-! ## Receivers -/

section Receivers

variable {ns : List Node} {p q r : List Nat} {c : Call}

/-- The place is that of a receiver, or one below it. -/
def InReceiver (ns : List Node) (p : List Nat) : Prop := ∃ r, IsReceiver ns r ∧ r <+: p

/-- A call that starts at `super` is written with an attribute of a call of `super`. -/
theorem nodeAt?_of_startsAtSuper (h : callAt? ns q = some c) (hc : c.startsAtSuper = true) :
    ∃ line value attr args keywords,
      nodeAt? ns q = some (.expr (.call line (.attribute value attr) args keywords)) ∧
        value.isSuperCall = true := by
  obtain ⟨n, hn, hCall⟩ := Option.bind_eq_some_iff.mp h
  have hPasses : n.passes = true := by
    rw [Node.passes, hCall]
    exact hc
  obtain ⟨line, value, attr, args, keywords, rfl, hSuper⟩ := Node.exists_of_passes hPasses
  exact ⟨line, value, attr, args, keywords, hn, hSuper⟩

/-- What stands at a receiver. -/
theorem IsReceiver.nodeAt? (h : IsReceiver ns r) : ∃ line bound args keywords,
    nodeAt? ns r = some (.expr (.call line (.name "super" bound) args keywords)) := by
  obtain ⟨q, c, rfl, hCall, hStart⟩ := h
  obtain ⟨line, value, attr, args, keywords, hNode, hSuper⟩ := nodeAt?_of_startsAtSuper hCall hStart
  have hValue : CodeAtlas.Module.nodeAt? ns (q ++ [0, 0]) = some (.expr value) :=
    nodeAt?_append hNode [0, 0]
  rw [hValue]
  unfold Expr.isSuperCall at hSuper
  split at hSuper
  · exact ⟨_, _, _, _, rfl⟩
  · cases hSuper

/-- The call at a receiver picks no place itself. -/
theorem IsReceiver.startsAtSuper_eq_false (h : IsReceiver ns r) (hCall : callAt? ns r = some c) :
    c.startsAtSuper = false := by
  obtain ⟨line, bound, args, keywords, hNode⟩ := h.nodeAt?
  rw [callAt?, hNode] at hCall
  obtain rfl := Option.some.inj hCall
  rfl

/-- The listed calls of some trees with their places. -/
def spotsOf (ns : List Node) : List (List Nat × Call) := placed (ns.map Node.spots)

/-- The place is that of the first node below a call that starts at `super`, or one below it. -/
def PassedOver (ns : List Node) (p : List Nat) : Prop :=
  ∃ q r d, p = q ++ 0 :: r ∧ callAt? ns q = some d ∧ d.startsAtSuper = true

theorem passed_iff {n : Node} {i : Nat} (hn : ns[i]? = some n) :
    n.Passed p ↔ PassedOver ns (i :: p) := by
  have hAt : ∀ q, CodeAtlas.Module.nodeAt? ns (i :: q) = n.at? q := by
    intro q
    rw [nodeAt?, hn, Option.bind_some]
  constructor
  · rintro ⟨q, r, k, rfl, hk, hPasses⟩
    obtain ⟨d, hd, hStart⟩ := (Option.any_eq_true _ _).mp hPasses
    refine ⟨i :: q, r, d, rfl, ?_, hStart⟩
    rw [callAt?, hAt, hk]
    exact hd
  · rintro ⟨q, r, d, hEq, hd, hStart⟩
    cases q with
    | nil => cases hd
    | cons j q =>
      obtain ⟨rfl, rfl⟩ := List.cons.inj hEq
      rw [callAt?, hAt] at hd
      obtain ⟨k, hk, hd⟩ := Option.bind_eq_some_iff.mp hd
      exact ⟨q, r, k, rfl, hk, (Option.any_eq_true _ _).mpr ⟨d, hd, hStart⟩⟩

theorem mem_spotsOf :
    (p, c) ∈ spotsOf ns ↔ callAt? ns p = some c ∧ ¬ PassedOver ns p := by
  rw [spotsOf, mem_placed]
  constructor
  · rintro ⟨i, q, xs, rfl, hxs, hMem⟩
    rw [List.getElem?_map] at hxs
    obtain ⟨n, hn, rfl⟩ := Option.map_eq_some_iff.mp hxs
    rw [Node.mem_spots, passed_iff hn] at hMem
    rwa [callAt?, nodeAt?, hn, Option.bind_some]
  · rintro ⟨hCall, hNot⟩
    cases p with
    | nil => cases hCall
    | cons i q =>
      cases hn : ns[i]? with
      | none =>
        rw [callAt?, nodeAt?, hn] at hCall
        cases hCall
      | some n =>
        rw [callAt?, nodeAt?, hn, Option.bind_some] at hCall
        rw [← passed_iff hn] at hNot
        refine ⟨i, q, n.spots, rfl, ?_, Node.mem_spots.mpr ⟨hCall, hNot⟩⟩
        rw [List.getElem?_map, hn, Option.map_some]

/-- For a call this means a receiver, as the attribute between them is no call. -/
theorem passedOver_iff (h : callAt? ns p = some c) : PassedOver ns p ↔ InReceiver ns p := by
  constructor
  · rintro ⟨q, r, d, rfl, hd, hStart⟩
    obtain ⟨line, value, attr, args, keywords, hNode, -⟩ := nodeAt?_of_startsAtSuper hd hStart
    rw [callAt?, nodeAt?_append hNode] at h
    cases r with
    | nil => cases h
    | cons j r =>
      cases j with
      | zero => exact ⟨q ++ [0, 0], ⟨q, d, rfl, hd, hStart⟩, r, by simp⟩
      | succ j => cases h
  · rintro ⟨-, ⟨q, d, rfl, hd, hStart⟩, s, rfl⟩
    exact ⟨q, 0 :: s, d, by simp, hd, hStart⟩

/-- The calls of some trees are all but those at receivers or below them. -/
theorem listsCalls_calls (ns : List Node) :
    ListsCalls ns (InReceiver ns) (ns.flatMap Node.calls) := by
  refine ⟨spotsOf ns, ?_, ?_, fun p c => ?_⟩
  · rw [spotsOf, map_placed, List.flatMap_map]
    exact List.flatMap_congr fun n _ => n.map_spots
  · refine pairwise_placed fun xs hxs => ?_
    obtain ⟨n, -, rfl⟩ := List.mem_map.mp hxs
    exact n.pairwise_spots
  · rw [mem_spotsOf]
    exact and_congr_right fun hCall => not_congr (passedOver_iff hCall)

/-- A call inside a receiver leads to one that is no receiver itself. -/
theorem exists_inside (hr : IsReceiver ns r) {i : Nat} (hCall : callAt? ns (r ++ i :: p) = some c) :
    ∃ q d, callAt? ns q = some d ∧ InReceiver ns q ∧ ¬ IsReceiver ns q := by
  by_cases hInner : IsReceiver ns (r ++ i :: p)
  · obtain ⟨q, d, hEq, hd, hStart⟩ := hInner
    have hNot : ¬ IsReceiver ns q := by
      intro hq
      rw [hq.startsAtSuper_eq_false hd] at hStart
      cases hStart
    rcases List.append_eq_append_iff.mp hEq with ⟨s, rfl, -⟩ | ⟨s, rfl, hEnd⟩
    · exact ⟨r ++ s, d, hd, ⟨r, hr, s, rfl⟩, hNot⟩
    · exfalso
      cases s with
      | nil =>
        rw [List.append_nil] at hr
        exact hNot hr
      | cons j s =>
        -- the receiver would be the attribute of the other call
        obtain ⟨rfl, hRest⟩ := List.cons.inj hEnd
        obtain rfl : s = [] := by
          have hLength := congrArg List.length hRest
          simp only [List.append_eq, List.length_append, List.length_cons, List.length_nil] at hLength
          exact List.eq_nil_of_length_eq_zero (by omega)
        obtain ⟨line, value, attr, args, keywords, hNode, -⟩ := nodeAt?_of_startsAtSuper hd hStart
        obtain ⟨_, _, _, _, hSuper⟩ := hr.nodeAt?
        rw [nodeAt?_append hNode] at hSuper
        cases hSuper
  · exact ⟨_, c, hCall, ⟨r, hr, i :: p, rfl⟩, hInner⟩

/-- No call but the receivers is left out just if none stands inside a receiver. -/
theorem listsCalls_isReceiver_iff {calls : List Call} (h : ListsCalls ns (InReceiver ns) calls) :
    ListsCalls ns (IsReceiver ns) calls ↔
      ∀ r i p, IsReceiver ns r → callAt? ns (r ++ i :: p) = none := by
  constructor
  · rintro ⟨all, hAllCalls, -, hAllExact⟩ r i p hr
    obtain ⟨spots, hCalls, hOrder, hExact⟩ := h
    have hSubset : spots ⊆ all := by
      rintro ⟨q, d⟩ hMem
      obtain ⟨hCall, hNot⟩ := (hExact q d).mp hMem
      exact (hAllExact q d).mpr ⟨hCall, fun hq => hNot ⟨q, hq, List.prefix_rfl⟩⟩
    have hLength : all.length ≤ spots.length := by
      rw [← List.length_map (·.2), hAllCalls, ← hCalls, List.length_map]
    by_contra hSome
    obtain ⟨c, hCall⟩ := Option.ne_none_iff_exists'.mp hSome
    obtain ⟨q, d, hd, hIn, hNot⟩ := exists_inside hr hCall
    have hMem := Inner.subset_of_length_le hOrder hSubset hLength ((hAllExact q d).mpr ⟨hd, hNot⟩)
    exact ((hExact q d).mp hMem).2 hIn
  · intro hNone
    obtain ⟨spots, hCalls, hOrder, hExact⟩ := h
    refine ⟨spots, hCalls, hOrder, fun p c => (hExact p c).trans ?_⟩
    refine and_congr_right fun hCall => not_congr ⟨?_, fun hp => ⟨p, hp, List.prefix_rfl⟩⟩
    rintro ⟨r, hr, s, rfl⟩
    cases s with
    | nil => rwa [List.append_nil]
    | cons i s =>
      rw [hNone r i s hr] at hCall
      cases hCall

end Receivers

/-! ## What a library lists -/

/-- The statements whose calls are listed for a function. -/
def Caller.body (c : Caller) : List Node := Node.stmts c.running.function.body

theorem showCall_eq_ok_iff {caller : FunctionRef} {call : Call} {site : CallSite CallRef} :
    showCall caller call = .ok site ↔ ∃ text, call.func.text? = some text ∧
      site = ⟨text, call.argCount, some call.line, ⟨caller, call⟩⟩ := by
  rw [showCall]
  cases call.func.text? with
  | none => simp
  | some text => simp [eq_comm]

/-- The calls that a library lists for a method. -/
structure CallsListed (l : Library) (m : Target) : Prop where
  /-- For a method that is no function of the library there are none. -/
  unknown : m.handle.bind l.caller? = none → l.callSites m = .ok []
  /-- What stands at a receiver is a call of `super`. -/
  receiver : ∀ ns r, IsReceiver ns r → ∃ line bound args keywords,
    nodeAt? ns r = some (.expr (.call line (.name "super" bound) args keywords))
  /-- The calls of a function are listed just if the target of each can be written. -/
  answered_iff : ∀ c, m.handle.bind l.caller? = some c → ((∃ sites, l.callSites m = .ok sites) ↔
    ∀ p call, callAt? c.body p = some call → ¬ InReceiver c.body p → call.func.text?.isSome = true)
  /-- Each is listed with its target, its arguments and its line. -/
  shown : ∀ c sites, m.handle.bind l.caller? = some c → l.callSites m = .ok sites → ∀ s ∈ sites,
    s.handle.call.func.text? = some s.text ∧ s.argCount = s.handle.call.argCount ∧
      s.line = some (s.handle.call.line : Int)
  /-- They are all calls in the statements of the function, each once and in their order, but for those
  at receivers and below them. -/
  listed : ∀ c sites, m.handle.bind l.caller? = some c → l.callSites m = .ok sites →
    ListsCalls c.body (InReceiver c.body) (sites.map (·.handle.call))
  /-- No call but the receivers is left out just if none stands inside a receiver. -/
  all_iff : ∀ c sites, m.handle.bind l.caller? = some c → l.callSites m = .ok sites →
    (ListsCalls c.body (IsReceiver c.body) (sites.map (·.handle.call)) ↔
      ∀ r i p, IsReceiver c.body r → callAt? c.body (r ++ i :: p) = none)

section Library

variable {l : Library} {m : Target} {c : Caller} {sites : List (CallSite CallRef)}

theorem callSites_eq (hc : m.handle.bind l.caller? = some c) : l.callSites m =
    c.running.function.calls.mapM (showCall ⟨c.running.source.number, c.running.function.number⟩) := by
  rw [Library.callSites, hc]

theorem exists_callSites_iff (hc : m.handle.bind l.caller? = some c) :
    (∃ sites, l.callSites m = .ok sites) ↔
      ∀ call ∈ c.body.flatMap Node.calls, call.func.text?.isSome = true := by
  rw [callSites_eq hc]
  simp only [mapM_eq_ok_iff]
  rw [exists_forall₂_iff]
  refine forall_congr' fun call => forall_congr' fun _ => ?_
  rw [Option.isSome_iff_exists]
  constructor
  · rintro ⟨site, hSite⟩
    obtain ⟨text, hText, -⟩ := showCall_eq_ok_iff.mp hSite
    exact ⟨text, hText⟩
  · rintro ⟨text, hText⟩
    exact ⟨_, showCall_eq_ok_iff.mpr ⟨text, hText, rfl⟩⟩

/-- The calls that are listed are those of the statements. -/
theorem map_call_of_callSites (hc : m.handle.bind l.caller? = some c)
    (h : l.callSites m = .ok sites) : sites.map (·.handle.call) = c.body.flatMap Node.calls := by
  rw [callSites_eq hc, mapM_eq_ok_iff] at h
  have hCalls : c.running.function.calls.map id = sites.map (·.handle.call) := by
    refine map_eq_of_forall₂ h fun call site hSite => ?_
    obtain ⟨text, -, rfl⟩ := showCall_eq_ok_iff.mp hSite
    rfl
  rw [← hCalls, List.map_id]
  rfl

theorem listsCalls_callSites (hc : m.handle.bind l.caller? = some c)
    (h : l.callSites m = .ok sites) :
    ListsCalls c.body (InReceiver c.body) (sites.map (·.handle.call)) := by
  rw [map_call_of_callSites hc h]
  exact listsCalls_calls c.body

theorem mem_calls_iff {ns : List Node} {call : Call} : call ∈ ns.flatMap Node.calls ↔
    ∃ p, callAt? ns p = some call ∧ ¬ InReceiver ns p := by
  obtain ⟨spots, hCalls, -, hExact⟩ := listsCalls_calls ns
  rw [← hCalls, List.mem_map]
  constructor
  · rintro ⟨⟨p, d⟩, hMem, rfl⟩
    exact ⟨p, (hExact p d).mp hMem⟩
  · rintro ⟨p, hp⟩
    exact ⟨(p, call), (hExact p call).mpr hp, rfl⟩

/-- **Calls of a function.** A library lists all calls in the statements of a function, each once and in
the order in which the tree is walked from the top, but for calls of `super` that are receivers; and it
loses just the calls inside these. -/
theorem callsListed (l : Library) (m : Target) : CallsListed l m where
  unknown := by
    intro hNone
    rw [Library.callSites, hNone]
  receiver _ _ hr := hr.nodeAt?
  answered_iff := by
    intro c hc
    rw [exists_callSites_iff hc]
    constructor
    · intro h p call hCall hNot
      exact h call (mem_calls_iff.mpr ⟨p, hCall, hNot⟩)
    · intro h call hMem
      obtain ⟨p, hCall, hNot⟩ := mem_calls_iff.mp hMem
      exact h p call hCall hNot
  shown := by
    intro c sites hc hSites s hs
    rw [callSites_eq hc, mapM_eq_ok_iff] at hSites
    obtain ⟨call, -, hShow⟩ := exists_left_of_forall₂ hSites hs
    obtain ⟨text, hText, rfl⟩ := showCall_eq_ok_iff.mp hShow
    exact ⟨hText, rfl, rfl⟩
  listed _ _ hc hSites := listsCalls_callSites hc hSites
  all_iff _ _ hc hSites := listsCalls_isReceiver_iff (listsCalls_callSites hc hSites)

end Library

/-! ### A call in the arguments of a receiver -/

def pickedTarget : Expr :=
  .attribute (.call 4 (.name "super" false) [.call 4 (.name "g" false) [] []] []) "m"

def pickedBody : List Stmt := [.expr 4 (.call 4 pickedTarget [] [])]

def pickedStmt : Stmt := .function 3 "f" echoParams pickedBody [] none

def pickedSource : Source :=
  soleSource [.function 1 "g" echoParams [.plain []] [] none, pickedStmt]

def pickedFunction : Function := functionOf 1 none 3 "f" echoParams pickedBody [] (.stmt pickedStmt)

def pickedLibrary : Library :=
  ⟨[pickedSource], [("m", pickedSource)], [(echoProject.ref, [pickedSource])], []⟩

def pickedSites : List (CallSite CallRef) :=
  [⟨"super(g()).m", 0, some 4, ⟨⟨0, 1⟩, ⟨4, pickedTarget, [], []⟩⟩⟩]

/-- The call of `g` is lost where a function calls `super(g()).m()`. -/
theorem not_listed_inside :
    pickedLibrary.callSites (targetOf pickedSource pickedFunction) = .ok pickedSites ∧
      callAt? (Node.stmts pickedBody) [0, 0, 0, 0, 1] = some ⟨4, .name "g" false, [], []⟩ ∧
      ¬ ListsCalls (Node.stmts pickedBody) (IsReceiver (Node.stmts pickedBody))
        (pickedSites.map (·.handle.call)) := by
  have hCaller : (targetOf pickedSource pickedFunction).handle.bind pickedLibrary.caller? =
      some ⟨pickedSource, pickedFunction⟩ := rfl
  have hSites :
      pickedLibrary.callSites (targetOf pickedSource pickedFunction) = .ok pickedSites := by
    rw [callSites_eq hCaller]
    cbv
  have hReceiver : IsReceiver (Node.stmts pickedBody) [0, 0, 0, 0] := ⟨[0, 0], _, rfl, rfl, rfl⟩
  have hInner : callAt? (Node.stmts pickedBody) [0, 0, 0, 0, 1] =
      some ⟨4, .name "g" false, [], []⟩ := rfl
  refine ⟨hSites, hInner, fun hAll => ?_⟩
  have hNone := (listsCalls_isReceiver_iff (listsCalls_callSites hCaller hSites)).mp hAll
  exact Option.some_ne_none _ (hInner.symm.trans (hNone _ 1 [] hReceiver))

end CodeAtlas.Module
