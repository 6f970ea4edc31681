import CodeAtlas.Regex.Match
import Mathlib.Data.List.Infix
import Mathlib.Data.List.TakeWhile

/-!
# Where trees lead

A tree leads from a place to another if going on there decides the match: no other way is tried where
that one ends well. Pieces are put together by `Node.Leads.cat`, and a greedy repetition leads as far
as its characters reach (`leads_repeated`).

* `findAllFrom_cons`: a tree that begins with a word matches first where the word first stands, if it
  leads anywhere from there.
* `findAllFrom_nil`: it matches nothing in a text without the word.
-/

namespace CodeAtlas.Regex

deriving instance DecidableEq for Node

/-! ## Places -/

/-- The place between what stands before it in a text, nearest first, and what stands after it. -/
def Place.between (before after : List Char) (groups : List (Nat × List Char)) : Place :=
  ⟨before, after, before.length, groups⟩

variable {before rest xs ys word : List Char} {gs gs' : List (Nat × List Char)}

theorem Place.advance_between (c : Char) :
    (between before (c :: rest) gs).advance = between (c :: before) rest gs := rfl

theorem Place.position_between : (between before rest gs).position = before.length := rfl

theorem Place.since_between :
    (between (xs.reverse ++ before) rest gs).since (between before ys gs') = xs := by
  have hLength : (xs.reverse ++ before).length - before.length = xs.reverse.length := by simp
  rw [since, between, between, hLength, List.take_left, List.reverse_reverse]

theorem Place.ofText_eq (text : String) : ofText text = between [] text.toList [] := rfl

/-! ## Leading -/

/-- Whatever is found from `q` on is what the tree finds from `p` on. -/
def Node.Leads (node : Node) (p q : Place) : Prop :=
  ∀ goal found, goal q = some found → node.run goal p = some found

/-- The tree takes one character of a class. -/
def Node.TakesOne (node : Node) (holds : Char → Bool) : Prop := node.run = oneChar holds

variable {a b node : Node} {p q r : Place} {holds : Char → Bool}

theorem Node.Leads.cat (ha : a.Leads p q) (hb : b.Leads q r) : (Node.cat a b).Leads p r :=
  fun goal found h => ha (b.run goal) found (hb goal found h)

theorem Node.Leads.run_some (h : node.Leads p q) : node.run some p = some q := h some q rfl

/-! ### Single characters -/

theorem takesOne_set (mode : Mode) (negated : Bool) (items : List Item) :
    (Node.set mode negated items).TakesOne (setHolds mode negated items) := rfl

theorem takesOne_literal (c : Char) : (Node.literal .plain c.toNat).TakesOne (· == c) := by
  have hClass : (fun x => ((alike .plain x).map (·.toNat)).contains c.toNat) = (· == c) := by
    funext x
    have hSame : c.toNat = x.toNat ↔ x = c := Char.toNat_inj.trans eq_comm
    rw [Bool.eq_iff_iff]
    simp [alike, Mode.plain, hSame]
  rw [Node.TakesOne, ← hClass]
  rfl

/-- The class of some characters that are listed by their codes. -/
theorem setHolds_codes (negated : Bool) (cs : List Char) (c : Char) :
    setHolds .plain negated (cs.map fun x => .code x.toNat) c = (cs.contains c != negated) := by
  have hItem : ∀ x : Char, (Item.code x.toNat).holds .plain c [c.toNat] = (c == x) := by
    intro x
    have hSame : x.toNat = c.toNat ↔ c = x := Char.toNat_inj.trans eq_comm
    rw [Bool.eq_iff_iff]
    simp [Item.holds, hSame]
  have hAny : (cs.map fun x => Item.code x.toNat).any (·.holds .plain c [c.toNat]) =
      cs.contains c := by
    rw [List.any_map, List.contains_eq_any_beq]
    exact congrArg _ (funext hItem)
  rw [← hAny]
  rfl

theorem setHolds_space (c : Char) :
    setHolds .plain false [.category false .space] c = Text.isBlank c := by
  simp [setHolds, Item.holds, Category.holds, Mode.plain]

theorem Node.TakesOne.leads (h : node.TakesOne holds) {c : Char} (hc : holds c = true) :
    node.Leads (.between before (c :: rest) gs) (.between (c :: before) rest gs) := by
  intro goal found hGoal
  rw [h]
  exact (if_pos hc).trans hGoal

/-! ### Repetitions -/

theorem oneChar_cons {c : Char} (hc : holds c = true) (goal : Goal) :
    oneChar holds goal (.between before (c :: rest) gs) = goal (.between (c :: before) rest gs) :=
  if_pos hc

theorem oneChar_eq_none (h : ∀ c ∈ rest.head?, holds c = false) (goal : Goal) :
    oneChar holds goal (.between before rest gs) = none := by
  cases rest with
  | nil => rfl
  | cons c rest => exact if_neg (by simp [h c rfl])

section Rounds

variable {min count : Nat} {max : Option Nat} {goal : Goal} {found : Place}

/-- Nothing more is taken behind a list: the greatest count is reached, or another class begins. -/
def Stops (holds : Char → Bool) (rest : List Char) (max : Option Nat) (count : Nat) : Prop :=
  max = some count ∨ ∀ c ∈ rest.head?, holds c = false

/-- Rounds over characters of a class take all of them if that leads to something. -/
theorem rounds_oneChar (hHolds : ∀ c ∈ xs, holds c = true) (hMin : min ≤ count + xs.length)
    (hMax : ∀ m ∈ max, count + xs.length ≤ m) (hStops : Stops holds rest max (count + xs.length))
    (hGoal : goal (.between (xs.reverse ++ before) rest gs) = some found) {last : Option Nat}
    (hLast : ∀ k ∈ last, k < before.length) {fuel : Nat} (hFuel : xs.length < fuel) :
    rounds (oneChar holds) min max goal fuel count last (.between before (xs ++ rest) gs) =
      some found := by
  -- every round takes a character, so none begins where the one before began
  induction xs generalizing before count last fuel with
  | nil =>
    obtain ⟨fuel, rfl⟩ := Nat.exists_eq_succ_of_ne_zero (Nat.ne_zero_of_lt hFuel)
    have hEnough : ¬ count < min := Nat.not_lt.mpr hMin
    rw [rounds, if_neg hEnough]
    split
    · rename_i hMore
      rcases hStops with rfl | hStops
      · simp at hMore
      · rw [List.nil_append, oneChar_eq_none hStops]
        exact hGoal
    · exact hGoal
  | cons c xs ih =>
    obtain ⟨fuel, rfl⟩ := Nat.exists_eq_succ_of_ne_zero (Nat.ne_zero_of_lt hFuel)
    obtain ⟨hc, hxs⟩ := List.forall_mem_cons.mp hHolds
    have hCount : count + (c :: xs).length = count + 1 + xs.length := by
      rw [List.length_cons]
      omega
    rw [hCount] at hMin hMax hStops
    have hGoal' : goal (.between (xs.reverse ++ c :: before) rest gs) = some found := by
      simpa using hGoal
    have hRest : ∀ last : Option Nat, (∀ k ∈ last, k < (c :: before).length) →
        rounds (oneChar holds) min max goal fuel (count + 1) last
          (.between (c :: before) (xs ++ rest) gs) = some found :=
      fun last hLast => ih hxs hMin hMax hStops hGoal' hLast (Nat.lt_of_succ_lt_succ hFuel)
    rw [List.cons_append, rounds, oneChar_cons hc, oneChar_cons hc, Place.position_between]
    split
    · exact hRest last fun k hk => Nat.lt_succ_of_lt (hLast k hk)
    · have hMore : (max.all (count < ·) && last != some before.length) = true := by
        rw [Bool.and_eq_true, Option.all_eq_true, bne_iff_ne]
        refine ⟨fun m hm => decide_eq_true ?_, ?_⟩
        · have := hMax m hm
          omega
        · rintro rfl
          exact Nat.lt_irrefl _ (hLast _ rfl)
      rw [if_pos hMore, hRest (some before.length) fun k hk => Option.some.inj hk ▸ Nat.lt_succ_self _]

theorem leads_repeated (h : node.TakesOne holds) (hHolds : ∀ c ∈ xs, holds c = true)
    (hMin : min ≤ xs.length) (hMax : ∀ m ∈ max, xs.length ≤ m)
    (hStops : Stops holds rest max xs.length) :
    (Node.repeated .greedy min max node).Leads (.between before (xs ++ rest) gs)
      (.between (xs.reverse ++ before) rest gs) := by
  intro goal found hGoal
  rw [← Nat.zero_add xs.length] at hMin hMax hStops
  rw [Node.run, h]
  refine rounds_oneChar hHolds hMin hMax hStops hGoal (by simp) ?_
  have hAfter : (Place.between before (xs ++ rest) gs).after.length = xs.length + rest.length :=
    List.length_append
  omega

/-- Without a greatest count, all that is of the class is taken. -/
theorem leads_all (h : node.TakesOne holds) (hHolds : ∀ c ∈ xs, holds c = true)
    (hMin : min ≤ xs.length) (hRest : ∀ c ∈ rest.head?, holds c = false) :
    (Node.repeated .greedy min none node).Leads (.between before (xs ++ rest) gs)
      (.between (xs.reverse ++ before) rest gs) :=
  leads_repeated h hHolds hMin (by simp) (.inr hRest)

/-- A repetition that needs nothing takes what it can. -/
theorem exists_leads_all (h : node.TakesOne holds) (before rest : List Char)
    (gs : List (Nat × List Char)) : ∃ xs ys, rest = xs ++ ys ∧ (∀ c ∈ xs, holds c = true) ∧
      (Node.repeated .greedy 0 none node).Leads (.between before rest gs)
        (.between (xs.reverse ++ before) ys gs) := by
  have hTaken : ∀ c ∈ rest.takeWhile holds, holds c = true := fun c hc => List.mem_takeWhile_imp hc
  have hRest : ∀ c ∈ (rest.dropWhile holds).head?, holds c = false := by
    intro c hc
    have hNot := List.head?_dropWhile_not holds rest
    rw [Option.mem_def.mp hc] at hNot
    simpa using hNot
  have hLeads : (Node.repeated .greedy 0 none node).Leads
      (.between before (rest.takeWhile holds ++ rest.dropWhile holds) gs)
      (.between ((rest.takeWhile holds).reverse ++ before) (rest.dropWhile holds) gs) :=
    leads_all h hTaken (Nat.zero_le _) hRest
  rw [List.takeWhile_append_dropWhile] at hLeads
  exact ⟨_, _, List.takeWhile_append_dropWhile.symm, hTaken, hLeads⟩

/-- What may be missing is taken where it stands. -/
theorem exists_leads_optional (h : node.TakesOne holds) (before rest : List Char)
    (gs : List (Nat × List Char)) : ∃ xs ys, rest = xs ++ ys ∧ (∀ c ∈ xs, holds c = true) ∧
      (Node.repeated .greedy 0 (some 1) node).Leads (.between before rest gs)
        (.between (xs.reverse ++ before) ys gs) := by
  by_cases hHead : ∀ c ∈ rest.head?, holds c = false
  · have hNone : ∀ c ∈ ([] : List Char), holds c = true := List.forall_mem_nil _
    exact ⟨[], rest, rfl, hNone,
      leads_repeated h hNone (Nat.zero_le _) (by simp) (.inr hHead)⟩
  · push Not at hHead
    obtain ⟨c, hMem, hc⟩ := hHead
    obtain ⟨ys, rfl⟩ : ∃ ys, rest = c :: ys := List.head?_eq_some_iff.mp hMem
    have hOne : ∀ x ∈ [c], holds x = true := List.forall_mem_singleton.mpr (by simpa using hc)
    exact ⟨[c], ys, rfl, hOne, leads_repeated h hOne (Nat.zero_le _) (by simp) (.inl rfl)⟩

end Rounds

/-! ### Groups -/

theorem leads_group {i : Nat} (h : node.Leads (.between before (xs ++ rest) gs)
    (.between (xs.reverse ++ before) rest gs)) :
    (Node.group (some i) node).Leads (.between before (xs ++ rest) gs)
      (.between (xs.reverse ++ before) rest ((i, xs) :: gs)) := by
  intro goal found hGoal
  refine h (fun q => goal { q with groups := (i, q.since _) :: q.groups }) found ?_
  rw [Place.since_between]
  exact hGoal

/-! ### Words -/

/-- A tree that begins with a word. -/
def Node.spelled (word : List Char) (node : Node) : Node :=
  word.foldr (fun c n => .cat (.literal .plain c.toNat) n) node

theorem Node.spelled_cons (c : Char) (word : List Char) (node : Node) :
    spelled (c :: word) node = .cat (.literal .plain c.toNat) (spelled word node) := rfl

theorem leads_spelled (h : node.Leads (.between (word.reverse ++ before) rest gs) q) :
    (Node.spelled word node).Leads (.between before (word ++ rest) gs) q := by
  induction word generalizing before with
  | nil => exact h
  | cons c word ih =>
    rw [List.reverse_cons, List.append_assoc] at h
    exact ((takesOne_literal c).leads (beq_self_eq_true c)).cat (ih h)

theorem run_spelled_eq_none (h : ¬ word <+: rest) (goal : Goal) :
    (Node.spelled word node).run goal (.between before rest gs) = none := by
  induction word generalizing before rest with
  | nil => exact absurd List.nil_prefix h
  | cons c word ih =>
    rw [Node.spelled_cons, Node.run, takesOne_literal]
    by_cases hHead : ∀ x ∈ rest.head?, (x == c) = false
    · exact oneChar_eq_none hHead _
    · push Not at hHead
      obtain ⟨x, hMem, hx⟩ := hHead
      obtain ⟨rest, rfl⟩ : ∃ ys, rest = x :: ys := List.head?_eq_some_iff.mp hMem
      obtain rfl : x = c := by simpa using hx
      refine (oneChar_cons (beq_self_eq_true x) _).trans ?_
      exact ih fun hWord => h (List.cons_prefix_cons.mpr ⟨rfl, hWord⟩)

/-! ## Searching -/

/-- Nowhere in `gap`, with `rest` behind it, does a word begin. -/
def Absent (word gap rest : List Char) : Prop :=
  ∀ xs, xs <:+ gap → xs ≠ [] → ¬ word <+: xs ++ rest

/-- A word does not begin in what does not hold it, if what follows cannot go on with it. -/
theorem absent_of_not_infix {gap : List Char} (h : ¬ word <:+: gap)
    (hRest : ∀ c ∈ rest.head?, c ∉ word.tail) : Absent word gap rest := by
  intro xs hSuffix hSome hWord
  rcases List.prefix_or_prefix_of_prefix hWord (List.prefix_append xs rest) with hInside | ⟨ys, rfl⟩
  · exact h (hInside.isInfix.trans hSuffix.isInfix)
  · obtain ⟨zs, rfl⟩ := (List.prefix_append_right_inj xs).mp hWord
    cases ys with
    | nil => exact h (by simpa using hSuffix.isInfix)
    | cons y ys =>
      refine hRest y rfl ?_
      rw [List.tail_append_of_ne_nil hSome]
      exact List.mem_append_right _ List.mem_cons_self

theorem searchFrom_of_leads (h : node.Leads p q) (n : Nat) : searchFrom node n p = some ⟨p, q⟩ := by
  cases n with
  | zero => rw [searchFrom, h.run_some, Option.map_some]
  | succ n => rw [searchFrom, h.run_some]

/-- The search passes over what does not hold the word. -/
theorem searchFrom_append {gap : List Char} (h : Absent word gap rest) (n : Nat) :
    searchFrom (Node.spelled word node) (gap.length + n) (.between before (gap ++ rest) gs) =
      searchFrom (Node.spelled word node) n (.between (gap.reverse ++ before) rest gs) := by
  induction gap generalizing before with
  | nil => rw [List.length_nil, Nat.zero_add, List.nil_append, List.reverse_nil, List.nil_append]
  | cons c gap ih =>
    have hHere := h _ List.suffix_rfl (List.cons_ne_nil c gap)
    have hRest : searchFrom (Node.spelled word node) (gap.length + n)
        (.between (c :: before) (gap ++ rest) gs) =
        searchFrom (Node.spelled word node) n (.between (gap.reverse ++ c :: before) rest gs) :=
      ih fun xs hSuffix => h xs (hSuffix.trans (List.suffix_cons c gap))
    rw [List.length_cons, Nat.add_right_comm, searchFrom, run_spelled_eq_none hHere, List.cons_append,
      Place.advance_between, hRest, List.reverse_cons, List.append_assoc]
    rfl

/-- A tree that begins with a word matches first where the word first stands. -/
theorem findAllFrom_cons {gap behind next : List Char} (hGap : Absent word gap rest)
    (hMoved : (gap.reverse ++ before).length < behind.length)
    (h : (Node.spelled word node).Leads (.between (gap.reverse ++ before) rest [])
      (.between behind next gs)) (fuel : Nat) :
    findAllFrom (Node.spelled word node) (fuel + 1) (.between before (gap ++ rest) []) =
      ⟨.between (gap.reverse ++ before) rest [], .between behind next gs⟩ ::
        findAllFrom (Node.spelled word node) fuel (.between behind next []) := by
  have hSearch : searchFrom (Node.spelled word node) (gap ++ rest).length
      (.between before (gap ++ rest) []) =
      some ⟨.between (gap.reverse ++ before) rest [], .between behind next gs⟩ := by
    rw [List.length_append, searchFrom_append hGap]
    exact searchFrom_of_leads h _
  have hAfter : (Place.between before (gap ++ rest) []).after = gap ++ rest := rfl
  rw [findAllFrom, hAfter, hSearch]
  dsimp only
  rw [Place.position_between, Place.position_between, if_neg (Nat.ne_of_gt hMoved)]
  rfl

theorem findAllFrom_nil {gap : List Char} (hGap : Absent word gap []) (hWord : word ≠ [])
    (fuel : Nat) : findAllFrom (Node.spelled word node) fuel (.between before gap []) = [] := by
  cases fuel with
  | zero => rfl
  | succ fuel =>
    have hEnd : ¬ word <+: [] := fun h => hWord (List.prefix_nil.mp h)
    have hSearch : searchFrom (Node.spelled word node) gap.length (.between before gap []) = none := by
      have hPassed : searchFrom (Node.spelled word node) (gap.length + 0)
          (.between before (gap ++ []) []) =
          searchFrom (Node.spelled word node) 0 (.between (gap.reverse ++ before) [] []) :=
        searchFrom_append hGap 0
      rw [Nat.add_zero, List.append_nil] at hPassed
      rw [hPassed, searchFrom, run_spelled_eq_none hEnd, Option.map_none]
    have hAfter : (Place.between before gap []).after = gap := rfl
    rw [findAllFrom, hAfter, hSearch]

end CodeAtlas.Regex
