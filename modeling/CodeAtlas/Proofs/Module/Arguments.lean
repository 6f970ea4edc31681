import CodeAtlas.Module.Resolve
import CodeAtlas.Proofs.Module.Indexed
import CodeAtlas.Proofs.Paired

/-!
# Arguments and parameters

A call gives each of its arguments to a parameter, and a function takes the call if that leaves none of
its parameters without a value. Of all that, only the number of arguments is looked at when a function is
picked for a call.

* `argumentsCounted`: the number is right for every function that takes the call.
-/

namespace CodeAtlas.Module

/-! ## Slots for arguments -/

/-- What an argument is given to: a parameter by its place, among those given by position or among those
given by keyword only, or what collects further arguments. -/
inductive Slot where
  | positional (i : Nat)
  | rest
  | keywordOnly (i : Nat)
  | keywordRest
  deriving DecidableEq, Repr

/-- Does the slot take any number of arguments? -/
def Slot.isOpen : Slot → Bool
  | rest => true
  | keywordRest => true
  | _ => false

namespace Params

/-- Do the parameters have the slot? -/
def has (ps : Params) : Slot → Bool
  | .positional i => i < ps.byPosition.length
  | .rest => ps.rest.isSome
  | .keywordOnly i => i < ps.keywordOnly.length
  | .keywordRest => ps.keywordRest.isSome

/-- The slot of the argument at a place among those given by position. -/
def slotAt (ps : Params) (i : Nat) : Slot :=
  if i < ps.byPosition.length then .positional i else .rest

/-- The slot of an argument with a keyword, which means the parameters of some names. The names of those
that are given by position only mean nothing. -/
def slotFor (ps : Params) (means : String → Bool) : Slot :=
  match ps.positional.findIdx? (means ·.name), ps.keywordOnly.findIdx? (means ·.name) with
  | some i, _ => .positional (ps.positionalOnly.length + i)
  | none, some i => .keywordOnly i
  | none, none => .keywordRest

/-- Must the slot be filled? The last of the parameters given by position have the defaults. -/
def Needs (ps : Params) : Slot → Prop
  | .positional i => i + ps.defaults.length < ps.byPosition.length
  | .keywordOnly i => ps.keywordDefaults[i]?.map Option.isNone = some true
  | _ => False

end Params

/-- The keywords of a call. -/
def Call.names (c : Call) : List String := c.keywords.filterMap (·.name)

def Expr.isStarred : Expr → Bool
  | .starred _ => true
  | _ => false

/-- No argument stands for any number of them. -/
structure Call.Plain (c : Call) : Prop where
  args : ∀ e ∈ c.args, e.isStarred = false
  keywords : ∀ k ∈ c.keywords, k.name.isSome = true

namespace Function

/-- How many arguments come from what the function is called on: that of a method, unless it is static. -/
def given (f : Function) : Nat := if f.owner.isSome && !f.isStatic then 1 else 0

/-- The slots of the arguments of a call: of what it is made on, of those given by position, and of those
with a keyword. -/
def slots (f : Function) (means : String → String → Bool) (c : Call) : List Slot :=
  (List.range (f.given + c.args.length)).map f.params.slotAt ++
    c.names.map fun k => f.params.slotFor (means k)

/-- The parameters of a function take the arguments of a call. What a keyword means is mostly the
parameter of its name; the private names of a class are others outside of it. -/
structure Binds (f : Function) (means : String → String → Bool) (c : Call) : Prop where
  plain : c.Plain
  /-- No keyword is repeated. -/
  distinct : c.names.Nodup
  /-- Every argument has a slot, -/
  has : ∀ s ∈ f.slots means c, f.params.has s = true
  /-- no two arguments have the same one, -/
  once : ((f.slots means c).filter (!·.isOpen)).Nodup
  /-- and no parameter is left without a value. -/
  filled : ∀ s, f.params.Needs s → s ∈ f.slots means c

variable {f : Function} {means : String → String → Bool} {c : Call}

theorem length_names (h : c.Plain) : c.names.length = c.keywords.length :=
  List.filterMap_length_eq_length.mpr h.keywords

theorem length_slots (h : c.Plain) : (f.slots means c).length = f.given + c.argCount := by
  rw [slots, List.length_append, List.length_map, List.length_map, List.length_range, length_names h,
    Call.argCount, Nat.add_assoc]

end Function

/-! ## Counting -/

namespace Params

variable {ps : Params} {slots : List Slot}

/-- The slots that take one argument each. -/
def single (ps : Params) : List Slot :=
  (List.range ps.byPosition.length).map .positional ++
    (List.range ps.keywordOnly.length).map .keywordOnly

theorem length_single (ps : Params) :
    ps.single.length = ps.byPosition.length + ps.keywordOnly.length := by
  rw [single, List.length_append, List.length_map, List.length_map, List.length_range,
    List.length_range]

/-- If nothing collects further arguments, there are no more arguments than parameters. -/
theorem length_le_single (hRest : ps.rest = none) (hKeywordRest : ps.keywordRest = none)
    (hHas : ∀ s ∈ slots, ps.has s = true) (hOnce : (slots.filter (!·.isOpen)).Nodup) :
    slots.length ≤ ps.single.length := by
  have hSingle : ∀ s ∈ slots, s.isOpen = false ∧ s ∈ ps.single := by
    intro s hs
    have hSlot := hHas s hs
    cases s with
    | positional i => simpa [has, single, Slot.isOpen] using hSlot
    | keywordOnly i => simpa [has, single, Slot.isOpen] using hSlot
    | rest => simp [has, hRest] at hSlot
    | keywordRest => simp [has, hKeywordRest] at hSlot
  rw [List.filter_eq_self.mpr fun s hs => by rw [(hSingle s hs).1]; rfl] at hOnce
  exact (hOnce.subperm fun s hs => (hSingle s hs).2).length_le

/-- How many parameters given by position have no default. -/
def bare (ps : Params) : Nat := ps.byPosition.length - ps.defaults.length

/-- The places of the parameters given by keyword only that have no default. -/
def keysNeeded (ps : Params) : List Nat :=
  (ps.keywordDefaults.zipIdx.filter (·.1.isNone)).map (·.2)

/-- The slots that must be filled. -/
def needed (ps : Params) : List Slot :=
  (List.range ps.bare).map .positional ++ ps.keysNeeded.map .keywordOnly

theorem needs_of_mem_needed {s : Slot} (h : s ∈ ps.needed) : ps.Needs s := by
  rcases List.mem_append.mp h with h | h
  · obtain ⟨i, hi, rfl⟩ := List.mem_map.mp h
    have hLt := List.mem_range.mp hi
    rw [bare] at hLt
    exact Nat.add_lt_of_lt_sub hLt
  · obtain ⟨i, hi, rfl⟩ := List.mem_map.mp h
    obtain ⟨⟨d, i⟩, hPair, rfl⟩ := List.mem_map.mp hi
    obtain ⟨hPlace, hNone⟩ := List.mem_filter.mp hPair
    rw [Needs, List.mem_zipIdx_iff_getElem?.mp hPlace, Option.map_some]
    exact congrArg some hNone

theorem length_keysNeeded (ps : Params) :
    ps.keysNeeded.length = (ps.keywordDefaults.filter (·.isNone)).length := by
  have hFst : ps.keywordDefaults = ps.keywordDefaults.zipIdx.map (·.1) :=
    (List.zipIdx_map_fst 0 _).symm
  rw [keysNeeded, List.length_map]
  conv_rhs => rw [hFst, List.filter_map, List.length_map]
  rfl

theorem length_needed (ps : Params) : ps.needed.length = ps.bare + ps.keysNeeded.length := by
  rw [needed, List.length_append, List.length_map, List.length_map, List.length_range]

theorem nodup_keysNeeded (ps : Params) : ps.keysNeeded.Nodup := by
  have hAll : (ps.keywordDefaults.zipIdx.map (·.2)).Nodup := by
    rw [List.zipIdx_map_snd]
    exact List.nodup_range'
  exact hAll.sublist (List.filter_sublist.map _)

theorem nodup_needed (ps : Params) : ps.needed.Nodup := by
  refine List.nodup_append.mpr ⟨List.nodup_range.map fun _ _ => Slot.positional.inj,
    ps.nodup_keysNeeded.map fun _ _ => Slot.keywordOnly.inj, ?_⟩
  intro s hs t ht hEq
  obtain ⟨i, -, rfl⟩ := List.mem_map.mp hs
  obtain ⟨j, -, rfl⟩ := List.mem_map.mp ht
  cases hEq

/-- Every parameter that must have a value takes an argument. -/
theorem length_needed_le (h : ∀ s ∈ ps.needed, s ∈ slots) : ps.needed.length ≤ slots.length :=
  (ps.nodup_needed.subperm h).length_le

/-- Those given by keyword only take an argument with a keyword. -/
theorem length_keysNeeded_le {positions : List Nat}
    (h : ∀ s ∈ ps.needed, s ∈ positions.map ps.slotAt ++ slots) :
    ps.keysNeeded.length ≤ slots.length := by
  have hKeys : ps.keysNeeded.map .keywordOnly ⊆ slots := by
    intro s hs
    rcases List.mem_append.mp (h s (List.mem_append_right _ hs)) with hPosition | hSlot
    · obtain ⟨i, -, rfl⟩ := List.mem_map.mp hs
      obtain ⟨j, -, hSlot⟩ := List.mem_map.mp hPosition
      rw [slotAt] at hSlot
      split at hSlot <;> cases hSlot
    · exact hSlot
  have hNodup := ps.nodup_keysNeeded.map fun _ _ => Slot.keywordOnly.inj
  simpa using (hNodup.subperm hKeys).length_le

end Params

/-! ## Numbers of arguments -/

namespace Function

variable {f : Function} {means : String → String → Bool} {c : Call} {s : Stmt}

/-- What the record of a function says about numbers of arguments. -/
structure Counts (f : Function) : Prop where
  minArgs : f.minArgs = f.params.byPosition.length - f.given -
    min f.params.defaults.length (f.params.byPosition.length - f.given) + f.params.keysNeeded.length
  maxArgs : ∀ n, f.maxArgs = some n → f.params.rest = none ∧ f.params.keywordRest = none ∧
    n = f.params.byPosition.length - f.given + f.params.keywordOnly.length

/-- The parameters that calls see are those behind the first, if that comes from elsewhere. -/
theorem length_positional (f : Function) (ps : List Param) :
    (if f.owner.isSome && !f.isStatic then ps.drop 1 else ps).length = ps.length - f.given := by
  rw [given]
  split
  · rw [List.length_drop]
  · rw [Nat.sub_zero]

theorem counts_of_records (h : f.Records s) : f.Counts := by
  cases s with
  | function line name params body decorators result =>
    generalize hNode : Node.stmt (.function line name params body decorators result) = node at h
    have hRecord : f = functionOf f.number f.owner line name params body decorators node := by
      rw [← hNode]
      exact h
    generalize f.number = number, f.owner = owner at hRecord
    subst hRecord
    have hLength := length_positional (functionOf number owner line name params body decorators node)
      params.byPosition
    refine ⟨?_, fun n hMax => ?_⟩
    · rw [Params.length_keysNeeded]
      exact congrArg (fun k => k - min params.defaults.length k +
        (params.keywordDefaults.filter (·.isNone)).length) hLength
    · have hPlain := congrArg (· + params.keywordOnly.length) hLength
      have hOpen : (if params.rest.toList.length + params.keywordRest.toList.length = 0 then some _
          else none) = some n := hMax
      split at hOpen
      · obtain ⟨hRest, hKeywordRest⟩ := Nat.add_eq_zero_iff.mp ‹_›
        refine ⟨?_, ?_, (Option.some.inj hOpen).symm.trans hPlain⟩
        · exact Option.toList_eq_nil_iff.mp (List.length_eq_zero_iff.mp hRest)
        · exact Option.toList_eq_nil_iff.mp (List.length_eq_zero_iff.mp hKeywordRest)
      · cases hOpen
  | _ => exact h.elim

theorem given_le_one (f : Function) : f.given ≤ 1 := by
  rw [given]
  split <;> omega

/-- A call gives no fewer arguments than a function needs. -/
theorem Binds.minArgs_le (h : f.Binds means c) (hCounts : f.Counts) : f.minArgs ≤ c.argCount := by
  have hFilled : ∀ s ∈ f.params.needed, s ∈ f.slots means c := fun s hs =>
    h.filled s (Params.needs_of_mem_needed hs)
  have hAll := Params.length_needed_le hFilled
  have hKeys := Params.length_keysNeeded_le hFilled
  rw [Params.length_needed, Params.bare, length_slots h.plain] at hAll
  rw [List.length_map, length_names h.plain] at hKeys
  have hArgs : c.argCount = c.args.length + c.keywords.length := rfl
  have hGiven := f.given_le_one
  rw [hCounts.minArgs]
  omega

/-- What the function is called on is given to a parameter, if nothing collects further arguments. -/
theorem Binds.given_le (h : f.Binds means c) (hRest : f.params.rest = none) :
    f.given ≤ f.params.byPosition.length := by
  refine Nat.le_of_not_lt fun hLt => ?_
  have hGiven := f.given_le_one
  have hSlot : f.params.slotAt 0 ∈ f.slots means c :=
    List.mem_append_left _ (List.mem_map_of_mem (List.mem_range.mpr (by omega)))
  have hHas := h.has _ hSlot
  rw [Params.slotAt, if_neg (by omega), Params.has, hRest] at hHas
  cases hHas

/-- Nor does it give more than the function takes. -/
theorem Binds.le_maxArgs (h : f.Binds means c) (hCounts : f.Counts) {n : Nat}
    (hMax : f.maxArgs = some n) : c.argCount ≤ n := by
  obtain ⟨hRest, hKeywordRest, rfl⟩ := hCounts.maxArgs n hMax
  have hAll := Params.length_le_single hRest hKeywordRest h.has h.once
  rw [Params.length_single, length_slots h.plain] at hAll
  have hGiven := h.given_le hRest
  omega

theorem Binds.accepts (h : f.Binds means c) (hCounts : f.Counts) : f.accepts c.argCount = true := by
  rw [Function.accepts, Bool.and_eq_true, decide_eq_true_iff]
  refine ⟨h.minArgs_le hCounts, ?_⟩
  cases hMax : f.maxArgs with
  | none => rfl
  | some n => exact decide_eq_true (h.le_maxArgs hCounts hMax)

end Function

/-! ## Functions for calls -/

section Picking

variable {s : Source} {f : Function} {c : Call} {means : String → String → Bool}

/-- The functions among which one is picked: those without signatures of their own, if there are any. -/
def Source.shown (s : Source) (fs : List Function) : List Function :=
  let shown := fs.filter fun f => !s.hasStubs f.number
  if shown.isEmpty then fs else shown

theorem mem_of_mem_shown {fs : List Function} (h : f ∈ s.shown fs) : f ∈ fs := by
  rw [Source.shown] at h
  split at h
  · exact h
  · exact List.mem_of_mem_filter h

theorem pick_eq (s : Source) (n : Nat) (fs : List Function) :
    pick s n fs = ((s.shown fs).find? (·.accepts n)).or (s.shown fs).head? := rfl

theorem accepts_of_binds (hs : s.Read) (hf : f ∈ s.declarations) (h : f.Binds means c) :
    f.accepts c.argCount = true := by
  obtain ⟨number, name, path, body, rfl⟩ := hs
  obtain ⟨stmt, -, hRecords⟩ := exists_right_of_forall₂ (forall₂_declarations body) hf
  exact h.accepts (Function.counts_of_records hRecords)

/-- What the number of arguments says about the functions of a module. -/
structure ArgumentsCounted (s : Source) (c : Call) : Prop where
  /-- A function accepts the number of arguments of every call that it takes. -/
  accepts : ∀ f ∈ s.declarations, ∀ means, f.Binds means c → f.accepts c.argCount = true
  /-- If some functions have one that takes a call, the first that accepts the number of arguments is
  picked. -/
  picked : ∀ fs : List Function, (∀ g ∈ fs, g ∈ s.declarations) →
    (∃ g ∈ s.shown fs, ∃ means, g.Binds means c) → ∃ f, pick s c.argCount fs = some f ∧
      (s.shown fs).find? (·.accepts c.argCount) = some f ∧ f.accepts c.argCount = true

/-- **Numbers of arguments.** They never speak against a function that takes the call. So one that does
not accept the number is picked only where no function takes the call. -/
theorem argumentsCounted (hs : s.Read) (c : Call) : ArgumentsCounted s c where
  accepts _ hf _ h := accepts_of_binds hs hf h
  picked fs hKnown hBinds := by
    obtain ⟨g, hg, means, hTakes⟩ := hBinds
    have hAccepts := accepts_of_binds hs (hKnown g (mem_of_mem_shown hg)) hTakes
    cases hFind : (s.shown fs).find? (·.accepts c.argCount) with
    | none => exact absurd hAccepts (List.find?_eq_none.mp hFind g hg)
    | some f =>
      have hFirst := List.find?_some hFind
      exact ⟨f, by rw [pick_eq, hFind, Option.some_or], rfl, hFirst⟩

end Picking

/-! ### A method with a default for its object -/

/-- Both parameters given by position have a default, the one given by keyword only has none. -/
def easyParams : Params :=
  ⟨[⟨"self", none⟩], [⟨"x", none⟩], none, [⟨"key", none⟩], [none], none,
    [.constant .none, .constant .none]⟩

def easyBody : List Stmt :=
  [.classDef 1 "K" [] [] [.function 2 "m" easyParams [.plain []] [] none] []]

def easySource : Source := sourceOf 0 "m" "m.py" easyBody

/-- A call with the keyword alone. -/
def keyedCall : Call := ⟨4, .attribute (.name "o" false) "m", [], [⟨some "key", .constant .none⟩]⟩

theorem binds_keyedCall : ∃ f ∈ easySource.declarations, f.Binds (· == ·) keyedCall := by
  refine ⟨_, List.mem_singleton_self _, ⟨nofun, ?_⟩, ?_, ?_, ?_, ?_⟩
  · exact List.forall_mem_singleton.mpr rfl
  · decide
  · decide
  · decide
  · intro s hs
    cases s with
    | positional i =>
      have hLt : i + 2 < 2 := hs
      omega
    | keywordOnly i =>
      cases i with
      | zero => decide
      | succ i => cases hs
    | rest => cases hs
    | keywordRest => cases hs

theorem argumentsCounted_keyedCall : easySource.Read ∧
    (∃ f ∈ easySource.declarations, f.Binds (· == ·) keyedCall) ∧
    ArgumentsCounted easySource keyedCall := by
  have hRead : easySource.Read := ⟨0, "m", "m.py", easyBody, rfl⟩
  exact ⟨hRead, binds_keyedCall, argumentsCounted hRead keyedCall⟩

end CodeAtlas.Module
