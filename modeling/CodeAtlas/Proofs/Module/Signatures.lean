import CodeAtlas.Proofs.Module.BareNames
import CodeAtlas.Proofs.Module.Indexed

/-!
# Signatures of functions

A function can have signatures of its own: functions of its scope and name that only say how it is
called. Where names lead to the scope, the signatures are listed in its place and make its calls.

* `Declared.Sound.mem_held`: names lead to a class unless a later one takes its name or that of a class
  around it.
* `Declared.Sound.mem_links_iff`: which signatures are linked to which functions.
* `signaturesShown`: signatures stand for the last function of their name that is none itself, in just
  those scopes to which names lead.
* `not_shown_replaced`: in a class that a later one replaces they do not.
-/

namespace CodeAtlas.Module

open CodeAtlas.Files (Entry Path)

/-! ## Names of classes -/

/-- The last of some numbers that grow is the largest. -/
theorem getLast?_eq_some_iff_of_pairwise {ns : List Nat} (h : ns.Pairwise (· < ·)) {n : Nat} :
    ns.getLast? = some n ↔ n ∈ ns ∧ ∀ m ∈ ns, m ≤ n := by
  constructor
  · intro hLast
    obtain ⟨front, rfl⟩ := List.getLast?_eq_some_iff.mp hLast
    refine ⟨by simp, fun m hm => ?_⟩
    rcases List.mem_append.mp hm with hm | hm
    · exact Nat.le_of_lt ((List.pairwise_append.mp h).2.2 m hm n (List.mem_singleton_self n))
    · exact Nat.le_of_eq (List.mem_singleton.mp hm)
  · rintro ⟨hMem, hMax⟩
    cases hLast : ns.getLast? with
    | none => simp [List.getLast?_eq_none_iff.mp hLast] at hMem
    | some k =>
      obtain ⟨front, rfl⟩ := List.getLast?_eq_some_iff.mp hLast
      have hBelow := hMax k (by simp)
      rcases List.mem_append.mp hMem with hm | hm
      · have hLt := (List.pairwise_append.mp h).2.2 n hm k (List.mem_singleton_self k)
        omega
      · rw [List.mem_singleton.mp hm]

namespace Declared

variable {d : Declared}

/-- The classes that have their names in a class or at the top of the module. -/
def classScope (d : Declared) : Option Nat → List (String × Nat)
  | none => d.classes
  | some n => ((d.allClasses[n]?).map (·.nested)).getD []

/-- The classes under their scopes and names. -/
def namedClasses (d : Declared) : List ((Option Nat × String) × Nat) :=
  d.allClasses.map fun c => ((c.outer, c.name), c.number)

/-- A name leads to the last class of its scope that has it, and a class comes behind those around it. -/
structure Nested (d : Declared) : Prop where
  lookup_eq : ∀ outer name,
    (d.classScope outer).lookup name = (Assoc.valuesOf (outer, name) d.namedClasses).getLast?
  outer_lt : ∀ x ∈ d.namedClasses, ∀ n, x.1.1 = some n → n < x.2

theorem nested_empty : Nested empty where
  lookup_eq outer name := by cases outer <;> rfl
  outer_lt x hx := by cases hx

theorem namedClasses_addFunction (d : Declared) (owner : Option Nat) (f : Function) :
    (d.addFunction owner f).namedClasses = d.namedClasses := by
  cases owner with
  | none => rfl
  | some n =>
    simp only [namedClasses, addFunction, modifyClass]
    rw [map_modify_of_eq]
    exact fun _ => rfl

theorem classScope_addFunction (d : Declared) (owner : Option Nat) (f : Function) (outer : Option Nat) :
    (d.addFunction owner f).classScope outer = d.classScope outer := by
  cases owner with
  | none => cases outer <;> rfl
  | some n =>
    cases outer with
    | none => rfl
    | some k =>
      simp only [classScope, ← List.getElem?_map, addFunction, modifyClass]
      rw [map_modify_of_eq]
      exact fun _ => rfl

theorem namedClasses_addClass (d : Declared) (outer : Option Nat) (line : Nat) (name : String)
    (bases decorators : List Expr) (body : List Stmt) :
    (d.addClass outer line name bases decorators body).namedClasses =
      d.namedClasses ++ [((outer, name), d.allClasses.length)] := by
  cases outer with
  | none => exact List.map_append
  | some n =>
    simp only [namedClasses, addClass, modifyClass]
    rw [map_modify_of_eq]
    · exact List.map_append
    · exact fun _ => rfl

theorem classScope_addClass {outer : Option Nat} (h : d.Ready outer) (line : Nat) (name : String)
    (bases decorators : List Expr) (body : List Stmt) (outer' : Option Nat) :
    (d.addClass outer line name bases decorators body).classScope outer' =
      if outer = outer' then Assoc.put name d.allClasses.length (d.classScope outer')
      else d.classScope outer' := by
  -- a new class has no classes in it yet
  have hNew : ∀ (new : Class) (k : Nat), new.nested = [] → (((d.allClasses ++ [new])[k]?).map
      (·.nested)).getD [] = ((d.allClasses[k]?).map (·.nested)).getD [] := by
    intro new k hNone
    obtain hOld | rfl | hBeyond := Nat.lt_trichotomy k d.allClasses.length
    · rw [List.getElem?_append_left hOld]
    · simp [hNone]
    · rw [List.getElem?_eq_none (by simp; omega), List.getElem?_eq_none (by omega)]
  cases outer with
  | none =>
    cases outer' with
    | none => rfl
    | some k => exact hNew _ k rfl
  | some n =>
    cases outer' with
    | none => rfl
    | some k =>
      have hBound : n < d.allClasses.length := h n rfl
      simp only [addClass, modifyClass, classScope, List.getElem?_modify, Option.some.injEq]
      by_cases hSame : n = k
      · subst hSame
        rw [List.getElem?_append_left hBound]
        simp [hBound]
      · simpa [hSame] using hNew _ k rfl

theorem preserved_nested : Preserved Nested where
  function d owner f hd _ _ _ := by
    refine ⟨fun outer name => ?_, ?_⟩
    · rw [classScope_addFunction, namedClasses_addFunction, hd.lookup_eq]
    · rw [namedClasses_addFunction]
      exact hd.outer_lt
  cls d outer line name bases decorators body hd hReady := by
    refine ⟨fun outer' name' => ?_, fun x hx n hn => ?_⟩
    · rw [classScope_addClass hReady, namedClasses_addClass, Assoc.valuesOf_append]
      by_cases hSame : outer = outer'
      · subst hSame
        rw [if_pos rfl]
        by_cases hName : name' = name
        · subst hName
          simp [Assoc.lookup_put_self, Assoc.valuesOf]
        · rw [Assoc.lookup_put_of_ne hName, hd.lookup_eq]
          simp [Assoc.valuesOf, Ne.symm hName]
      · rw [if_neg hSame, hd.lookup_eq]
        simp [Assoc.valuesOf, hSame]
    · rw [namedClasses_addClass] at hx
      rcases List.mem_append.mp hx with hx | hx
      · exact hd.outer_lt x hx n hn
      · obtain rfl := List.mem_singleton.mp hx
        exact hReady n hn

theorem nested_addAll (body : List Stmt) : Nested (addAll none empty body) :=
  (addAll_induction preserved_nested none empty body nested_empty nofun).1

/-! ## Classes to which names lead -/

/-- Names lead to the scope: it is the module, or a class in such a scope whose name no later class of the
scope takes. -/
inductive Kept (d : Declared) : Option Nat → Prop
  | top : Kept d none
  | cls {c : Class} (hc : c ∈ d.allClasses) (hOuter : Kept d c.outer)
      (hLast : ∀ c' ∈ d.allClasses, c'.outer = c.outer → c'.name = c.name → c'.number ≤ c.number) :
      Kept d (some c.number)

theorem exists_of_kept {n : Nat} (h : d.Kept (some n)) : ∃ c ∈ d.allClasses, c.number = n := by
  generalize hScope : some n = o at h
  cases h with
  | top => cases hScope
  | cls hc => exact ⟨_, hc, (Option.some.inj hScope).symm⟩

namespace Sound

theorem getElem?_class (h : d.Sound) {c : Class} (hc : c ∈ d.allClasses) :
    d.allClasses[c.number]? = some c := getElem?_of_map_eq_range h.classNumbers hc

theorem class_ext (h : d.Sound) {c c' : Class} (hc : c ∈ d.allClasses) (hc' : c' ∈ d.allClasses)
    (hNumber : c.number = c'.number) : c = c' := by
  have hSame := h.getElem?_class hc
  rw [hNumber, h.getElem?_class hc'] at hSame
  exact (Option.some.inj hSame).symm

/-- A class has its name just if no later one of its scope takes it. -/
theorem lookup_classScope (h : d.Sound) (hNested : d.Nested) {c : Class} (hc : c ∈ d.allClasses) :
    (d.classScope c.outer).lookup c.name = some c.number ↔
      ∀ c' ∈ d.allClasses, c'.outer = c.outer → c'.name = c.name → c'.number ≤ c.number := by
  have hGrow : (Assoc.valuesOf (c.outer, c.name) d.namedClasses).Pairwise (· < ·) := by
    have hAll : (d.namedClasses.map (·.2)).Pairwise (· < ·) := by
      have hNumbers : d.namedClasses.map (·.2) = d.allClasses.map (·.number) := List.map_map
      rw [hNumbers, h.classNumbers]
      exact List.pairwise_lt_range
    exact hAll.sublist (List.filter_sublist.map _)
  have hMem : ∀ n, n ∈ Assoc.valuesOf (c.outer, c.name) d.namedClasses ↔
      ∃ c' ∈ d.allClasses, c'.outer = c.outer ∧ c'.name = c.name ∧ c'.number = n := by
    intro n
    rw [Assoc.mem_valuesOf, namedClasses, List.mem_map]
    simp only [Prod.mk.injEq, and_assoc]
  rw [hNested.lookup_eq, getLast?_eq_some_iff_of_pairwise hGrow, hMem]
  constructor
  · rintro ⟨-, hMax⟩ c' hc' hOuter hName
    exact hMax _ ((hMem _).mpr ⟨c', hc', hOuter, hName, rfl⟩)
  · intro hLast
    refine ⟨⟨c, hc, rfl, rfl, rfl⟩, fun m hm => ?_⟩
    obtain ⟨c', hc', hOuter, hName, rfl⟩ := (hMem m).mp hm
    exact hLast c' hc' hOuter hName

theorem kept_some (h : d.Sound) {c : Class} (hc : c ∈ d.allClasses) : d.Kept (some c.number) ↔
    d.Kept c.outer ∧
      ∀ c' ∈ d.allClasses, c'.outer = c.outer → c'.name = c.name → c'.number ≤ c.number := by
  constructor
  · intro hKept
    generalize hScope : some c.number = o at hKept
    cases hKept with
    | top => cases hScope
    | cls hc' hOuter hLast =>
      obtain rfl := h.class_ext hc hc' (Option.some.inj hScope)
      exact ⟨hOuter, hLast⟩
  · rintro ⟨hOuter, hLast⟩
    exact .cls hc hOuter hLast

theorem lt_length (h : d.Sound) {c : Class} (hc : c ∈ d.allClasses) : c.number < d.allClasses.length :=
  (List.getElem?_eq_some_iff.mp (h.getElem?_class hc)).1

end Sound

theorem holds_iff {held : List Nat} {c : Class} : d.holds held c = true ↔
    (∀ n, c.outer = some n → n ∈ held) ∧ (d.classScope c.outer).lookup c.name = some c.number := by
  rw [holds]
  cases c.outer with
  | none => simp [classScope]
  | some n =>
    have hLookup : (d.classScope (some n)).lookup c.name =
        (d.allClasses[n]?).bind (·.nested.lookup c.name) := by
      rw [classScope]
      cases d.allClasses[n]? <;> rfl
    simp [hLookup]

namespace Sound

/-- Where just those classes before it are held to which names lead, a class is held just if they lead
to it. -/
theorem holds_iff_kept (h : d.Sound) (hNested : d.Nested) {c : Class} (hc : c ∈ d.allClasses)
    {held : List Nat} (hHeld : ∀ n, n ∈ held ↔ n < c.number ∧ d.Kept (some n)) :
    d.holds held c = true ↔ d.Kept (some c.number) := by
  rw [holds_iff, h.lookup_classScope hNested hc, h.kept_some hc]
  refine and_congr_left fun _ => ?_
  cases hOuter : c.outer with
  | none => simp [Kept.top]
  | some m =>
    have hBefore : m < c.number := hNested.outer_lt _ (List.mem_map_of_mem hc) m hOuter
    simp [hHeld, hBefore]

/-- Of the first classes those are held to which names lead. -/
theorem mem_held_front (h : d.Sound) (hNested : d.Nested) {front rest : List Class}
    (hEq : d.allClasses = front ++ rest) {n : Nat} :
    n ∈ front.foldl (fun held c => if d.holds held c then held ++ [c.number] else held) [] ↔
      n < front.length ∧ d.Kept (some n) := by
  induction front using List.reverseRecOn generalizing rest n with
  | nil => simp
  | append_singleton front c ih =>
    rw [List.append_assoc] at hEq
    have hc : c ∈ d.allClasses := by
      rw [hEq]
      exact List.mem_append_right _ List.mem_cons_self
    have hNumber : c.number = front.length := by
      have hPlace : (d.allClasses.map (·.number))[front.length]? = some c.number := by
        rw [hEq, List.map_append, List.getElem?_append_right (by simp)]
        simp
      rw [h.classNumbers] at hPlace
      obtain ⟨hLt, hNumber⟩ := List.getElem?_eq_some_iff.mp hPlace
      rw [← hNumber, List.getElem_range]
    have hHeld := fun k => ih hEq (n := k)
    rw [← hNumber] at hHeld
    have hHolds := h.holds_iff_kept hNested hc hHeld
    rw [List.foldl_append, List.foldl_cons, List.foldl_nil, List.length_append, List.length_singleton,
      ← hNumber]
    by_cases hKept : d.Kept (some c.number)
    · rw [if_pos (hHolds.mpr hKept), List.mem_append, List.mem_singleton, hHeld, Nat.lt_succ_iff_lt_or_eq]
      constructor
      · rintro (⟨hLt, hn⟩ | rfl)
        · exact ⟨.inl hLt, hn⟩
        · exact ⟨.inr rfl, hKept⟩
      · rintro ⟨hLt | rfl, hn⟩
        · exact .inl ⟨hLt, hn⟩
        · exact .inr rfl
    · rw [if_neg fun hIs => hKept (hHolds.mp hIs), hHeld, Nat.lt_succ_iff_lt_or_eq]
      refine ⟨fun hn => ⟨.inl hn.1, hn.2⟩, ?_⟩
      rintro ⟨hLt | rfl, hn⟩
      · exact ⟨hLt, hn⟩
      · exact (hKept hn).elim

/-- Names lead to a class unless a later one takes its name or that of a class around it. -/
theorem mem_held (h : d.Sound) (hNested : d.Nested) {n : Nat} : n ∈ d.held ↔ d.Kept (some n) := by
  refine (h.mem_held_front hNested (List.append_nil _).symm).trans ?_
  refine and_iff_right_of_imp fun hKept => ?_
  obtain ⟨c, hc, rfl⟩ := exists_of_kept hKept
  exact h.lt_length hc

end Sound

/-! ## Links -/

/-- The functions of one name in a scope, in the order of the text. -/
def group (d : Declared) (owner : Option Nat) (name : String) : List Function :=
  d.declarations.filter fun f => f.owner = owner && f.name = name

/-- The function `f` runs where signatures of its scope and name are called: it is the last of them that
is no signature. -/
structure Implements (d : Declared) (f : Function) : Prop where
  last : ((d.group f.owner f.name).filter fun g => !g.isStub).getLast? = some f
  stub : ∃ g ∈ d.group f.owner f.name, g.isStub = true

namespace Sound

/-- The functions that stand under a name of a scope. -/
theorem functions_scope (h : d.Sound) {owner : Option Nat} {x : String × List Nat}
    (hx : x ∈ d.scope owner) : x.2.filterMap (d.declarations[·]?) = d.group owner x.1 := by
  rw [h.scope_eq, Assoc.gather_eq] at hx
  obtain ⟨name, -, rfl⟩ := List.mem_map.mp hx
  have hNumbers : Assoc.valuesOf name (d.named owner) = (d.group owner name).map (·.number) := by
    rw [Assoc.valuesOf, named, List.filter_map, List.map_map, List.filter_filter, group]
    refine congrArg _ (List.filter_congr fun f _ => ?_)
    exact Bool.and_comm _ _
  have hFound : ∀ f ∈ d.group owner name, d.declarations[f.number]? = some f :=
    fun f hf => h.getElem?_number (List.mem_of_mem_filter hf)
  rw [hNumbers, List.filterMap_map]
  exact (List.filterMap_congr hFound).trans List.filterMap_some

theorem exists_scope (h : d.Sound) {f : Function} (hf : f ∈ d.declarations) :
    ∃ x ∈ d.scope f.owner, x.1 = f.name := by
  have hNamed : (f.name, f.number) ∈ d.named f.owner :=
    List.mem_map.mpr ⟨f, List.mem_filter.mpr ⟨hf, decide_eq_true rfl⟩, rfl⟩
  rw [h.scope_eq, Assoc.gather_eq]
  exact ⟨_, List.mem_map_of_mem (mem_firsts.mpr (List.mem_map_of_mem hNamed)), rfl⟩

/-- Signatures are given for the functions of the scopes to which names lead. -/
theorem mem_links_of_scope (h : d.Sound) (hNested : d.Nested) {a b : Nat} : (a, b) ∈ d.links ↔
    ∃ owner, d.Kept owner ∧ ∃ x ∈ d.scope owner, (a, b) ∈ linksOf d x.2 := by
  rw [links, List.mem_flatMap]
  constructor
  · rintro ⟨x, hx, hLink⟩
    rcases List.mem_append.mp hx with hx | hx
    · exact ⟨none, .top, x, hx, hLink⟩
    · obtain ⟨c, hc, hx⟩ := List.mem_flatMap.mp hx
      obtain ⟨hMem, hHeld⟩ := List.mem_filter.mp hc
      refine ⟨some c.number, (h.mem_held hNested).mp (List.contains_iff_mem.mp hHeld), x, ?_, hLink⟩
      rw [scope, h.getElem?_class hMem]
      exact hx
  · rintro ⟨owner, hKept, x, hx, hLink⟩
    refine ⟨x, ?_, hLink⟩
    cases owner with
    | none => exact List.mem_append_left _ hx
    | some n =>
      obtain ⟨c, hc, rfl⟩ := exists_of_kept hKept
      have hHeld := List.contains_iff_mem.mpr ((h.mem_held hNested).mpr hKept)
      rw [scope, h.getElem?_class hc] at hx
      exact List.mem_append_right _ (List.mem_flatMap.mpr ⟨c, List.mem_filter.mpr ⟨hc, hHeld⟩, hx⟩)

theorem mem_links_iff (h : d.Sound) (hNested : d.Nested) {a b : Nat} :
    (a, b) ∈ d.links ↔ ∃ g f, d.Implements f ∧ d.Kept f.owner ∧ g ∈ d.group f.owner f.name ∧
      g.isStub = true ∧ g.number = a ∧ f.number = b := by
  rw [h.mem_links_of_scope hNested]
  constructor
  · rintro ⟨owner, hKept, x, hx, hLink⟩
    rw [linksOf, h.functions_scope hx] at hLink
    split at hLink
    · rename_i f hLast
      obtain ⟨g, hg, hPair⟩ := List.mem_map.mp hLink
      obtain ⟨rfl, rfl⟩ := Prod.mk.inj hPair
      obtain ⟨hGroup, hStub⟩ := List.mem_filter.mp hg
      obtain ⟨hOwner, hName⟩ : f.owner = owner ∧ f.name = x.1 := by
        have hMem := List.mem_of_mem_filter (List.mem_of_getLast? hLast)
        simpa [group] using (List.mem_filter.mp hMem).2
      subst hOwner
      rw [← hName] at hLast hGroup
      exact ⟨g, f, ⟨hLast, g, hGroup, hStub⟩, hKept, hGroup, hStub, rfl, rfl⟩
    · cases hLink
  · rintro ⟨g, f, hImplements, hKept, hg, hStub, rfl, rfl⟩
    have hMem : f ∈ d.declarations :=
      List.mem_of_mem_filter (List.mem_of_mem_filter (List.mem_of_getLast? hImplements.last))
    obtain ⟨x, hx, hName⟩ := h.exists_scope hMem
    refine ⟨f.owner, hKept, x, hx, ?_⟩
    rw [linksOf, h.functions_scope hx, hName, hImplements.last]
    exact List.mem_map.mpr ⟨g, List.mem_filter.mpr ⟨hg, hStub⟩, rfl⟩

theorem function_ext (h : d.Sound) {f g : Function} (hf : f ∈ d.declarations) (hg : g ∈ d.declarations)
    (hNumber : f.number = g.number) : f = g := by
  have hSame := h.getElem?_number hf
  rw [hNumber, h.getElem?_number hg] at hSame
  exact (Option.some.inj hSame).symm

end Sound

theorem mem_group {owner : Option Nat} {name : String} {f : Function} :
    f ∈ d.group owner name ↔ f ∈ d.declarations ∧ f.owner = owner ∧ f.name = name := by
  simp [group]

theorem Implements.mem (h : d.Implements f) : f ∈ d.declarations ∧ f.isStub = false := by
  obtain ⟨hGroup, hNot⟩ := List.mem_filter.mp (List.mem_of_getLast? h.last)
  exact ⟨(mem_group.mp hGroup).1, by simpa using hNot⟩

end Declared

/-! ## What a module shows -/

section Modules

variable {s : Source} {f g : Function}

theorem Source.Read.nested (h : s.Read) : s.declared.Nested := by
  obtain ⟨number, name, path, body, rfl⟩ := h
  exact Declared.nested_addAll body

/-- A signature is never hidden. -/
theorem Source.Read.visible_stub (h : s.Read) (hg : g ∈ s.declarations) (hStub : g.isStub = true) :
    g ∈ s.visible := by
  have hShown : s.hasStubs g.number = false := by
    refine Bool.eq_false_iff.mpr fun hHas => ?_
    obtain ⟨a, hLink⟩ := Source.hasStubs_iff.mp hHas
    rw [h.links_eq] at hLink
    obtain ⟨-, f, hImplements, -, -, -, -, hNumber⟩ := (h.sound.mem_links_iff h.nested).mp hLink
    obtain rfl := h.sound.function_ext hImplements.mem.1 hg hNumber
    rw [hImplements.mem.2] at hStub
    cases hStub
  exact List.mem_filter.mpr ⟨hg, by simp [hShown]⟩

/-- What has signatures is hidden in just the scopes to which names lead. -/
theorem Source.Read.visible_iff (h : s.Read) (hImplements : s.declared.Implements f) :
    f ∈ s.visible ↔ ¬ s.declared.Kept f.owner := by
  have hHas : s.hasStubs f.number = true ↔ s.declared.Kept f.owner := by
    rw [Source.hasStubs_iff, h.links_eq]
    constructor
    · rintro ⟨a, hLink⟩
      obtain ⟨-, f', hImplements', hKept, -, -, -, hNumber⟩ := (h.sound.mem_links_iff h.nested).mp hLink
      obtain rfl := h.sound.function_ext hImplements'.mem.1 hImplements.mem.1 hNumber
      exact hKept
    · intro hKept
      obtain ⟨g, hg, hStub⟩ := hImplements.stub
      exact ⟨g.number, (h.sound.mem_links_iff h.nested).mpr ⟨g, f, hImplements, hKept, hg, hStub, rfl, rfl⟩⟩
  have hMem : f ∈ s.declarations := hImplements.mem.1
  rw [Source.visible, List.mem_filter, ← hHas]
  simp [hMem]

/-- A signature runs the last function of its name that is none. -/
theorem Source.Read.lookup_links (h : s.Read) (hImplements : s.declared.Implements f)
    (hKept : s.declared.Kept f.owner) (hg : g ∈ s.declared.group f.owner f.name)
    (hStub : g.isStub = true) : s.links.lookup g.number = some f.number := by
  have hLink : (g.number, f.number) ∈ s.links := by
    rw [h.links_eq]
    exact (h.sound.mem_links_iff h.nested).mpr ⟨g, f, hImplements, hKept, hg, hStub, rfl, rfl⟩
  obtain ⟨b, hLookup⟩ := Assoc.exists_lookup (Assoc.hasKey_iff.mpr ⟨_, hLink⟩)
  have hFound := Assoc.mem_of_lookup hLookup
  rw [h.links_eq] at hFound
  obtain ⟨g', f', hImplements', -, hg', -, hNumber, rfl⟩ := (h.sound.mem_links_iff h.nested).mp hFound
  obtain ⟨hMem, hOwner, hName⟩ := Declared.mem_group.mp hg
  obtain ⟨hMem', hOwner', hName'⟩ := Declared.mem_group.mp hg'
  obtain rfl := h.sound.function_ext hMem' hMem hNumber
  have hLast := hImplements'.last
  rw [← hOwner', ← hName', hOwner, hName, hImplements.last] at hLast
  obtain rfl := Option.some.inj hLast
  exact hLookup

end Modules

/-! ## What a repository shows -/

/-- The signatures of a function's name are listed in its place and make its calls. -/
structure ShownBySignatures (pr : Provider (Option FunctionRef) CallRef) (s : Source) (f : Function) :
    Prop where
  listed : ∀ g ∈ s.declared.group f.owner f.name, g.isStub = true → Lists pr (targetOf s g)
  hidden : ¬ Lists pr (targetOf s f)
  calls : ∀ g ∈ s.declared.group f.owner f.name, g.isStub = true →
    pr.callSites (targetOf s g) = f.calls.mapM (showCall ⟨s.number, f.number⟩)

/-- What signatures stand for in a module. -/
structure SignaturesShown (pr : Provider (Option FunctionRef) CallRef) (s : Source) : Prop where
  /-- The scopes of the module are those of its text. -/
  scopes : ScopesRecorded s
  /-- They stand for the last function of their name that is none itself in just those scopes to which
  names lead. -/
  shown_iff : ∀ f, s.declared.Implements f → (ShownBySignatures pr s f ↔ s.declared.Kept f.owner)

section Answering

variable {root : Path} {top : Entry} {ps : List Project} {l : Library} {s : Source} {f g : Function}

/-- A function is listed just if it is visible. -/
theorem lists_targetOf_iff (h : l.Sound) (hSources : l.sources = ps.flatMap l.modules)
    (hs : s ∈ l.sources) (hf : f ∈ s.declarations) :
    Lists (l.provider ps) (targetOf s f) ↔ f ∈ s.visible := by
  refine ⟨?_, lists_targetOf hSources hs⟩
  rintro ⟨p, hp, hTarget⟩
  obtain ⟨s', hs', hTarget⟩ := List.mem_flatMap.mp hTarget
  obtain ⟨f', hf', hSame⟩ := List.mem_map.mp hTarget
  have hMem : s' ∈ l.sources := hSources ▸ List.mem_flatMap.mpr ⟨p, hp, hs'⟩
  have hHandle : (targetOf s' f').handle = (targetOf s f).handle := congrArg Method.handle hSame
  obtain ⟨hSource, hFunction⟩ : s'.number = s.number ∧ f'.number = f.number := by
    simpa [targetOf] using hHandle
  have hPlace := getElem?_of_map_eq_range h.numbers hMem
  rw [hSource, getElem?_of_map_eq_range h.numbers hs] at hPlace
  obtain rfl := Option.some.inj hPlace
  obtain rfl := (h.read s hs).sound.function_ext (List.mem_of_mem_filter hf') hf hFunction
  exact hf'

theorem callSites_of_signature (h : l.Sound) (hs : s ∈ l.sources) (hImplements : s.declared.Implements f)
    (hKept : s.declared.Kept f.owner) (hg : g ∈ s.declared.group f.owner f.name)
    (hStub : g.isStub = true) :
    l.callSites (targetOf s g) = f.calls.mapM (showCall ⟨s.number, f.number⟩) := by
  have hRead := h.read s hs
  have hCaller : l.caller? ⟨s.number, g.number⟩ = some ⟨s, g⟩ :=
    (caller?_of_visible h hs (hRead.visible_stub (Declared.mem_group.mp hg).1 hStub)).1
  have hFunction : s.function? f.number = some f := hRead.sound.getElem?_number hImplements.mem.1
  have hRunning : (Caller.mk s g).running = ⟨s, f⟩ := by
    rw [Caller.running, hRead.lookup_links hImplements hKept hg hStub, Option.bind_some, hFunction]
  rw [Library.callSites, targetOf, Option.bind_some, hCaller]
  dsimp only
  rw [hRunning]

theorem signaturesShown_of_mem (h : l.Sound) (hSources : l.sources = ps.flatMap l.modules)
    (hs : s ∈ l.sources) : SignaturesShown (l.provider ps) s := by
  have hRead := h.read s hs
  refine ⟨hRead.scopesRecorded, fun f hImplements => ⟨fun hShown => ?_, fun hKept => ⟨?_, ?_, ?_⟩⟩⟩
  · by_contra hNot
    exact hShown.hidden ((lists_targetOf_iff h hSources hs hImplements.mem.1).mpr
      ((hRead.visible_iff hImplements).mpr hNot))
  · intro g hg hStub
    exact lists_targetOf hSources hs (hRead.visible_stub (Declared.mem_group.mp hg).1 hStub)
  · rw [lists_targetOf_iff h hSources hs hImplements.mem.1, hRead.visible_iff hImplements, not_not]
    exact hKept
  · exact fun g hg hStub => callSites_of_signature h hs hImplements hKept hg hStub

theorem signaturesShown {pr : Provider (Option FunctionRef) CallRef} (hTop : top.Proper)
    (h : (provide root top).result = .ok pr)
    (hs : s ∈ (Library.ofProjects root top (itemsOf pr.projects)).sources) : SignaturesShown pr s := by
  obtain ⟨ps, hps, hDone⟩ := Traced.ok_of_bind h
  obtain rfl := Except.ok.inj hDone
  exact signaturesShown_of_mem (Library.sound_ofProjects ps)
    (Library.sources_ofProjects (nodup_refs hTop hps)) hs

end Answering

/-! ### Signatures in a class that is replaced -/

def overloadText : List UInt8 := Text.encode
  "@overload\ndef f(x): 1\ndef f(): f()\nclass K:\n @overload\n def f(x): 1\n def f(): f()\nclass K: 1\n"

def stubStmt (line : Nat) : Stmt :=
  .function line "f" ⟨[], [⟨"x", none⟩], none, [], [], none, []⟩ [.expr line (.constant (.int 1))]
    [.name "overload" false] none

def selfCallStmt (line : Nat) : Stmt :=
  .function line "f" echoParams [.expr line (.call line (.name "f" false) [] [])] [] none

def overloadBody : List Stmt :=
  [stubStmt 2, selfCallStmt 3, .classDef 4 "K" [] [] [stubStmt 6, selfCallStmt 7] [],
    .classDef 8 "K" [] [] [.expr 8 (.constant (.int 1))] []]

def selfCallFunction (number : Nat) (owner : Option Nat) (line : Nat) : Function :=
  functionOf number owner line "f" echoParams [.expr line (.call line (.name "f" false) [] [])] []
    (.stmt (selfCallStmt line))

set_option maxRecDepth 100000 in
theorem readFile_overload :
    Library.readFile ⟨["src", "m.py"], "m", overloadText⟩ = some overloadBody := by
  cbv

theorem implements_overload :
    (soleSource overloadBody).declared.Implements (selfCallFunction 1 none 3) :=
  ⟨rfl, _, .head _, rfl⟩

theorem implements_replaced :
    (soleSource overloadBody).declared.Implements (selfCallFunction 3 (some 0) 7) :=
  ⟨rfl, _, .head _, rfl⟩

theorem signaturesShown_overload : ∃ pr, (provide ⟨"", ["repo"]⟩ (soleTop overloadText)).result = .ok pr ∧
    SignaturesShown pr (soleSource overloadBody) ∧
    (soleSource overloadBody).declared.Implements (selfCallFunction 1 none 3) ∧
    ShownBySignatures pr (soleSource overloadBody) (selfCallFunction 1 none 3) := by
  have hProvide := provide_soleTop readFile_overload
  have hSource : soleSource overloadBody ∈ (Library.ofProjects ⟨"", ["repo"]⟩ (soleTop overloadText)
      [echoProject]).sources := by
    rw [ofProjects_soleTop readFile_overload]
    exact List.mem_singleton_self _
  have hShown := signaturesShown (proper_soleTop _) hProvide hSource
  exact ⟨_, hProvide, hShown, implements_overload, (hShown.shown_iff _ implements_overload).mpr .top⟩

/-- In a class that a later one replaces the function is listed, and not by its signature. -/
theorem not_shown_replaced : ∃ pr, (provide ⟨"", ["repo"]⟩ (soleTop overloadText)).result = .ok pr ∧
    (soleSource overloadBody).declared.Implements (selfCallFunction 3 (some 0) 7) ∧
    ¬ ShownBySignatures pr (soleSource overloadBody) (selfCallFunction 3 (some 0) 7) := by
  have hSound : (soleLibrary overloadBody).Sound := by
    rw [← ofProjects_soleTop readFile_overload]
    exact Library.sound_ofProjects _
  have hSources : (soleLibrary overloadBody).sources =
      [echoProject].flatMap (soleLibrary overloadBody).modules := rfl
  have hShown := signaturesShown_of_mem hSound hSources (List.mem_singleton_self (soleSource overloadBody))
  refine ⟨_, provide_soleTop readFile_overload, implements_replaced, fun hIs => ?_⟩
  have hKept : (soleSource overloadBody).declared.Kept (some 0) :=
    (hShown.shown_iff _ implements_replaced).mp hIs
  have hDeclared : (soleSource overloadBody).declared.Sound := Source.Read.sound ⟨_, _, _, _, rfl⟩
  -- the second class has the name of the first
  obtain ⟨first, second, hFirst, hSecond, hNumber, hNumber', hOuter, hName⟩ :
      ∃ first second, first ∈ (soleSource overloadBody).allClasses ∧
        second ∈ (soleSource overloadBody).allClasses ∧ first.number = 0 ∧ second.number = 1 ∧
        second.outer = first.outer ∧ second.name = first.name :=
    ⟨_, _, .head _, .tail _ (.head _), rfl, rfl, rfl, rfl⟩
  rw [← hNumber, hDeclared.kept_some hFirst] at hKept
  have hLater := hKept.2 second hSecond hOuter hName
  omega

end CodeAtlas.Module
