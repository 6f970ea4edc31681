import CodeAtlas.Module.Resolve
import CodeAtlas.Proofs.Module.Declared
import CodeAtlas.Proofs.Traced

/-!
# What calls can refer to

Every way in which a target is looked up stays inside the modules that are known, and of the functions
under a name it takes one that is declared.

* `mem_visible_of_pick`: a function that signatures hide is not picked.
* `Caller.lands_resolve`: a target inside the modules is a declared function or a constructor that a
  class has without declaring it.
-/

namespace CodeAtlas.Module

/-! ## Functions under a name -/

section Picking

variable {s : Source} {argCount : Nat} {f : Function}

theorem mem_of_pick {fs : List Function} (h : pick s argCount fs = some f) : f ∈ fs := by
  have hShown : ∀ shown : List Function, (∀ g ∈ shown, g ∈ fs) →
      (shown.find? (·.accepts argCount)).or shown.head? = some f → f ∈ fs := by
    intro shown hSub hFound
    rcases Option.or_eq_some_iff.mp hFound with hFound | ⟨-, hFound⟩
    · exact hSub f (List.mem_of_find?_eq_some hFound)
    · exact hSub f (List.mem_of_head? hFound)
  rw [pick] at h
  split at h
  · exact hShown fs (fun _ hg => hg) h
  · exact hShown _ (fun _ hg => List.mem_of_mem_filter hg) h

/-- Of several functions one without signatures of its own is picked, if there is one. -/
theorem hasStubs_of_pick {fs : List Function} (h : pick s argCount fs = some f)
    (hSome : ∃ g ∈ fs, s.hasStubs g.number = false) : s.hasStubs f.number = false := by
  obtain ⟨g, hg, hStubs⟩ := hSome
  have hFilter : g ∈ fs.filter fun f => !s.hasStubs f.number :=
    List.mem_filter.mpr ⟨hg, by rw [hStubs]; rfl⟩
  have hNonempty : (fs.filter fun f => !s.hasStubs f.number).isEmpty = false := by
    rw [List.isEmpty_eq_false_iff]
    exact List.ne_nil_of_mem hFilter
  rw [pick, hNonempty] at h
  have hMem : f ∈ fs.filter fun f => !s.hasStubs f.number := by
    rcases Option.or_eq_some_iff.mp h with hFound | ⟨-, hFound⟩
    · exact List.mem_of_find?_eq_some hFound
    · exact List.mem_of_head? hFound
  simpa using (List.mem_filter.mp hMem).2

/-- A function that signatures hide is not picked from a scope. -/
theorem mem_visible_of_pick (hs : s.Read) {owner : Option Nat} {x : String × List Nat}
    (hx : x ∈ s.declared.scope owner)
    (h : pick s argCount (x.2.filterMap s.function?) = some f) : f ∈ s.visible := by
  have hf := mem_of_pick h
  have hStubs := hasStubs_of_pick h (hs.exists_shown hx hf)
  refine List.mem_filter.mpr ⟨((hs.sound.mem_scope hx).mp hf).1, ?_⟩
  rw [hStubs]
  rfl

end Picking

/-! ## Classes -/

/-- A class that a known module declares. -/
def ClassRef.Known (sources : List Source) (c : ClassRef) : Prop :=
  c.source ∈ sources ∧ ∃ n, c.source.class? n = some c.cls

variable {sources : List Source} {t : Table}

theorem mem_visible_of_pick_methods (hRead : ∀ s ∈ sources, s.Read) {c : ClassRef}
    (hc : c.Known sources) {name : String} {argCount : Nat} {f : Function}
    (h : pick c.source argCount (c.methods name) = some f) : f ∈ c.source.visible := by
  obtain ⟨hSource, n, hn⟩ := hc
  rw [ClassRef.methods] at h
  cases hFound : c.cls.methods.lookup name with
  | none =>
    rw [hFound] at h
    cases h
  | some numbers =>
    rw [hFound] at h
    have hScope : (name, numbers) ∈ c.source.declared.scope (some n) := by
      have hn' : c.source.declared.allClasses[n]? = some c.cls := hn
      rw [Declared.scope, hn']
      exact Assoc.mem_of_lookup hFound
    exact mem_visible_of_pick (hRead _ hSource) hScope h

theorem known_topClass {s : Source} (hs : s ∈ sources) {name : String} {c : ClassRef}
    (h : s.topClass? name = some c) : c.Known sources := by
  obtain ⟨k, hk, rfl⟩ := Option.map_eq_some_iff.mp h
  obtain ⟨n, -, hn⟩ := Option.bind_eq_some_iff.mp hk
  exact ⟨hs, n, hn⟩

theorem known_nestedClass {names : List String} {c d : ClassRef} (hc : c.Known sources)
    (h : nestedClass c names = some d) : d.Known sources := by
  induction names generalizing c with
  | nil =>
    obtain rfl := Option.some.inj h
    exact hc
  | cons name names ih =>
    rw [nestedClass] at h
    split at h
    · rename_i k hk
      obtain ⟨n, -, hn⟩ := Option.bind_eq_some_iff.mp hk
      have hNested : ClassRef.Known sources ⟨c.source, k⟩ := ⟨hc.1, n, hn⟩
      exact ih hNested h
    · cases h

section Tables

variable (ht : ∀ x ∈ t, x.2 ∈ sources)

include ht

theorem mem_of_splitModuleAt {parts rest : List String} {n : Nat} {s : Source}
    (h : splitModuleAt t parts n = some (s, rest)) : s ∈ sources := by
  induction n with
  | zero => cases h
  | succ n ih =>
    rw [splitModuleAt] at h
    split at h
    · rename_i s' hFound
      cases h
      exact ht _ (Assoc.mem_of_lookup hFound)
    · exact ih h

theorem mem_of_splitModule {qualified : String} {s : Source} {rest : List String}
    (h : splitModule t qualified = some (s, rest)) : s ∈ sources :=
  mem_of_splitModuleAt ht h

theorem known_findClassWithin {hops : Nat} {qualified : String} {c : ClassRef}
    (h : findClassWithin t hops qualified = some c) : c.Known sources := by
  fun_induction findClassWithin t hops qualified with
  | case1 _ _ s head rest hSplit k hTop =>
    exact known_nestedClass (known_topClass (mem_of_splitModule ht hSplit) hTop) h
  | case2 _ _ _ _ _ _ _ _ _ ih => exact ih h
  | case3 => cases h
  | case4 => cases h

theorem known_projectBases {c b : ClassRef} (h : b ∈ projectBases t c) : b.Known sources := by
  obtain ⟨base, -, hBase⟩ := List.mem_filterMap.mp h
  obtain ⟨dotted, -, hFound⟩ := Option.bind_eq_some_iff.mp hBase
  exact known_findClassWithin ht hFound

theorem known_searchFrom {found : ClassRef → Bool} {fuel : Nat} {seen stack : List ClassRef}
    {c : ClassRef} (hStack : ∀ k ∈ stack, k.Known sources)
    (h : searchFrom t found fuel seen stack = some c) : c.Known sources := by
  induction fuel generalizing seen stack with
  | zero => cases h
  | succ fuel ih =>
    cases stack with
    | nil => cases h
    | cons k stack =>
      obtain ⟨hk, hRest⟩ := List.forall_mem_cons.mp hStack
      rw [searchFrom] at h
      split at h
      · exact ih hRest h
      · split at h
        · obtain rfl := Option.some.inj h
          exact hk
        · refine ih (fun b hb => ?_) h
          rcases List.mem_append.mp hb with hb | hb
          · exact known_projectBases ht hb
          · exact hRest b hb

/-- A method that is found stands in a known module and is declared. -/
theorem mem_of_findMethod (hRead : ∀ s ∈ sources, s.Read) {start : List ClassRef}
    (hStart : ∀ c ∈ start, c.Known sources) {name : String} {argCount : Nat} {s : Source}
    {f : Function} (h : findMethod t start name argCount = some (s, f)) :
    s ∈ sources ∧ f ∈ s.visible := by
  obtain ⟨c, hc, hPick⟩ := Option.bind_eq_some_iff.mp h
  obtain ⟨g, hg, hPair⟩ := Option.map_eq_some_iff.mp hPick
  obtain ⟨rfl, rfl⟩ := Prod.mk.inj hPair
  have hKnown := known_searchFrom ht hStart hc
  exact ⟨hKnown.1, mem_visible_of_pick_methods hRead hKnown hg⟩

end Tables

/-! ## Targets -/

/-- The constructor that a class has without declaring it, with the one that it inherits. -/
def implicitConstructor (c : ClassRef) (count : Nat) (inherited : Option (Source × Function)) :
    Target :=
  ⟨c.fullName, initName, count, true, true, some c.source.path, some c.cls.line,
    inherited.map fun (s, f) => ⟨s.number, f.number⟩⟩

/-- The targets that calls can have inside some modules. -/
inductive Lands (sources : List Source) : Target → Prop
  /-- A function that is declared. -/
  | declared {s : Source} {f : Function} : s ∈ sources → f ∈ s.visible → Lands sources (targetOf s f)
  /-- The constructor of a class that declares none, perhaps with a declared one that it inherits. -/
  | implicit {c : ClassRef} {count : Nat} {inherited : Option (Source × Function)} :
      c.Known sources → c.methods initName = [] →
      (∀ s f, inherited = some (s, f) → s ∈ sources ∧ f ∈ s.visible) →
      Lands sources (implicitConstructor c count inherited)

/-- A target inside the modules, if there is one, is one of those that calls can have. -/
def Answer (sources : List Source) (r : Except Failure (Option Target)) : Prop :=
  ∀ target, r = .ok (some target) → target.inSource = true → Lands sources target

theorem answer_none : Answer sources (.ok none) := nofun

theorem answer_external (qualified : String) (argCount : Nat) (isConstructor : Bool) :
    Answer sources (.ok (some (external qualified argCount isConstructor))) := by
  rintro target hTarget hIn
  obtain rfl := Option.some.inj (Except.ok.inj hTarget)
  rw [external] at hIn
  split at hIn <;> cases hIn

theorem answer_map_external {α : Type} (o : Option α) (qualified : α → String) (argCount : Nat)
    (isConstructor : Bool) :
    Answer sources (.ok (o.map fun a => external (qualified a) argCount isConstructor)) := by
  cases o with
  | none => exact answer_none
  | some a => exact answer_external _ _ _

theorem answer_declared {s : Source} {o : Option Function} (hs : s ∈ sources)
    (h : ∀ f, o = some f → f ∈ s.visible) : Answer sources (.ok (o.map (targetOf s))) := by
  rintro target hTarget -
  obtain ⟨f, hf, rfl⟩ := Option.map_eq_some_iff.mp (Except.ok.inj hTarget)
  exact .declared hs (h f hf)

section Answers

variable (ht : ∀ x ∈ t, x.2 ∈ sources) (hRead : ∀ s ∈ sources, s.Read)

include ht hRead

theorem answer_constructorOf {c : ClassRef} (hc : c.Known sources) (argCount : Nat) :
    Answer sources (constructorOf t c argCount) := by
  rw [constructorOf]
  split
  · rename_i f fs hMethods
    rw [← hMethods]
    exact answer_declared hc.1 fun g hg => mem_visible_of_pick_methods hRead hc hg
  · rename_i hNone
    rintro target hTarget -
    obtain ⟨count, rfl⟩ : ∃ count, target = implicitConstructor c count
        (findMethod t (projectBases t c) initName argCount) := by
      dsimp only at hTarget
      split at hTarget <;>
      · obtain ⟨count, -, hDone⟩ := ok_of_bind hTarget
        exact ⟨count, (Option.some.inj (Except.ok.inj hDone)).symm⟩
    exact .implicit hc hNone fun s f =>
      mem_of_findMethod ht hRead fun b hb => known_projectBases ht hb

theorem answer_methodOf {c : ClassRef} (hc : c.Known sources) (name : String) (argCount : Nat) :
    Answer sources (methodOf t c name argCount) := by
  rw [methodOf]
  split
  · exact answer_constructorOf ht hRead hc argCount
  · split
    · rename_i s f hFound
      obtain ⟨hs, hf⟩ := mem_of_findMethod ht hRead (List.forall_mem_singleton.mpr hc) hFound
      exact answer_declared (o := some f) hs (by rintro g ⟨⟩; exact hf)
    · exact answer_map_external _ _ _ _

theorem answer_inheritedMethod {c : ClassRef} (name : String) (argCount : Nat) :
    Answer sources (inheritedMethod t c name argCount) := by
  rw [inheritedMethod]
  split
  · rename_i s f hFound
    obtain ⟨hs, hf⟩ := mem_of_findMethod ht hRead (fun b hb => known_projectBases ht hb) hFound
    exact answer_declared (o := some f) hs (by rintro g ⟨⟩; exact hf)
  · split
    · rename_i base hBase
      refine answer_constructorOf ht hRead (known_projectBases ht (c := c) ?_) argCount
      split at hBase
      · exact List.mem_of_head? hBase
      · cases hBase
    · exact answer_map_external _ _ _ _

theorem answer_memberOf {c : ClassRef} (hc : c.Known sources) (names : List String)
    (argCount : Nat) : Answer sources (memberOf t c names argCount) := by
  rw [memberOf]
  split
  · exact answer_constructorOf ht hRead hc argCount
  · split
    · exact answer_none
    · rename_i d hd
      have hKnown := known_nestedClass hc hd
      split
      · rename_i e he
        exact answer_constructorOf ht hRead (known_nestedClass hKnown he) argCount
      · exact answer_methodOf ht hRead hKnown _ argCount

theorem answer_resolveNameWithin (argCount hops : Nat) (qualified : String) :
    Answer sources (resolveNameWithin t argCount hops qualified) := by
  fun_induction resolveNameWithin t argCount hops qualified with
  | case1 => exact answer_external _ _ _
  | case2 => exact answer_none
  | case3 _ _ s head rest hSplit numbers hFunctions =>
    have hs := mem_of_splitModule ht hSplit
    refine answer_declared hs fun f hf => ?_
    split at hFunctions
    · have hScope : (head, numbers) ∈ s.declared.scope none := Assoc.mem_of_lookup hFunctions
      exact mem_visible_of_pick (hRead s hs) hScope hf
    · cases hFunctions
  | case4 _ _ s head rest hSplit _ c hTop =>
    have hKnown := known_topClass (mem_of_splitModule ht hSplit) hTop
    exact answer_memberOf ht hRead hKnown rest argCount
  | case5 _ _ _ _ _ _ _ _ _ _ ih => exact ih
  | case6 => exact answer_none

/-- A target inside the modules is a declared function or a constructor that a class has without
declaring it. -/
theorem Caller.answer_resolve {c : Caller} (hc : c.source ∈ sources) (call : Call) :
    Answer sources (c.resolve t call) := by
  have hName : ∀ qualified, Answer sources (resolveName t qualified call.argCount) :=
    answer_resolveNameWithin ht hRead call.argCount maxHops
  have hClass : ∀ k, c.cls? = some k → k.Known sources := by
    intro k hk
    obtain ⟨cls, hCls, rfl⟩ := Option.map_eq_some_iff.mp hk
    obtain ⟨n, -, hn⟩ := Option.bind_eq_some_iff.mp hCls
    exact ⟨hc, n, hn⟩
  rw [Caller.resolve]
  split
  · split
    · exact hName _
    · exact answer_none
  · split
    · split
      · exact answer_inheritedMethod ht hRead _ _
      · exact answer_none
    · split
      · split
        · rename_i k hk
          exact answer_methodOf ht hRead (hClass k hk) _ _
        · exact answer_none
      · split
        · exact hName _
        · rw [Caller.dottedTarget]
          split
          · exact answer_none
          · split
            · exact hName _
            · exact answer_none
  · exact answer_none

end Answers

end CodeAtlas.Module
