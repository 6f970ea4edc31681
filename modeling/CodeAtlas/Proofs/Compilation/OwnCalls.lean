import CodeAtlas.Proofs.Compilation.Overloads

/-!
# Calls on the object itself

A method that is called on the object itself is looked up as if it were called by its name alone: in the
type around the call and all that this extends, and then outwards from type to type, although the object
does not have the methods of the types around its own.

* `ownCall`: which method such a call refers to, and when the type of the object has or inherits it.
* `not_atHome_enclosed`: a method of an enclosing type comes before what a type inherits from outside.
-/

namespace CodeAtlas.Compilation

variable {table : Table} {sources : List Source} {t u d : TypeRef} {name : String} {k : Nat}

/-! ## Methods of the types around a type -/

/-- Neither the type nor any that it extends has methods of a name. -/
def Lacks (table : Table) (t : TypeRef) (name : String) : Prop :=
  ∀ d, Inherits table t d → d.methods name = []

theorem findMethod_eq_none_iff (hOrder : InOrder sources) (ht : t.Known sources) :
    findMethod (Table.ofSources sources) t name k = none ↔ Lacks (Table.ofSources sources) t name := by
  constructor
  · intro hNone d hd
    by_contra hSome
    obtain ⟨v, hNearest⟩ := exists_nearest ((mem_hierarchy hOrder ht).mpr hd) hSome
    obtain ⟨m, hm⟩ := exists_pick k hNearest.some
    rw [findMethod_of_nearest hNearest, hm] at hNone
    cases hNone
  · intro hLacks
    rw [Option.eq_none_iff_forall_ne_some]
    rintro ⟨s, m⟩ hFound
    obtain ⟨v, hNearest, -⟩ := nearest_of_findMethod hFound
    exact hNearest.some (hLacks v ((mem_hierarchy hOrder ht).mp hNearest.mem))

/-- The innermost of the types around a type that has or inherits methods of a name. -/
structure Innermost (table : Table) (t : TypeRef) (name : String) (u : TypeRef) : Prop where
  around : Encloses t u
  some : ¬ Lacks table u name
  first : ∀ v, Encloses t v → ¬ Encloses u v → Lacks table v name

/-- A type does not stand around one that it stands in. -/
theorem not_encloses_of_outer (hOrder : InOrder sources) (ht : t.Known sources)
    (hOuter : t.decl.outer.bind t.sibling? = some u) (hBack : Encloses u d) : d ≠ t := by
  rintro rfl
  obtain ⟨hKnown, hLess⟩ := number_lt_of_outer hOrder ht hOuter
  have hAbove := (Encloses.known hOrder hBack hKnown).2
  omega

/-- The types around a type are searched from the inside for the first that has or inherits the name. -/
theorem findSome?_around (hOrder : InOrder sources) (ht : t.Known sources)
    (h : Innermost (Table.ofSources sources) t name u) :
    t.around.findSome? (fun v => findMethod (Table.ofSources sources) v name k) =
      findMethod (Table.ofSources sources) u name k := by
  obtain ⟨hAround, hSome, hFirst⟩ := h
  have hFound (v : TypeRef) (hv : v.Known sources) (hHas : ¬ Lacks (Table.ofSources sources) v name) :
      ∃ x, findMethod (Table.ofSources sources) v name k = Option.some x :=
    Option.ne_none_iff_exists'.mp fun hNone => hHas ((findMethod_eq_none_iff hOrder hv).mp hNone)
  induction hAround using Relation.ReflTransGen.head_induction_on with
  | refl =>
    obtain ⟨rest, hRest⟩ := exists_around u
    obtain ⟨x, hx⟩ := hFound u ht hSome
    rw [hRest, List.findSome?_cons, hx]
  | @head t v hOuter hAround ih =>
    have hKnown := (number_lt_of_outer hOrder ht hOuter).1
    have hLacks : Lacks (Table.ofSources sources) t name :=
      hFirst t .refl fun hBack => not_encloses_of_outer hOrder ht hOuter (hAround.trans hBack) rfl
    rw [around_of_outer hOrder ht hOuter, List.findSome?_cons,
      (findMethod_eq_none_iff hOrder ht).mpr hLacks]
    exact ih hKnown fun w hw => hFirst w (.head hOuter hw)

/-- Some type around has or inherits the name, or none does. -/
theorem exists_innermost (hOrder : InOrder sources) (ht : t.Known sources) :
    (∃ u, Innermost (Table.ofSources sources) t name u) ∨
      ∀ u, Encloses t u → Lacks (Table.ofSources sources) u name := by
  by_cases hHas : Lacks (Table.ofSources sources) t name
  swap
  · exact .inl ⟨t, .refl, hHas, fun v hv hNot => absurd hv hNot⟩
  -- the type itself lacks the name, so it is up to the one around it
  induction hNumber : t.decl.number using Nat.strong_induction_on generalizing t with
  | _ number ih =>
    cases hOuter : t.decl.outer.bind t.sibling? with
    | none =>
      refine .inr fun u hu => ?_
      rcases Relation.ReflTransGen.cases_head hu with rfl | ⟨v, hv, -⟩
      · exact hHas
      · rw [hOuter] at hv
        cases hv
    | some v =>
      obtain ⟨hKnown, hLess⟩ := number_lt_of_outer hOrder ht hOuter
      have hStep : ∀ w, Encloses t w → w = t ∨ Encloses v w := by
        intro w hw
        rcases Relation.ReflTransGen.cases_head hw with rfl | ⟨v', hv', hRest⟩
        · exact .inl rfl
        · rw [hOuter] at hv'
          obtain rfl := Option.some.inj hv'
          exact .inr hRest
      have hLift (u : TypeRef) (h : Innermost (Table.ofSources sources) v name u) :
          Innermost (Table.ofSources sources) t name u := by
        refine ⟨.head hOuter h.around, h.some, fun w hw hNot => ?_⟩
        rcases hStep w hw with rfl | hw
        · exact hHas
        · exact h.first w hw hNot
      by_cases hNext : Lacks (Table.ofSources sources) v name
      · rcases ih _ (hNumber ▸ hLess) hKnown hNext rfl with ⟨u, hu⟩ | hAll
        · exact .inl ⟨u, hLift u hu⟩
        · refine .inr fun w hw => ?_
          rcases hStep w hw with rfl | hw
          · exact hHas
          · exact hAll w hw
      · exact .inl ⟨v, hLift v ⟨.refl, hNext, fun w hw hNot => absurd hw hNot⟩⟩

/-! ## Calls -/

/-- Inside the units a target is a method of a name that a type has or inherits. -/
def AtHome (table : Table) (t : TypeRef) (name : String) (found : Option Target) : Prop :=
  ∀ target, found = some target → target.inSource = true →
    ∃ d m, Inherits table t d ∧ m ∈ d.methods name ∧ target = targetOf d.source m

/-- Which method a call of a name on the object itself refers to. -/
structure OwnCall (table : Table) (t : TypeRef) (name : String) (k : Nat) (found : Option Target) :
    Prop where
  /-- It is one of the innermost type around the call that has or inherits some of the name, where the
  number of arguments chooses. -/
  around : ∀ u, Innermost table t name u → ∃ d m, Nearest table u name d ∧ Inherits table u d ∧
    Chosen k (d.methods name) m ∧ found = some (targetOf d.source m)
  /-- If there is none, it is one of the first type outside the units that the object's type extends. -/
  outside : (∀ u, Encloses t u → Lacks table u name) →
    found = (outsideSuper table t).map fun super => outsideMethod super name k
  /-- A method that the object's type has or inherits comes before all others. -/
  own : ¬ Lacks table t name → Innermost table t name t
  /-- Just if there is one, or no type around has any, the object's type has or inherits the method. -/
  home_iff : AtHome table t name found ↔
    ¬ Lacks table t name ∨ ∀ u, Encloses t u → Lacks table u name
  /-- Otherwise the method is of a type that the object's type does not extend. -/
  stray : Lacks table t name → ∀ u, Innermost table t name u →
    u ≠ t ∧ ∃ d m, ¬ Inherits table t d ∧ m ∈ d.methods name ∧ found = some (targetOf d.source m)

theorem Chosen.mem {cs : List Callable} {c : Callable} (h : Chosen k cs c) : c ∈ cs := by
  cases h with
  | taking => simp
  | first => exact List.mem_cons_self

theorem enclosingMethod_of_innermost (hOrder : InOrder sources) (ht : t.Known sources)
    (h : Innermost (Table.ofSources sources) t name u) :
    ∃ d m, Nearest (Table.ofSources sources) u name d ∧ Inherits (Table.ofSources sources) u d ∧
      Chosen k (d.methods name) m ∧
      enclosingMethod (Table.ofSources sources) t name k = some (targetOf d.source m) := by
  have hKnown := (h.around.known hOrder ht).1
  obtain ⟨⟨s, m⟩, hFound⟩ := Option.ne_none_iff_exists'.mp fun hNone =>
    h.some ((findMethod_eq_none_iff (k := k) hOrder hKnown).mp hNone)
  obtain ⟨d, hNearest, rfl, hChosen⟩ := nearest_of_findMethod hFound
  refine ⟨d, m, hNearest, (mem_hierarchy hOrder hKnown).mp hNearest.mem, hChosen, ?_⟩
  rw [enclosingMethod, findSome?_around hOrder ht h, hFound]

theorem enclosingMethod_of_lacks (hOrder : InOrder sources) (ht : t.Known sources)
    (h : ∀ u, Encloses t u → Lacks (Table.ofSources sources) u name) :
    enclosingMethod (Table.ofSources sources) t name k =
      (outsideSuper (Table.ofSources sources) t).map fun super => outsideMethod super name k := by
  have hNone : t.around.findSome? (fun u => findMethod (Table.ofSources sources) u name k) = none := by
    rw [List.findSome?_eq_none_iff]
    intro u hu
    have hAround := (mem_around hOrder ht).mp hu
    exact (findMethod_eq_none_iff hOrder (hAround.known hOrder ht).1).mpr (h u hAround)
  rw [enclosingMethod, hNone]

theorem atHome_outside (f : Option String) :
    AtHome table t name (f.map fun super => outsideMethod super name k) := by
  intro target hTarget hIn
  obtain ⟨super, -, rfl⟩ := Option.map_eq_some_iff.mp hTarget
  cases hIn

theorem ownCall_enclosingMethod (hOrder : InOrder sources) (ht : t.Known sources) (name : String)
    (k : Nat) : OwnCall (Table.ofSources sources) t name k
      (enclosingMethod (Table.ofSources sources) t name k) := by
  have hOwn : ¬ Lacks (Table.ofSources sources) t name →
      Innermost (Table.ofSources sources) t name t := fun hHas =>
    ⟨.refl, hHas, fun v hv hNot => absurd hv hNot⟩
  have hStray : Lacks (Table.ofSources sources) t name →
      ∀ u, Innermost (Table.ofSources sources) t name u → u ≠ t ∧
        ∃ d m, ¬ Inherits (Table.ofSources sources) t d ∧ m ∈ d.methods name ∧
          enclosingMethod (Table.ofSources sources) t name k = some (targetOf d.source m) := by
    intro hLacks u hu
    obtain ⟨d, m, hNearest, -, hChosen, hFound⟩ := enclosingMethod_of_innermost hOrder ht hu
    exact ⟨fun hEq => hu.some (hEq ▸ hLacks), d, m, fun hInherits => hNearest.some (hLacks d hInherits),
      hChosen.mem, hFound⟩
  refine ⟨fun u => enclosingMethod_of_innermost hOrder ht, enclosingMethod_of_lacks hOrder ht, hOwn,
    ⟨fun hHome => ?_, ?_⟩, hStray⟩
  · rw [or_iff_not_imp_left, not_not]
    intro hLacks
    rcases exists_innermost hOrder ht with ⟨u, hu⟩ | hAll
    · obtain ⟨-, d, m, -, -, hFound⟩ := hStray hLacks u hu
      obtain ⟨d', m', hInherits, hm', -⟩ := hHome _ hFound rfl
      rw [hLacks d' hInherits] at hm'
      cases hm'
    · exact hAll
  · rintro (hHas | hAll)
    · obtain ⟨d, m, -, hInherits, hChosen, hFound⟩ := enclosingMethod_of_innermost hOrder ht (hOwn hHas)
      intro target hTarget _
      rw [hFound] at hTarget
      exact ⟨d, m, hInherits, hChosen.mem, (Option.some.inj hTarget).symm⟩
    · rw [enclosingMethod_of_lacks hOrder ht hAll]
      exact atHome_outside _

/-- **Calls on the object itself.** They are looked up from the type around the call outwards, although
only what this type has or inherits is a method of the object. -/
theorem ownCall (hOrder : InOrder sources) {c : Caller} (ht : t.Known sources) (hType : c.type? = some t)
    {n receiver : Node} (hCall : n.kind = .call) (hReceiver : n.child? .receiver = some receiver)
    (hThis : receiver.kind = .thisWord) :
    OwnCall (Table.ofSources sources) t (n.partText .name) n.argCount
      (c.resolve (Table.ofSources sources) n) := by
  have hResolve : c.resolve (Table.ofSources sources) n =
      enclosingMethod (Table.ofSources sources) t (n.partText .name) n.argCount := by
    rw [Caller.resolve, hType, Option.bind_some, hCall]
    dsimp only
    rw [Caller.resolveCall, hReceiver]
    dsimp only
    rw [hThis]
  rw [hResolve]
  exact ownCall_enclosingMethod hOrder ht _ _

/-! ### A type inside another one -/

/-- A type that extends one outside the units, in a type with a method of the name. -/
def enclosedUnits : List Source := readUnits [("A.java",
  "class A { void m() {} class B extends Lib { void f() { this.m(); } } }")]

theorem exists_enclosed : ∃ (c : Caller) (t : TypeRef) (n receiver : Node),
    t.Known enclosedUnits ∧ c.type? = some t ∧ n ∈ c.callable.calls ∧
    n.kind = .call ∧ n.child? .receiver = some receiver ∧ receiver.kind = .thisWord ∧
    n.partText .name = "m" ∧ t.fullName = "A.B" ∧
    (hierarchy (Table.ofSources enclosedUnits) t).all (fun d => (d.methods "m").isEmpty) = true ∧
    (c.resolve (Table.ofSources enclosedUnits) n).map (fun m => (m.typeName, m.inSource)) =
      some ("A", true) := by
  have hFound : ∃ s ∈ enclosedUnits, ∃ m ∈ s.declarations, ∃ t ∈ (Caller.mk s m).type?,
      ∃ n ∈ m.calls, ∃ receiver ∈ n.child? .receiver,
      (n.kind = .call ∧ receiver.kind = .thisWord ∧ n.partText .name = "m" ∧ t.fullName = "A.B") ∧
      (hierarchy (Table.ofSources enclosedUnits) t).all (fun d => (d.methods "m").isEmpty) = true ∧
      ((Caller.mk s m).resolve (Table.ofSources enclosedUnits) n).map
        (fun m => (m.typeName, m.inSource)) = some ("A", true) := by
    decide +kernel
  obtain ⟨s, hs, m, -, t, ht, n, hn, receiver, hReceiver, ⟨hCall, hThis, hName, hFull⟩, hNone,
    hTarget⟩ := hFound
  exact ⟨⟨s, m⟩, t, n, receiver, known_type? hs ht, ht, hn, hCall, hReceiver, hThis, hName, hFull, hNone,
    hTarget⟩

theorem ownCall_enclosedUnits : InOrder enclosedUnits ∧ ∃ (c : Caller) (t : TypeRef)
    (n receiver : Node), t.Known enclosedUnits ∧ c.type? = some t ∧ n.kind = .call ∧
    n.child? .receiver = some receiver ∧ receiver.kind = .thisWord ∧
    OwnCall (Table.ofSources enclosedUnits) t (n.partText .name) n.argCount
      (c.resolve (Table.ofSources enclosedUnits) n) := by
  obtain ⟨c, t, n, receiver, hKnown, hType, -, hCall, hReceiver, hThis, -⟩ := exists_enclosed
  exact ⟨inOrder_readUnits _, c, t, n, receiver, hKnown, hType, hCall, hReceiver, hThis,
    ownCall (inOrder_readUnits _) hKnown hType hCall hReceiver hThis⟩

/-- The method of the type around is taken, which the object does not have, and not the one that it
inherits from outside the units. -/
theorem not_atHome_enclosed : ∃ (c : Caller) (t : TypeRef) (n receiver : Node),
    t.Known enclosedUnits ∧ c.type? = some t ∧ n ∈ c.callable.calls ∧ n.kind = .call ∧
    n.child? .receiver = some receiver ∧ receiver.kind = .thisWord ∧ t.fullName = "A.B" ∧
    ¬ AtHome (Table.ofSources enclosedUnits) t (n.partText .name)
      (c.resolve (Table.ofSources enclosedUnits) n) := by
  obtain ⟨c, t, n, receiver, hKnown, hType, hn, hCall, hReceiver, hThis, hName, hFull, hNone,
    hTarget⟩ := exists_enclosed
  refine ⟨c, t, n, receiver, hKnown, hType, hn, hCall, hReceiver, hThis, hFull, fun hHome => ?_⟩
  obtain ⟨target, hFound, hIn⟩ := Option.map_eq_some_iff.mp hTarget
  obtain ⟨d, m, hInherits, hm, -⟩ := hHome target hFound (Prod.mk.inj hIn).2
  have hMem := (mem_hierarchy (inOrder_readUnits _) hKnown).mpr hInherits
  rw [hName, List.isEmpty_iff.mp (List.all_eq_true.mp hNone d hMem)] at hm
  cases hm

end CodeAtlas.Compilation
