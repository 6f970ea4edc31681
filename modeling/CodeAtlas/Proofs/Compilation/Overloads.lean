import CodeAtlas.Proofs.Compilation.Hierarchy

/-!
# Overloads

A name leads to the methods of the nearest type in a hierarchy that has some of that name. Among these
the number of arguments chooses, but those of all further types are not considered.

* `overloads`: which method a name leads to, and when the number of arguments has chosen it.
* `not_chosenByCount_overloaded`: an overload in a superclass is missed.
-/

namespace CodeAtlas.Compilation

variable {table : Table} {sources : List Source} {t u : TypeRef} {name : String} {n : Nat}
  {cs : List Callable} {c : Callable}

/-! ## Methods of one type -/

/-- The first of some methods that takes a number of arguments, or the first of all if none does. -/
inductive Chosen (n : Nat) : List Callable → Callable → Prop
  | taking {before after : List Callable} {c : Callable} : (∀ b ∈ before, b.accepts n = false) →
      c.accepts n = true → Chosen n (before ++ c :: after) c
  | first {c : Callable} {after : List Callable} : (∀ b ∈ c :: after, b.accepts n = false) →
      Chosen n (c :: after) c

theorem chosen_of_pick (h : pick n cs = some c) : Chosen n cs c := by
  rcases Option.or_eq_some_iff.mp h with h | ⟨hNone, h⟩
  · obtain ⟨hTakes, before, after, rfl, hBefore⟩ := List.find?_eq_some_iff_append.mp h
    exact .taking (fun b hb => by simpa using hBefore b hb) hTakes
  · obtain ⟨after, rfl⟩ := List.head?_eq_some_iff.mp h
    exact .first fun b hb => by simpa using List.find?_eq_none.mp hNone b hb

theorem exists_pick (n : Nat) (h : cs ≠ []) : ∃ c, pick n cs = some c := by
  obtain ⟨c, rest, rfl⟩ := List.exists_cons_of_ne_nil h
  exact Option.isSome_iff_exists.mp (by simp [pick])

/-- A method that takes the number of arguments is chosen if there is one. -/
theorem Chosen.accepts_iff (h : Chosen n cs c) :
    c.accepts n = true ↔ ∃ b ∈ cs, b.accepts n = true := by
  cases h with
  | taking _ hTakes => exact iff_of_true hTakes ⟨c, by simp, hTakes⟩
  | first hNone =>
    refine iff_of_false (by simp [hNone c List.mem_cons_self]) ?_
    rintro ⟨b, hb, hTakes⟩
    rw [hNone b hb] at hTakes
    cases hTakes

/-! ## Methods of a hierarchy -/

/-- The nearest type of a hierarchy that has methods of a name. -/
structure Nearest (table : Table) (t : TypeRef) (name : String) (u : TypeRef) : Prop where
  some : u.methods name ≠ []
  first : ∃ before after, hierarchy table t = before ++ u :: after ∧ ∀ v ∈ before, v.methods name = []

/-- A type has a method of a name that takes a number of arguments. -/
def Takes (u : TypeRef) (name : String) (n : Nat) : Prop := ∃ c ∈ u.methods name, c.accepts n = true

/-- If any method of a name in a type and all that it extends takes a number of arguments, then so does
the method that the name leads to. -/
def ChosenByCount (table : Table) (t : TypeRef) (name : String) (n : Nat) : Prop :=
  (∃ u, Inherits table t u ∧ Takes u name n) →
    ∃ s c, findMethod table t name n = some (s, c) ∧ c.accepts n = true

theorem nearest_iff : Nearest table t name u ↔
    (hierarchy table t).find? (fun u => !(u.methods name).isEmpty) = some u := by
  simp only [List.find?_eq_some_iff_append, Bool.not_not, List.isEmpty_iff, Bool.not_eq_true',
    List.isEmpty_eq_false_iff]
  exact ⟨fun h => ⟨h.some, h.first⟩, fun h => ⟨h.1, h.2⟩⟩

theorem Nearest.unique {v : TypeRef} (h : Nearest table t name u) (h' : Nearest table t name v) :
    u = v :=
  Option.some.inj ((nearest_iff.mp h).symm.trans (nearest_iff.mp h'))

theorem Nearest.mem (h : Nearest table t name u) : u ∈ hierarchy table t := by
  obtain ⟨before, after, hAll, -⟩ := h.first
  rw [hAll]
  exact List.mem_append_right _ List.mem_cons_self

theorem exists_nearest (hu : u ∈ hierarchy table t) (hSome : u.methods name ≠ []) :
    ∃ v, Nearest table t name v := by
  have hFound : ((hierarchy table t).find? fun u => !(u.methods name).isEmpty).isSome = true :=
    List.find?_isSome.mpr ⟨u, hu, by simpa using hSome⟩
  obtain ⟨v, hv⟩ := Option.isSome_iff_exists.mp hFound
  exact ⟨v, nearest_iff.mpr hv⟩

theorem Takes.ne_nil (h : Takes u name n) : u.methods name ≠ [] := by
  obtain ⟨c, hc, -⟩ := h
  exact List.ne_nil_of_mem hc

theorem findMethod_of_nearest (h : Nearest table t name u) :
    findMethod table t name n = (pick n (u.methods name)).map fun c => (u.source, c) := by
  rw [findMethod, nearest_iff.mp h, Option.bind_some]

/-- The method that a name leads to is chosen among those of the nearest type. -/
theorem nearest_of_findMethod {s : Source} (h : findMethod table t name n = some (s, c)) :
    ∃ u, Nearest table t name u ∧ s = u.source ∧ Chosen n (u.methods name) c := by
  obtain ⟨u, hNearest, hPick⟩ := Option.bind_eq_some_iff.mp h
  obtain ⟨c', hc', hEq⟩ := Option.map_eq_some_iff.mp hPick
  obtain ⟨rfl, rfl⟩ := Prod.mk.inj hEq
  exact ⟨u, nearest_iff.mpr hNearest, rfl, chosen_of_pick hc'⟩

/-- Which method a name leads to in a type and all that it extends. -/
structure OverloadChoice (table : Table) (t : TypeRef) (name : String) (n : Nat) : Prop where
  /-- The methods of a type are those that its unit declares in it. -/
  methods : ∀ u, Inherits table t u → ∀ c, c ∈ u.methods name ↔ c ∈ u.source.declarations ∧
    c.owner = u.decl.number ∧ c.name = name ∧ c.isConstructor = false
  /-- A name leads to a method unless nothing of that name is there. -/
  none_iff : findMethod table t name n = none ↔ ∀ u, Inherits table t u → u.methods name = []
  /-- The method is one of the nearest type that has some of the name, where the number of arguments
  chooses. -/
  nearest : ∀ s c, findMethod table t name n = some (s, c) →
    ∃ u, Inherits table t u ∧ Nearest table t name u ∧ s = u.source ∧ Chosen n (u.methods name) c
  /-- It takes the number of arguments just if any method of that type does. -/
  accepts_iff : ∀ s c, findMethod table t name n = some (s, c) →
    (c.accepts n = true ↔ ∃ u, Nearest table t name u ∧ Takes u name n)
  /-- Hence the number of arguments chooses among all overloads just if that type has one that takes
  it, or no type has. -/
  byCount_iff : ChosenByCount table t name n ↔ ∀ u, Nearest table t name u →
    Takes u name n ∨ ∀ v, Inherits table t v → ¬ Takes v name n
  /-- It does if all overloads stand in one type. -/
  byCount_of_one : (∀ u v, Inherits table t u → Inherits table t v → u.methods name ≠ [] →
    v.methods name ≠ [] → u = v) → ChosenByCount table t name n

theorem byCount_iff (hMem : ∀ u, u ∈ hierarchy table t ↔ Inherits table t u) :
    ChosenByCount table t name n ↔ ∀ u, Nearest table t name u →
      Takes u name n ∨ ∀ v, Inherits table t v → ¬ Takes v name n := by
  constructor
  · intro h u hNearest
    rw [or_iff_not_imp_right]
    intro hSome
    push Not at hSome
    obtain ⟨s, c, hFound, hTakes⟩ := h hSome
    obtain ⟨u', hNearest', -, hChosen⟩ := nearest_of_findMethod hFound
    rw [hNearest.unique hNearest']
    exact hChosen.accepts_iff.mp hTakes
  · rintro h ⟨v, hv, hTakes⟩
    obtain ⟨u, hNearest⟩ := exists_nearest ((hMem v).mpr hv) hTakes.ne_nil
    obtain ⟨c, hc⟩ := exists_pick n hNearest.some
    have hHere : Takes u name n := (h u hNearest).resolve_right fun hNone => hNone v hv hTakes
    refine ⟨u.source, c, ?_, (chosen_of_pick hc).accepts_iff.mpr hHere⟩
    rw [findMethod_of_nearest hNearest, hc, Option.map_some]

/-- **Overloads.** A name leads to the methods of the nearest type that has some, and the number of
arguments chooses among these. -/
theorem overloads (hOrder : InOrder sources) (ht : t.Known sources) (name : String) (n : Nat) :
    OverloadChoice (Table.ofSources sources) t name n := by
  have hMem : ∀ u, u ∈ hierarchy (Table.ofSources sources) t ↔
      Inherits (Table.ofSources sources) t u := fun u => mem_hierarchy hOrder ht
  refine ⟨fun u hu c => mem_methods hOrder (hu.known ht), ?_, ?_, ?_, byCount_iff hMem, ?_⟩
  · constructor
    · intro hNone u hu
      by_contra hSome
      obtain ⟨v, hNearest⟩ := exists_nearest ((hMem u).mpr hu) hSome
      obtain ⟨c, hc⟩ := exists_pick n hNearest.some
      rw [findMethod_of_nearest hNearest, hc] at hNone
      cases hNone
    · intro hNone
      rw [Option.eq_none_iff_forall_ne_some]
      rintro ⟨s, c⟩ hFound
      obtain ⟨u, hNearest, -⟩ := nearest_of_findMethod hFound
      exact hNearest.some (hNone u ((hMem u).mp hNearest.mem))
  · intro s c hFound
    obtain ⟨u, hNearest, hSource, hChosen⟩ := nearest_of_findMethod hFound
    exact ⟨u, (hMem u).mp hNearest.mem, hNearest, hSource, hChosen⟩
  · intro s c hFound
    obtain ⟨u, hNearest, -, hChosen⟩ := nearest_of_findMethod hFound
    rw [hChosen.accepts_iff]
    exact ⟨fun hTakes => ⟨u, hNearest, hTakes⟩,
      fun ⟨v, hNearest', hTakes⟩ => hNearest.unique hNearest' ▸ hTakes⟩
  · intro hOne
    refine (byCount_iff hMem).mpr fun u hNearest => ?_
    rw [or_iff_not_imp_right]
    intro hSome
    push Not at hSome
    obtain ⟨v, hv, hTakes⟩ := hSome
    rwa [hOne u v ((hMem u).mp hNearest.mem) hv hNearest.some hTakes.ne_nil]

/-! ### An overload in a superclass -/

def overloadedUnits : List Source := readUnits [("A.java",
  "class B { void m(int x) {} } class A extends B { void m() {} void f() { m(1); } }")]

/-- The class that extends the other one. -/
theorem exists_overloaded : ∃ t, t.Known overloadedUnits ∧ t.fullName = "A" ∧
    (superTypes (Table.ofSources overloadedUnits) t).map (fun u => (u.methods "m").map
      (·.accepts 1)) = [[true]] ∧
    (findMethod (Table.ofSources overloadedUnits) t "m" 1).map (·.2.accepts 1) = some false := by
  have hFound : ∃ t ∈ TypeRef.allKnown overloadedUnits, t.fullName = "A" ∧
      (superTypes (Table.ofSources overloadedUnits) t).map (fun u => (u.methods "m").map
        (·.accepts 1)) = [[true]] ∧
      (findMethod (Table.ofSources overloadedUnits) t "m" 1).map (·.2.accepts 1) = some false := by
    decide +kernel
  obtain ⟨t, ht, hRest⟩ := hFound
  exact ⟨t, TypeRef.mem_allKnown.mp ht, hRest⟩

theorem overloads_overloadedUnits : InOrder overloadedUnits ∧ ∃ t, t.Known overloadedUnits ∧
    OverloadChoice (Table.ofSources overloadedUnits) t "m" 1 := by
  obtain ⟨t, ht, -⟩ := exists_overloaded
  exact ⟨inOrder_readUnits _, t, ht, overloads (inOrder_readUnits _) ht "m" 1⟩

/-- The class has a method of the name without parameters. The one with a parameter, which it inherits,
is not chosen for one argument. -/
theorem not_chosenByCount_overloaded : ∃ t, t.Known overloadedUnits ∧ t.fullName = "A" ∧
    ¬ ChosenByCount (Table.ofSources overloadedUnits) t "m" 1 := by
  obtain ⟨t, ht, hName, hSupers, hFound⟩ := exists_overloaded
  refine ⟨t, ht, hName, fun hChosen => ?_⟩
  obtain ⟨u, hu, hMethods⟩ : ∃ u ∈ superTypes (Table.ofSources overloadedUnits) t,
      (u.methods "m").map (·.accepts 1) = [true] :=
    List.mem_map.mp (hSupers ▸ List.mem_singleton_self _)
  obtain ⟨c, hc, hTakes⟩ : ∃ c ∈ u.methods "m", c.accepts 1 = true :=
    List.mem_map.mp (hMethods ▸ List.mem_singleton_self _)
  obtain ⟨s, c', hEq, hAccepts⟩ := hChosen ⟨u, .single hu, c, hc, hTakes⟩
  rw [hEq, Option.map_some, hAccepts] at hFound
  cases hFound

end CodeAtlas.Compilation
