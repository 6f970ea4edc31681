import CodeAtlas.Proofs.Compilation.Overloads

/-!
# Overloads with further arguments

Overloads are tried in the order in which a type declares them. One that takes further arguments is no
different from the others there, so it comes before those with just as many parameters as there are
arguments if it is declared before them.

* `overloadsTried`: which of some overloads a number of arguments chooses.
* `not_fixedFirst_loose`: an overload for further arguments comes before one with the right number.
-/

namespace CodeAtlas.Compilation

/-! ## The order of overloads -/

namespace Callable

/-- A method of a type with a name. -/
def isMethodOf (owner : Nat) (name : String) (c : Callable) : Bool :=
  c.owner = owner && c.name = name && !c.isConstructor

/-- A constructor of a type. -/
def isConstructorOf (owner : Nat) (c : Callable) : Bool := c.owner = owner && c.isConstructor

end Callable

namespace Declared

variable {d d' : Declared} {i : Nat} {t t' : TypeDecl}

/-- The type at a place knows its methods and constructors in the order of their declarations. -/
structure Lists (d : Declared) (i : Nat) (t : TypeDecl) : Prop where
  methods : ∀ name, (t.methods.lookup name).getD [] =
    (d.declarations.filter (·.isMethodOf i name)).map (·.number)
  constructors : t.constructors = (d.declarations.filter (·.isConstructorOf i)).map (·.number)

/-- So do all types. -/
def Listed (d : Declared) : Prop := ∀ i t, d.allTypes[i]? = some t → d.Lists i t

theorem Lists.congr (h : d.Lists i t) (hDeclarations : d'.declarations = d.declarations)
    (hMethods : t'.methods = t.methods) (hConstructors : t'.constructors = t.constructors) :
    d'.Lists i t' :=
  ⟨fun name => by rw [hMethods, hDeclarations, h.methods],
    by rw [hConstructors, hDeclarations, h.constructors]⟩

theorem listed_empty : empty.Listed := by
  intro i t ht
  cases ht

theorem Listed.modifyType (h : d.Listed) (owner : Nat) {f : TypeDecl → TypeDecl}
    (hMethods : ∀ t, (f t).methods = t.methods)
    (hConstructors : ∀ t, (f t).constructors = t.constructors) : (d.modifyType owner f).Listed := by
  intro i t ht
  rw [Declared.modifyType, List.getElem?_modify] at ht
  obtain ⟨u, hu, rfl⟩ := Option.map_eq_some_iff.mp ht
  split
  · exact (h i u hu).congr rfl (hMethods u) (hConstructors u)
  · exact (h i u hu).congr rfl rfl rfl

/-- A new type has no methods and no constructors yet. -/
theorem Listed.concat (h : d.Listed) (hSound : d.Sound) (hMethods : t.methods = [])
    (hConstructors : t.constructors = []) (types : List (String × Nat)) :
    Listed { d with allTypes := d.allTypes ++ [t], types := types } := by
  intro i u hu
  rcases getElem?_concat hu with hOld | ⟨rfl, rfl⟩
  · exact (h i u hOld).congr rfl rfl rfl
  · have hNone : ∀ c ∈ d.declarations, c.owner ≠ d.allTypes.length := fun c hc =>
      Nat.ne_of_lt (hSound.owners c hc)
    refine ⟨fun name => ?_, ?_⟩
    · rw [hMethods, List.filter_eq_nil_iff.mpr fun c hc => by simp [Callable.isMethodOf, hNone c hc]]
      rfl
    · rw [hConstructors,
        List.filter_eq_nil_iff.mpr fun c hc => by simp [Callable.isConstructorOf, hNone c hc]]
      rfl

theorem Listed.addType (h : d.Listed) (hSound : d.Sound) (owner : Option Nat) (n : Node) :
    (d.addType owner n).Listed := by
  dsimp only [Declared.addType]
  cases owner with
  | none => exact h.concat hSound rfl rfl _
  | some o => exact (h.concat hSound rfl rfl d.types).modifyType o (fun _ => rfl) fun _ => rfl

/-- A new method or constructor is the last that its type knows. -/
theorem Lists.concat (h : d.Lists i t) (c : Callable)
    (hDeclarations : d'.declarations = d.declarations ++ [c]) :
    d'.Lists i (if c.owner = i then
      if c.isConstructor then { t with constructors := t.constructors ++ [c.number] }
      else { t with methods := Assoc.push c.name c.number t.methods } else t) := by
  have hConcat (p : Callable → Bool) : (d'.declarations.filter p).map (·.number) =
      (d.declarations.filter p).map (·.number) ++ if p c then [c.number] else [] := by
    rw [hDeclarations, List.filter_append, List.map_append]
    cases hIs : p c <;> simp [hIs]
  refine ⟨fun name => ?_, ?_⟩
  · rw [hConcat, ← h.methods]
    by_cases hOwner : c.owner = i
    · cases hKind : c.isConstructor with
      | true => simp [Callable.isMethodOf, hOwner, hKind]
      | false =>
        rcases eq_or_ne c.name name with hName | hName
        · simp [Callable.isMethodOf, Assoc.getD_lookup_push, hOwner, hKind, hName]
        · simp [Callable.isMethodOf, Assoc.getD_lookup_push, hOwner, hKind, hName, hName.symm]
    · simp [Callable.isMethodOf, hOwner]
  · rw [hConcat, ← h.constructors]
    by_cases hOwner : c.owner = i
    · cases hKind : c.isConstructor <;> simp [Callable.isConstructorOf, hOwner, hKind]
    · simp [Callable.isConstructorOf, hOwner]

theorem Listed.addCallable (h : d.Listed) (owner : Nat) (n : Node) :
    (d.addCallable owner n).Listed := by
  intro i t ht
  rw [Declared.addCallable, Declared.modifyType, List.getElem?_modify] at ht
  obtain ⟨u, hu, rfl⟩ := Option.map_eq_some_iff.mp ht
  exact (h i u hu).concat (callableOf d.declarations.length owner n) rfl

theorem Listed.step (h : d.Listed) (hSound : d.Sound) (hStep : Step d d') : d'.Listed := by
  cases hStep with
  | type owner n => exact h.addType hSound owner n
  | callable owner n => exact h.addCallable owner n
  | fields owner n => exact h.modifyType owner (fun _ => rfl) fun _ => rfl

theorem Listed.steps (h : d.Listed) (hSound : d.Sound) (hSteps : Steps d d') : d'.Listed := by
  induction hSteps with
  | refl => exact h
  | tail hBefore hStep ih => exact ih.step (hSound.steps hBefore) hStep

end Declared

theorem listed_sourceOf (number : Nat) (path : String) (tree : Node) :
    (sourceOf number path tree).declared.Listed :=
  Declared.listed_empty.steps Declared.sound_empty (Declared.steps_foldl tree.children .empty)

variable {sources : List Source} {t u : TypeRef} {name : String} {n : Nat}
  {cs : List Callable} {c : Callable}

theorem InOrder.listed {s : Source} (h : InOrder sources) (hs : s ∈ sources) :
    s.declared.Listed := by
  obtain ⟨i, hi⟩ := List.mem_iff_getElem?.mp hs
  obtain ⟨path, tree, rfl⟩ := h i s hi
  exact listed_sourceOf i path tree

theorem TypeRef.Known.lists (h : t.Known sources) (hOrder : InOrder sources) :
    t.source.declared.Lists t.decl.number t.decl :=
  hOrder.listed h.source _ _ (h.placed hOrder).2

/-- Declarations of a unit are found by their numbers. -/
theorem filterMap_callable? {s : Source} (hOrder : InOrder sources) (hs : s ∈ sources)
    (h : ∀ c ∈ cs, c ∈ s.declarations) : (cs.map (·.number)).filterMap s.callable? = cs := by
  rw [List.filterMap_map]
  refine (List.filterMap_congr fun c hc => ?_).trans List.filterMap_some
  exact (callable?_eq_some hOrder hs).mpr ⟨h c hc, rfl⟩

theorem methods_eq (hOrder : InOrder sources) (ht : t.Known sources) (name : String) :
    t.methods name = t.source.declarations.filter (·.isMethodOf t.decl.number name) := by
  rw [TypeRef.methods, (ht.lists hOrder).methods]
  exact filterMap_callable? hOrder ht.source fun c hc => List.mem_of_mem_filter hc

theorem constructors_eq (hOrder : InOrder sources) (ht : t.Known sources) :
    t.constructors = t.source.declarations.filter (·.isConstructorOf t.decl.number) := by
  rw [TypeRef.constructors, (ht.lists hOrder).constructors]
  exact filterMap_callable? hOrder ht.source fun c hc => List.mem_of_mem_filter hc

/-! ## The choice -/

/-- The method has just as many parameters as there are arguments, and none for further ones. -/
def Callable.Fits (n : Nat) (c : Callable) : Prop := c.isVariadic = false ∧ c.paramCount = n

/-- As in the language, the first method with the right number of parameters is chosen if there is one,
and only then one for further arguments. -/
structure FixedFirst (n : Nat) (cs : List Callable) (c : Callable) : Prop where
  fits : ∀ before b after, cs = before ++ b :: after → b.Fits n → (∀ a ∈ before, ¬ a.Fits n) → c = b
  variadic : c.isVariadic = true → ∀ b ∈ cs, ¬ b.Fits n

/-- One of some overloads is chosen by trying them in their order. -/
structure FirstTaking (n : Nat) (cs : List Callable) (c : Callable) : Prop where
  /-- It is the first that takes the number of arguments, or the first of all if none does. -/
  chosen : Chosen n cs c
  /-- The first with the right number of parameters is chosen just if no overload before it takes as
  many by further arguments. -/
  fits_iff : ∀ before b after, cs = before ++ b :: after → b.Fits n → (∀ a ∈ before, ¬ a.Fits n) →
    (c = b ↔ ∀ a ∈ before, a.isVariadic = true → a.accepts n = false)
  /-- So one for further arguments is chosen although others have the right number of parameters, if it
  takes the number of arguments and stands before all of them. -/
  place : ∃ before after, cs = before ++ c :: after ∧ (∀ a ∈ before, ¬ a.Fits n) ∧
    ((∃ b ∈ cs, b.Fits n) → c.accepts n = true)
  /-- If those for further arguments stand behind all others, the choice is that of the language. -/
  sorted : cs.Pairwise (fun a b => a.isVariadic = true → b.isVariadic = true) → FixedFirst n cs c

theorem Callable.Fits.accepts (h : c.Fits n) : c.accepts n = true := by
  simp [Callable.accepts, h.1, h.2]

theorem Callable.fits_or_variadic (h : c.accepts n = true) : c.Fits n ∨ c.isVariadic = true := by
  cases hVariadic : c.isVariadic with
  | true => exact .inr rfl
  | false =>
    rw [Callable.accepts, hVariadic] at h
    exact .inl ⟨hVariadic, by simpa using (of_decide_eq_true h).symm⟩

/-- The first with the right number of parameters is chosen unless one for further arguments before it
takes as many. -/
theorem Chosen.eq_iff {before after : List Callable} {b : Callable}
    (h : Chosen n (before ++ b :: after) c) (hFits : b.Fits n) (hFirst : ∀ a ∈ before, ¬ a.Fits n) :
    c = b ↔ ∀ a ∈ before, a.isVariadic = true → a.accepts n = false := by
  generalize hcs : before ++ b :: after = cs at h
  cases h with
  | first hNone => exact absurd hFits.accepts (by simp [hNone b (hcs ▸ by simp)])
  | @taking tried rest _ hTried hTakes =>
    have hNot : b ∉ tried := fun hb => by simpa [hFits.accepts] using hTried b hb
    constructor
    · rintro rfl a ha -
      -- what is chosen fits, so just those before the first one that fits have been tried
      rcases append_cons_cases hcs with ⟨rfl, -⟩ | hc | hc
      · exact hTried a ha
      · exact absurd hc hNot
      · exact absurd hFits (hFirst c hc)
    · intro hNone
      rcases append_cons_cases hcs with ⟨-, hEq⟩ | hb | hc
      · exact hEq.symm
      · exact absurd hb hNot
      · rcases Callable.fits_or_variadic hTakes with hFit | hVariadic
        · exact absurd hFit (hFirst c hc)
        · simpa [hTakes] using hNone c hc hVariadic

theorem Chosen.place (h : Chosen n cs c) : ∃ before after, cs = before ++ c :: after ∧
    (∀ a ∈ before, ¬ a.Fits n) ∧ ((∃ b ∈ cs, b.Fits n) → c.accepts n = true) := by
  cases h with
  | @taking tried rest _ hTried hTakes =>
    refine ⟨tried, rest, rfl, fun a ha hFits => ?_, fun _ => hTakes⟩
    simpa [hFits.accepts] using hTried a ha
  | @first _ rest hNone =>
    refine ⟨[], rest, rfl, nofun, ?_⟩
    rintro ⟨b, hb, hFits⟩
    simpa [hFits.accepts] using hNone b hb

theorem Chosen.fixedFirst (h : Chosen n cs c)
    (hSorted : cs.Pairwise fun a b => a.isVariadic = true → b.isVariadic = true) :
    FixedFirst n cs c where
  fits before b after hEq hFits hFirst := by
    subst hEq
    refine (h.eq_iff hFits hFirst).mpr fun a ha hVariadic => ?_
    have hLater := (List.pairwise_append.mp hSorted).2.2 a ha b List.mem_cons_self hVariadic
    rw [hFits.1] at hLater
    cases hLater
  variadic hVariadic b hb hFits := by
    obtain ⟨before, after, rfl, hBefore, -⟩ := h.place
    rcases List.mem_append.mp hb with hb | hb
    · exact hBefore b hb hFits
    · have hLater : b.isVariadic = true := by
        rcases List.mem_cons.mp hb with rfl | hb
        · exact hVariadic
        · exact List.rel_of_pairwise_cons (List.pairwise_append.mp hSorted).2.1 hb hVariadic
      rw [hFits.1] at hLater
      cases hLater

theorem Chosen.firstTaking (h : Chosen n cs c) : FirstTaking n cs c where
  chosen := h
  fits_iff _ _ _ hEq := Chosen.eq_iff (hEq ▸ h)
  place := h.place
  sorted := h.fixedFirst

/-! ## Calls -/

/-- How a number of arguments chooses among overloads. -/
structure OverloadsTried (table : Table) (t : TypeRef) (n : Nat) : Prop where
  /-- Of any overloads one is chosen by their order. -/
  any : ∀ cs, cs ≠ [] → ∃ c, pick n cs = some c ∧ FirstTaking n cs c
  /-- The methods of a name stand in the order in which the type declares them. -/
  methods : ∀ u name, Inherits table t u →
    u.methods name = u.source.declarations.filter (·.isMethodOf u.decl.number name)
  /-- So do the constructors. -/
  constructors :
    t.constructors = t.source.declarations.filter (·.isConstructorOf t.decl.number)
  /-- A name leads to one of the methods that the nearest type declares. -/
  found : ∀ u name, Nearest table t name u → ∃ c,
    findMethod table t name n = some (u.source, c) ∧ FirstTaking n (u.methods name) c
  /-- A new object leads to one of the constructors if there are any. -/
  made : t.constructors ≠ [] → ∃ c,
    constructorOf t n = targetOf t.source c ∧ FirstTaking n t.constructors c

/-- **Overloads in their order.** The first that takes the number of arguments is chosen, whether or not
it takes further ones. -/
theorem overloadsTried (hOrder : InOrder sources) (ht : t.Known sources) (n : Nat) :
    OverloadsTried (Table.ofSources sources) t n := by
  have hAny : ∀ cs, cs ≠ [] → ∃ c, pick n cs = some c ∧ FirstTaking n cs c := by
    intro cs hcs
    obtain ⟨c, hc⟩ := exists_pick n hcs
    exact ⟨c, hc, (chosen_of_pick hc).firstTaking⟩
  refine ⟨hAny, fun u name hu => methods_eq hOrder (hu.known ht) name, constructors_eq hOrder ht,
    fun u name hNearest => ?_, fun hSome => ?_⟩
  · obtain ⟨c, hc, hFirst⟩ := hAny _ hNearest.some
    exact ⟨c, by rw [findMethod_of_nearest hNearest, hc, Option.map_some], hFirst⟩
  · obtain ⟨c, hc, hFirst⟩ := hAny _ hSome
    exact ⟨c, by rw [constructorOf, hc], hFirst⟩

/-! ### An overload for any arguments before another one -/

/-- Two methods take one argument, the first of them as one of any number. -/
def looseUnits : List Source := readUnits [("A.java",
  "class A { void m(Object... xs) {}
 void m(int x) {}
 void f() { m(1); } }")]

theorem exists_loose : ∃ t, t.Known looseUnits ∧
    (t.methods "m").map (fun c => (c.isVariadic, c.paramCount)) = [(true, 1), (false, 1)] ∧
    (findMethod (Table.ofSources looseUnits) t "m" 1).map (·.2.isVariadic) = some true := by
  have hFound : ∃ t ∈ TypeRef.allKnown looseUnits,
      (t.methods "m").map (fun c => (c.isVariadic, c.paramCount)) = [(true, 1), (false, 1)] ∧
      (findMethod (Table.ofSources looseUnits) t "m" 1).map (·.2.isVariadic) = some true := by
    decide +kernel
  obtain ⟨t, ht, hRest⟩ := hFound
  exact ⟨t, TypeRef.mem_allKnown.mp ht, hRest⟩

theorem overloadsTried_looseUnits : InOrder looseUnits ∧ ∃ t, t.Known looseUnits ∧
    OverloadsTried (Table.ofSources looseUnits) t 1 := by
  obtain ⟨t, ht, -⟩ := exists_loose
  exact ⟨inOrder_readUnits _, t, ht, overloadsTried (inOrder_readUnits _) ht 1⟩

/-- The call with one argument leads to the method for any number of them, although the other one has
just one parameter. -/
theorem not_fixedFirst_loose : ∃ t s c, t.Known looseUnits ∧
    findMethod (Table.ofSources looseUnits) t "m" 1 = some (s, c) ∧
    ¬ FixedFirst 1 (t.methods "m") c := by
  obtain ⟨t, ht, hMethods, hFound⟩ := exists_loose
  obtain ⟨⟨s, c⟩, hc, hVariadic⟩ := Option.map_eq_some_iff.mp hFound
  refine ⟨t, s, c, ht, hc, fun hFixed => ?_⟩
  obtain ⟨b, hb, hKind⟩ := List.mem_map.mp (hMethods ▸ List.mem_cons_of_mem _ (List.mem_singleton_self _))
  obtain ⟨hFits, hCount⟩ := Prod.mk.inj hKind
  exact hFixed.variadic hVariadic b hb ⟨hFits, hCount⟩

end CodeAtlas.Compilation
