import CodeAtlas.Proofs.Module.BareNames
import CodeAtlas.Proofs.Module.Rebased

/-!
# Modules with changed classes

Modules are compared that declare the same, where some classes are changed: their bases may have other
names. What is looked up without asking a changed class for its bases is found in both.

* `Table.Alike`, `ClassRef.Alike`: modules and classes correspond.
* `rel_findClass`: dotted names lead to classes that correspond.
* `typeName_eq`: annotations name the same types.
* `map_targetOf_pick`: functions that correspond are picked, and are the same targets.
-/

namespace CodeAtlas.Module

/-! ## Modules with changed classes -/

/-- The bases of two classes have the same names, as far as they have any. -/
def Class.SameNames (k k' : Class) : Prop := k.bases.map Expr.dotted? = k'.bases.map Expr.dotted?

/-- The classes of a module that are not among the changed ones keep the names of their bases. -/
def Source.Keeps (changed : ClassRef → Prop) (s s' : Source) : Prop :=
  List.Forall₂ (fun k k' => changed ⟨s, k⟩ ∨ k.SameNames k') s.allClasses s'.allClasses

/-- Two modules declare the same, with other bases in the changed classes. -/
structure Source.Alike (changed : ClassRef → Prop) (s s' : Source) : Prop where
  declares : s.DeclaresRebased s'
  keeps : s.Keeps changed s'

/-- Two classes correspond in such modules. -/
structure ClassRef.Alike (changed : ClassRef → Prop) (c c' : ClassRef) : Prop where
  source : c.source.Alike changed c'.source
  cls : c.cls.Rebased c'.cls
  names : changed c ∨ c.cls.SameNames c'.cls

/-- The modules of two tables correspond. -/
def Table.Alike (changed : ClassRef → Prop) (t t' : Table) : Prop :=
  List.Forall₂ (fun x x' => x.1 = x'.1 ∧ x.2.Alike changed x'.2) t t'

section Lookups

variable {changed : ClassRef → Prop} {t t' : Table} {s s' : Source} {c c' : ClassRef}

/-! ## Names -/

theorem Source.Alike.class? (h : s.Alike changed s') (n : Nat) :
    Option.Rel (fun k k' => ClassRef.Alike changed ⟨s, k⟩ ⟨s', k'⟩) (s.class? n) (s'.class? n) := by
  have hBoth := forall₂_and h.declares.allClasses h.keeps
  exact rel_getElem? (hBoth.imp fun _ _ hk => ⟨h, hk.1, hk.2⟩) n

theorem Source.Alike.bind_class? (h : s.Alike changed s') (n : Option Nat) :
    Option.Rel (fun k k' => ClassRef.Alike changed ⟨s, k⟩ ⟨s', k'⟩) (n.bind s.class?)
      (n.bind s'.class?) := by
  cases n with
  | none => exact .none
  | some n => exact h.class? n

theorem Source.Alike.function? (h : s.Alike changed s') (n : Nat) :
    Option.Rel Function.Rebased (s.function? n) (s'.function? n) :=
  rel_getElem? h.declares.declarations n

theorem Source.Alike.forall₂_functions (h : s.Alike changed s') (numbers : List Nat) :
    List.Forall₂ Function.Rebased (numbers.filterMap s.function?) (numbers.filterMap s'.function?) :=
  filterMap_same_of_rel numbers h.function?

theorem Source.Alike.name_eq (h : s.Alike changed s') : s'.name = s.name := by
  rw [h.declares.rest]

theorem Source.Alike.functions_eq (h : s.Alike changed s') : s'.functions = s.functions := by
  rw [h.declares.rest]

theorem Source.Alike.imports_eq (h : s.Alike changed s') : s'.imports = s.imports := by
  rw [h.declares.rest]

theorem Source.Alike.qualifyName_eq (h : s.Alike changed s') (name : String) :
    s'.qualifyName name = s.qualifyName name := by
  rw [h.declares.rest]
  rfl

theorem Source.Alike.qualify_eq (h : s.Alike changed s') (dotted : String) :
    s'.qualify dotted = s.qualify dotted := by
  rw [h.declares.rest]
  rfl

theorem ClassRef.Alike.fullName_eq (h : c.Alike changed c') : c'.fullName = c.fullName := by
  rw [fullName, fullName, Source.className, Source.className, h.source.name_eq, h.cls.rest]

theorem ClassRef.Alike.same_eq {d d' : ClassRef} (hc : c.Alike changed c') (hd : d.Alike changed d') :
    c.same d = c'.same d' := by
  rw [ClassRef.same, ClassRef.same, hc.source.declares.rest, hc.cls.rest, hd.source.declares.rest,
    hd.cls.rest]

theorem rel_splitModule (ht : t.Alike changed t') (qualified : String) :
    Option.Rel (fun x x' => x.1.Alike changed x'.1 ∧ x.2 = x'.2) (splitModule t qualified)
      (splitModule t' qualified) := by
  rw [splitModule, splitModule]
  generalize Text.splitAt '.' qualified = parts
  induction parts.length with
  | zero => exact .none
  | succ n ih =>
    have hLookup := lookup_of_forall₂ ht (Text.join "." (parts.take (n + 1)))
    rw [splitModuleAt, splitModuleAt]
    generalize t.lookup _ = s, t'.lookup _ = s' at hLookup ⊢
    cases hLookup with
    | none => exact ih
    | some hs => exact .some ⟨hs, rfl⟩

theorem exists_splitModule (ht : t.Alike changed t') {qualified : String} {parts : List String}
    (h : splitModule t qualified = some (s, parts)) :
    ∃ s', splitModule t' qualified = some (s', parts) ∧ s.Alike changed s' := by
  have hSplit := rel_splitModule ht qualified
  rw [h] at hSplit
  obtain ⟨⟨s', _⟩, hSplit', hs, rfl⟩ := exists_of_rel_some hSplit
  exact ⟨s', hSplit', hs⟩

theorem rel_nestedClass (h : c.Alike changed c') (names : List String) :
    Option.Rel (ClassRef.Alike changed) (nestedClass c names) (nestedClass c' names) := by
  induction names generalizing c c' with
  | nil => exact .some h
  | cons name names ih =>
    have hNested : c'.cls.nested = c.cls.nested := by rw [h.cls.rest]
    have hInner := h.source.bind_class? (c.cls.nested.lookup name)
    rw [nestedClass, nestedClass, hNested]
    generalize (c.cls.nested.lookup name).bind c.source.class? = k,
      (c.cls.nested.lookup name).bind c'.source.class? = k' at hInner ⊢
    cases hInner with
    | none => exact .none
    | some hk => exact ih hk

theorem rel_topClass? (h : s.Alike changed s') (name : String) :
    Option.Rel (ClassRef.Alike changed) (s.topClass? name) (s'.topClass? name) := by
  have hClasses : s'.classes = s.classes := by rw [h.declares.rest]
  rw [Source.topClass?, Source.topClass?, hClasses]
  exact rel_map (h.bind_class? _) fun _ _ hk => hk

theorem rel_findClassWithin (ht : t.Alike changed t') (hops : Nat) (qualified : String) :
    Option.Rel (ClassRef.Alike changed) (findClassWithin t hops qualified)
      (findClassWithin t' hops qualified) := by
  fun_induction findClassWithin t hops qualified with
  | case1 hops q s head rest hSplit c hTop =>
    obtain ⟨s', hSplit', hs⟩ := exists_splitModule ht hSplit
    obtain ⟨c', hTop', hc⟩ := exists_of_rel_some (hTop ▸ rel_topClass? hs head)
    rw [findClassWithin, hSplit']
    dsimp only
    rw [hTop']
    exact rel_nestedClass hc rest
  | case2 q s head rest hSplit hTop hops i hImport ih =>
    obtain ⟨s', hSplit', hs⟩ := exists_splitModule ht hSplit
    have hTop' := eq_none_of_rel (hTop ▸ rel_topClass? hs head)
    rw [← hs.imports_eq] at hImport
    rw [findClassWithin.eq_def t']
    simp only [hSplit', hTop', hImport]
    exact ih
  | case3 hops q s head rest hSplit hTop hNot =>
    obtain ⟨s', hSplit', hs⟩ := exists_splitModule ht hSplit
    have hTop' := eq_none_of_rel (hTop ▸ rel_topClass? hs head)
    rw [findClassWithin]
    simp only [hSplit', hTop', hs.imports_eq]
    exact .none
  | case4 hops q hNot =>
    have hSplit := rel_splitModule ht q
    rw [findClassWithin]
    generalize splitModule t q = x, splitModule t' q = x' at hSplit hNot ⊢
    cases hSplit with
    | none => exact .none
    | @some x x' hs =>
      obtain ⟨s, _ | ⟨head, rest⟩⟩ := x
      · obtain ⟨s', _⟩ := x'
        obtain ⟨-, rfl⟩ := hs
        exact .none
      · exact absurd rfl (hNot s head rest)

/-- The class of a dotted name is the corresponding one. -/
theorem rel_findClass (ht : t.Alike changed t') (qualified : String) :
    Option.Rel (ClassRef.Alike changed) (findClass t qualified) (findClass t' qualified) :=
  rel_findClassWithin ht maxHops qualified

/-! ## Types -/

theorem namedType_eq (ht : t.Alike changed t') (hs : s.Alike changed s') (dotted : String) :
    namedType t' s' dotted = namedType t s dotted := by
  have hClass := rel_findClass ht (s.qualify dotted)
  rw [namedType, namedType, hs.qualify_eq]
  generalize findClass t _ = c, findClass t' _ = c' at hClass ⊢
  cases hClass with
  | none => rfl
  | some hc => exact congrArg some hc.fullName_eq

theorem typeNameWithin_eq (ht : t.Alike changed t') (hs : s.Alike changed s')
    (read : String → Option Expr) (depth : Nat) (e : Expr) :
    typeNameWithin read t' s' depth e = typeNameWithin read t s depth e := by
  have hNamed : namedType t' s' = namedType t s := funext (namedType_eq ht hs)
  induction depth generalizing e with
  | zero => rfl
  | succ depth ih => simp only [typeNameWithin, ih, hNamed]

theorem typeName_eq (ht : t.Alike changed t') (hs : s.Alike changed s') (e : Expr) :
    typeName t' s' e = typeName t s e :=
  typeNameWithin_eq ht hs readExpression e.extent e

/-! ## Methods -/

theorem forall₂_methods (h : c.Alike changed c') (name : String) :
    List.Forall₂ Function.Rebased (c.methods name) (c'.methods name) := by
  have hMethods : c'.cls.methods = c.cls.methods := by rw [h.cls.rest]
  rw [ClassRef.methods, ClassRef.methods, hMethods]
  exact h.source.forall₂_functions _

theorem isEmpty_methods_eq (h : c.Alike changed c') (name : String) :
    (c.methods name).isEmpty = (c'.methods name).isEmpty := by
  have hMethods := forall₂_methods h name
  generalize c.methods name = fs, c'.methods name = fs' at hMethods ⊢
  cases hMethods <;> rfl

theorem rel_pick (hs : s.Alike changed s') (argCount : Nat) {fs fs' : List Function}
    (h : List.Forall₂ Function.Rebased fs fs') :
    Option.Rel Function.Rebased (pick s argCount fs) (pick s' argCount fs') := by
  have hStubs {f f' : Function} (hf : f.Rebased f') : s.hasStubs f.number = s'.hasStubs f'.number := by
    rw [hs.declares.rest, hf.rest]
    rfl
  have hShown := filter_of_forall₂ (p := fun f => !s.hasStubs f.number)
    (q := fun f => !s'.hasStubs f.number) h fun _ _ hf => by rw [hStubs hf]
  have hAccepts {f f' : Function} (hf : f.Rebased f') : f.accepts argCount = f'.accepts argCount := by
    rw [hf.rest]
    rfl
  have hFirst {gs gs' : List Function} (hgs : List.Forall₂ Function.Rebased gs gs') :
      Option.Rel Function.Rebased ((gs.find? (·.accepts argCount)).or gs.head?)
        ((gs'.find? (·.accepts argCount)).or gs'.head?) := by
    have hFind := find?_of_forall₂ (p := (·.accepts argCount)) (q := (·.accepts argCount)) hgs
      fun _ _ => hAccepts
    generalize gs.find? _ = f, gs'.find? _ = f' at hFind ⊢
    cases hFind with
    | none => exact rel_head? hgs
    | some hf => exact .some hf.1
  rw [pick, pick]
  generalize fs.filter _ = gs, fs'.filter _ = gs' at hShown ⊢
  cases hShown with
  | nil => exact hFirst h
  | cons hf hfs => exact hFirst (.cons hf.1 (hfs.imp fun _ _ hg => hg.1))

theorem Source.Alike.typeName_eq (hs : s.Alike changed s') {f f' : Function} (hf : f.Rebased f') :
    s.typeName f = s'.typeName f' := by
  have hOwner : f'.owner = f.owner := by rw [hf.rest]
  have hClass := hs.bind_class? f.owner
  rw [Source.typeName, Source.typeName, hOwner]
  generalize f.owner.bind s.class? = k, f.owner.bind s'.class? = k' at hClass ⊢
  cases hClass with
  | none => exact hs.name_eq.symm
  | some hk => exact hk.fullName_eq.symm

theorem targetOf_eq {f f' : Function} (hs : s.Alike changed s') (hf : f.Rebased f') :
    targetOf s f = targetOf s' f' := by
  rw [targetOf, targetOf, hs.typeName_eq hf, hs.declares.rest, hf.rest]

theorem map_targetOf_pick (hs : s.Alike changed s') (argCount : Nat) {fs fs' : List Function}
    (h : List.Forall₂ Function.Rebased fs fs') :
    (pick s argCount fs).map (targetOf s) = (pick s' argCount fs').map (targetOf s') :=
  map_eq_of_rel (rel_pick hs argCount h) fun _ _ hf => targetOf_eq hs hf

end Lookups

end CodeAtlas.Module
