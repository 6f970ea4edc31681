import CodeAtlas.Proofs.Compilation.Known
import CodeAtlas.Proofs.DepthFirst

/-!
# Hierarchies

The walks through what a type extends, and through the types around it, are bounded by numbers. Both
bounds are large enough.

* `depthFirst_hierarchy`: the hierarchy of a type is what a depth-first search finds, in its order.
* `mem_hierarchy`: it is all that the type extends, by whatever steps.
* `mem_around`: the types around a type are all in which it stands.
-/

namespace CodeAtlas.Compilation

open TypeRef (Known allKnown)

/-! ## What a type extends -/

/-- A type is another one or extends it, directly or not. -/
def Inherits (table : Table) : TypeRef → TypeRef → Prop :=
  Relation.ReflTransGen fun t u => u ∈ superTypes table t

section Known

variable {sources : List Source} {t u : TypeRef} {seen : List TypeRef}

theorem known_superTypes (ht : t.Known sources) (hu : u ∈ superTypes (Table.ofSources sources) t) :
    u.Known sources := by
  obtain ⟨name, -, hFound⟩ := List.mem_filterMap.mp hu
  obtain ⟨f, hf, hDeclared⟩ := Option.bind_eq_some_iff.mp hFound
  exact known_findType ht (hf.trans (congrArg some (declared?_eq_some hDeclared)))

theorem Inherits.known (h : Inherits (Table.ofSources sources) t u) (ht : t.Known sources) :
    u.Known sources := by
  induction h with
  | refl => exact ht
  | tail _ hStep ih => exact known_superTypes ih hStep

theorem any_same (hOrder : InOrder sources) (ht : t.Known sources)
    (hSeen : ∀ u ∈ seen, u.Known sources) : seen.any t.same = true ↔ t ∈ seen := by
  apply any_iff_mem
  rintro u (rfl | hu)
  · exact TypeRef.same_iff hOrder ht ht
  · exact TypeRef.same_iff hOrder ht (hSeen u hu)

/-! ### The walk -/

section Walk

variable {found : List TypeRef}

/-- The walk visits what the loop with a stack does, which nothing ends. -/
theorem bounded_hierarchyFrom (hOrder : InOrder sources) :
    Bounded (superTypes (Table.ofSources sources)) (fun _ => false) (TypeRef.Known sources)
      (hierarchyFrom (Table.ofSources sources)) id where
  closed t ht u hu := known_superTypes ht hu
  empty fuel seen := by cases fuel <;> rfl
  old fuel seen t stack ht hSeen hMem := by
    rw [hierarchyFrom, if_pos ((any_same hOrder ht hSeen).mpr hMem)]
  last fuel seen t stack _ _ _ hit := by cases hit
  new fuel seen t stack found ht hSeen hNot _ hRun := by
    rw [hierarchyFrom, if_neg fun hOld => hNot ((any_same hOrder ht hSeen).mp hOld), hRun]
    rfl

/-- The walk has enough steps. -/
theorem length_supers_lt_walkBound
    (h : DepthFirst (superTypes (Table.ofSources sources)) [] [t] found)
    (hKnown : ∀ u ∈ found, u.Known sources) :
    (found.flatMap (superTypes (Table.ofSources sources))).length + 1 <
      walkBound (Table.ofSources sources) t := by
  have hAll : (allKnown sources).flatMap (·.decl.supers) =
      (sources.flatMap (·.allTypes)).flatMap (·.supers) := by
    simp [allKnown, List.flatMap_assoc, List.flatMap_map]
  have hFew := h.length_flatMap_le (fun u : TypeRef => u.decl.supers)
    (fun u hu => TypeRef.mem_allKnown.mpr (hKnown u hu)) fun u => List.length_filterMap_le ..
  rw [hAll] at hFew
  have hBound : walkBound (Table.ofSources sources) t =
      ((sources.flatMap (·.allTypes)).flatMap (·.supers)).length + t.decl.supers.length + 2 := rfl
  omega

/-- The hierarchy of a type is what the recursive search finds. -/
theorem depthFirst_hierarchy (hOrder : InOrder sources) (ht : t.Known sources) :
    DepthFirst (superTypes (Table.ofSources sources)) [] [t]
      (hierarchy (Table.ofSources sources) t) := by
  have hStart : ∀ u ∈ [t], u.Known sources := List.forall_mem_singleton.mpr ht
  have hNext : ∀ u ∈ allKnown sources, ∀ v ∈ superTypes (Table.ofSources sources) u,
      v ∈ allKnown sources := by
    intro u hu v hv
    exact TypeRef.mem_allKnown.mpr (known_superTypes (TypeRef.mem_allKnown.mp hu) hv)
  obtain ⟨found, hFound⟩ : ∃ found, DepthFirst (superTypes (Table.ofSources sources)) [] [t] found :=
    exists_depthFirst hNext fun u hu => TypeRef.mem_allKnown.mpr (hStart u hu)
  have hKnown : ∀ u ∈ found, u.Known sources := by
    intro u hu
    obtain ⟨v, hv, hInherits⟩ := hFound.exists_reaches hu
    exact Inherits.known hInherits (hStart v hv)
  have hLoop := hFound.stackLoop_upTo fun _ => false
  rw [upTo_never] at hLoop
  have hWalk : hierarchy (Table.ofSources sources) t = found := by
    apply (bounded_hierarchyFrom hOrder).run_eq hLoop hStart (List.forall_mem_nil _)
    have hEnough := length_supers_lt_walkBound hFound hKnown
    rw [List.length_singleton]
    omega
  exact hWalk.symm ▸ hFound

end Walk

/-- The hierarchy of a type is all that it extends. -/
theorem mem_hierarchy (hOrder : InOrder sources) (ht : t.Known sources) :
    u ∈ hierarchy (Table.ofSources sources) t ↔ Inherits (Table.ofSources sources) t u := by
  rw [(depthFirst_hierarchy hOrder ht).mem_iff]
  exact ⟨fun ⟨v, hv, hInherits⟩ => List.mem_singleton.mp hv ▸ hInherits,
    fun h => ⟨t, List.mem_singleton_self t, h⟩⟩

/-- The hierarchy of a type begins with the type itself. -/
theorem exists_hierarchy (table : Table) (t : TypeRef) : ∃ rest, hierarchy table t = t :: rest :=
  ⟨_, rfl⟩

/-! ## The types around a type -/

/-- A type is another one or stands in it, directly or not. -/
def Encloses : TypeRef → TypeRef → Prop :=
  Relation.ReflTransGen fun t u => t.decl.outer.bind t.sibling? = some u

theorem encloses_of_mem {depth : Nat} (h : u ∈ t.aroundWithin depth) : Encloses t u := by
  induction depth generalizing t with
  | zero => cases h
  | succ depth ih =>
    rw [TypeRef.aroundWithin] at h
    rcases List.mem_cons.mp h with rfl | h
    · exact .refl
    · cases hOuter : t.decl.outer.bind t.sibling? with
      | none => rw [hOuter] at h; cases h
      | some v =>
        rw [hOuter] at h
        exact .head hOuter (ih h)

/-- The types around a type begin with the type itself. -/
theorem exists_around (t : TypeRef) : ∃ rest, t.around = t :: rest := ⟨_, rfl⟩

/-- A type that stands around another one is of the same unit. -/
theorem source_of_outer (h : t.decl.outer.bind t.sibling? = some u) : t.source = u.source := by
  obtain ⟨o, -, hSibling⟩ := Option.bind_eq_some_iff.mp h
  obtain ⟨decl, -, rfl⟩ := Option.map_eq_some_iff.mp hSibling
  rfl

/-- It has a smaller number. -/
theorem number_lt_of_outer (hOrder : InOrder sources) (ht : t.Known sources)
    (h : t.decl.outer.bind t.sibling? = some u) :
    u.Known sources ∧ u.decl.number < t.decl.number := by
  obtain ⟨o, hOuter, hSibling⟩ := Option.bind_eq_some_iff.mp h
  have hLess := (ht.placed hOrder).1.outer o hOuter
  have hKnown := ht.sibling hSibling
  obtain ⟨decl, hDecl, rfl⟩ := Option.map_eq_some_iff.mp hSibling
  have hNumber := ((hOrder.sound ht.source).types o decl hDecl).number
  exact ⟨hKnown, hNumber ▸ hLess⟩

theorem mem_aroundWithin (hOrder : InOrder sources) (h : Encloses t u) (ht : t.Known sources)
    {depth : Nat} (hDepth : t.decl.number < depth) : u ∈ t.aroundWithin depth := by
  induction h using Relation.ReflTransGen.head_induction_on generalizing depth with
  | refl =>
    cases depth with
    | zero => omega
    | succ depth => exact List.mem_cons_self
  | head hOuter _ ih =>
    cases depth with
    | zero => omega
    | succ depth =>
      obtain ⟨hKnown, hLess⟩ := number_lt_of_outer hOrder ht hOuter
      rw [TypeRef.aroundWithin, hOuter]
      exact List.mem_cons_of_mem _ (ih hKnown (by omega))

/-- The types around a type are all in which it stands. -/
theorem mem_around (hOrder : InOrder sources) (ht : t.Known sources) :
    u ∈ t.around ↔ Encloses t u := by
  refine ⟨encloses_of_mem, fun h => mem_aroundWithin hOrder h ht ?_⟩
  have hLess := (List.getElem?_eq_some_iff.mp (ht.placed hOrder).2).1
  omega

theorem Encloses.known (hOrder : InOrder sources) (h : Encloses t u) (ht : t.Known sources) :
    u.Known sources ∧ u.decl.number ≤ t.decl.number := by
  induction h with
  | refl => exact ⟨ht, Nat.le_refl _⟩
  | tail _ hOuter ih =>
    obtain ⟨hKnown, hLess⟩ := number_lt_of_outer hOrder ih.1 hOuter
    exact ⟨hKnown, by omega⟩

/-- A larger bound makes no difference. -/
theorem aroundWithin_eq (hOrder : InOrder sources) (ht : t.Known sources) {depth depth' : Nat}
    (hDepth : t.decl.number < depth) (hDepth' : t.decl.number < depth') :
    t.aroundWithin depth = t.aroundWithin depth' := by
  induction depth generalizing t depth' with
  | zero => omega
  | succ depth ih =>
    cases depth' with
    | zero => omega
    | succ depth' =>
      rw [TypeRef.aroundWithin, TypeRef.aroundWithin]
      cases hOuter : t.decl.outer.bind t.sibling? with
      | none => rfl
      | some v =>
        obtain ⟨hKnown, hLess⟩ := number_lt_of_outer hOrder ht hOuter
        have hSame : v.aroundWithin depth = v.aroundWithin depth' :=
          ih hKnown (by omega) (by omega)
        rw [Option.map_some, Option.map_some, hSame]

theorem around_of_outer (hOrder : InOrder sources) (ht : t.Known sources)
    (hOuter : t.decl.outer.bind t.sibling? = some u) : t.around = t :: u.around := by
  obtain ⟨hKnown, hLess⟩ := number_lt_of_outer hOrder ht hOuter
  have hBound := (List.getElem?_eq_some_iff.mp (ht.placed hOrder).2).1
  have hSame : u.aroundWithin t.source.allTypes.length = u.around := by
    refine aroundWithin_eq hOrder hKnown (by omega) ?_
    rw [← source_of_outer hOuter]
    omega
  rw [TypeRef.around, TypeRef.aroundWithin, hOuter, Option.map_some, Option.getD_some, hSame]

end Known

end CodeAtlas.Compilation
