import CodeAtlas.Proofs.Compilation.Alike

/-!
# Units with other comments

Units that have been read from alike trees declare the same: comments in lists of arguments are not part
of what is declared.

* `Declared.Alike.addMember`: what members of a type add.
* `alike_sourceOf`: what a unit declares.
-/

namespace CodeAtlas.Compilation

/-! ## Declarations -/

/-- Two declarations read from alike trees. -/
structure Callable.Alike (c c' : Callable) : Prop where
  bare : c.bare = c'.bare
  node : Node.Alike false c.node c'.node

namespace Node

variable {n n' : Node}

theorem Alike.outside (h : Alike false n n') (hOutside : n.within false = false) :
    List.Forall₂ (Alike false) n.children n'.children := by
  have hParts := h.matched
  rw [hOutside] at hParts
  exact hParts.imp fun _ _ hm => hm.alike

theorem Alike.hasModifier_eq (h : Alike false n n') (word : String) :
    n.hasModifier word = n'.hasModifier word := by
  have hFound := find?_of_forall₂ (p := (·.kind = .modifiers)) (q := (·.kind = .modifiers)) h.matched
    fun m m' hm => by rw [hm.alike.kind_eq]
  rw [hasModifier, hasModifier, modifierNodes, modifierNodes]
  generalize n.children.find? _ = m, n'.children.find? _ = m' at hFound ⊢
  cases hFound with
  | none => rfl
  | some hm =>
    obtain ⟨hm, hKind⟩ := hm
    refine any_eq_of_forall₂ hm.alike.matched fun w w' hw => ?_
    have hText := hw.text (by rw [of_decide_eq_true hKind, isVerbatim, Bool.or_eq_true]; exact .inr rfl)
    rw [hText]

theorem Alike.superclassName_eq (h : Alike false n n') : n.superclassName = n'.superclassName := by
  have hClause := h.child? .superclass
  rw [superclassName, superclassName]
  generalize n.child? .superclass = m, n'.child? .superclass = m' at hClause ⊢
  cases hClause with
  | none => rfl
  | some hm => exact hm.1.alike.childMap_eq rfl baseType

theorem Alike.interfaceNames_eq (h : Alike false n n') (hOutside : n.within false = false) :
    n.interfaceNames = n'.interfaceNames := by
  have hClause := h.child? .interfaces
  rw [hOutside] at hClause
  rw [interfaceNames, interfaceNames]
  generalize n.child? .interfaces = m, n'.child? .interfaces = m' at hClause ⊢
  cases hClause with
  | none => rfl
  | some hm =>
    obtain ⟨hm, hRole⟩ := hm
    have hParts := hm.alike.outside (within_of_role (by rw [hRole]; decide))
    have hLists := filter_of_forall₂ (p := (·.kind = .typeList)) (q := (·.kind = .typeList)) hParts
      fun l l' hl => by rw [hl.kind_eq]
    refine flatMap_eq_of_forall₂ hLists fun l l' ⟨hl, hKind⟩ => ?_
    have hKind : l.kind = .typeList := of_decide_eq_true hKind
    refine map_eq_of_forall₂ (hl.members (within_of_kind (by rw [hKind]; decide))) fun t t' ht => ?_
    rw [ht.text (by rw [hKind, isVerbatim, Bool.or_eq_true]; exact .inr rfl)]

end Node

section Members

variable {n n' : Node}

theorem variadicType_eq (h : Node.Alike false n n') (hKind : n.kind = .variadic) :
    variadicType n = variadicType n' := by
  have hMembers := h.members (Node.within_of_kind (by rw [hKind]; decide))
  have hFound := find?_of_forall₂ (p := fun m => m.kind != .modifiers && m.kind != .declarator)
    (q := fun m => m.kind != .modifiers && m.kind != .declarator) hMembers
    fun m m' hm => by rw [hm.alike.kind_eq]
  rw [variadicType, variadicType]
  generalize n.members.find? _ = m, n'.members.find? _ = m' at hFound ⊢
  cases hFound with
  | none => rfl
  | some hm =>
    have hText := hm.1.text (by rw [hKind, Node.isVerbatim, Bool.or_eq_true]; exact .inr rfl)
    rw [Option.map_some, Option.map_some, hText]

theorem paramType_eq (h : Node.Alike false n n') : paramType n = paramType n' := by
  have hType : n.partText .type = n'.partText .type := h.partText_eq rfl
  rw [paramType, paramType, ← h.kind_eq, hType]
  split
  · rfl
  · rw [variadicType_eq h ‹_›]
  · rfl

theorem alike_paramNodes (h : Node.Alike false n n') (hOutside : n.within false = false) :
    List.Forall₂ (Node.Alike false) (paramNodes n) (paramNodes n') := by
  have hList := h.child? .parameters
  rw [hOutside] at hList
  rw [paramNodes, paramNodes]
  generalize n.child? .parameters = m, n'.child? .parameters = m' at hList ⊢
  cases hList with
  | none => exact .nil
  | some hm => exact hm.1.alike.outside (Node.within_of_role (by rw [hm.2]; decide))

theorem alike_callableOf (number owner : Nat) (h : Node.Alike false n n')
    (hOutside : n.within false = false) :
    (callableOf number owner n).Alike (callableOf number owner n') where
  bare := by
    have hName : n.partText .name = n'.partText .name := h.partText_eq rfl
    have hParams := alike_paramNodes h hOutside
    have hTypes := filterMap_eq_of_forall₂ hParams fun m m' => paramType_eq
    have hVariadic := any_eq_of_forall₂ (p := (·.kind = .variadic)) (q := (·.kind = .variadic)) hParams
      fun m m' hm => by rw [hm.kind_eq]
    simp only [callableOf, Callable.bare, hName, hTypes, hVariadic, h.kind_eq, h.hasModifier_eq]
  node := h

theorem fieldsOf_eq (h : Node.Alike false n n') : fieldsOf n = fieldsOf n' := by
  have hType : n.partText .type = n'.partText .type := h.partText_eq rfl
  refine map_eq_of_forall₂ (h.parts .declarator) fun d d' hd => ?_
  have hName : d.partText .name = d'.partText .name := hd.alike.partText_eq rfl
  rw [hName, hType]

end Members

namespace Declared

/-- The same has been declared in alike trees. -/
structure Alike (d d' : Declared) : Prop where
  allTypes : d.allTypes.map TypeDecl.bare = d'.allTypes.map TypeDecl.bare
  types : d.types = d'.types
  declarations : List.Forall₂ Callable.Alike d.declarations d'.declarations

variable {d d' : Declared} {n n' : Node}

theorem Alike.length_eq (h : d.Alike d') : d.allTypes.length = d'.allTypes.length := by
  simpa using congrArg List.length h.allTypes

theorem Alike.type?_eq (h : d.Alike d') (i : Nat) :
    (d.allTypes[i]?).map TypeDecl.bare = (d'.allTypes[i]?).map TypeDecl.bare := by
  simpa using congrArg (·[i]?) h.allTypes

theorem Alike.modifyType (h : d.Alike d') (i : Nat) {f g : TypeDecl → TypeDecl}
    (hEq : ∀ t t', t.bare = t'.bare → (f t).bare = (g t').bare) :
    (d.modifyType i f).Alike (d'.modifyType i g) where
  allTypes := by
    refine List.ext_getElem? fun j => ?_
    have hPlace := h.type?_eq j
    simp only [Declared.modifyType, List.getElem?_map, List.getElem?_modify]
    generalize d.allTypes[j]? = t, d'.allTypes[j]? = t' at hPlace ⊢
    cases t <;> cases t' <;> simp at hPlace ⊢
    split
    · exact hEq _ _ hPlace
    · exact hPlace
  types := h.types
  declarations := h.declarations

theorem Alike.concat (h : d.Alike d') {t t' : TypeDecl} (ht : t.bare = t'.bare)
    {types types' : List (String × Nat)} (hTypes : types = types') :
    Alike { d with allTypes := d.allTypes ++ [t], types := types }
      { d' with allTypes := d'.allTypes ++ [t'], types := types' } where
  allTypes := by rw [List.map_append, List.map_append, h.allTypes, List.map_singleton, ht]; rfl
  types := hTypes
  declarations := h.declarations

theorem Alike.addType (h : d.Alike d') (owner : Option Nat) (hn : Node.Alike false n n')
    (hOutside : n.within false = false) : (d.addType owner n).Alike (d'.addType owner n') := by
  have hName : n.partText .name = n'.partText .name := hn.partText_eq rfl
  have hFront : ((owner.bind (d.allTypes[·]?)).map fun t => t.path ++ ".").getD "" =
      ((owner.bind (d'.allTypes[·]?)).map fun t => t.path ++ ".").getD "" := by
    cases owner with
    | none => rfl
    | some o =>
      have hPath := congrArg (Option.map fun t : TypeDecl => t.path ++ ".") (h.type?_eq o)
      rw [Option.map_map, Option.map_map] at hPath
      exact congrArg (Option.getD · "") hPath
  cases owner with
  | none =>
    dsimp only [Declared.addType]
    rw [hFront, hName, h.length_eq, hn.superclassName_eq, hn.interfaceNames_eq hOutside]
    refine Alike.concat h ?_ ?_
    · rfl
    · rw [h.types]
  | some o =>
    dsimp only [Declared.addType]
    rw [hFront, hName, h.length_eq, hn.superclassName_eq, hn.interfaceNames_eq hOutside]
    refine Alike.modifyType (Alike.concat h ?_ h.types) o fun t t' ht => ?_
    · rfl
    · simp only [TypeDecl.bare, TypeDecl.mk.injEq] at ht ⊢
      simp [ht]

theorem Alike.addCallable (h : d.Alike d') (owner : Nat) (hn : Node.Alike false n n')
    (hOutside : n.within false = false) : (d.addCallable owner n).Alike (d'.addCallable owner n') := by
  have hNew := alike_callableOf d'.declarations.length owner hn hOutside
  rw [Declared.addCallable, Declared.addCallable, h.declarations.length_eq]
  generalize callableOf d'.declarations.length owner n = c,
    callableOf d'.declarations.length owner n' = c' at hNew ⊢
  have hSame := hNew.bare
  simp only [Callable.bare, Callable.mk.injEq] at hSame
  have hAll : Alike { d with declarations := d.declarations ++ [c] }
      { d' with declarations := d'.declarations ++ [c'] } :=
    ⟨h.allTypes, h.types, List.rel_append h.declarations (.cons hNew .nil)⟩
  refine hAll.modifyType owner fun t t' ht => ?_
  simp only [TypeDecl.bare, TypeDecl.mk.injEq] at ht
  simp only [TypeDecl.bare, hSame, ht]
  split <;> rfl

theorem Alike.addFields (h : d.Alike d') (owner : Nat) (hn : Node.Alike false n n') :
    (d.addFields owner n).Alike (d'.addFields owner n') := by
  rw [Declared.addFields, Declared.addFields, fieldsOf_eq hn]
  refine h.modifyType owner fun t t' ht => ?_
  simp only [TypeDecl.bare, TypeDecl.mk.injEq] at ht ⊢
  simp [ht]

end Declared

mutual

theorem Declared.Alike.addMember (owner : Nat) (n : Node) {n' : Node} {d d' : Declared}
    (h : d.Alike d') (hn : Node.Alike false n n') :
    (Declared.addMember owner d n).Alike (Declared.addMember owner d' n') := by
  match n with
  | .leaf .. =>
    cases hn
    exact h
  | .branch role kind children =>
    have hParts := hn.outside
    cases hn with
    | @branch _ _ _ _ children' hcs =>
      cases kind with
      | typeDeclaration =>
        rw [Declared.addMember, Declared.addMember, h.length_eq]
        exact Declared.Alike.addBodies _ children
          (h.addType (some owner) (.branch hcs) (Node.within_of_kind nofun))
          (hParts (Node.within_of_kind nofun))
      | enumMembers =>
        rw [Declared.addMember, Declared.addMember]
        exact Declared.Alike.addMembers owner children h (hParts (Node.within_of_kind nofun))
      | method => exact h.addCallable owner (.branch hcs) (Node.within_of_kind nofun)
      | constructor => exact h.addCallable owner (.branch hcs) (Node.within_of_kind nofun)
      | fields => exact h.addFields owner (.branch hcs)
      | _ => exact h

theorem Declared.Alike.addMembers (owner : Nat) (ns : List Node) {ns' : List Node} {d d' : Declared}
    (h : d.Alike d') (hns : List.Forall₂ (Node.Alike false) ns ns') :
    (Declared.addMembers owner d ns).Alike (Declared.addMembers owner d' ns') := by
  match ns with
  | [] =>
    cases hns
    exact h
  | n :: rest =>
    cases hns with
    | cons hn hRest =>
      rw [Declared.addMembers, Declared.addMembers]
      exact Declared.Alike.addMembers owner rest (Declared.Alike.addMember owner n h hn) hRest

theorem Declared.Alike.addBodies (owner : Nat) (ns : List Node) {ns' : List Node} {d d' : Declared}
    (h : d.Alike d') (hns : List.Forall₂ (Node.Alike false) ns ns') :
    (Declared.addBodies owner d ns).Alike (Declared.addBodies owner d' ns') := by
  match ns with
  | [] =>
    cases hns
    exact h
  | .leaf .. :: rest =>
    cases hns with
    | cons hn hRest =>
      cases hn
      rw [Declared.addBodies, Declared.addBodies]
      exact Declared.Alike.addBodies owner rest h hRest
  | .branch role kind children :: rest =>
    cases hns with
    | cons hn hRest =>
      have hParts := hn.outside
      cases hn with
      | branch hcs =>
        rw [Declared.addBodies, Declared.addBodies]
        refine Declared.Alike.addBodies owner rest ?_ hRest
        split
        · rename_i hRole
          exact Declared.Alike.addMembers owner children h
            (hParts (Node.within_of_role (by rw [Node.role, hRole]; decide)))
        · exact h

end

namespace Declared

variable {d d' : Declared} {n n' : Node}

theorem Alike.addTop (h : d.Alike d') (hn : Node.Alike false n n') :
    (d.addTop n).Alike (d'.addTop n') := by
  rw [Declared.addTop, Declared.addTop, ← hn.kind_eq]
  split
  · have hOutside : n.within false = false := Node.within_of_kind (by rw [‹n.kind = _›]; decide)
    rw [h.length_eq]
    exact Alike.addBodies _ _ (h.addType none hn hOutside) (hn.outside hOutside)
  · exact h

theorem Alike.foldl {ns ns' : List Node} (h : d.Alike d')
    (hns : List.Forall₂ (Node.Alike false) ns ns') :
    (ns.foldl Declared.addTop d).Alike (ns'.foldl Declared.addTop d') := by
  induction hns generalizing d d' with
  | nil => exact h
  | cons hn _ ih => exact ih (h.addTop hn)

end Declared

/-! ## Units -/

section Units

variable {n n' : Node}

theorem isMark_eq {k : Kind} {inside : Bool} (h : Node.Matched k inside n n') (word : String) :
    (decide (n.kind = .mark) && decide (n.text = word)) =
      (decide (n'.kind = .mark) && decide (n'.text = word)) := by
  rw [← h.alike.kind_eq]
  by_cases hKind : n.kind = .mark
  · rw [h.text (by simp [Node.isVerbatim, hKind])]
  · simp [hKind]

theorem packageName?_eq (h : Node.Alike false n n') : packageName? n = packageName? n' := by
  rw [packageName?, packageName?, h.kind_eq, h.childText_eq rfl]

theorem importsAll_eq (h : Node.Alike false n n') : importsAll n = importsAll n' :=
  any_eq_of_forall₂ h.matched fun _ _ hm => isMark_eq hm "*"

theorem importsTypes_eq (h : Node.Alike false n n') : importsTypes n = importsTypes n' := by
  have hStatic := any_eq_of_forall₂ h.matched fun _ _ hm => isMark_eq hm "static"
  rw [importsTypes, importsTypes, h.kind_eq, hStatic]

/-- Units read from alike trees declare the same. -/
theorem alike_sourceOf (number : Nat) (path : String) (h : Node.Alike false n n')
    (hKind : n.kind ≠ .arguments) :
    (sourceOf number path n).bare = (sourceOf number path n').bare ∧
      List.Forall₂ Callable.Alike (sourceOf number path n).declarations
        (sourceOf number path n').declarations := by
  have hParts := h.outside (Node.within_of_kind hKind)
  have hDeclared : (n.children.foldl Declared.addTop .empty).Alike
      (n'.children.foldl Declared.addTop .empty) := Declared.Alike.foldl ⟨rfl, rfl, .nil⟩ hParts
  have hPackage := filterMap_eq_of_forall₂ hParts fun _ _ => packageName?_eq
  have hImports := filter_of_forall₂ hParts fun _ _ => importsTypes_eq
  have hNames (p : Node → Bool) (hp : ∀ m m', Node.Alike false m m' → p m = p m') :
      ((n.children.filter importsTypes).filter p).map (·.partText .name) =
        ((n'.children.filter importsTypes).filter p).map (·.partText .name) :=
    map_eq_of_forall₂ (filter_of_forall₂ hImports fun _ _ hm => hp _ _ hm.1)
      fun _ _ hm => hm.1.1.partText_eq rfl
  have hWildcards := hNames importsAll fun _ _ => importsAll_eq
  have hSingle := hNames (!importsAll ·) fun _ _ hm => by rw [importsAll_eq hm]
  have hFold := congrArg (List.foldl (fun found name =>
    Assoc.put (Text.afterLast '.' name) name found) []) hSingle
  rw [List.foldl_map, List.foldl_map] at hFold
  have hAll : (n.children.foldl Declared.addTop .empty).declarations.map Callable.bare =
      (n'.children.foldl Declared.addTop .empty).declarations.map Callable.bare :=
    map_eq_of_forall₂ hDeclared.declarations fun _ _ hc => hc.bare
  refine ⟨?_, hDeclared.declarations⟩
  simp only [sourceOf, Source.bare, Source.mk.injEq, hPackage]
  exact ⟨trivial, trivial, trivial, trivial, hFold, hWildcards, hDeclared.allTypes, hDeclared.types, hAll⟩

end Units

end CodeAtlas.Compilation
