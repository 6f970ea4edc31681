import CodeAtlas.Proofs.Module.Changed

/-!
# Which classes are asked for their bases

A look-up asks some of the classes that it comes to for their bases: those in which it does not find
what it looks for. If none of these is changed, it finds the same as before the change.

* `askedFrom`, `rel_searchFrom`: the classes that a search asks, and what it finds if they are not changed.
* `Caller.asked`, `Caller.resolve_eq`: so for the look-up of a call.
-/

namespace CodeAtlas.Module

section Lookups

variable {changed : ClassRef → Prop} {t t' : Table} {c c' : ClassRef}

/-! ## Hierarchies -/

/-- The classes that a class extends depend on the names of its bases alone. -/
theorem projectBases_eq (t : Table) (c : ClassRef) : projectBases t c =
    (c.cls.bases.map Expr.dotted?).filterMap
      (Option.bind · fun d => findClass t (c.source.qualify d)) := by
  rw [projectBases, List.filterMap_map]
  rfl

theorem forall₂_projectBases (ht : t.Alike changed t') (h : c.Alike changed c') (hNot : ¬changed c) :
    List.Forall₂ (ClassRef.Alike changed) (projectBases t c) (projectBases t' c') := by
  have hNames : c.cls.SameNames c'.cls := h.names.resolve_left hNot
  rw [projectBases_eq, projectBases_eq, ← hNames]
  refine filterMap_same_of_rel _ fun base => ?_
  cases base with
  | none => exact .none
  | some d =>
    rw [Option.bind_some, Option.bind_some, h.source.qualify_eq]
    exact rel_findClass ht _

/-- All classes of the modules correspond. -/
theorem Table.Alike.allClasses (ht : t.Alike changed t') :
    List.Forall₂ Class.Rebased (t.flatMap fun (_, s) => s.allClasses)
      (t'.flatMap fun (_, s) => s.allClasses) :=
  List.rel_flatMap ht fun _ _ hx => hx.2.declares.allClasses

theorem searchBound_eq (ht : t.Alike changed t') {start start' : List ClassRef}
    (h : List.Forall₂ (ClassRef.Alike changed) start start') :
    searchBound t start = searchBound t' start' := by
  have hCount {ks ks' : List Class} (hks : List.Forall₂ Class.Rebased ks ks') :
      (ks.flatMap (·.bases)).length = (ks'.flatMap (·.bases)).length := by
    rw [List.length_flatMap, List.length_flatMap,
      map_eq_of_forall₂ hks fun _ _ hk => hk.bases.length_eq]
  have hStart : (start.flatMap (·.cls.bases)).length = (start'.flatMap (·.cls.bases)).length := by
    rw [List.length_flatMap, List.length_flatMap,
      map_eq_of_forall₂ h fun _ _ hk => hk.cls.bases.length_eq]
  rw [searchBound, searchBound]
  dsimp only
  rw [hCount ht.allClasses, hStart, h.length_eq]

/-- The classes that a search asks for their bases. -/
def askedFrom (t : Table) (found : ClassRef → Bool) : Nat → List ClassRef → List ClassRef → List ClassRef
  | 0, _, _ => []
  | _, _, [] => []
  | fuel + 1, seen, c :: stack =>
    if seen.any c.same then askedFrom t found fuel seen stack
    else if found c then []
    else c :: askedFrom t found fuel (c :: seen) (projectBases t c ++ stack)

/-- A search that comes to no end in its first class asks it. -/
theorem mem_askedFrom {found : ClassRef → Bool} {fuel : Nat} (h : found c = false) :
    c ∈ askedFrom t found (fuel + 1) [] [c] := by
  rw [askedFrom, if_neg (by simp), if_neg (by simp [h])]
  exact List.mem_cons_self

theorem rel_searchFrom (ht : t.Alike changed t') {found : ClassRef → Bool}
    (hFound : ∀ c c', ClassRef.Alike changed c c' → found c = found c') (fuel : Nat)
    {seen seen' stack stack' : List ClassRef} (hSeen : List.Forall₂ (ClassRef.Alike changed) seen seen')
    (hStack : List.Forall₂ (ClassRef.Alike changed) stack stack')
    (hAsked : ∀ k ∈ askedFrom t found fuel seen stack, ¬changed k) :
    Option.Rel (ClassRef.Alike changed) (searchFrom t found fuel seen stack)
      (searchFrom t' found fuel seen' stack') := by
  induction fuel generalizing seen seen' stack stack' with
  | zero => exact .none
  | succ fuel ih =>
    cases hStack with
    | nil => exact .none
    | @cons c c' stack stack' hc hRest =>
      have hOld : seen.any c.same = seen'.any c'.same :=
        any_eq_of_forall₂ hSeen fun _ _ hd => hc.same_eq hd
      rw [askedFrom] at hAsked
      rw [searchFrom, searchFrom, ← hOld, ← hFound c c' hc]
      split
      · rw [if_pos ‹_›] at hAsked
        exact ih hSeen hRest hAsked
      · rw [if_neg ‹_›] at hAsked
        split
        · exact .some hc
        · rw [if_neg ‹_›] at hAsked
          obtain ⟨hNot, hOnward⟩ := List.forall_mem_cons.mp hAsked
          exact ih (.cons hc hSeen) (List.rel_append (forall₂_projectBases ht hc hNot) hRest) hOnward

/-! ## Methods -/

/-- The classes that a look-up of a method asks for their bases. -/
def findAsked (t : Table) (start : List ClassRef) (name : String) : List ClassRef :=
  askedFrom t (fun c => !(c.methods name).isEmpty) (searchBound t start) [] start

theorem rel_findMethod (ht : t.Alike changed t') {start start' : List ClassRef}
    (h : List.Forall₂ (ClassRef.Alike changed) start start') (name : String) (argCount : Nat)
    (hAsked : ∀ k ∈ findAsked t start name, ¬changed k) :
    Option.Rel (fun x x' => x.1.Alike changed x'.1 ∧ x.2.Rebased x'.2)
      (findMethod t start name argCount) (findMethod t' start' name argCount) := by
  have hSearch := rel_searchFrom ht (fun _ _ hc => by rw [isEmpty_methods_eq hc name]) _ .nil h hAsked
  rw [findMethod, findMethod, search, search, ← searchBound_eq ht h]
  refine rel_bind hSearch fun c c' hc => ?_
  exact rel_map (rel_pick hc.source argCount (forall₂_methods hc name)) fun _ _ hf => ⟨hc.source, hf⟩

/-- A class with no such method in it or above it has been asked. -/
theorem mem_findAsked_of_findMethod {name : String} {argCount : Nat}
    (h : findMethod t [c] name argCount = none) : c ∈ findAsked t [c] name := by
  cases hEmpty : (c.methods name).isEmpty with
  | true => exact mem_askedFrom (by rw [hEmpty]; rfl)
  | false =>
    have hSearch : search t (fun c => !(c.methods name).isEmpty) [c] = some c := by
      rw [search, searchBound, searchFrom, if_neg (by simp), if_pos (by rw [hEmpty]; rfl)]
    obtain ⟨f, hf⟩ := exists_pick (s := c.source) (List.isEmpty_eq_false_iff.mp hEmpty) argCount
    rw [findMethod, hSearch, Option.bind_some, hf] at h
    cases h

/-- What a base is called outside the modules, if it has a name and is not indexed. -/
def externalName? (t : Table) (s : Source) : Option String → Option String
  | none => none
  | some "object" => none
  | some dotted =>
    let qualified := s.qualify dotted
    if (findClass t qualified).isSome then none
    else if !qualified.toList.contains '.' && builtinNames.contains qualified then
      some (builtins ++ "." ++ qualified)
    else some qualified

/-- The first base outside the modules depends on the names of the bases alone, too. -/
theorem externalBase_eq_findSome? (t : Table) (c : ClassRef) : externalBase t c =
    (c.cls.bases.map Expr.dotted?).findSome? (externalName? t c.source) := by
  rw [externalBase, List.findSome?_map]
  rfl

theorem isSome_findClass_eq (ht : t.Alike changed t') (qualified : String) :
    (findClass t qualified).isSome = (findClass t' qualified).isSome := by
  have hClass := rel_findClass ht qualified
  generalize findClass t qualified = k, findClass t' qualified = k' at hClass ⊢
  cases hClass <;> rfl

theorem externalBase_eq (ht : t.Alike changed t') (h : c.Alike changed c') (hNot : ¬changed c) :
    externalBase t c = externalBase t' c' := by
  have hName : externalName? t c.source = externalName? t' c'.source := by
    funext base
    unfold externalName?
    simp only [h.source.qualify_eq, isSome_findClass_eq ht]
  have hNames : c.cls.SameNames c'.cls := h.names.resolve_left hNot
  rw [externalBase_eq_findSome?, externalBase_eq_findSome?, ← hNames, hName]

/-! ## Targets -/

/-- The classes that a look-up of a constructor asks for their bases. -/
def constructorAsked (t : Table) (c : ClassRef) : List ClassRef :=
  if (c.methods initName).isEmpty then c :: findAsked t (projectBases t c) initName else []

theorem constructorOf_eq (ht : t.Alike changed t') (h : c.Alike changed c') (argCount : Nat)
    (hAsked : ∀ k ∈ constructorAsked t c, ¬changed k) :
    constructorOf t c argCount = constructorOf t' c' argCount := by
  have hOwn := forall₂_methods h initName
  rw [constructorAsked] at hAsked
  rw [constructorOf, constructorOf]
  generalize c.methods initName = fs, c'.methods initName = fs' at hOwn hAsked ⊢
  cases hOwn with
  | cons hf hfs => exact congrArg Except.ok (map_targetOf_pick h.source argCount (.cons hf hfs))
  | nil =>
    obtain ⟨hNot, hAbove⟩ := List.forall_mem_cons.mp hAsked
    have hFound := rel_findMethod ht (forall₂_projectBases ht h hNot) initName argCount hAbove
    have hCount := map_eq_of_rel (f := (·.2.paramCount)) (g := (·.2.paramCount)) hFound
      fun _ _ hx => by rw [hx.2.rest]
    have hHandle := map_eq_of_rel (f := fun x => FunctionRef.mk x.1.number x.2.number)
      (g := fun x => FunctionRef.mk x.1.number x.2.number) hFound fun _ _ hx => by
        rw [hx.1.declares.rest, hx.2.rest]
    have hDataclass : c'.cls.isDataclass = c.cls.isDataclass := by rw [h.cls.rest]; rfl
    have hPath : c'.source.path = c.source.path := by rw [h.source.declares.rest]
    have hLine : c'.cls.line = c.cls.line := by rw [h.cls.rest]
    dsimp only
    rw [hDataclass, h.cls.fieldCount_eq, hCount, h.fullName_eq, hPath, hLine, hHandle]

/-- The classes that the look-up of a method in a class asks for their bases. -/
def methodAsked (t : Table) (c : ClassRef) (name : String) : List ClassRef :=
  if name = initName then constructorAsked t c else findAsked t [c] name

theorem methodOf_eq (ht : t.Alike changed t') (h : c.Alike changed c') (name : String) (argCount : Nat)
    (hAsked : ∀ k ∈ methodAsked t c name, ¬changed k) :
    methodOf t c name argCount = methodOf t' c' name argCount := by
  rw [methodAsked] at hAsked
  rw [methodOf, methodOf]
  split
  · rw [if_pos ‹_›] at hAsked
    exact constructorOf_eq ht h argCount hAsked
  · rw [if_neg ‹_›] at hAsked
    have hFound := rel_findMethod ht (.cons h .nil) name argCount hAsked
    have hBase : findMethod t [c] name argCount = none → externalBase t c = externalBase t' c' := by
      intro hNone
      exact externalBase_eq ht h (hAsked c (mem_findAsked_of_findMethod hNone))
    generalize findMethod t [c] name argCount = x, findMethod t' [c'] name argCount = x' at hFound hBase ⊢
    cases hFound with
    | none => rw [hBase rfl]
    | some hx => exact congrArg (Except.ok ∘ some) (targetOf_eq hx.1 hx.2)

/-- The classes that a look-up above a class asks for their bases. -/
def inheritedAsked (t : Table) (c : ClassRef) (name : String) (argCount : Nat) : List ClassRef :=
  c :: findAsked t (projectBases t c) name ++
    if name = initName ∧ (findMethod t (projectBases t c) name argCount).isNone then
      (projectBases t c).head?.toList.flatMap (constructorAsked t)
    else []

theorem inheritedMethod_eq (ht : t.Alike changed t') (h : c.Alike changed c') (name : String)
    (argCount : Nat) (hAsked : ∀ k ∈ inheritedAsked t c name argCount, ¬changed k) :
    inheritedMethod t c name argCount = inheritedMethod t' c' name argCount := by
  rw [inheritedAsked, List.forall_mem_append, List.forall_mem_cons] at hAsked
  obtain ⟨⟨hNot, hAbove⟩, hFirst⟩ := hAsked
  have hBases := forall₂_projectBases ht h hNot
  have hFound := rel_findMethod ht hBases name argCount hAbove
  rw [inheritedMethod, inheritedMethod]
  generalize findMethod t (projectBases t c) name argCount = x,
    findMethod t' (projectBases t' c') name argCount = x' at hFound hFirst ⊢
  cases hFound with
  | some hx => exact congrArg (Except.ok ∘ some) (targetOf_eq hx.1 hx.2)
  | none =>
    have hHead := rel_head? hBases
    dsimp only
    by_cases hInit : name = initName
    · rw [if_pos ⟨hInit, rfl⟩] at hFirst
      rw [if_pos hInit, if_pos hInit]
      generalize (projectBases t c).head? = b, (projectBases t' c').head? = b' at hHead hFirst ⊢
      cases hHead with
      | none =>
        dsimp only
        rw [externalBase_eq ht h hNot]
      | some hb => exact constructorOf_eq ht hb argCount (by simpa using hFirst)
    · rw [if_neg hInit, if_neg hInit, externalBase_eq ht h hNot]

/-- The classes that the look-up of a member asks for their bases. -/
def memberAsked (t : Table) (c : ClassRef) (names : List String) : List ClassRef :=
  match names.getLast? with
  | none => constructorAsked t c
  | some last =>
    match nestedClass c names.dropLast with
    | none => []
    | some d =>
      match nestedClass d [last] with
      | some e => constructorAsked t e
      | none => methodAsked t d last

theorem memberOf_eq (ht : t.Alike changed t') (h : c.Alike changed c') (names : List String)
    (argCount : Nat) (hAsked : ∀ k ∈ memberAsked t c names, ¬changed k) :
    memberOf t c names argCount = memberOf t' c' names argCount := by
  rw [memberAsked] at hAsked
  rw [memberOf, memberOf]
  generalize names.getLast? = last at hAsked ⊢
  cases last with
  | none => exact constructorOf_eq ht h argCount hAsked
  | some last =>
    have hAround := rel_nestedClass h names.dropLast
    dsimp only at hAsked ⊢
    generalize nestedClass c names.dropLast = d, nestedClass c' names.dropLast = d' at hAround hAsked ⊢
    cases hAround with
    | none => rfl
    | @some d d' hd =>
      have hInner := rel_nestedClass hd [last]
      dsimp only at hAsked ⊢
      generalize nestedClass d [last] = e, nestedClass d' [last] = e' at hInner hAsked ⊢
      cases hInner with
      | none => exact methodOf_eq ht hd last argCount hAsked
      | some he => exact constructorOf_eq ht he argCount hAsked

/-- The classes that the look-up of a dotted name asks for their bases. -/
def nameAskedWithin (t : Table) : Nat → String → List ClassRef
  | hops, qualified =>
    match splitModule t qualified with
    | some (s, head :: rest) =>
      match if rest.isEmpty then s.functions.lookup head else none with
      | some _ => []
      | none =>
        match s.topClass? head with
        | some c => memberAsked t c rest
        | none =>
          match hops, s.imports.lookup head with
          | hops + 1, some i => nameAskedWithin t hops (Text.join "." (i.target :: rest))
          | _, _ => []
    | _ => []

theorem resolveNameWithin_eq (ht : t.Alike changed t') (argCount hops : Nat) (qualified : String)
    (hAsked : ∀ k ∈ nameAskedWithin t hops qualified, ¬changed k) :
    resolveNameWithin t argCount hops qualified = resolveNameWithin t' argCount hops qualified := by
  fun_induction resolveNameWithin t argCount hops qualified with
  | case1 hops q hSplit =>
    have hSplit' := eq_none_of_rel (hSplit ▸ rel_splitModule ht q)
    rw [resolveNameWithin, hSplit']
  | case2 hops q s hSplit =>
    obtain ⟨s', hSplit', -⟩ := exists_splitModule ht hSplit
    rw [resolveNameWithin, hSplit']
  | case3 hops q s head rest hSplit numbers hFunctions =>
    obtain ⟨s', hSplit', hs⟩ := exists_splitModule ht hSplit
    rw [← hs.functions_eq] at hFunctions
    rw [resolveNameWithin]
    simp only [hSplit', hFunctions]
    exact congrArg Except.ok (map_targetOf_pick hs argCount (hs.forall₂_functions numbers))
  | case4 hops q s head rest hSplit hNot c hTop =>
    obtain ⟨s', hSplit', hs⟩ := exists_splitModule ht hSplit
    obtain ⟨c', hTop', hc⟩ := exists_of_rel_some (hTop ▸ rel_topClass? hs head)
    rw [nameAskedWithin] at hAsked
    simp only [hSplit, hNot, hTop] at hAsked
    rw [← hs.functions_eq] at hNot
    rw [resolveNameWithin]
    simp only [hSplit', hNot, hTop']
    exact memberOf_eq ht hc rest argCount hAsked
  | case5 q s head rest hSplit hNot hTop hops i hImport ih =>
    obtain ⟨s', hSplit', hs⟩ := exists_splitModule ht hSplit
    have hTop' := eq_none_of_rel (hTop ▸ rel_topClass? hs head)
    rw [nameAskedWithin.eq_def] at hAsked
    simp only [hSplit, hNot, hTop, hImport] at hAsked
    rw [← hs.functions_eq] at hNot
    rw [← hs.imports_eq] at hImport
    rw [resolveNameWithin.eq_def t']
    simp only [hSplit', hNot, hTop', hImport]
    exact ih hAsked
  | case6 hops q s head rest hSplit hNot hTop hEnd =>
    obtain ⟨s', hSplit', hs⟩ := exists_splitModule ht hSplit
    have hTop' := eq_none_of_rel (hTop ▸ rel_topClass? hs head)
    rw [← hs.functions_eq] at hNot
    rw [resolveNameWithin]
    simp only [hSplit', hNot, hTop', hs.imports_eq]

/-- The classes that the look-up of a dotted name asks for their bases. -/
def nameAsked (t : Table) (qualified : String) : List ClassRef := nameAskedWithin t maxHops qualified

theorem resolveName_eq (ht : t.Alike changed t') (qualified : String) (argCount : Nat)
    (hAsked : ∀ k ∈ nameAsked t qualified, ¬changed k) :
    resolveName t qualified argCount = resolveName t' qualified argCount :=
  resolveNameWithin_eq ht argCount maxHops qualified hAsked

end Lookups

/-! ## Calls -/

namespace Caller

/-- Two functions correspond in modules with changed classes. What is bound in them does not depend on
bases. -/
structure Alike (changed : ClassRef → Prop) (c c' : Caller) : Prop where
  source : c.source.Alike changed c'.source
  function : c.function.Rebased c'.function
  locals : c.function.locals = c'.function.locals

/-- The classes that the look-up of an attribute's type asks for their bases. -/
def attributeAsked (t : Table) (attr : String) : Nat → ClassRef → List ClassRef
  | 0, _ => []
  | fuel + 1, k =>
    match k.cls.attributes.lookup attr with
    | some _ => []
    | none => k :: ((projectBases t k).head?.map (attributeAsked t attr fuel)).getD []

/-- The classes that the look-up of a receiver's type asks for their bases. -/
def receiverAsked (t : Table) (c : Caller) : Expr → List ClassRef
  | .attribute value attr =>
    if c.isSelf value then (c.cls?.map (attributeAsked t attr (chainBound t))).getD [] else []
  | _ => []

/-- The classes that the look-up of a method call on a dotted name asks for their bases. -/
def dottedAsked (t : Table) (c : Caller) (func : Expr) : List ClassRef :=
  match func.dotted?.bind (Text.cutFirst '.') with
  | none => []
  | some (head, rest) => ((c.qualifyHead false head).map fun q => nameAsked t (q ++ "." ++ rest)).getD []

/-- The classes that the look-up of a call asks for their bases. -/
def asked (t : Table) (c : Caller) (call : Call) : List ClassRef :=
  match call.func with
  | .name id _ => ((c.qualifyHead true id).map (nameAsked t)).getD []
  | .attribute receiver attr =>
    if receiver.isSuperCall then (c.cls?.map fun k => inheritedAsked t k attr call.argCount).getD []
    else if c.isSelf receiver then (c.cls?.map fun k => methodAsked t k attr).getD []
    else c.receiverAsked t receiver ++
      match c.receiverType t receiver with
      | some type => nameAsked t (type ++ "." ++ attr)
      | none => c.dottedAsked t call.func
  | _ => []

section Alike

variable {changed : ClassRef → Prop} {t t' : Table} {c c' : Caller}

theorem Alike.rel_cls? (h : c.Alike changed c') :
    Option.Rel (ClassRef.Alike changed) c.cls? c'.cls? := by
  have hOwner : c'.function.owner = c.function.owner := by rw [h.function.rest]
  rw [cls?, cls?, hOwner]
  exact rel_map (h.source.bind_class? _) fun _ _ hk => hk

theorem Alike.isSelf_eq (h : c.Alike changed c') : c'.isSelf = c.isSelf := by
  have hSelf : c'.function.selfName = c.function.selfName := by rw [h.function.rest]; rfl
  funext e
  cases e <;> simp only [isSelf, hSelf]

theorem Alike.qualifyHead_eq (h : c.Alike changed c') : c'.qualifyHead = c.qualifyHead := by
  funext withBuiltins name
  rw [qualifyHead, qualifyHead, h.locals, h.source.qualifyName_eq]

theorem attributeType_eq (ht : t.Alike changed t') (attr : String) (fuel : Nat) {k k' : ClassRef}
    (h : k.Alike changed k') (hAsked : ∀ b ∈ attributeAsked t attr fuel k, ¬changed b) :
    attributeType t attr fuel k = attributeType t' attr fuel k' := by
  induction fuel generalizing k k' with
  | zero => rw [attributeType, attributeType]
  | succ fuel ih =>
    have hAttributes : k'.cls.attributes = k.cls.attributes := by rw [h.cls.rest]
    rw [attributeAsked] at hAsked
    rw [attributeType, attributeType, hAttributes]
    generalize k.cls.attributes.lookup attr = e at hAsked ⊢
    cases e with
    | some e => exact (typeName_eq ht h.source e).symm
    | none =>
      obtain ⟨hNot, hAbove⟩ := List.forall_mem_cons.mp hAsked
      have hHead := rel_head? (forall₂_projectBases ht h hNot)
      dsimp only
      generalize (projectBases t k).head? = b, (projectBases t' k').head? = b' at hHead hAbove ⊢
      cases hHead with
      | none => rw [Option.bind_none, Option.bind_none]
      | some hb =>
        rw [Option.bind_some, Option.bind_some]
        exact ih hb hAbove

theorem chainBound_eq (ht : t.Alike changed t') : chainBound t = chainBound t' := by
  rw [chainBound, chainBound, ht.allClasses.length_eq]

theorem receiverType_eq (ht : t.Alike changed t') (h : c.Alike changed c') (receiver : Expr)
    (hAsked : ∀ k ∈ c.receiverAsked t receiver, ¬changed k) :
    c.receiverType t receiver = c'.receiverType t' receiver := by
  have hType : typeName t' c'.source = typeName t c.source := funext (typeName_eq ht h.source)
  have hVariables := variableTypes_eq h.function
  cases receiver with
  | name id _ => simp only [receiverType, hType, hVariables]
  | call _ func _ _ => simp only [receiverType, hType]
  | «attribute» value attr =>
    have hClass := h.rel_cls?
    rw [receiverAsked] at hAsked
    rw [receiverType, receiverType, h.isSelf_eq, ← chainBound_eq ht]
    split
    · rw [if_pos ‹_›] at hAsked
      generalize c.cls? = k, c'.cls? = k' at hClass hAsked ⊢
      cases hClass with
      | none => rw [Option.bind_none, Option.bind_none]
      | some hk =>
        rw [Option.bind_some, Option.bind_some]
        exact attributeType_eq ht attr _ hk hAsked
    · rfl
  | _ => rfl

theorem dottedTarget_eq (ht : t.Alike changed t') (h : c.Alike changed c') (func : Expr) (argCount : Nat)
    (hAsked : ∀ k ∈ c.dottedAsked t func, ¬changed k) :
    c.dottedTarget t func argCount = c'.dottedTarget t' func argCount := by
  rw [dottedAsked] at hAsked
  rw [dottedTarget, dottedTarget, h.qualifyHead_eq]
  generalize func.dotted?.bind (Text.cutFirst '.') = parts at hAsked ⊢
  cases parts with
  | none => rfl
  | some parts =>
    obtain ⟨head, rest⟩ := parts
    dsimp only at hAsked ⊢
    generalize c.qualifyHead false head = q at hAsked ⊢
    cases q with
    | none => rfl
    | some q => exact resolveName_eq ht _ argCount hAsked

/-- A call leads to the same if the classes that its look-up asks keep the names of their bases. -/
theorem resolve_eq (ht : t.Alike changed t') (h : c.Alike changed c') (call : Call)
    (hAsked : ∀ k ∈ c.asked t call, ¬changed k) : c.resolve t call = c'.resolve t' call := by
  have hClass := h.rel_cls?
  rw [asked] at hAsked
  rw [resolve, resolve]
  cases hFunc : call.func with
  | name id _ =>
    simp only [hFunc] at hAsked
    dsimp only
    rw [h.qualifyHead_eq]
    generalize c.qualifyHead true id = q at hAsked ⊢
    cases q with
    | none => rfl
    | some q => exact resolveName_eq ht q _ hAsked
  | «attribute» receiver attr =>
    simp only [hFunc] at hAsked
    dsimp only
    rw [h.isSelf_eq]
    split
    · rw [if_pos ‹_›] at hAsked
      generalize c.cls? = k, c'.cls? = k' at hClass hAsked ⊢
      cases hClass with
      | none => rfl
      | some hk => exact inheritedMethod_eq ht hk attr _ hAsked
    · rw [if_neg ‹_›] at hAsked
      split
      · rw [if_pos ‹_›] at hAsked
        generalize c.cls? = k, c'.cls? = k' at hClass hAsked ⊢
        cases hClass with
        | none => rfl
        | some hk => exact methodOf_eq ht hk attr _ hAsked
      · rw [if_neg ‹_›, List.forall_mem_append] at hAsked
        obtain ⟨hReceiver, hOnward⟩ := hAsked
        rw [← receiverType_eq ht h receiver hReceiver]
        generalize c.receiverType t receiver = type at hOnward ⊢
        cases type with
        | none => exact dottedTarget_eq ht h _ _ hOnward
        | some type => exact resolveName_eq ht _ _ hOnward
  | _ => rfl

end Alike

end Caller

end CodeAtlas.Module
