import CodeAtlas.Proofs.Compilation.Fields

/-!
# Units without their trees

What a name stands for and what a method refers to depends on what has been declared, but not on the
trees and the lines that the declarations have been read from. Every lookup in units without these finds
what it finds in the units, without these.

* `Table.ofSources_bare`: the types of all units without trees.
* `findType_bare`, `hierarchy_bare`, `findMethod_bare`: the lookups.
-/

namespace CodeAtlas.Compilation

/-! ## Declarations without trees -/

/-- A tree that says nothing. -/
def Node.blank : Node := .branch .plain .other []

/-- A type without the place that it was read from. -/
def TypeDecl.bare (t : TypeDecl) : TypeDecl := { t with line := 0, node := .blank }

/-- A method without the place that it was read from. -/
def Callable.bare (c : Callable) : Callable := { c with line := 0, node := .blank }

/-- A unit without its tree. -/
def Source.bare (s : Source) : Source :=
  { s with
    tree := .blank
    allTypes := s.allTypes.map TypeDecl.bare
    declarations := s.declarations.map Callable.bare }

def TypeRef.bare (t : TypeRef) : TypeRef := ⟨t.source.bare, t.decl.bare⟩

def Found.bare : Found → Found
  | .declared t => .declared t.bare
  | .outside name => .outside name

def Table.bare (table : Table) : Table :=
  ⟨table.sources.map Source.bare, table.types.map fun x => (x.1, x.2.bare)⟩

/-- A target without its line. -/
def Target.bare (m : Target) : Target := { m with line := none }

variable {table : Table}

/-! ## Types of a unit -/

namespace Source

variable (s : Source)

@[simp] theorem type?_bare (n : Nat) : s.bare.type? n = (s.type? n).map TypeDecl.bare :=
  List.getElem?_map ..

@[simp] theorem callable?_bare (n : Nat) : s.bare.callable? n = (s.callable? n).map Callable.bare :=
  List.getElem?_map ..

@[simp] theorem fullName_bare (t : TypeDecl) : s.bare.fullName t.bare = s.fullName t := rfl

@[simp] theorem ownerName_bare (c : Callable) : s.bare.ownerName c.bare = s.ownerName c := by
  rw [ownerName, ownerName, type?_bare, Option.map_map]
  rfl

theorem typesUnder_bare (depth : Nat) (names : List (String × Nat)) :
    s.bare.typesUnder depth names = (s.typesUnder depth names).map TypeDecl.bare := by
  induction depth generalizing names with
  | zero => rfl
  | succ depth ih =>
    simp only [typesUnder, List.map_flatMap, type?_bare]
    refine List.flatMap_congr fun x _ => ?_
    cases s.type? x.2 with
    | none => rfl
    | some t => exact congrArg (t.bare :: ·) (ih t.nested)

theorem heldTypes_bare : s.bare.heldTypes = s.heldTypes.map TypeDecl.bare := by
  have hLength : s.bare.allTypes.length = s.allTypes.length := List.length_map ..
  rw [heldTypes, heldTypes, hLength, typesUnder_bare]
  rfl

theorem entries_bare : s.bare.entries = s.entries.map fun x => (x.1, x.2.bare) := by
  rw [entries, entries, heldTypes_bare, List.map_map, List.map_map]
  rfl

end Source

theorem Table.ofSources_bare (sources : List Source) :
    ofSources (sources.map Source.bare) = (ofSources sources).bare := by
  rw [ofSources, ofSources, Table.bare, List.flatMap_map, List.map_flatMap]
  simp only [Source.entries_bare]

theorem Table.lookup_bare (table : Table) (name : String) :
    table.bare.types.lookup name = (table.types.lookup name).map TypeRef.bare :=
  Assoc.lookup_map ..

/-! ## Types around a type -/

namespace TypeRef

variable (t : TypeRef)

@[simp] theorem same_bare (u : TypeRef) : t.bare.same u.bare = t.same u := rfl

@[simp] theorem sibling?_bare (n : Nat) : t.bare.sibling? n = (t.sibling? n).map bare := by
  simp only [sibling?, bare, Source.type?_bare, Option.map_map]
  rfl

@[simp] theorem nested?_bare (name : String) : t.bare.nested? name = (t.nested? name).map bare := by
  rw [nested?, nested?, Option.map_bind]
  exact congrArg _ (funext t.sibling?_bare)

theorem descend?_bare (names : List String) :
    t.bare.descend? names = (t.descend? names).map bare := by
  induction names generalizing t with
  | nil => rfl
  | cons name names ih =>
    rw [descend?, descend?, nested?_bare, Option.map_bind, Option.bind_map]
    exact congrArg _ (funext ih)

theorem outer_bare : t.bare.decl.outer.bind t.bare.sibling? =
    (t.decl.outer.bind t.sibling?).map bare := by
  rw [Option.map_bind]
  exact congrArg _ (funext t.sibling?_bare)

theorem aroundWithin_bare (depth : Nat) :
    t.bare.aroundWithin depth = (t.aroundWithin depth).map bare := by
  induction depth generalizing t with
  | zero => rfl
  | succ depth ih =>
    rw [aroundWithin, aroundWithin, outer_bare, List.map_cons]
    cases t.decl.outer.bind t.sibling? with
    | none => rfl
    | some u => exact congrArg (t.bare :: ·) (ih u)

theorem around_bare : t.bare.around = t.around.map bare := by
  have hLength : t.bare.source.allTypes.length = t.source.allTypes.length := List.length_map ..
  rw [around, around, hLength, aroundWithin_bare]

end TypeRef

/-! ## Names -/

theorem scopedType_bare (context : TypeRef) (name : String) :
    scopedType context.bare name = (scopedType context name).map TypeRef.bare := by
  rw [scopedType, scopedType, TypeRef.around_bare, List.findSome?_map, List.map_findSome?]
  refine congrArg (List.findSome? · _) (funext fun t => ?_)
  have hName : t.bare.decl.name = t.decl.name := rfl
  simp only [Function.comp_apply, TypeRef.nested?_bare, hName]
  split <;> rfl

theorem wildcardType_bare (table : Table) (s : Source) (name : String) :
    wildcardType table.bare s.bare name = (wildcardType table s name).map TypeRef.bare := by
  rw [wildcardType, wildcardType, List.map_findSome?]
  exact congrArg (List.findSome? · _) (funext fun w => table.lookup_bare _)

theorem named_bare (table : Table) (name : String) :
    named table.bare name = (named table name).bare := by
  rw [named, named, Table.lookup_bare]
  cases table.types.lookup name <;> rfl

theorem nearby_bare (t : TypeRef) (name : String) :
    nearby t.bare name = (nearby t name).map TypeRef.bare := by
  rw [nearby, nearby, Option.map_or, scopedType_bare, Option.map_bind]
  exact congrArg _ (congrArg _ (funext t.sibling?_bare))

theorem beyond_bare (table : Table) (s : Source) (name : String) :
    beyond table.bare s.bare name = (beyond table s name).bare := by
  have hPackage : (table.bare.types.lookup (s.bare.inPackage name)).or
      (wildcardType table.bare s.bare name) =
      ((table.types.lookup (s.inPackage name)).or (wildcardType table s name)).map TypeRef.bare := by
    rw [Option.map_or, ← Table.lookup_bare, wildcardType_bare]
    rfl
  have hImports : s.bare.imports = s.imports := rfl
  rw [beyond, beyond, hPackage, hImports]
  cases s.imports.lookup name with
  | some fullName => exact named_bare table fullName
  | none => cases (table.types.lookup (s.inPackage name)).or (wildcardType table s name) <;> rfl

theorem findSimple_bare (table : Table) (t : TypeRef) (name : String) :
    findSimple table.bare t.bare name = (findSimple table t name).bare := by
  rw [findSimple_eq, findSimple_eq, nearby_bare]
  cases nearby t name with
  | some u => rfl
  | none => exact beyond_bare table t.source name

theorem declared?_bare (f : Found) : f.bare.declared? = f.declared?.map TypeRef.bare := by
  cases f <;> rfl

theorem outside?_bare (f : Found) : f.bare.outside? = f.outside? := by
  cases f <;> rfl

theorem findType_bare (table : Table) (context : TypeRef) (text : String) :
    findType table.bare context.bare text = (findType table context text).map Found.bare := by
  simp only [findType, findSimple_bare, Table.lookup_bare, declared?_bare]
  split
  · rfl
  · cases Text.cutFirst '.' (elementType text) with
    | none => rfl
    | some parts =>
      obtain ⟨head, rest⟩ := parts
      cases table.types.lookup (elementType text) with
      | some t => rfl
      | none =>
        dsimp only [Option.map_none]
        have hStart : (if head = "" then none else
            (findSimple table context (elementType head)).declared?.map TypeRef.bare).bind
              (·.descend? (Text.splitAt '.' rest)) =
            ((if head = "" then none else (findSimple table context (elementType head)).declared?).bind
              (·.descend? (Text.splitAt '.' rest))).map TypeRef.bare := by
          split
          · rfl
          · rw [Option.map_bind, Option.bind_map]
            exact congrArg _ (funext fun t => t.descend?_bare _)
        rw [hStart]
        cases (if head = "" then none else
          (findSimple table context (elementType head)).declared?).bind
            (·.descend? (Text.splitAt '.' rest)) <;> rfl

/-! ## Hierarchies -/

theorem superTypes_bare (table : Table) (t : TypeRef) :
    superTypes table.bare t.bare = (superTypes table t).map TypeRef.bare := by
  rw [superTypes, superTypes, List.map_filterMap]
  refine congrArg (List.filterMap · _) (funext fun name => ?_)
  rw [findType_bare, Option.bind_map, Option.map_bind]
  exact congrArg _ (funext declared?_bare)

theorem walkBound_bare (table : Table) (t : TypeRef) :
    walkBound table.bare t.bare = walkBound table t := by
  have hSupers : (table.bare.sources.flatMap (·.allTypes)).flatMap (·.supers) =
      (table.sources.flatMap (·.allTypes)).flatMap (·.supers) := by
    simp only [Table.bare, Source.bare, List.flatMap_map, List.flatMap_assoc]
    rfl
  simp only [walkBound, hSupers]
  rfl

theorem hierarchyFrom_bare (table : Table) (fuel : Nat) (seen stack : List TypeRef) :
    hierarchyFrom table.bare fuel (seen.map TypeRef.bare) (stack.map TypeRef.bare) =
      (hierarchyFrom table fuel seen stack).map TypeRef.bare := by
  induction fuel generalizing seen stack with
  | zero => rfl
  | succ fuel ih =>
    cases stack with
    | nil => rfl
    | cons t stack =>
      have hSeen : (seen.map TypeRef.bare).any t.bare.same = seen.any t.same := List.any_map
      rw [List.map_cons, hierarchyFrom, hierarchyFrom, hSeen, superTypes_bare, ← List.map_append,
        ← List.map_cons, ih, ih]
      split <;> rfl

theorem hierarchy_bare (table : Table) (t : TypeRef) :
    hierarchy table.bare t.bare = (hierarchy table t).map TypeRef.bare := by
  rw [hierarchy, walkBound_bare]
  exact hierarchyFrom_bare table _ [] [t]

/-! ## Methods -/

/-- Declarations with some numbers. -/
theorem filterMap_callable?_bare (s : Source) (numbers : List Nat) :
    numbers.filterMap s.bare.callable? = (numbers.filterMap s.callable?).map Callable.bare := by
  rw [List.map_filterMap]
  exact congrArg (List.filterMap · _) (funext s.callable?_bare)

theorem methods_bare (t : TypeRef) (name : String) :
    t.bare.methods name = (t.methods name).map Callable.bare :=
  filterMap_callable?_bare ..

theorem constructors_bare (t : TypeRef) : t.bare.constructors = t.constructors.map Callable.bare :=
  filterMap_callable?_bare ..

theorem pick_bare (k : Nat) (cs : List Callable) :
    pick k (cs.map Callable.bare) = (pick k cs).map Callable.bare := by
  rw [pick, pick, Option.map_or, List.find?_map, List.head?_map]
  rfl

theorem findMethod_bare (table : Table) (t : TypeRef) (name : String) (k : Nat) :
    findMethod table.bare t.bare name k =
      (findMethod table t name k).map fun x => (x.1.bare, x.2.bare) := by
  have hSome : ((fun u : TypeRef => !(u.methods name).isEmpty) ∘ TypeRef.bare) =
      fun u => !(u.methods name).isEmpty := by
    funext u
    rw [Function.comp_apply, methods_bare, List.isEmpty_map]
  rw [findMethod, findMethod, hierarchy_bare, List.find?_map, hSome, Option.bind_map, Option.map_bind]
  refine congrArg _ (funext fun u => ?_)
  simp only [Function.comp_apply, methods_bare, pick_bare, Option.map_map]
  rfl

theorem outsideSuper_bare (table : Table) (t : TypeRef) :
    outsideSuper table.bare t.bare = outsideSuper table t := by
  rw [outsideSuper, outsideSuper, hierarchy_bare, List.findSome?_map]
  refine congrArg (List.findSome? · _) (funext fun u => ?_)
  refine congrArg (List.findSome? · _) (funext fun name => ?_)
  rw [findType_bare, Option.bind_map]
  exact congrArg _ (funext outside?_bare)

theorem fieldType_bare (table : Table) (t : TypeRef) (name : String) :
    fieldType table.bare t.bare name = fieldType table t name := by
  rw [fieldType, fieldType, TypeRef.around_bare, List.findSome?_map]
  refine congrArg (List.findSome? · _) (funext fun u => ?_)
  rw [Function.comp_apply, hierarchy_bare, List.findSome?_map]
  rfl

/-! ## Targets -/

theorem targetOf_bare (s : Source) (c : Callable) :
    (targetOf s.bare c.bare).bare = (targetOf s c).bare := by
  simp only [targetOf, Target.bare, Source.ownerName_bare]
  rfl

theorem methodOf_bare (table : Table) (t : TypeRef) (name : String) (k : Nat) :
    (methodOf table.bare t.bare name k).map Target.bare =
      (methodOf table t name k).map Target.bare := by
  rw [methodOf, methodOf, findMethod_bare, outsideSuper_bare]
  cases findMethod table t name k with
  | none => rfl
  | some x => exact congrArg some (targetOf_bare x.1 x.2)

theorem enclosingMethod_bare (table : Table) (t : TypeRef) (name : String) (k : Nat) :
    (enclosingMethod table.bare t.bare name k).map Target.bare =
      (enclosingMethod table t name k).map Target.bare := by
  have hFound : t.bare.around.findSome? (findMethod table.bare · name k) =
      (t.around.findSome? (findMethod table · name k)).map fun x => (x.1.bare, x.2.bare) := by
    rw [TypeRef.around_bare, List.findSome?_map, List.map_findSome?]
    exact congrArg (List.findSome? · _) (funext fun u => findMethod_bare table u name k)
  rw [enclosingMethod, enclosingMethod, hFound, outsideSuper_bare]
  cases t.around.findSome? (findMethod table · name k) with
  | none => rfl
  | some x => exact congrArg some (targetOf_bare x.1 x.2)

theorem constructorOf_bare (t : TypeRef) (k : Nat) :
    (constructorOf t.bare k).bare = (constructorOf t k).bare := by
  rw [constructorOf, constructorOf, constructors_bare, pick_bare]
  cases pick k t.constructors with
  | none => rfl
  | some c => exact targetOf_bare t.source c

theorem methodAt_bare (table : Table) (name : String) (k : Nat) (f : Found) :
    (methodAt table.bare name k f.bare).map Target.bare =
      (methodAt table name k f).map Target.bare := by
  cases f with
  | declared t => exact methodOf_bare table t name k
  | outside typeName => rfl

theorem constructorAt_bare (k : Nat) (f : Found) :
    (constructorAt k f.bare).bare = (constructorAt k f).bare := by
  cases f with
  | declared t => exact constructorOf_bare t k
  | outside typeName => rfl

end CodeAtlas.Compilation
