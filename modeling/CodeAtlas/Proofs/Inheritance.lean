import CodeAtlas.Proofs.Compilation.Hierarchy
import CodeAtlas.Proofs.Module.Hierarchy

/-!
# Inheritance

The types that a type extends and the classes above a class are searched in one order, in compilation
units as in modules: depth first, from left to right, and each once.

* `inheritanceSearched`: what the searches find, also where types extend one another in circles or one
  and the same type on two ways.
-/

namespace CodeAtlas

open CodeAtlas.Compilation (InOrder TypeRef superTypes hierarchy)
open CodeAtlas.Module (ClassRef Library projectBases Searched)

/-- How all that a type and a class extend is searched. -/
structure InheritanceSearched (sources : List Compilation.Source) (t : TypeRef) (l : Library)
    (c : ClassRef) (name : String) (argCount : Nat) : Prop where
  /-- The hierarchy of the type is one traversal from it on. -/
  hierarchy : Traversal (superTypes (Compilation.Table.ofSources sources)) [t]
    (hierarchy (Compilation.Table.ofSources sources) t)
  /-- Definitions are looked for in such an order in the class and all above it, and in those alone. -/
  own : ∃ order, Searched l.table [c] name argCount order
  above : ∃ order, Searched l.table (projectBases l.table c) name argCount order
  /-- Without the class itself one is found just if a class above it has some. -/
  above_iff : (Module.findMethod l.table (projectBases l.table c) name argCount).isSome = true ↔
    ∃ d, Relation.TransGen (fun a b => b ∈ projectBases l.table a) c d ∧ d.methods name ≠ []

/-- **Inheritance.** All that a type or a class extends is searched depth first. -/
theorem inheritanceSearched {sources : List Compilation.Source} {t : TypeRef} {l : Library}
    {c : ClassRef} (hOrder : InOrder sources) (ht : t.Known sources) (hSound : l.Sound)
    (hc : c.Known l.sources) (name : String) (argCount : Nat) :
    InheritanceSearched sources t l c name argCount := by
  obtain ⟨own, hOwn⟩ := Module.exists_traversal l.table [c]
  obtain ⟨above, hAbove⟩ := Module.exists_traversal l.table (projectBases l.table c)
  have hSearched : Searched l.table (projectBases l.table c) name argCount above :=
    Module.searched hSound hAbove (fun b hb => Module.known_projectBases hSound.table hb) name argCount
  exact ⟨(Compilation.depthFirst_hierarchy hOrder ht).traversal,
    ⟨own, Module.searched hSound hOwn (List.forall_mem_singleton.mpr hc) name argCount⟩,
    ⟨above, hSearched⟩, Module.isSome_findMethod_projectBases hSearched⟩

/-! ### Two ways and a circle -/

def circleUnits : List Compilation.Source := Compilation.readUnits [("D.java",
  "class D extends B implements C {} class B extends A {} interface C extends A {} class A extends D {}")]

def circleClass (line : Nat) (name : String) (bases : List String) (body : List Module.Stmt) :
    Module.Stmt := .classDef line name (bases.map (.name · false)) [] body []

def circleBody : List Module.Stmt :=
  [circleClass 1 "A" ["D"] [.function 2 "f" Module.echoParams [.plain []] [] none],
    circleClass 3 "B" ["A"] [.plain []], circleClass 4 "C" ["A"] [.plain []],
    circleClass 5 "D" ["B", "C"] [.plain []]]

theorem inheritanceSearched_circle : InOrder circleUnits ∧ (Module.soleLibrary circleBody).Sound ∧
    ∃ t c, t.Known circleUnits ∧ c.Known (Module.soleLibrary circleBody).sources ∧
      (hierarchy (Compilation.Table.ofSources circleUnits) t).map (·.fullName) =
        ["D", "B", "A", "C"] ∧
      (projectBases (Module.soleLibrary circleBody).table c).map (·.fullName) = ["m.B", "m.C"] ∧
      InheritanceSearched circleUnits t (Module.soleLibrary circleBody) c "f" 0 := by
  have hFound : ∃ t ∈ TypeRef.allKnown circleUnits,
      (hierarchy (Compilation.Table.ofSources circleUnits) t).map (·.fullName) =
        ["D", "B", "A", "C"] := by
    decide +kernel
  obtain ⟨t, ht, hOrder⟩ := hFound
  have hKnown := TypeRef.mem_allKnown.mp ht
  have hSound : (Module.soleLibrary circleBody).Sound :=
    ⟨rfl, List.forall_mem_singleton.mpr ⟨_, _, _, _, rfl⟩,
      List.forall_mem_singleton.mpr (List.mem_singleton_self _)⟩
  have hClass : ∃ c, (Module.soleSource circleBody).topClass? "D" = some c ∧
      (projectBases (Module.soleLibrary circleBody).table c).map (·.fullName) = ["m.B", "m.C"] := by
    refine ⟨_, rfl, ?_⟩
    cbv
  obtain ⟨c, hTop, hBases⟩ := hClass
  have hc : c.Known (Module.soleLibrary circleBody).sources :=
    Module.known_topClass (List.mem_singleton_self _) hTop
  have hOrdered : InOrder circleUnits := Compilation.inOrder_readUnits _
  exact ⟨hOrdered, hSound, t, c, hKnown, hc, hOrder, hBases,
    inheritanceSearched hOrdered hKnown hSound hc "f" 0⟩

end CodeAtlas
