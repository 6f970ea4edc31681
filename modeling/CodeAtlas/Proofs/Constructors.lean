import CodeAtlas.Proofs.Compilation.Known
import CodeAtlas.Proofs.Module.Constructors

/-!
# Constructors that are not written

A class or type without a constructor of its own is shown with one. Its identity says how many parameters
it has, and would be that of a written constructor if these were those that it has at run time.

* `Compilation.generatedConstructor`: a type is shown with one without parameters, which is that of any
  type but a record with components.
* `constructorsImplied`: when they are, for classes of modules and for types of compilation units.
* `not_implied`: inherited fields and the components of records are not counted.
-/

namespace CodeAtlas

namespace Compilation

/-! ## Types -/

/-- Is the declaration one of a record? The first mark of a declaration says what it declares. -/
def Node.isRecord (n : Node) : Bool :=
  (n.children.find? (·.kind = .mark)).any (·.text = "record")

/-- The components of a record, which stand in brackets outside its body. -/
def Node.components (n : Node) : List Node :=
  (n.children.filter (·.role ≠ .body)).flatMap fun part =>
    part.children.filter fun p => p.kind = .parameter || p.kind = .variadic

/-- How many parameters the constructor has that the language generates. -/
def TypeRef.generatedCount (t : TypeRef) : Nat :=
  if t.decl.node.isRecord then t.decl.node.components.length else 0

/-- The constructor that is shown for a type without one of its own. -/
structure GeneratedConstructor (t : TypeRef) (argCount : Nat) : Prop where
  target : constructorOf t argCount =
    ⟨t.fullName, t.decl.name, 0, true, true, some t.source.path, some t.decl.line, none⟩
  /-- It has the parameters of the generated one just if the type is no record with components. -/
  right_iff : (constructorOf t argCount).arity = t.generatedCount ↔
    (t.decl.node.isRecord = true → t.decl.node.components = [])

theorem generatedConstructor {t : TypeRef} (hNone : t.constructors = []) (argCount : Nat) :
    GeneratedConstructor t argCount := by
  have hTarget : constructorOf t argCount =
      ⟨t.fullName, t.decl.name, 0, true, true, some t.source.path, some t.decl.line, none⟩ := by
    rw [constructorOf, hNone]
    rfl
  refine ⟨hTarget, ?_⟩
  rw [hTarget, TypeRef.generatedCount]
  split
  · rename_i hRecord
    simp only [hRecord, forall_const, ← List.length_eq_zero_iff]
    omega
  · rename_i hOther
    simp [hOther]

/-! ### Two components -/

def recordUnits : List Source := readUnits [("P.java", "record P(int x, int y) {} class Q {}")]

theorem exists_recordType : ∃ t ∈ TypeRef.allKnown recordUnits, t.fullName = "P" ∧ t.constructors = [] ∧
    t.generatedCount = 2 := by
  decide +kernel

end Compilation

/-! ## Classes and types -/

open CodeAtlas.Compilation (TypeRef GeneratedConstructor)
open CodeAtlas.Module (ClassRef Library ResolutionOrders Field Takes ImpliedConstructor projectBases
  findMethod initName implicitConstructor)

/-- Constructors of one type have the same identity just if they have as many parameters. -/
theorem Method.id_eq_iff {ι κ : Type} {m : Method ι} {m' : Method κ} (hType : m.typeName = m'.typeName)
    (hCtor : m.isConstructor = true) (hCtor' : m'.isConstructor = true) {n n' : Nat} (hn : m.arity = n)
    (hn' : m'.arity = n') : m.id = m'.id ↔ n = n' := by
  have hCount : m.id = m'.id ↔ toString m.arity = toString m'.arity := by
    simp only [Method.id, Method.identityName, hCtor, hCtor', hType, if_true]
    rw [String.append_left_inj, String.append_right_inj]
  rw [hCount, hn, hn']
  exact Nat.repr_inj

/-- The constructors that a class and a type without one of their own are shown with. -/
structure ConstructorsImplied (l : Library) (mro : ClassRef → List ClassRef) (c : ClassRef) (u : TypeRef)
    (argCount n : Nat) : Prop where
  /-- The orders of the classes say which fields the class has, and how many parameters. -/
  fields : ∀ x, ∃! o, Field mro c x o
  takes : ∀ k, Takes mro argCount c k ↔ k = n
  implied : ImpliedConstructor l.table mro c argCount n
  generated : GeneratedConstructor u argCount
  /-- The identity is that of a constructor that is written with the parameters, just if the count is
  right. -/
  sameId_iff : ∀ written : Module.Target, written.typeName = c.fullName → written.isConstructor = true →
    written.arity = n → (written.id = (implicitConstructor c (c.impliedCount l.table argCount)
      (findMethod l.table (projectBases l.table c) initName argCount)).id ↔
      c.impliedCount l.table argCount = n)
  sameTypeId_iff : ∀ written : Compilation.Target, written.typeName = u.fullName →
    written.isConstructor = true → written.arity = u.generatedCount →
    (written.id = (Compilation.constructorOf u argCount).id ↔
      (Compilation.constructorOf u argCount).arity = u.generatedCount)

/-- **Constructors.** What classes and types without a constructor are shown with. -/
theorem constructorsImplied {l : Library} {mro : ClassRef → List ClassRef} {c : ClassRef} {u : TypeRef}
    {argCount : Nat} (hSound : l.Sound) (hOrders : ResolutionOrders l.table mro c)
    (hNone : c.methods initName = [])
    (hPrinted : c.cls.isDataclass = true → ∀ f ∈ c.cls.fieldLines, f.hint.text?.isSome = true)
    (hType : u.constructors = []) : ∃ n, ConstructorsImplied l mro c u argCount n := by
  obtain ⟨n, hTakes⟩ := Module.exists_takes hOrders argCount
  refine ⟨n, ?_⟩
  constructor
  case fields =>
    intro x
    obtain ⟨o, hField⟩ := Module.exists_field hOrders x
    exact ⟨o, hField, fun o' hField' => hField'.functional hField⟩
  case takes => exact fun k => ⟨fun h => h.functional hTakes, fun h => h ▸ hTakes⟩
  case implied => exact Module.impliedConstructor hSound hOrders hNone hPrinted hTakes
  case generated => exact Compilation.generatedConstructor hType argCount
  case sameId_iff =>
    intro written hName hCtor hn
    rw [Method.id_eq_iff hName hCtor rfl hn rfl]
    exact eq_comm
  case sameTypeId_iff =>
    intro written hName hCtor hn
    have hTarget := (Compilation.generatedConstructor hType argCount).target
    rw [hTarget, Method.id_eq_iff hName hCtor rfl hn rfl]
    dsimp only
    omega

/-! ### A class with its own fields -/

theorem constructorsImplied_ownFields : ∃ a u, ResolutionOrders Module.fieldTable Module.basesBehind a ∧
    a.methods initName = [] ∧ u.constructors = [] ∧
    ConstructorsImplied (Module.soleLibrary Module.fieldBody) Module.basesBehind a u 2 2 ∧
    a.impliedCount Module.fieldTable 2 = 2 := by
  obtain ⟨a, b, c, h⟩ := Module.exists_fieldClasses
  obtain ⟨u, -, -, hType, -⟩ := Compilation.exists_recordType
  have hPrinted : ∀ f ∈ a.cls.fieldLines, f.hint.text?.isSome = true := by
    rw [h.fieldsAbove, List.forall_mem_map]
    intro name _
    cbv
  obtain ⟨n, hImplied⟩ := constructorsImplied Module.sound_fieldBody h.orders_a
    h.undeclared.1 (fun _ => hPrinted) hType
  obtain rfl : 2 = n := (hImplied.takes 2).mp (h.takes_a 2)
  obtain ⟨hRegular, hNames, -⟩ := Module.regular_of_intFields h.fieldsAbove (by decide)
  refine ⟨a, u, h.orders_a, h.undeclared.1, hType, hImplied, ?_⟩
  refine (hImplied.implied.made_iff h.made.1 hRegular).mpr fun x hx => ?_
  rw [hNames]
  exact (h.field_a_iff x).mp hx

/-- A class with three fields, two of them inherited, is shown with one parameter, one that inherits the
constructor for two fields with none, and a record of two components with none. -/
theorem not_implied :
    (∃ b, ResolutionOrders Module.fieldTable Module.basesBehind b ∧ b.methods initName = [] ∧
      b.cls.isDataclass = true ∧ Takes Module.basesBehind 3 b 3 ∧
      b.impliedCount Module.fieldTable 3 = 1) ∧
    (∃ c, ResolutionOrders Module.fieldTable Module.basesBehind c ∧ c.methods initName = [] ∧
      c.cls.isDataclass = false ∧ Takes Module.basesBehind 2 c 2 ∧
      c.impliedCount Module.fieldTable 2 = 0) ∧
    ∃ u : TypeRef, u.constructors = [] ∧ u.generatedCount = 2 ∧
      (Compilation.constructorOf u 2).arity = 0 := by
  obtain ⟨a, b, c, h⟩ := Module.exists_fieldClasses
  obtain ⟨u, -, -, hType, hCount⟩ := Compilation.exists_recordType
  refine ⟨⟨b, h.orders_of_base h.indexed.2.1 h.bases.2.1, h.undeclared.2.1, h.isDataclass.2, h.takes_b 3,
    (h.impliedCount 3).1⟩, ⟨c, h.orders_of_base h.indexed.2.2 h.bases.2.2, h.undeclared.2.2, h.made.2.2,
    h.takes_c 2, (h.impliedCount 2).2⟩, u, hType, hCount, ?_⟩
  rw [(Compilation.generatedConstructor hType 2).target]

end CodeAtlas
