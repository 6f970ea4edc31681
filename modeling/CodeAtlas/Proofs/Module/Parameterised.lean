import CodeAtlas.Proofs.Module.Asked
import CodeAtlas.Proofs.Module.Shadowing

/-!
# Bases with parameters

A class may extend another one with parameters in brackets. This is no dotted name, and such a base is
not followed: it does not matter which it is, and what it could lead to is not found through it.

* `basesReplaced`: a call leads to the same whatever stands there, unless a class that its look-up asks
  for its bases gets or loses the name of one.
-/

namespace CodeAtlas.Module

/-! ## Other bases -/

/-- Two tables lead from the same names to modules that differ only in bases. -/
def Table.Rebased (t t' : Table) : Prop :=
  List.Forall₂ (fun x x' => x.1 = x'.1 ∧ x.2.Rebased x'.2) t t'

/-- The classes of the modules that are not among the changed ones keep the names of their bases. -/
def Table.Keeps (changed : ClassRef → Prop) (t t' : Table) : Prop :=
  List.Forall₂ (fun x x' => x.2.Keeps changed x'.2) t t'

/-- Two functions of such modules differ only in bases of classes inside them, and bind the same. -/
structure Caller.Rebased (c c' : Caller) : Prop where
  source : c.source.Rebased c'.source
  function : c.function.Rebased c'.function
  locals : c.function.locals = c'.function.locals

/-- What it means for the calls of a function that other bases stand in place of some that are no dotted
names. -/
structure BasesReplaced (t t' : Table) (c c' : Caller) : Prop where
  /-- Nothing if these are no dotted names either: no parameter counts, nor what has the parameters. -/
  same : t.Keeps (fun _ => False) t' → c.source.Keeps (fun _ => False) c'.source →
    ∀ call, c.resolve t call = c'.resolve t' call
  /-- Nothing either, as for a plain name, if the look-up of a call asks no changed class for its bases. -/
  spared : ∀ changed, t.Keeps changed t' → c.source.Keeps changed c'.source → ∀ call,
    (∀ k ∈ c.asked t call, ¬changed k) → c.resolve t call = c'.resolve t' call

/-- **Bases with parameters.** A base that is no dotted name is not followed. -/
theorem basesReplaced {t t' : Table} {c c' : Caller} (ht : t.Rebased t') (hc : c.Rebased c') :
    BasesReplaced t t' c c' := by
  have hSpared (changed : ClassRef → Prop) (hKeeps : t.Keeps changed t')
      (hOwn : c.source.Keeps changed c'.source) (call : Call)
      (hAsked : ∀ k ∈ c.asked t call, ¬changed k) : c.resolve t call = c'.resolve t' call := by
    have hTable : t.Alike changed t' :=
      (forall₂_and ht hKeeps).imp fun _ _ hx => ⟨hx.1.1, hx.1.2.declares, hx.2⟩
    have hCaller : c.Alike changed c' := ⟨⟨hc.source.declares, hOwn⟩, hc.function, hc.locals⟩
    exact Caller.resolve_eq hTable hCaller call hAsked
  exact ⟨fun hKeeps hOwn call => hSpared _ hKeeps hOwn call fun _ _ => id, hSpared⟩

/-! ### A method of a base with a parameter -/

/-- A call of a method that only the base has. -/
def callOfInherited : Call := ⟨5, .attribute (.name "self" false) "m", [], []⟩

/-- A call of a method that the class has itself. -/
def callOfOwn : Call := ⟨6, .attribute (.name "self" false) "f", [], []⟩

def callingBody : List Stmt :=
  [.expr 5 (.call 5 callOfInherited.func [] []), .expr 6 (.call 6 callOfOwn.func [] [])]

def callingStmt : Stmt := .function 4 "f" (soleParams "self") callingBody [] none

def genericBody (base : Expr) : List Stmt :=
  [.classDef 1 "B" [] [] [.function 2 "m" (soleParams "self") [.plain []] [] none] [],
    .classDef 3 "C" [base] [] [callingStmt] []]

def genericTable (base : Expr) : Table := [("m", soleSource (genericBody base))]

def genericCaller (base : Expr) : Caller :=
  ⟨soleSource (genericBody base),
    functionOf 1 (some 1) 4 "f" (soleParams "self") callingBody [] (.stmt callingStmt)⟩

def plainBase : Expr := .name "B" false

def parameterisedBase : Expr := .subscript plainBase (.name "int" false)

theorem rebased_genericBody (base : Expr) :
    AllRebased (genericBody parameterisedBase) (genericBody base) :=
  .cons (.refl _) (.cons (.classDef (.cons (.inr rfl) .nil) (.refl _)) .nil)

theorem rebased_genericTable (base : Expr) :
    (genericTable parameterisedBase).Rebased (genericTable base) :=
  .cons ⟨rfl, .of 0 "m" "src/m.py" (rebased_genericBody base)⟩ .nil

theorem rebased_genericCaller (base : Expr) :
    (genericCaller parameterisedBase).Rebased (genericCaller base) :=
  ⟨.of 0 "m" "src/m.py" (rebased_genericBody base), ⟨rfl, .stmt (.refl _)⟩, rfl⟩

theorem basesReplaced_generic :
    (genericTable parameterisedBase).Rebased (genericTable plainBase) ∧
      (genericCaller parameterisedBase).Rebased (genericCaller plainBase) ∧
      BasesReplaced (genericTable parameterisedBase) (genericTable plainBase)
        (genericCaller parameterisedBase) (genericCaller plainBase) ∧
      (genericCaller parameterisedBase).resolve (genericTable parameterisedBase) callOfOwn =
        (genericCaller plainBase).resolve (genericTable plainBase) callOfOwn := by
  have hReplaced := basesReplaced (rebased_genericTable plainBase) (rebased_genericCaller plainBase)
  have hKeeps : (soleSource (genericBody parameterisedBase)).Keeps (fun k => k.cls.name = "C")
      (soleSource (genericBody plainBase)) := .cons (.inr rfl) (.cons (.inl rfl) .nil)
  have hAsked : (genericCaller parameterisedBase).asked (genericTable parameterisedBase) callOfOwn = [] := by
    cbv
  refine ⟨rebased_genericTable _, rebased_genericCaller _, hReplaced, ?_⟩
  exact hReplaced.spared _ (.cons hKeeps .nil) hKeeps callOfOwn (by simp [hAsked])

/-- With the parameter nothing is found for what the plain base has. -/
theorem not_unchanged_generic :
    (genericTable parameterisedBase).Rebased (genericTable plainBase) ∧
      (genericCaller parameterisedBase).Rebased (genericCaller plainBase) ∧
      (genericCaller parameterisedBase).function ∈ (genericCaller parameterisedBase).source.declarations ∧
      (genericCaller parameterisedBase).resolve (genericTable parameterisedBase) callOfInherited =
        .ok none ∧
      (genericCaller plainBase).resolve (genericTable plainBase) callOfInherited =
        .ok (some ⟨"m.B", "m", 0, false, true, some "src/m.py", some 2, some ⟨0, 0⟩⟩) :=
  ⟨rebased_genericTable _, rebased_genericCaller _, .tail _ (.head _), by cbv, by cbv⟩

end CodeAtlas.Module
