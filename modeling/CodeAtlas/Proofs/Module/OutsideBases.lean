import CodeAtlas.Proofs.Module.Asked
import CodeAtlas.Proofs.Module.Hierarchy
import CodeAtlas.Proofs.Module.Shadowing
import CodeAtlas.Proofs.Text.Parts

/-!
# Bases outside the modules

A call on the object that no class of the hierarchy answers goes to a base that is not indexed, but only
to one of the class of the function itself: the classes above it are not asked for their bases.

* `outsideCall`: what such a call refers to, and when this is a method of a base in the hierarchy.
* `not_answered_far`: one class in between, and the call refers to nothing.
-/

namespace CodeAtlas.Module

/-! ## Bases -/

/-- The bases of a class that are written as dotted names and not indexed. -/
def outsideBases (t : Table) (c : ClassRef) : List String :=
  (c.cls.bases.map Expr.dotted?).filterMap (externalName? t c.source)

theorem externalBase_eq_head? (t : Table) (c : ClassRef) :
    externalBase t c = (outsideBases t c).head? := by
  rw [externalBase_eq_findSome?, outsideBases, List.head?_filterMap]

theorem externalName?_eq {t : Table} {s : Source} {d q : String} (hObject : d ≠ "object")
    (hQualified : s.qualify d = q) (hNone : findClass t q = none) (hDot : '.' ∈ q.toList) :
    externalName? t s (some d) = some q := by
  have hContains : q.toList.contains '.' = true := List.contains_iff_mem.mpr hDot
  unfold externalName?
  split
  · rename_i h
    cases h
  · rename_i h
    exact absurd (Option.some.inj h) hObject
  · rename_i h
    obtain rfl := Option.some.inj h
    simp only [hQualified, hNone, hContains, Option.isSome_none, Bool.false_eq_true, if_false,
      Bool.not_true, Bool.false_and]

/-- The class itself or one above it. -/
def Above (t : Table) : ClassRef → ClassRef → Prop :=
  Relation.ReflTransGen fun a b => b ∈ projectBases t a

/-! ## Calls -/

/-- The classes where a call on the object starts to look. -/
def startOf (t : Table) (c : ClassRef) (receiver : Expr) : List ClassRef :=
  if receiver.isSuperCall then projectBases t c else [c]

/-- No class among some classes and above them defines the name. -/
def NowhereDefined (t : Table) (start : List ClassRef) (name : String) : Prop :=
  ∀ b ∈ start, ∀ d, Above t b d → d.methods name = []

/-- In a method of the class, one of a name is called on its object or behind `super`. -/
structure Caller.CallsOwn (k : Caller) (c : ClassRef) (call : Call) (receiver : Expr) (name : String) :
    Prop where
  cls : k.cls? = some c
  func : call.func = .attribute receiver name
  receiver : receiver.isSuperCall = true ∨ k.isSelf receiver = true
  plain : name ≠ initName

/-- The call refers to a method of a base that is not indexed, of the class or of one above it. -/
def Caller.Answered (t : Table) (k : Caller) (c : ClassRef) (call : Call) (name : String) : Prop :=
  ∃ d b, Above t c d ∧ b ∈ outsideBases t d ∧
    k.resolve t call = .ok (some (external (b ++ "." ++ name) call.argCount false))

/-- What a call on the object refers to if no class that is searched defines the name. -/
structure OutsideCall (t : Table) (k : Caller) (c : ClassRef) (call : Call) (name : String) : Prop where
  /-- It is a method of the first base of the class itself that is not indexed. -/
  resolved : k.resolve t call = .ok ((outsideBases t c).head?.map fun b =>
    external (b ++ "." ++ name) call.argCount false)
  /-- It is one of a base in the hierarchy just if the class itself has such a base. -/
  answered_iff : k.Answered t c call name ↔ outsideBases t c ≠ []
  /-- So with a base somewhere in the hierarchy it is one of such a base, unless only classes above
  have any. -/
  holds_iff : ((∃ d, Above t c d ∧ outsideBases t d ≠ []) → k.Answered t c call name) ↔
    outsideBases t c ≠ [] ∨ ∀ d, Above t c d → outsideBases t d = []
  /-- A method of a base is one of its name outside the modules; what looks like a class is the
  constructor of a class inside the base. -/
  shown : ∀ b, b ≠ "" → '.' ∉ name.toList → external (b ++ "." ++ name) call.argCount false =
    if Text.startsUpper name then
      ⟨b ++ "." ++ name, initName, call.argCount, true, false, none, none, none⟩
    else ⟨b, name, call.argCount, false, false, none, none, none⟩

section Calls

variable {l : Library} {k : Caller} {c : ClassRef} {call : Call} {receiver : Expr} {name : String}

theorem findMethod_eq_none {start : List ClassRef} (hSound : l.Sound)
    (hStart : ∀ b ∈ start, b.Known l.sources)
    (hNone : NowhereDefined l.table start name) (argCount : Nat) :
    findMethod l.table start name argCount = none := by
  obtain ⟨order, hOrder⟩ := exists_traversal l.table start
  rw [← Option.not_isSome_iff_eq_none, (searched hSound hOrder hStart name argCount).isSome_iff]
  rintro ⟨d, hd, hMethods⟩
  obtain ⟨b, hb, hAbove⟩ := (hOrder.mem_iff d).mp hd
  exact hMethods (hNone b hb d hAbove)

/-- What no class defines is looked for among the bases of the class that are not indexed. -/
theorem Caller.CallsOwn.resolve_eq (hCall : k.CallsOwn c call receiver name)
    (hFound : findMethod l.table (startOf l.table c receiver) name call.argCount = none) :
    k.resolve l.table call = .ok ((externalBase l.table c).map fun b =>
      external (b ++ "." ++ name) call.argCount false) := by
  rw [Caller.resolve, hCall.func]
  dsimp only
  rw [startOf] at hFound
  split
  · rename_i hSuper
    rw [if_pos hSuper] at hFound
    simp only [hCall.cls, inheritedMethod, hFound, if_neg hCall.plain, decide_eq_false hCall.plain]
  · rename_i hSuper
    rw [if_neg hSuper] at hFound
    have hSelf := hCall.receiver.resolve_left hSuper
    simp only [hSelf, if_true, hCall.cls, methodOf, if_neg hCall.plain, hFound]

theorem external_member {b : String} (hb : b ≠ "") (hDot : '.' ∉ name.toList) (argCount : Nat) :
    external (b ++ "." ++ name) argCount false =
      if Text.startsUpper name then
        ⟨b ++ "." ++ name, initName, argCount, true, false, none, none, none⟩
      else ⟨b, name, argCount, false, false, none, none, none⟩ := by
  have hCut : Text.cutLast '.' (b ++ "." ++ name) = some (b, name) := Text.cutLast_append hDot
  have hAfter : Text.afterLast '.' (b ++ "." ++ name) = name := by
    rw [Text.afterLast, hCut]
    rfl
  have hBefore : Text.beforeLast '.' (b ++ "." ++ name) = b := by
    rw [Text.beforeLast, hCut]
    rfl
  simp only [external, hAfter, hBefore, if_neg hb]

/-- **Bases outside the modules.** A call on the object that no class defines goes to the bases of its
class alone. -/
theorem outsideCall (hSound : l.Sound) (hc : c.Known l.sources) (hCall : k.CallsOwn c call receiver name)
    (hNone : NowhereDefined l.table (startOf l.table c receiver) name) :
    OutsideCall l.table k c call name := by
  have hStart : ∀ b ∈ startOf l.table c receiver, b.Known l.sources := by
    intro b hb
    rw [startOf] at hb
    split at hb
    · exact known_projectBases hSound.table hb
    · obtain rfl := List.mem_singleton.mp hb
      exact hc
  have hResolved : k.resolve l.table call = .ok ((outsideBases l.table c).head?.map fun b =>
      external (b ++ "." ++ name) call.argCount false) := by
    rw [hCall.resolve_eq (findMethod_eq_none hSound hStart hNone _), externalBase_eq_head?]
  have hAnswered : k.Answered l.table c call name ↔ outsideBases l.table c ≠ [] := by
    constructor
    · rintro ⟨d, b, -, -, hTarget⟩ hEmpty
      rw [hResolved, hEmpty] at hTarget
      cases hTarget
    · intro hSome
      obtain ⟨b, bs, hBases⟩ := List.exists_cons_of_ne_nil hSome
      refine ⟨c, b, .refl, hBases ▸ List.mem_cons_self, ?_⟩
      rw [hResolved, hBases]
      rfl
  refine ⟨hResolved, hAnswered, ?_, fun b hb hDot => external_member hb hDot _⟩
  rw [hAnswered]
  constructor
  · intro h
    by_cases hSome : ∃ d, Above l.table c d ∧ outsideBases l.table d ≠ []
    · exact .inl (h hSome)
    · exact .inr fun d hd => by_contra fun hBases => hSome ⟨d, hd, hBases⟩
  · rintro (hOwn | hEmpty) ⟨d, hd, hBases⟩
    · exact hOwn
    · exact absurd (hEmpty d hd) hBases

end Calls

/-! ### A base outside, and a class in between -/

def outsideBase : Expr := .attribute (.name "ext" false) "Base"

def callOnSelf : Call := ⟨4, .attribute (.name "self" false) "m", [], []⟩

def callingStmts : List Stmt := [.expr 4 (.call 4 callOnSelf.func [] [])]

def callingMethod (line : Nat) (name : String) : Stmt :=
  .function line name (soleParams "self") callingStmts [] none

/-- A class with a base outside, and one with that class as its base. -/
def outsideBody : List Stmt :=
  [.imports [⟨"ext", none⟩], .classDef 2 "B" [outsideBase] [] [callingMethod 3 "f"] [],
    .classDef 5 "C" [.name "B" false] [] [callingMethod 6 "g"] []]

def outsideTable : Table := (soleLibrary outsideBody).table

/-- A method of one of the classes. -/
def outsideCaller (number line : Nat) (name : String) : Caller :=
  ⟨soleSource outsideBody,
    functionOf number (some number) line name (soleParams "self") callingStmts []
      (.stmt (callingMethod line name))⟩

theorem sound_outsideBody : (soleLibrary outsideBody).Sound :=
  ⟨rfl, List.forall_mem_singleton.mpr ⟨_, _, _, _, rfl⟩,
    List.forall_mem_singleton.mpr (List.mem_singleton_self _)⟩

/-- A class with the outside base has this base, and no class above it. -/
theorem bases_outside {c : ClassRef} (hSource : c.source = soleSource outsideBody)
    (hBases : c.cls.bases = [outsideBase]) :
    outsideBases outsideTable c = ["ext.Base"] ∧ projectBases outsideTable c = [] := by
  have hDotted : outsideBase.dotted? = some "ext.Base" := by decide
  have hQualified : c.source.qualify "ext.Base" = "ext.Base" := by
    rw [hSource]
    cbv
  have hNone : findClass outsideTable "ext.Base" = none := by cbv
  have hName : externalName? outsideTable c.source (some "ext.Base") = some "ext.Base" :=
    externalName?_eq (by decide) hQualified hNone (by decide)
  constructor
  · rw [outsideBases, hBases, List.map_cons, hDotted, List.filterMap_cons_some hName]
    rfl
  · simp only [projectBases, hBases, List.filterMap_cons, hDotted, Option.bind_some, hQualified, hNone,
      List.filterMap_nil]

/-- The classes of the module. -/
structure NearAndFar (near far : ClassRef) : Prop where
  nearCls : (outsideCaller 0 3 "f").cls? = some near
  farCls : (outsideCaller 1 6 "g").cls? = some far
  known : near.Known (soleLibrary outsideBody).sources ∧ far.Known (soleLibrary outsideBody).sources
  undefined : near.methods "m" = [] ∧ far.methods "m" = []
  outside : outsideBases outsideTable near = ["ext.Base"]
  above : projectBases outsideTable near = [] ∧ projectBases outsideTable far = [near]

theorem exists_nearAndFar : ∃ near far, NearAndFar near far := by
  have hTop : ∃ near far, (soleSource outsideBody).topClass? "B" = some near ∧
      (soleSource outsideBody).topClass? "C" = some far ∧ (outsideCaller 0 3 "f").cls? = some near ∧
      (outsideCaller 1 6 "g").cls? = some far ∧ near.methods "m" = [] ∧ far.methods "m" = [] ∧
      near.source = soleSource outsideBody ∧ far.source = soleSource outsideBody ∧
      near.cls.bases = [outsideBase] ∧ far.cls.bases = [.name "B" false] :=
    ⟨_, _, rfl, rfl, rfl, rfl, rfl, rfl, rfl, rfl, rfl, rfl⟩
  obtain ⟨near, far, hNear, hFar, hNearCls, hFarCls, hMethods, hMethods', hSource, hSource', hBases,
    hBases'⟩ := hTop
  obtain ⟨hOutside, hProject⟩ := bases_outside hSource hBases
  have hFarBase : projectBases outsideTable far = [near] := by
    have hDotted : (Expr.name "B" false).dotted? = some "B" := by decide
    have hQualified : far.source.qualify "B" = "m.B" := by
      rw [hSource']
      cbv
    have hFound : findClass outsideTable "m.B" = some near := hNear
    simp only [projectBases, hBases', List.filterMap_cons, hDotted, Option.bind_some, hQualified, hFound,
      List.filterMap_nil]
  have hSole := List.mem_singleton_self (soleSource outsideBody)
  exact ⟨near, far, hNearCls, hFarCls, ⟨known_topClass hSole hNear, known_topClass hSole hFar⟩,
    ⟨hMethods, hMethods'⟩, hOutside, hProject, hFarBase⟩

namespace NearAndFar

variable {near far c d : ClassRef} (h : NearAndFar near far)

include h

theorem above_near (hd : Above outsideTable near d) : d = near := by
  obtain rfl | ⟨e, he, -⟩ := Relation.ReflTransGen.cases_head hd
  · rfl
  · rw [h.above.1] at he
    cases he

theorem above_far (hd : Above outsideTable far d) : d = far ∨ d = near := by
  obtain rfl | ⟨e, he, hAbove⟩ := Relation.ReflTransGen.cases_head hd
  · exact .inl rfl
  · rw [h.above.2, List.mem_singleton] at he
    exact .inr (h.above_near (he ▸ hAbove))

/-- No class above one of them defines the name. -/
theorem undefined_above (hc : c = near ∨ c = far) :
    NowhereDefined outsideTable (startOf outsideTable c (.name "self" false)) "m" := by
  intro b hb d hd
  obtain rfl : b = c := List.mem_singleton.mp hb
  obtain ⟨hNear, hFar⟩ := h.undefined
  obtain rfl | rfl := hc
  · exact h.above_near hd ▸ hNear
  · obtain rfl | rfl := h.above_far hd
    · exact hFar
    · exact hNear

end NearAndFar

theorem outsideCall_near : ∃ c, c.Known (soleLibrary outsideBody).sources ∧
    (outsideCaller 0 3 "f").CallsOwn c callOnSelf (.name "self" false) "m" ∧
    NowhereDefined outsideTable (startOf outsideTable c (.name "self" false)) "m" ∧
    OutsideCall outsideTable (outsideCaller 0 3 "f") c callOnSelf "m" ∧
    (outsideCaller 0 3 "f").Answered outsideTable c callOnSelf "m" := by
  obtain ⟨near, far, h⟩ := exists_nearAndFar
  have hCall : (outsideCaller 0 3 "f").CallsOwn near callOnSelf (.name "self" false) "m" :=
    ⟨h.nearCls, rfl, .inr rfl, by decide⟩
  have hNone := h.undefined_above (.inl rfl)
  have hOutside : OutsideCall outsideTable (outsideCaller 0 3 "f") near callOnSelf "m" :=
    outsideCall sound_outsideBody h.known.1 hCall hNone
  refine ⟨near, h.known.1, hCall, hNone, hOutside, hOutside.answered_iff.mpr ?_⟩
  rw [h.outside]
  exact List.cons_ne_nil _ _

/-- With a class in between the call refers to nothing, although the class above has the outside base. -/
theorem not_answered_far : ∃ c, c.Known (soleLibrary outsideBody).sources ∧
    (outsideCaller 1 6 "g").CallsOwn c callOnSelf (.name "self" false) "m" ∧
    NowhereDefined outsideTable (startOf outsideTable c (.name "self" false)) "m" ∧
    (∃ d, Above outsideTable c d ∧ outsideBases outsideTable d ≠ []) ∧
    (outsideCaller 1 6 "g").resolve outsideTable callOnSelf = .ok none ∧
    ¬(outsideCaller 1 6 "g").Answered outsideTable c callOnSelf "m" := by
  obtain ⟨near, far, h⟩ := exists_nearAndFar
  have hNothing : (outsideCaller 1 6 "g").resolve outsideTable callOnSelf = .ok none := by cbv
  refine ⟨far, h.known.2, ⟨h.farCls, rfl, .inr rfl, by decide⟩, h.undefined_above (.inr rfl),
    ⟨near, .single (h.above.2 ▸ List.mem_singleton_self near), ?_⟩, hNothing, ?_⟩
  · rw [h.outside]
    exact List.cons_ne_nil _ _
  · rintro ⟨d, b, -, -, hTarget⟩
    cases hNothing.symm.trans hTarget

end CodeAtlas.Module
