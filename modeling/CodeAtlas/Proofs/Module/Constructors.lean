import CodeAtlas.Proofs.Module.ResolutionOrder

/-!
# Constructors that follow from a class

A class that declares no constructor has one all the same: it is made from its fields, or inherited.

* `Takes`: how many parameters it has at run time, where fields are inherited along the orders of the
  classes, and a constructor is that of the first class that gives one. The orders determine the number
  (`Takes.functional`), and there is one for each class that has them (`exists_takes`).
* `impliedConstructor`: how many are counted, and when these are as many.
-/

namespace CodeAtlas.Module

/-! ## Fields -/

/-- An annotated name in the body of a class. -/
structure FieldLine where
  name : String
  hint : Expr
  value : Option Expr

namespace FieldLine

/-- The last part of the name that an annotation begins with, without what it is applied to. -/
def hintName (f : FieldLine) : Option String :=
  match unquote readExpression f.hint with
  | some (.subscript value _) => value.dotted?.map (Text.afterLast '.')
  | some e => e.dotted?.map (Text.afterLast '.')
  | none => none

/-- The name is of the class and not of its objects. -/
def isClassVar (f : FieldLine) : Bool := f.hintName = some "ClassVar"

/-- The line only says that the fields behind it are given by keyword. -/
def isMarker (f : FieldLine) : Bool := f.hintName = some "KW_ONLY"

end FieldLine

/-- The keyword is switched off. -/
def Keyword.turnsOff (word : String) (k : Keyword) : Bool :=
  k.name = some word && match k.value with
    | .constant (.bool false) => true
    | _ => false

namespace FieldLine

/-- The field is left out of the constructor. -/
def leftOut (f : FieldLine) : Bool :=
  match f.value with
  | some (.call _ func _ keywords) =>
    (func.dotted? = some "field" || func.dotted? = some "dataclasses.field") &&
      keywords.any (·.turnsOff "init")
  | _ => false

/-- The constructor takes the field. -/
def taken (f : FieldLine) : Bool := !f.isClassVar && !f.isMarker && !f.leftOut

/-- The text of the annotation contains the word for names of the class. -/
def mentionsClassVar (f : FieldLine) : Bool := f.hint.text?.any (Text.contains · "ClassVar")

end FieldLine

def Stmt.fieldLine? : Stmt → Option FieldLine
  | .annotated (.name id _) hint value => some ⟨id, hint, value⟩
  | _ => none

namespace Class

def fieldLines (c : Class) : List FieldLine := c.body.filterMap Stmt.fieldLine?

def fieldNames (c : Class) : List String := c.fieldLines.map (·.name)

/-- The annotation of a name that counts, the last one in the body. -/
def lineOf (c : Class) (name : String) : Option FieldLine :=
  ((c.fieldLines.filter (·.name = name)).getLast?).filter (!·.isMarker)

theorem mem_of_lineOf {k : Class} {x : String} {f : FieldLine} (h : k.lineOf x = some f) :
    f ∈ k.fieldLines ∧ f.name = x := by
  obtain ⟨hLast, -⟩ := Option.filter_eq_some_iff.mp h
  obtain ⟨hf, hName⟩ := List.mem_filter.mp (List.mem_of_getLast? hLast)
  exact ⟨hf, of_decide_eq_true hName⟩

/-- The constructor is made from the fields, unless the decorator is told not to. -/
def isMade (c : Class) : Bool :=
  c.isDataclass && !c.decorators.any fun d =>
    match d with
    | .call _ func _ keywords =>
      (func.dotted? = some "dataclass" || func.dotted? = some "dataclasses.dataclass") &&
        keywords.any (·.turnsOff "init")
    | _ => false

/-- Each name is annotated once, and is a field for the constructor unless its annotation contains the
word for names of the class. -/
structure Regular (c : Class) : Prop where
  once : c.fieldNames.Nodup
  fields : ∀ f ∈ c.fieldLines, f.isMarker = false
  taken : ∀ f ∈ c.fieldLines, f.taken = !f.mentionsClassVar

end Class

/-- What the class has under a name among its fields, and whether the constructor takes it. Fields are
collected where a class is decorated, from the classes behind it in its order; a class that is not has
those of the first one above it that is. -/
inductive Field (mro : ClassRef → List ClassRef) : ClassRef → String → Option Bool → Prop
  | own {c : ClassRef} {x : String} {f : FieldLine} (h : c.cls.isDataclass = true)
    (hLine : c.cls.lineOf x = some f) : Field mro c x (some f.taken)
  | above {c b : ClassRef} {x : String} {taken : Bool} {before after : List ClassRef}
    (h : c.cls.isDataclass = true) (hLine : c.cls.lineOf x = none)
    (hOrder : mro c = c :: (before ++ b :: after)) (hBefore : ∀ a ∈ before, Field mro a x none)
    (hField : Field mro b x (some taken)) : Field mro c x (some taken)
  | missing {c : ClassRef} {x : String} {rest : List ClassRef} (h : c.cls.isDataclass = true)
    (hLine : c.cls.lineOf x = none) (hOrder : mro c = c :: rest)
    (hNone : ∀ a ∈ rest, Field mro a x none) : Field mro c x none
  | plain {c b : ClassRef} {x : String} {o : Option Bool} (h : c.cls.isDataclass = false)
    (hFirst : (mro c).tail.find? (·.cls.isDataclass) = some b) (hField : Field mro b x o) :
    Field mro c x o
  | bare {c : ClassRef} {x : String} (h : c.cls.isDataclass = false)
    (hFirst : (mro c).tail.find? (·.cls.isDataclass) = none) : Field mro c x none

/-! ## Constructors at run time -/

/-- Does the class itself give a constructor, written or made? -/
def ClassRef.gives (c : ClassRef) : Bool := c.declares initName || c.cls.isMade

/-- The first class behind a class in its order that gives a constructor. -/
def firstGiving (mro : ClassRef → List ClassRef) (c : ClassRef) : Option ClassRef :=
  (mro c).tail.find? ClassRef.gives

/-- How many parameters the constructor of a class has. Of several signatures of a written one the number
of arguments chooses. -/
inductive Takes (mro : ClassRef → List ClassRef) (argCount : Nat) : ClassRef → Nat → Prop
  | written {c : ClassRef} {f : Function}
    (h : pick c.source argCount (c.methods initName) = some f) : Takes mro argCount c f.paramCount
  | made {c : ClassRef} {names : List String} (hNone : c.methods initName = [])
    (h : c.cls.isMade = true) (hNodup : names.Nodup)
    (hNames : ∀ x, x ∈ names ↔ Field mro c x (some true)) : Takes mro argCount c names.length
  | inherited {c b : ClassRef} {n : Nat} (hNone : c.gives = false)
    (hFirst : firstGiving mro c = some b) (h : Takes mro argCount b n) : Takes mro argCount c n
  | nothing {c : ClassRef} (hNone : c.gives = false) (hFirst : firstGiving mro c = none) :
    Takes mro argCount c 0

section Determined

variable {mro : ClassRef → List ClassRef} {c : ClassRef} {x : String} {o o' : Option Bool}
  {argCount n n' : Nat}

/-- The orders determine the fields. -/
theorem Field.functional (h : Field mro c x o) (h' : Field mro c x o') : o = o' := by
  induction h generalizing o' with
  | own hData hLine =>
    cases h' with
    | own _ hLine' => rw [Option.some.inj (hLine.symm.trans hLine')]
    | above _ hLine' | missing _ hLine' => cases hLine.symm.trans hLine'
    | plain hPlain | bare hPlain => cases hData.symm.trans hPlain
  | above hData hLine hOrder hBefore hField ihBefore ih =>
    cases h' with
    | own _ hLine' => cases hLine.symm.trans hLine'
    | above _ _ hOrder' hBefore' hField' =>
      rcases append_cons_cases (List.cons.inj (hOrder.symm.trans hOrder')).2 with ⟨-, rfl⟩ | hb | hb
      · exact ih hField'
      · cases ih (hBefore' _ hb)
      · cases ihBefore _ hb hField'
    | missing _ _ hOrder' hNone =>
      obtain rfl := (List.cons.inj (hOrder.symm.trans hOrder')).2
      cases ih (hNone _ (List.mem_append_right _ List.mem_cons_self))
    | plain hPlain | bare hPlain => cases hData.symm.trans hPlain
  | missing hData hLine hOrder hNone ih =>
    cases h' with
    | own _ hLine' => cases hLine.symm.trans hLine'
    | above _ _ hOrder' _ hField' =>
      obtain rfl := (List.cons.inj (hOrder.symm.trans hOrder')).2
      cases ih _ (List.mem_append_right _ List.mem_cons_self) hField'
    | missing => rfl
    | plain hPlain | bare hPlain => cases hData.symm.trans hPlain
  | plain hPlain hFirst _ ih =>
    cases h' with
    | own hData | above hData | missing hData => cases hData.symm.trans hPlain
    | plain _ hFirst' hField' =>
      obtain rfl := Option.some.inj (hFirst.symm.trans hFirst')
      exact ih hField'
    | bare _ hFirst' => cases hFirst.symm.trans hFirst'
  | bare hPlain hFirst =>
    cases h' with
    | own hData | above hData | missing hData => cases hData.symm.trans hPlain
    | plain _ hFirst' => cases hFirst.symm.trans hFirst'
    | bare => rfl

theorem gives_of_pick {f : Function} (h : pick c.source argCount (c.methods initName) = some f) :
    c.gives = true := by
  have hWritten : c.methods initName ≠ [] := by
    intro hNone
    rw [hNone] at h
    cases h
  rw [ClassRef.gives, declares_iff.mpr hWritten, Bool.true_or]

theorem gives_of_isMade (h : c.cls.isMade = true) : c.gives = true := by
  rw [ClassRef.gives, h, Bool.or_true]

/-- The orders determine what a constructor takes. -/
theorem Takes.functional (h : Takes mro argCount c n) (h' : Takes mro argCount c n') : n = n' := by
  induction h with
  | written h =>
    cases h' with
    | written h' => rw [Option.some.inj (h.symm.trans h')]
    | made hNone =>
      rw [hNone] at h
      cases h
    | inherited hNot | nothing hNot => cases hNot.symm.trans (gives_of_pick h)
  | made hNone hMade hNodup hNames =>
    cases h' with
    | written h =>
      rw [hNone] at h
      cases h
    | made _ _ hNodup' hNames' =>
      have hSame := (List.perm_ext_iff_of_nodup hNodup hNodup').mpr fun x =>
        (hNames x).trans (hNames' x).symm
      exact hSame.length_eq
    | inherited hNot | nothing hNot => cases hNot.symm.trans (gives_of_isMade hMade)
  | inherited hNot hFirst _ ih =>
    cases h' with
    | written h => cases hNot.symm.trans (gives_of_pick h)
    | made _ hMade => cases hNot.symm.trans (gives_of_isMade hMade)
    | inherited _ hFirst' h' =>
      obtain rfl := Option.some.inj (hFirst.symm.trans hFirst')
      exact ih h'
    | nothing _ hFirst' => cases hFirst.symm.trans hFirst'
  | nothing hNot hFirst =>
    cases h' with
    | written h => cases hNot.symm.trans (gives_of_pick h)
    | made _ hMade => cases hNot.symm.trans (gives_of_isMade hMade)
    | inherited _ hFirst' => cases hFirst.symm.trans hFirst'
    | nothing => rfl

end Determined

/-! ### Each class has a constructor -/

section Existing

variable {t : Table} {mro : ClassRef → List ClassRef} {c : ClassRef} {x : String}

/-- Of some things that are each settled in some way, all are settled as nothing or one is the first that
is not. -/
theorem exists_first {α β : Type} {P : α → Option β → Prop} {xs : List α} (h : ∀ a ∈ xs, ∃ o, P a o) :
    (∀ a ∈ xs, P a none) ∨
      ∃ before b after y, xs = before ++ b :: after ∧ (∀ a ∈ before, P a none) ∧ P b (some y) := by
  induction xs with
  | nil => exact .inl (List.forall_mem_nil _)
  | cons a xs ih =>
    obtain ⟨⟨o, ha⟩, hOthers⟩ := List.forall_mem_cons.mp h
    cases o with
    | some y => exact .inr ⟨[], a, xs, y, rfl, List.forall_mem_nil _, ha⟩
    | none =>
      obtain hNone | ⟨before, b, after, y, rfl, hBefore, hb⟩ := ih hOthers
      · exact .inl (List.forall_mem_cons.mpr ⟨ha, hNone⟩)
      · exact .inr ⟨a :: before, b, after, y, rfl, List.forall_mem_cons.mpr ⟨ha, hBefore⟩, hb⟩

theorem exists_field (h : ResolutionOrders t mro c) (x : String) : ∃ o, Field mro c x o := by
  refine h.induction_tail (P := fun c => ∃ o, Field mro c x o) fun c h ih => ?_
  cases hData : c.cls.isDataclass with
  | false =>
    cases hFirst : (mro c).tail.find? (·.cls.isDataclass) with
    | none => exact ⟨none, .bare hData hFirst⟩
    | some b =>
      obtain ⟨o, hField⟩ := ih b (List.mem_of_find?_eq_some hFirst)
      exact ⟨o, .plain hData hFirst hField⟩
  | true =>
    cases hLine : c.cls.lineOf x with
    | some f => exact ⟨some f.taken, .own hData hLine⟩
    | none =>
      obtain ⟨rest, hOrder, -⟩ := h.linearized
      rw [hOrder, List.tail_cons] at ih
      obtain hNone | ⟨before, b, after, taken, rfl, hBefore, hField⟩ := exists_first ih
      · exact ⟨none, .missing hData hLine hOrder hNone⟩
      · exact ⟨some taken, .above hData hLine hOrder hBefore hField⟩

/-- A field is annotated in the class or in one above it. -/
theorem Field.annotated {taken : Bool} (h : ResolutionOrders t mro c)
    (hField : Field mro c x (some taken)) : ∃ d ∈ mro c, x ∈ d.cls.fieldNames := by
  generalize hSome : some taken = o at hField
  induction hField with
  | @own c _ _ _ hLine =>
    obtain ⟨hf, rfl⟩ := Class.mem_of_lineOf hLine
    exact ⟨c, h.mem_iff.mpr .refl, List.mem_map_of_mem hf⟩
  | @above c b _ _ before after _ _ hOrder _ _ _ ih =>
    have hb : b ∈ (mro c).tail := by simp [hOrder]
    have hAbove := h.above_of_mem_tail hb
    obtain ⟨d, hd, hx⟩ := ih (h.of_above hAbove) hSome
    exact ⟨d, h.mem_iff.mpr (hAbove.trans ((h.of_above hAbove).mem_iff.mp hd)), hx⟩
  | missing | bare => cases hSome
  | @plain c b _ _ _ hFirst _ ih =>
    have hAbove := h.above_of_mem_tail (List.mem_of_find?_eq_some hFirst)
    obtain ⟨d, hd, hx⟩ := ih (h.of_above hAbove) hSome
    exact ⟨d, h.mem_iff.mpr (hAbove.trans ((h.of_above hAbove).mem_iff.mp hd)), hx⟩

open Classical in
/-- The fields that a constructor takes can be listed. -/
theorem exists_fields (h : ResolutionOrders t mro c) :
    ∃ names : List String, names.Nodup ∧ ∀ x, x ∈ names ↔ Field mro c x (some true) := by
  refine ⟨((mro c).flatMap (·.cls.fieldNames)).dedup.filter fun x => Field mro c x (some true),
    (List.nodup_dedup _).filter _, fun x => ?_⟩
  rw [List.mem_filter, List.mem_dedup, List.mem_flatMap, decide_eq_true_iff]
  exact and_iff_right_of_imp fun hField => hField.annotated h

/-- Each class with its orders has a constructor. -/
theorem exists_takes (h : ResolutionOrders t mro c) (argCount : Nat) : ∃ n, Takes mro argCount c n := by
  refine h.induction_tail (P := fun c => ∃ n, Takes mro argCount c n) fun c h ih => ?_
  by_cases hMethods : c.methods initName = []
  · cases hMade : c.cls.isMade with
    | true =>
      obtain ⟨names, hNodup, hNames⟩ := exists_fields h
      exact ⟨_, .made hMethods hMade hNodup hNames⟩
    | false =>
      have hNone : c.gives = false := by
        rw [ClassRef.gives, ClassRef.declares, hMethods, hMade]
        rfl
      cases hFirst : firstGiving mro c with
      | none => exact ⟨0, .nothing hNone hFirst⟩
      | some b =>
        obtain ⟨n, hn⟩ := ih b (List.mem_of_find?_eq_some hFirst)
        exact ⟨n, .inherited hNone hFirst hn⟩
  · obtain ⟨f, hPick⟩ := exists_pick hMethods argCount
    exact ⟨_, .written hPick⟩

end Existing

/-! ## Counted parameters -/

/-- The fields that are counted. -/
def Class.ownCount (c : Class) : Nat := (c.fieldLines.filter (!·.mentionsClassVar)).length

/-- The parameters that are counted for a class without a constructor of its own. -/
def ClassRef.impliedCount (t : Table) (c : ClassRef) (argCount : Nat) : Nat :=
  if c.cls.isDataclass then c.cls.ownCount
  else ((findMethod t (projectBases t c) initName argCount).map (·.2.paramCount)).getD 0

section Counted

variable {t : Table} {mro : ClassRef → List ClassRef} {c b : ClassRef} {argCount n : Nat}

/-- What a statement adds to the count. -/
def Stmt.countedFields (s : Stmt) : Nat := (s.fieldLine?.toList.filter (!·.mentionsClassVar)).length

theorem foldlM_add {α : Type} {f : Nat → α → Except Failure Nat} {d : α → Nat} {xs : List α}
    (h : ∀ x ∈ xs, ∀ count, f count x = .ok (count + d x)) (count : Nat) :
    xs.foldlM f count = .ok (count + (xs.map d).sum) := by
  induction xs generalizing count with
  | nil => rfl
  | cons x xs ih =>
    obtain ⟨hx, hxs⟩ := List.forall_mem_cons.mp h
    rw [List.foldlM_cons, hx, List.map_cons, List.sum_cons, ← Nat.add_assoc]
    exact ih hxs _

theorem sum_countedFields (body : List Stmt) : (body.map Stmt.countedFields).sum =
    ((body.filterMap Stmt.fieldLine?).filter (!·.mentionsClassVar)).length := by
  induction body with
  | nil => rfl
  | cons s body ih =>
    rw [List.map_cons, List.sum_cons, ih, Stmt.countedFields]
    cases hLine : s.fieldLine? with
    | none => simp [hLine]
    | some f =>
      rw [List.filterMap_cons_some hLine, ← List.singleton_append, List.filter_append,
        List.length_append]
      rfl

theorem fieldCount_eq {k : Class} (h : ∀ f ∈ k.fieldLines, f.hint.text?.isSome = true) :
    k.fieldCount = .ok k.ownCount := by
  rw [Class.fieldCount, Class.ownCount, Class.fieldLines, ← sum_countedFields,
    ← Nat.zero_add (List.sum _)]
  refine foldlM_add (fun s hs count => ?_) 0
  split
  · rename_i id bound hint value
    have hText := h ⟨id, hint, value⟩ (List.mem_filterMap.mpr ⟨_, hs, rfl⟩)
    obtain ⟨text, hText⟩ := Option.isSome_iff_exists.mp hText
    dsimp only at hText
    simp only [hText, Stmt.countedFields, Stmt.fieldLine?, Option.toList_some,
      FieldLine.mentionsClassVar, Option.any_some, List.filter_cons, List.filter_nil]
    split <;> simp [*]
  · rename_i hOther
    have hNone : s.fieldLine? = none := by
      unfold Stmt.fieldLine?
      split
      · exact absurd rfl (hOther _ _ _ _)
      · rfl
    rw [Stmt.countedFields, hNone]
    rfl

/-- A class without a constructor of its own has one with the counted parameters. -/
theorem constructorOf_implied (hNone : c.methods initName = [])
    (hPrinted : c.cls.isDataclass = true → ∀ f ∈ c.cls.fieldLines, f.hint.text?.isSome = true) :
    constructorOf t c argCount = .ok (some (implicitConstructor c (c.impliedCount t argCount)
      (findMethod t (projectBases t c) initName argCount))) := by
  rw [constructorOf, hNone]
  dsimp only
  rw [ClassRef.impliedCount]
  split
  · rename_i hData
    rw [fieldCount_eq (hPrinted hData)]
    rfl
  · rfl

/-! ### Made constructors -/

theorem lineOf_eq_some {k : Class} (hRegular : k.Regular) {f : FieldLine} (hf : f ∈ k.fieldLines) :
    k.lineOf f.name = some f := by
  have hSome : (k.fieldLines.filter (·.name = f.name)).getLast? = some f := by
    obtain ⟨g, hg⟩ : ∃ g, (k.fieldLines.filter (·.name = f.name)).getLast? = some g := by
      have hMem : f ∈ k.fieldLines.filter (·.name = f.name) := List.mem_filter.mpr ⟨hf, by simp⟩
      exact ⟨_, List.getLast?_eq_some_getLast (List.ne_nil_of_mem hMem)⟩
    obtain ⟨hMem, hName⟩ := List.mem_filter.mp (List.mem_of_getLast? hg)
    rw [hg, List.inj_on_of_nodup_map hRegular.once hMem hf (of_decide_eq_true hName)]
  rw [Class.lineOf, hSome, Option.filter_some_pos]
  rw [hRegular.fields f hf]
  rfl

theorem lineOf_eq_none {k : Class} {x : String} (h : x ∉ k.fieldNames) : k.lineOf x = none := by
  by_contra hSome
  obtain ⟨f, hLine⟩ := Option.ne_none_iff_exists'.mp hSome
  obtain ⟨hf, rfl⟩ := Class.mem_of_lineOf hLine
  exact h (List.mem_map_of_mem hf)

/-- A field that the constructor takes is annotated in the class or comes from a class behind it. -/
theorem Field.own_or_behind {x : String} (h : Field mro c x (some true))
    (hData : c.cls.isDataclass = true) :
    x ∈ c.cls.fieldNames ∨ ∃ b ∈ (mro c).tail, Field mro b x (some true) := by
  generalize hTrue : some true = o at h
  cases h with
  | own _ hLine =>
    obtain ⟨hf, rfl⟩ := Class.mem_of_lineOf hLine
    exact .inl (List.mem_map_of_mem hf)
  | above _ _ hOrder _ hField =>
    rw [hOrder]
    exact .inr ⟨_, List.mem_append_right _ List.mem_cons_self, hTrue ▸ hField⟩
  | missing => cases hTrue
  | plain hPlain | bare hPlain => cases hData.symm.trans hPlain

/-- The fields of a class of its own that its constructor takes. -/
def Class.ownFields (k : Class) : List String := (k.fieldLines.filter (·.taken)).map (·.name)

theorem length_ownFields {k : Class} (hRegular : k.Regular) : k.ownFields.length = k.ownCount := by
  rw [Class.ownFields, List.length_map, Class.ownCount,
    List.filter_congr fun f hf => hRegular.taken f hf]

/-- A field that the constructor takes is one of its own fields if the class annotates its name. -/
theorem mem_ownFields_iff (hData : c.cls.isDataclass = true) (hRegular : c.cls.Regular) {x : String} :
    x ∈ c.cls.ownFields ↔ Field mro c x (some true) ∧ x ∈ c.cls.fieldNames := by
  constructor
  · intro hx
    obtain ⟨f, hf, rfl⟩ := List.mem_map.mp hx
    obtain ⟨hf, hTaken⟩ := List.mem_filter.mp hf
    have hOwn : Field mro c f.name (some f.taken) := .own hData (lineOf_eq_some hRegular hf)
    rw [hTaken] at hOwn
    exact ⟨hOwn, List.mem_map_of_mem hf⟩
  · rintro ⟨hField, hx⟩
    obtain ⟨f, hf, rfl⟩ := List.mem_map.mp hx
    have hLine := lineOf_eq_some hRegular hf
    generalize hTrue : some true = o at hField
    cases hField with
    | own _ hLine' =>
      obtain rfl := Option.some.inj (hLine.symm.trans hLine')
      exact List.mem_map_of_mem (List.mem_filter.mpr ⟨hf, (Option.some.inj hTrue).symm⟩)
    | above _ hLine' => cases hLine.symm.trans hLine'
    | missing => cases hTrue
    | plain hPlain => cases hData.symm.trans hPlain
    | bare hPlain => cases hData.symm.trans hPlain

/-- Where a constructor is made, the count is right just if all fields that it takes are of the class
itself. -/
theorem impliedCount_eq_iff_of_isMade (hNone : c.methods initName = []) (hMade : c.cls.isMade = true)
    (hRegular : c.cls.Regular) (hTakes : Takes mro argCount c n) :
    c.impliedCount t argCount = n ↔ ∀ x, Field mro c x (some true) → x ∈ c.cls.fieldNames := by
  have hData : c.cls.isDataclass = true := (Bool.and_eq_true_iff.mp hMade).1
  rw [ClassRef.impliedCount, if_pos hData, ← length_ownFields hRegular]
  cases hTakes with
  | written h =>
    rw [hNone] at h
    cases h
  | inherited hNot | nothing hNot => cases hNot.symm.trans (gives_of_isMade hMade)
  | @made _ names _ _ hNodup hNames =>
    have hOwn : ∀ x, x ∈ c.cls.ownFields ↔ Field mro c x (some true) ∧ x ∈ c.cls.fieldNames :=
      fun x => mem_ownFields_iff hData hRegular
    have hDistinct : c.cls.ownFields.Nodup := hRegular.once.sublist (List.filter_sublist.map _)
    have hPart : c.cls.ownFields.Subperm names :=
      hDistinct.subperm fun x hx => (hNames x).mpr ((hOwn x).mp hx).1
    constructor
    · intro hLength x hx
      have hAll := hPart.perm_of_length_le (Nat.le_of_eq hLength.symm)
      exact ((hOwn x).mp (hAll.mem_iff.mpr ((hNames x).mpr hx))).2
    · intro hAll
      have hBack : names.Subperm c.cls.ownFields := hNodup.subperm fun x hx =>
        (hOwn x).mpr ⟨(hNames x).mp hx, hAll x ((hNames x).mp hx)⟩
      exact (hPart.antisymm hBack).length_eq

/-! ### Inherited constructors -/

theorem findMethod_eq_pick (h : search t (ClassRef.declares initName) (projectBases t c) = some b) :
    findMethod t (projectBases t c) initName argCount =
      (pick b.source argCount (b.methods initName)).map fun f => (b.source, f) :=
  congrArg (Option.bind · _) h

/-- The parameters of a written constructor are counted if it is the first that is found. -/
theorem impliedCount_eq_of_written (hNone : c.methods initName = []) (hPlain : c.cls.isDataclass = false)
    (hTakes : Takes mro argCount c n) (hFirst : firstGiving mro c = some b)
    (hWritten : b.methods initName ≠ [])
    (hFound : search t (ClassRef.declares initName) (projectBases t c) = some b) :
    c.impliedCount t argCount = n := by
  rw [ClassRef.impliedCount, hPlain, if_neg Bool.false_ne_true, findMethod_eq_pick hFound]
  cases hTakes with
  | written h =>
    rw [hNone] at h
    cases h
  | made _ hMade =>
    have hData := (Bool.and_eq_true_iff.mp hMade).1
    cases hPlain.symm.trans hData
  | nothing _ hNothing => cases hNothing.symm.trans hFirst
  | inherited _ hFirst' h =>
    obtain rfl := Option.some.inj (hFirst.symm.trans hFirst')
    cases h with
    | written h =>
      rw [h]
      rfl
    | made hEmpty => exact absurd hEmpty hWritten
    | inherited hNot | nothing hNot =>
      rw [ClassRef.gives, declares_iff.mpr hWritten] at hNot
      cases hNot

end Counted

section Implied

variable {l : Library} {mro : ClassRef → List ClassRef} {c b : ClassRef} {argCount n : Nat}

/-- Without a written constructor above a class that is not decorated nothing is counted. -/
theorem impliedCount_eq_zero (hSound : l.Sound) (hPlain : c.cls.isDataclass = false)
    (hNone : NowhereDefined l.table (projectBases l.table c) initName) :
    c.impliedCount l.table argCount = 0 := by
  have hStart : ∀ b ∈ projectBases l.table c, b.Known l.sources := fun b hb =>
    known_projectBases hSound.table hb
  rw [ClassRef.impliedCount, hPlain, if_neg Bool.false_ne_true, findMethod_eq_none hSound hStart hNone]
  rfl

theorem nowhereDefined_of_firstGiving (hOrders : ResolutionOrders l.table mro c)
    (hFirst : firstGiving mro c = none) :
    NowhereDefined l.table (projectBases l.table c) initName := by
  intro b hb d hd
  by_contra hMethods
  have hGives := List.find?_eq_none.mp hFirst d (hOrders.mem_tail hb hd)
  rw [ClassRef.gives, declares_iff.mpr hMethods] at hGives
  exact hGives rfl

/-- Along one base after another the first class that gives a constructor is found if it is written. -/
theorem search_eq_firstGiving (hSound : l.Sound) (hOrders : ResolutionOrders l.table mro c)
    (hChain : ∀ d, Above l.table c d → (projectBases l.table d).length ≤ 1)
    (hFirst : firstGiving mro c = some b) (hWritten : b.methods initName ≠ []) :
    search l.table (ClassRef.declares initName) (projectBases l.table c) = some b := by
  obtain ⟨rest, hOrder, -⟩ := hOrders.linearized
  rw [firstGiving, hOrder, List.tail_cons] at hFirst
  rw [search_eq hSound (hOrders.traversal hChain hOrder) fun b hb => known_projectBases hSound.table hb]
  obtain ⟨hGives, before, after, hSplit, hNone⟩ := List.find?_eq_some_iff_append.mp hFirst
  refine List.find?_eq_some_iff_append.mpr
    ⟨declares_iff.mpr hWritten, before, after, hSplit, fun a ha => ?_⟩
  have hNot := hNone a ha
  rw [ClassRef.gives, Bool.not_eq_true', Bool.or_eq_false_iff] at hNot
  rw [hNot.1]
  rfl

/-- The constructor that is shown for a class without one of its own, where it has `n` parameters at run
time. -/
structure ImpliedConstructor (t : Table) (mro : ClassRef → List ClassRef) (c : ClassRef)
    (argCount n : Nat) : Prop where
  target : constructorOf t c argCount = .ok (some (implicitConstructor c (c.impliedCount t argCount)
    (findMethod t (projectBases t c) initName argCount)))
  /-- A constructor made from fields is counted right just if it takes no inherited field. -/
  made_iff : c.cls.isMade = true → c.cls.Regular → (c.impliedCount t argCount = n ↔
    ∀ x, Field mro c x (some true) → x ∈ c.cls.fieldNames)
  /-- A class that is not decorated has the parameters of the constructor that it inherits, if this is
  written and the first that is found above the class. -/
  written : c.cls.isDataclass = false → ∀ b, firstGiving mro c = some b → b.methods initName ≠ [] →
    search t (ClassRef.declares initName) (projectBases t c) = some b → c.impliedCount t argCount = n
  /-- It is the first that is found where each class has one base at most. -/
  chained : (∀ d, Above t c d → (projectBases t d).length ≤ 1) → ∀ b, firstGiving mro c = some b →
    b.methods initName ≠ [] → search t (ClassRef.declares initName) (projectBases t c) = some b
  /-- Nothing is counted, and rightly, if no class above gives a constructor. -/
  nothing : c.cls.isDataclass = false → firstGiving mro c = none →
    c.impliedCount t argCount = 0 ∧ n = 0
  /-- Nothing is counted either if constructors above are made from fields alone. -/
  lost : c.cls.isDataclass = false → NowhereDefined t (projectBases t c) initName →
    c.impliedCount t argCount = 0

/-- **Implied constructors.** What a class without a constructor of its own is shown with. -/
theorem impliedConstructor (hSound : l.Sound) (hOrders : ResolutionOrders l.table mro c)
    (hNone : c.methods initName = [])
    (hPrinted : c.cls.isDataclass = true → ∀ f ∈ c.cls.fieldLines, f.hint.text?.isSome = true)
    (hTakes : Takes mro argCount c n) : ImpliedConstructor l.table mro c argCount n where
  target := constructorOf_implied hNone hPrinted
  made_iff hMade hRegular := impliedCount_eq_iff_of_isMade hNone hMade hRegular hTakes
  written hPlain _ hFirst hWritten hFound :=
    impliedCount_eq_of_written hNone hPlain hTakes hFirst hWritten hFound
  chained hChain _ := search_eq_firstGiving hSound hOrders hChain
  nothing hPlain hFirst := by
    refine ⟨impliedCount_eq_zero hSound hPlain (nowhereDefined_of_firstGiving hOrders hFirst), ?_⟩
    cases hTakes with
    | written h =>
      rw [hNone] at h
      cases h
    | made _ hMade => cases hPlain.symm.trans (Bool.and_eq_true_iff.mp hMade).1
    | inherited _ hFirst' => cases hFirst.symm.trans hFirst'
    | nothing => rfl
  lost hPlain := impliedCount_eq_zero hSound hPlain

end Implied

/-! ### Fields of a base -/

def fieldStmt (name : String) : Stmt := .annotated (.name name true) (.name "int" false) none

def decorated (line : Nat) (name : String) (bases fields : List String) : Stmt :=
  .classDef line name (bases.map (.name · false)) [] (fields.map fieldStmt) [.name "dataclass" false]

/-- A class with two fields, one with a third field that extends it, and one without. -/
def fieldBody : List Stmt :=
  [decorated 2 "A" [] ["x", "y"], decorated 6 "B" ["A"] ["z"],
    .classDef 8 "C" [.name "A" false] [] [.plain []] []]

def fieldTable : Table := (soleLibrary fieldBody).table

theorem sound_fieldBody : (soleLibrary fieldBody).Sound :=
  ⟨rfl, List.forall_mem_singleton.mpr ⟨_, _, _, _, rfl⟩,
    List.forall_mem_singleton.mpr (List.mem_singleton_self _)⟩

def intField (name : String) : FieldLine := ⟨name, .name "int" false, none⟩

theorem regular_of_intFields {k : Class} {names : List String} (h : k.fieldLines = names.map intField)
    (hNodup : names.Nodup) : k.Regular ∧ k.fieldNames = names ∧ k.ownFields = names := by
  have hTaken : ∀ name, (intField name).taken = true := fun _ => rfl
  have hHint : ∀ name, (intField name).mentionsClassVar = false := by
    intro name
    cbv
  have hNames : k.fieldNames = names := by
    rw [Class.fieldNames, h, List.map_map]
    exact List.map_id names
  refine ⟨⟨hNames ▸ hNodup, ?_, ?_⟩, hNames, ?_⟩
  · rw [h, List.forall_mem_map]
    exact fun _ _ => rfl
  · rw [h, List.forall_mem_map]
    exact fun name _ => by rw [hTaken, hHint]; rfl
  · rw [Class.ownFields, List.filter_eq_self.mpr]
    · exact hNames
    · rw [h, List.forall_mem_map]
      exact fun name _ => hTaken name

/-- Each class before its bases. -/
def basesBehind (c : ClassRef) : List ClassRef := c :: projectBases fieldTable c

/-- The classes of the module. -/
structure FieldClasses (a b c : ClassRef) : Prop where
  undeclared : a.methods initName = [] ∧ b.methods initName = [] ∧ c.methods initName = []
  made : a.cls.isMade = true ∧ b.cls.isMade = true ∧ c.cls.isDataclass = false
  fieldsAbove : a.cls.fieldLines = ["x", "y"].map intField
  fields : b.cls.fieldLines = ["z"].map intField
  indexed : BasesIndexed fieldTable a ∧ BasesIndexed fieldTable b ∧ BasesIndexed fieldTable c
  bases : projectBases fieldTable a = [] ∧ projectBases fieldTable b = [a] ∧
    projectBases fieldTable c = [a]

theorem exists_fieldClasses : ∃ a b c, FieldClasses a b c := by
  have hTop : ∃ a b c, (soleSource fieldBody).topClass? "A" = some a ∧ b.source = soleSource fieldBody ∧
      c.source = soleSource fieldBody ∧ a.methods initName = [] ∧ b.methods initName = [] ∧
      c.methods initName = [] ∧ a.cls.isMade = true ∧ b.cls.isMade = true ∧ c.cls.isDataclass = false ∧
      a.cls.fieldLines = ["x", "y"].map intField ∧ b.cls.fieldLines = ["z"].map intField ∧
      a.cls.bases = [] ∧ b.cls.bases = [.name "A" false] ∧ c.cls.bases = [.name "A" false] ∧
      (soleSource fieldBody).topClass? "B" = some b ∧ (soleSource fieldBody).topClass? "C" = some c :=
    ⟨_, _, _, rfl, rfl, rfl, rfl, rfl, rfl, by decide, by decide, by decide, rfl, rfl, rfl, rfl, rfl,
      rfl, rfl⟩
  obtain ⟨a, b, c, hA, hb, hc, hUndeclared, hUndeclared', hUndeclared'', hMade, hMade', hPlain, hAbove,
    hLines, hNone, hB, hC, -, -⟩ := hTop
  have hDotted : (Expr.name "A" false).dotted? = some "A" := by decide
  have hQualified : (soleSource fieldBody).qualify "A" = "m.A" := by cbv
  have hFound : findClass fieldTable "m.A" = some a := hA
  have hOne : ∀ k : ClassRef, k.source = soleSource fieldBody → k.cls.bases = [.name "A" false] →
      BasesIndexed fieldTable k ∧ projectBases fieldTable k = [a] := by
    intro k hSource hBases
    constructor
    · intro base hBase
      obtain rfl := List.mem_singleton.mp (hBases ▸ hBase)
      exact .inr ⟨"A", a, hDotted, by rw [hSource, hQualified, hFound]⟩
    · simp only [projectBases, hBases, List.filterMap_cons, hDotted, Option.bind_some, hSource,
        hQualified, hFound, List.filterMap_nil]
  refine ⟨a, b, c, ⟨hUndeclared, hUndeclared', hUndeclared''⟩, ⟨hMade, hMade', hPlain⟩, hAbove, hLines,
    ⟨fun base hBase => ?_, (hOne b hb hB).1, (hOne c hc hC).1⟩, ?_, (hOne b hb hB).2, (hOne c hc hC).2⟩
  · rw [hNone] at hBase
    cases hBase
  · rw [projectBases, hNone]
    rfl

namespace FieldClasses

variable {a b c d : ClassRef} (h : FieldClasses a b c)

include h

theorem orders_a : ResolutionOrders fieldTable basesBehind a := by
  intro d hd
  obtain rfl | ⟨e, he, -⟩ := Relation.ReflTransGen.cases_head hd
  · refine ⟨h.indexed.1, [], by rw [basesBehind, h.bases.1], ?_⟩
    rw [h.bases.1]
    exact .done (by simp)
  · rw [h.bases.1] at he
    cases he

theorem orders_of_base (hIndexed : BasesIndexed fieldTable d)
    (hBases : projectBases fieldTable d = [a]) : ResolutionOrders fieldTable basesBehind d := by
  intro e he
  obtain rfl | ⟨k, hk, hAbove⟩ := Relation.ReflTransGen.cases_head he
  · refine ⟨hIndexed, [a], by rw [basesBehind, hBases], ?_⟩
    have hOrder : basesBehind a = [a] := by rw [basesBehind, h.bases.1]
    rw [hBases, List.map_cons, List.map_nil, hOrder, List.singleton_append]
    exact .next ⟨[], [a], rfl, List.forall_mem_nil _, by simp⟩ (.cons (.inl rfl) (.cons (.inl rfl) .nil))
      (.done (by simp))
  · rw [hBases, List.mem_singleton] at hk
    subst hk
    exact h.orders_a e hAbove

theorem isDataclass : a.cls.isDataclass = true ∧ b.cls.isDataclass = true :=
  ⟨(Bool.and_eq_true_iff.mp h.made.1).1, (Bool.and_eq_true_iff.mp h.made.2.1).1⟩

theorem field_a_iff (x : String) : Field basesBehind a x (some true) ↔ x ∈ ["x", "y"] := by
  obtain ⟨hRegular, hNames, hOwn⟩ := regular_of_intFields h.fieldsAbove (by decide)
  have hIff : x ∈ a.cls.ownFields ↔ Field basesBehind a x (some true) ∧ x ∈ a.cls.fieldNames :=
    mem_ownFields_iff h.isDataclass.1 hRegular
  rw [hOwn, hNames] at hIff
  refine ⟨fun hField => ?_, fun hx => (hIff.mp hx).1⟩
  obtain hx | ⟨d, hd, -⟩ := hField.own_or_behind h.isDataclass.1
  · rwa [hNames] at hx
  · rw [basesBehind, h.bases.1] at hd
    cases hd

theorem field_b_iff (x : String) : Field basesBehind b x (some true) ↔ x ∈ ["z", "x", "y"] := by
  obtain ⟨hRegular, hNames, hOwn⟩ := regular_of_intFields h.fields (by decide)
  have hIff : x ∈ b.cls.ownFields ↔ Field basesBehind b x (some true) ∧ x ∈ b.cls.fieldNames :=
    mem_ownFields_iff h.isDataclass.2 hRegular
  rw [hOwn, hNames] at hIff
  constructor
  · intro hField
    obtain hx | ⟨d, hd, hAbove⟩ := hField.own_or_behind h.isDataclass.2
    · rw [hNames] at hx
      exact List.mem_append_left ["x", "y"] hx
    · rw [basesBehind, h.bases.2.1] at hd
      obtain rfl := List.mem_singleton.mp hd
      exact List.mem_cons_of_mem _ ((h.field_a_iff x).mp hAbove)
  · intro hx
    obtain rfl | hx := List.mem_cons.mp hx
    · exact (hIff.mp List.mem_cons_self).1
    · have hNone : b.cls.lineOf x = none := by
        refine lineOf_eq_none fun hName => ?_
        rw [hNames, List.mem_singleton] at hName
        subst hName
        simp at hx
      have hOrder : basesBehind b = b :: ([] ++ a :: []) := by
        rw [basesBehind, h.bases.2.1]
        rfl
      exact .above h.isDataclass.2 hNone hOrder (List.forall_mem_nil _) ((h.field_a_iff x).mpr hx)

theorem takes_a (argCount : Nat) : Takes basesBehind argCount a 2 :=
  .made h.undeclared.1 h.made.1 (by decide) fun x => (h.field_a_iff x).symm

theorem takes_b (argCount : Nat) : Takes basesBehind argCount b 3 :=
  .made h.undeclared.2.1 h.made.2.1 (by decide) fun x => (h.field_b_iff x).symm

theorem firstGiving_c : c.gives = false ∧ firstGiving basesBehind c = some a := by
  have hMade : c.cls.isMade = false := by
    rw [Class.isMade, h.made.2.2, Bool.false_and]
  have hGives : a.gives = true := gives_of_isMade h.made.1
  have hDeclares : c.declares initName = false := by
    rw [ClassRef.declares, h.undeclared.2.2]
    rfl
  constructor
  · rw [ClassRef.gives, hDeclares, hMade]
    rfl
  · rw [firstGiving, basesBehind, h.bases.2.2, List.tail_cons, List.find?_cons_of_pos hGives]

theorem takes_c (argCount : Nat) : Takes basesBehind argCount c 2 :=
  .inherited h.firstGiving_c.1 h.firstGiving_c.2 (h.takes_a argCount)

/-- One field is counted for the class with a third one, and none for the class without. -/
theorem impliedCount (argCount : Nat) : b.impliedCount fieldTable argCount = 1 ∧
    c.impliedCount fieldTable argCount = 0 := by
  constructor
  · obtain ⟨hRegular, -, hOwn⟩ := regular_of_intFields h.fields (by decide)
    rw [ClassRef.impliedCount, if_pos h.isDataclass.2, ← length_ownFields hRegular, hOwn]
    rfl
  · refine impliedCount_eq_zero sound_fieldBody h.made.2.2 fun d hd e he => ?_
    have hBases : projectBases (soleLibrary fieldBody).table c = [a] := h.bases.2.2
    rw [hBases, List.mem_singleton] at hd
    subst hd
    have hOnly : e ∈ basesBehind d := h.orders_a.mem_iff.mpr he
    rw [basesBehind, h.bases.1, List.mem_singleton] at hOnly
    rw [hOnly, h.undeclared.1]

end FieldClasses

end CodeAtlas.Module
