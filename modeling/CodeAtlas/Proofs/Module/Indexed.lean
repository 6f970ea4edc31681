import CodeAtlas.Proofs.Module.Declared
import CodeAtlas.Proofs.Module.Places
import CodeAtlas.Proofs.Paired
import Mathlib.Data.List.Nodup
import Mathlib.Data.List.Perm.Subperm

/-!
# Where declarations stand

Indexing goes through the statements of a module and puts what they declare into tables. `Way` is the way
that it goes, without the tables: the definitions in their order, each with the number of the class that
it stands in.

* `Declared.addAll_eq_foldl_put`: indexing is to put these definitions into the tables one after the other.
* `Declared.recorded_addAll`: the tables hold one record of each definition.
* `Source.Read.scopesRecorded`: the records of a scope are those of the definitions in its statements.
* `definitionsIndexed`: the functions of a module are the definitions at the searched places, in the order
  of the text; they are those at all open places unless a statement hides one.
* `not_listed_final`: a function that is defined where handled failures end is not found.
-/

namespace CodeAtlas.Module

/-! ## The way through a module -/

/-- Is it the definition of a function or a class? -/
def Stmt.isDefinition (s : Stmt) : Bool := s.isFunction || s.isClass

theorem isDefinition_of_isFunction (s : Stmt) (h : s.isFunction = true) : s.isDefinition = true := by
  rw [Stmt.isDefinition, h, Bool.true_or]

theorem isDefinition_of_isClass (s : Stmt) (h : s.isClass = true) : s.isDefinition = true := by
  rw [Stmt.isDefinition, h, Bool.or_true]

/-- A definition with the number of the class around it. -/
structure Item where
  owner : Option Nat
  stmt : Stmt

def classesOf (is : List Item) : List Item := is.filter (·.stmt.isClass)

def countClasses (is : List Item) : Nat := (classesOf is).length

/-- The way through some statements of the class `owner` or of the module: the definitions to which it
leads, in their order; `n` is the number of the next class. -/
inductive Way : Option Nat → Nat → List Stmt → List Item → Prop
  | nil {owner : Option Nat} {n : Nat} : Way owner n [] []
  | function {owner : Option Nat} {n : Nat} {s : Stmt} {rest : List Stmt} {is : List Item}
      (h : s.isFunction = true) (hRest : Way owner n rest is) : Way owner n (s :: rest) (⟨owner, s⟩ :: is)
  | cls {owner : Option Nat} {n : Nat} {s : Stmt} {rest : List Stmt} {is js : List Item}
      (h : s.isClass = true) (hBody : Way (some n) (n + 1) s.searched is)
      (hRest : Way owner (n + 1 + countClasses is) rest js) :
      Way owner n (s :: rest) (⟨owner, s⟩ :: (is ++ js))
  | other {owner : Option Nat} {n : Nat} {s : Stmt} {rest : List Stmt} {is js : List Item}
      (hClass : s.isClass = false) (hFunction : s.isFunction = false) (hInside : Way owner n s.searched is)
      (hRest : Way owner (n + countClasses is) rest js) : Way owner n (s :: rest) (is ++ js)

theorem classesOf_append (is js : List Item) : classesOf (is ++ js) = classesOf is ++ classesOf js :=
  List.filter_append _ _

theorem countClasses_append (is js : List Item) :
    countClasses (is ++ js) = countClasses is + countClasses js := by
  rw [countClasses, classesOf_append, List.length_append]
  rfl

theorem classesOf_cons_cls {i : Item} (h : i.stmt.isClass = true) (is : List Item) :
    classesOf (i :: is) = i :: classesOf is := List.filter_cons_of_pos h

theorem classesOf_cons_other {i : Item} (h : i.stmt.isClass = false) (is : List Item) :
    classesOf (i :: is) = classesOf is := List.filter_cons_of_neg (by simp [h])

theorem isClass_of_isFunction {s : Stmt} (h : s.isFunction = true) : s.isClass = false := by
  cases s <;> first | rfl | cases h

theorem searched_of_isFunction {s : Stmt} (h : s.isFunction = true) : s.searched = [] := by
  cases s <;> first | rfl | cases h

theorem exists_way (owner : Option Nat) (n : Nat) (ss : List Stmt) : ∃ is, Way owner n ss is := by
  induction ss using Inner.spots.induct .searched generalizing owner n with
  | case1 => exact ⟨[], .nil⟩
  | case2 s rest ihInside ihRest =>
    by_cases hClass : s.isClass = true
    · obtain ⟨is, hBody⟩ := ihInside (some n) (n + 1)
      obtain ⟨js, hRest⟩ := ihRest owner (n + 1 + countClasses is)
      exact ⟨_, .cls hClass hBody hRest⟩
    · by_cases hFunction : s.isFunction = true
      · obtain ⟨is, hRest⟩ := ihRest owner n
        exact ⟨_, .function hFunction hRest⟩
      · obtain ⟨is, hInside⟩ := ihInside owner n
        obtain ⟨js, hRest⟩ := ihRest owner (n + countClasses is)
        exact ⟨_, .other (by simpa using hClass) (by simpa using hFunction) hInside hRest⟩

/-- The way leads to all definitions among the searched statements. -/
theorem Way.map_stmt {owner : Option Nat} {n : Nat} {ss : List Stmt} {is : List Item}
    (h : Way owner n ss is) : is.map (·.stmt) = (Inner.searched.listing ss).filter Stmt.isDefinition := by
  have hInside : ∀ s : Stmt, Inner.searched.of s = s.searched := fun _ => rfl
  induction h with
  | nil => simp
  | function h _ ih =>
    rw [List.map_cons, ih, Inner.listing_cons, hInside, searched_of_isFunction h, Inner.listing_nil,
      List.cons_append, List.nil_append, List.filter_cons, Stmt.isDefinition, h]
    rfl
  | cls h _ _ ihBody ihRest =>
    rw [List.map_cons, List.map_append, ihBody, ihRest, Inner.listing_cons, hInside, List.cons_append,
      List.filter_cons, List.filter_append, Stmt.isDefinition, h, Bool.or_true, if_pos rfl]
  | other hClass hFunction _ _ ihInside ihRest =>
    rw [List.map_append, ihInside, ihRest, Inner.listing_cons, hInside, List.cons_append,
      List.filter_cons, List.filter_append, Stmt.isDefinition, hClass, hFunction, Bool.or_false,
      if_neg Bool.false_ne_true]

/-! ## Scopes -/

/-- The definitions among some that stand in one class or at the top of the module. -/
def inScope (owner : Option Nat) (is : List Item) : List Stmt :=
  (is.filter (·.owner = owner)).map (·.stmt)

theorem inScope_append (owner : Option Nat) (is js : List Item) :
    inScope owner (is ++ js) = inScope owner is ++ inScope owner js := by
  rw [inScope, List.filter_append, List.map_append]
  rfl

theorem inScope_cons_self (owner : Option Nat) (s : Stmt) (is : List Item) :
    inScope owner (⟨owner, s⟩ :: is) = s :: inScope owner is := by
  rw [inScope, List.filter_cons_of_pos (by simp)]
  rfl

theorem inScope_cons_of_ne {owner owner' : Option Nat} (h : owner' ≠ owner) (s : Stmt) (is : List Item) :
    inScope owner (⟨owner', s⟩ :: is) = inScope owner is := by
  rw [inScope, List.filter_cons_of_neg (by simpa using h)]
  rfl

namespace Way

variable {owner : Option Nat} {n : Nat} {ss : List Stmt} {is : List Item}

/-- A definition stands in the class that the way starts in or in one that it comes by. -/
theorem owner_mem (h : Way owner n ss is) {i : Item} (hi : i ∈ is) :
    i.owner = owner ∨ ∃ k, i.owner = some k ∧ n ≤ k ∧ k < n + countClasses is := by
  induction h with
  | nil => cases hi
  | @function owner n s rest is h _ ih =>
    have hCount : countClasses (⟨owner, s⟩ :: is) = countClasses is :=
      congrArg List.length (classesOf_cons_other (isClass_of_isFunction h) is)
    rw [hCount]
    rcases List.mem_cons.mp hi with rfl | hi
    · exact .inl rfl
    · exact ih hi
  | @cls owner n s rest is js h _ _ ihBody ihRest =>
    have hCount : countClasses (⟨owner, s⟩ :: (is ++ js)) = countClasses is + countClasses js + 1 := by
      rw [← countClasses_append]
      exact congrArg List.length (classesOf_cons_cls h _)
    rw [hCount]
    rcases List.mem_cons.mp hi with rfl | hi
    · exact .inl rfl
    · rcases List.mem_append.mp hi with hi | hi
      · rcases ihBody hi with hOwner | ⟨k, hOwner, hLow, hHigh⟩
        · exact .inr ⟨n, hOwner, by omega, by omega⟩
        · exact .inr ⟨k, hOwner, by omega, by omega⟩
      · rcases ihRest hi with hOwner | ⟨k, hOwner, hLow, hHigh⟩
        · exact .inl hOwner
        · exact .inr ⟨k, hOwner, by omega, by omega⟩
  | @other owner n s rest is js _ _ _ _ ihInside ihRest =>
    rw [countClasses_append]
    rcases List.mem_append.mp hi with hi | hi
    · rcases ihInside hi with hOwner | ⟨k, hOwner, hLow, hHigh⟩
      · exact .inl hOwner
      · exact .inr ⟨k, hOwner, by omega, by omega⟩
    · rcases ihRest hi with hOwner | ⟨k, hOwner, hLow, hHigh⟩
      · exact .inl hOwner
      · exact .inr ⟨k, hOwner, by omega, by omega⟩

/-- No definition on the way stands in a class that the way neither starts in nor comes by. -/
theorem inScope_eq_nil (h : Way owner n ss is) {o : Option Nat} (hOwner : o ≠ owner)
    (hOut : ∀ k, o = some k → k < n ∨ n + countClasses is ≤ k) : inScope o is = [] := by
  rw [inScope, List.map_eq_nil_iff, List.filter_eq_nil_iff]
  intro i hi hEq
  have hEq : i.owner = o := of_decide_eq_true hEq
  rcases h.owner_mem hi with hSame | ⟨k, hSame, hLow, hHigh⟩
  · exact hOwner (hEq.symm.trans hSame)
  · rcases hOut k (hEq.symm.trans hSame) with hLt | hLe <;> omega

/-- The definitions in the class that the way starts in are those alongside. -/
theorem inScope_owner (h : Way owner n ss is) (hOwner : ∀ k, owner = some k → k < n) :
    inScope owner is = (Inner.alongside.listing ss).filter Stmt.isDefinition := by
  have hOf : ∀ s : Stmt, Inner.alongside.of s = s.alongside := fun _ => rfl
  induction h with
  | nil => simp [inScope]
  | @function owner n s rest is h _ ih =>
    have hNone : s.alongside = [] := by
      rw [Stmt.alongside, isClass_of_isFunction h, searched_of_isFunction h, if_neg Bool.false_ne_true]
    rw [inScope_cons_self, ih hOwner, Inner.listing_cons, hOf, hNone, Inner.listing_nil,
      List.cons_append, List.nil_append, List.filter_cons, Stmt.isDefinition, h]
    rfl
  | @cls owner n s rest is js h hBody _ _ ihRest =>
    have hNone : s.alongside = [] := by rw [Stmt.alongside, if_pos h]
    have hInside : inScope owner is = [] := by
      refine hBody.inScope_eq_nil (fun hEq => ?_) fun k hk => .inl ?_
      · exact Nat.lt_irrefl n (hOwner n hEq)
      · exact Nat.lt_succ_of_lt (hOwner k hk)
    have hRest := ihRest fun k hk => Nat.lt_of_lt_of_le (hOwner k hk) (by omega)
    rw [inScope_cons_self, inScope_append, hInside, hRest, Inner.listing_cons, hOf, hNone,
      Inner.listing_nil, List.nil_append, List.cons_append, List.nil_append, List.filter_cons,
      Stmt.isDefinition, h, Bool.or_true, if_pos rfl]
  | @other owner n s rest is js hClass hFunction _ _ ihInside ihRest =>
    have hAlongside : s.alongside = s.searched := by
      rw [Stmt.alongside, hClass, if_neg Bool.false_ne_true]
    have hRest := ihRest fun k hk => Nat.lt_of_lt_of_le (hOwner k hk) (by omega)
    rw [inScope_append, ihInside hOwner, hRest, Inner.listing_cons, hOf, hAlongside, List.cons_append,
      List.filter_cons, List.filter_append, Stmt.isDefinition, hClass, hFunction, Bool.or_false,
      if_neg Bool.false_ne_true]

/-- What holds of the classes of two ways, one after the other, holds of those of both together. -/
theorem inScope_cls_append {o : Option Nat} {m : Nat} {inside rest : List Stmt} {js : List Item} {i : Item}
    {found : List Stmt} (hInside : Way o m inside is) (hRest : Way owner (m + countClasses is) rest js)
    (hOwner : ∀ k, owner = some k → k < m) (hOther : ∀ k, o = some k → k < m)
    (hLeft : ∀ j, (classesOf is)[j]? = some i → inScope (some (m + j)) is = found)
    (hRight : ∀ j, (classesOf js)[j]? = some i →
      inScope (some (m + countClasses is + j)) js = found) {j : Nat}
    (hi : (classesOf (is ++ js))[j]? = some i) : inScope (some (m + j)) (is ++ js) = found := by
  have hNe : ∀ {o : Option Nat}, (∀ k, o = some k → k < m) → some (m + j) ≠ o := by
    rintro o h rfl
    have hLt := h _ rfl
    omega
  rw [classesOf_append] at hi
  rw [inScope_append]
  by_cases hLt : j < countClasses is
  · rw [hLeft j (List.getElem?_append_left hLt ▸ hi), hRest.inScope_eq_nil (hNe hOwner), List.append_nil]
    rintro k ⟨⟩
    exact .inl (by omega)
  · have hFound := hRight (j - countClasses is)
    have hNumber : m + countClasses is + (j - countClasses is) = m + j := by omega
    rw [List.getElem?_append_right (Nat.le_of_not_lt hLt)] at hi
    rw [hNumber] at hFound
    rw [hFound hi, hInside.inScope_eq_nil (hNe hOther), List.nil_append]
    rintro k ⟨⟩
    exact .inr (by omega)

/-- The definitions in a class that the way comes by are those alongside in its body. -/
theorem inScope_cls (h : Way owner n ss is) (hOwner : ∀ k, owner = some k → k < n) {j : Nat} {i : Item}
    (hi : (classesOf is)[j]? = some i) : inScope (some (n + j)) is =
      (Inner.alongside.listing i.stmt.searched).filter Stmt.isDefinition := by
  have hNe : ∀ {owner : Option Nat} {n : Nat} (j : Nat), (∀ k, owner = some k → k < n) →
      owner ≠ some (n + j) := by
    intro owner n j hOwner hEq
    have hLt := hOwner _ hEq
    omega
  induction h generalizing j with
  | nil => cases hi
  | @function owner n s rest is h _ ih =>
    rw [classesOf_cons_other (isClass_of_isFunction h)] at hi
    rw [inScope_cons_of_ne (hNe j hOwner), ih hOwner hi]
  | @cls owner n s rest is js h hBody hRest ihBody ihRest =>
    have hLater : ∀ {m : Nat}, n ≤ m → ∀ k, owner = some k → k < m := fun hm k hk =>
      Nat.lt_of_lt_of_le (hOwner k hk) hm
    have hSelf : ∀ k, some n = some k → k < n + 1 := by
      rintro k ⟨⟩
      exact Nat.lt_succ_self n
    rw [classesOf_cons_cls h] at hi
    rw [inScope_cons_of_ne (hNe j hOwner)]
    cases j with
    | zero =>
      obtain rfl := Option.some.inj hi
      have hRestNil : inScope (some n) js = [] := by
        refine hRest.inScope_eq_nil (hNe 0 hOwner).symm ?_
        rintro k ⟨⟩
        exact .inl (by omega)
      rw [Nat.add_zero, inScope_append, hBody.inScope_owner hSelf, hRestNil, List.append_nil]
    | succ j =>
      have hNumber : n + (j + 1) = n + 1 + j := by omega
      rw [hNumber]
      exact inScope_cls_append hBody hRest (hLater (Nat.le_succ n)) hSelf (fun _ => ihBody hSelf)
        (fun _ => ihRest (hLater (by omega))) hi
  | @other owner n s rest is js _ _ hInside hRest ihInside ihRest =>
    have hLater : ∀ k, owner = some k → k < n + countClasses is := fun k hk =>
      Nat.lt_of_lt_of_le (hOwner k hk) (by omega)
    exact inScope_cls_append hInside hRest hOwner hOwner (fun _ => ihInside hOwner)
      (fun _ => ihRest hLater) hi

end Way

/-! ## Tables -/

namespace Declared

/-- Puts a definition into the tables. -/
def put (d : Declared) (i : Item) : Declared :=
  match i.stmt with
  | .function line name params body decorators _ =>
    d.addFunction i.owner (functionOf d.declarations.length i.owner line name params body decorators
      (.stmt i.stmt))
  | .classDef line name bases _ body decorators =>
    d.addClass i.owner line name bases decorators body
  | _ => d

theorem addAll_append (owner : Option Nat) (d : Declared) (xs ys : List Stmt) :
    addAll owner d (xs ++ ys) = addAll owner (addAll owner d xs) ys := by
  induction xs generalizing d with
  | nil => rw [List.nil_append, addAll]
  | cons x xs ih => rw [List.cons_append, addAll, addAll, ih]

theorem addHandlers_eq (owner : Option Nat) (d : Declared) (handlers : List Handler) :
    addHandlers owner d handlers = addAll owner d (handlers.flatMap Handler.body) := by
  induction handlers generalizing d with
  | nil => rw [addHandlers, List.flatMap_nil, addAll]
  | cons h handlers ih =>
    obtain ⟨kind, name, body⟩ := h
    rw [addHandlers, ih, List.flatMap_cons, addAll_append, Handler.body]

/-- A statement that defines nothing itself declares what the statements in it declare. -/
theorem add_other {s : Stmt} (hClass : s.isClass = false) (hFunction : s.isFunction = false)
    (owner : Option Nat) (d : Declared) : add owner d s = addAll owner d s.searched := by
  have hNil : addAll owner d [] = d := by rw [addAll]
  cases s with
  | function => cases hFunction
  | classDef => cases hClass
  | branch line test body orElse => rw [add, Stmt.searched, addAll_append]
  | attempt grouped body handlers orElse final =>
    cases grouped with
    | false => rw [add, Stmt.searched, addAll_append, addAll_append, addHandlers_eq]
    | true => exact hNil.symm
  | _ => exact hNil.symm

theorem length_put (d : Declared) (i : Item) :
    (d.put i).allClasses.length = d.allClasses.length + countClasses [i] := by
  obtain ⟨owner, s⟩ := i
  cases s with
  | function => exact length_addFunction ..
  | classDef => exact length_addClass ..
  | _ => rfl

theorem length_foldl_put (d : Declared) (is : List Item) :
    (is.foldl put d).allClasses.length = d.allClasses.length + countClasses is := by
  induction is generalizing d with
  | nil => rfl
  | cons i is ih =>
    have hCount : countClasses (i :: is) = countClasses [i] + countClasses is :=
      countClasses_append [i] is
    rw [List.foldl_cons, ih, length_put, hCount, Nat.add_assoc]

/-- To index some statements is to put the definitions that they lead to into the tables. -/
theorem addAll_eq_foldl_put {owner : Option Nat} {n : Nat} {ss : List Stmt} {is : List Item}
    (h : Way owner n ss is) (hn : d.allClasses.length = n) : addAll owner d ss = is.foldl put d := by
  induction h generalizing d with
  | nil => rw [addAll, List.foldl_nil]
  | @function owner n s rest is h _ ih =>
    cases s with
    | function line name params body decorators result =>
      rw [addAll, List.foldl_cons, put, add]
      exact ih ((length_addFunction ..).trans hn)
    | _ => cases h
  | @cls owner n s rest is js h _ _ ihBody ihRest =>
    cases s with
    | classDef line name bases keywords body decorators =>
      have hNew : (d.addClass owner line name bases decorators body).allClasses.length = n + 1 := by
        rw [length_addClass, hn]
      have hBody : addAll (some n) (d.addClass owner line name bases decorators body) body =
          is.foldl put (d.addClass owner line name bases decorators body) := ihBody hNew
      rw [addAll, List.foldl_cons, put, add, List.foldl_append, hn, hBody]
      refine ihRest ?_
      rw [length_foldl_put, hNew]
    | _ => cases h
  | @other owner n s rest is js hClass hFunction _ _ ihInside ihRest =>
    rw [addAll, add_other hClass hFunction, List.foldl_append, ihInside hn]
    exact ihRest ((length_foldl_put d is).trans (by rw [hn]))

end Declared

/-! ## Records -/

/-- The record says what the definition of a function says. -/
def Function.Records (f : Function) : Stmt → Prop
  | .function line name params body decorators result =>
    f = functionOf f.number f.owner line name params body decorators
      (.stmt (.function line name params body decorators result))
  | _ => False

/-- The record says what the definition of a class says. -/
def Class.Records (c : Class) : Stmt → Prop
  | .classDef line name bases _ body decorators =>
    c.line = line ∧ c.name = name ∧ c.bases = bases ∧ c.body = body ∧ c.decorators = decorators
  | _ => False

def Function.IsOf (f : Function) (i : Item) : Prop := f.Records i.stmt ∧ f.owner = i.owner

def Class.IsOf (c : Class) (i : Item) : Prop := c.Records i.stmt ∧ c.outer = i.owner

namespace Declared

variable {d : Declared} {is : List Item}

/-- The tables hold a record of each definition, in the order of the definitions. -/
structure Recorded (d : Declared) (is : List Item) : Prop where
  functions : List.Forall₂ Function.IsOf d.declarations (is.filter (·.stmt.isFunction))
  classes : List.Forall₂ Class.IsOf d.allClasses (is.filter (·.stmt.isClass))

theorem recorded_empty : Recorded empty [] := ⟨.nil, .nil⟩

/-- What a change leaves as it is of the record of a class. -/
theorem isOf_modify {change : Class → Class} {cs : List Class}
    (hChange : ∀ c i, c.IsOf i → (change c).IsOf i) (h : List.Forall₂ Class.IsOf cs is) (n : Nat) :
    List.Forall₂ Class.IsOf (cs.modify n change) is := by
  induction h generalizing n with
  | nil =>
    rw [List.modify_nil]
    exact .nil
  | cons hHead hTail ih =>
    cases n with
    | zero => exact .cons (hChange _ _ hHead) hTail
    | succ n => exact .cons hHead (ih n)

theorem isOf_addFunction (h : List.Forall₂ Class.IsOf d.allClasses is) (owner : Option Nat)
    (f : Function) : List.Forall₂ Class.IsOf (d.addFunction owner f).allClasses is := by
  cases owner with
  | none => exact h
  | some n =>
    refine isOf_modify (fun c i hc => ?_) h n
    obtain ⟨owner, s⟩ := i
    cases s <;> exact hc

theorem isOf_addClass (h : List.Forall₂ Class.IsOf d.allClasses is) (outer : Option Nat) (line : Nat)
    (name : String) (bases decorators : List Expr) (keywords : List Keyword) (body : List Stmt) :
    List.Forall₂ Class.IsOf (d.addClass outer line name bases decorators body).allClasses
      (is ++ [⟨outer, .classDef line name bases keywords body decorators⟩]) := by
  have hNew : ∀ new : Class, new.Records (.classDef line name bases keywords body decorators) →
      new.outer = outer → List.Forall₂ Class.IsOf (d.allClasses ++ [new])
        (is ++ [⟨outer, .classDef line name bases keywords body decorators⟩]) :=
    fun new hRecords hOuter => List.rel_append h (.cons ⟨hRecords, hOuter⟩ .nil)
  cases outer with
  | none =>
    exact hNew _ ⟨rfl, rfl, rfl, rfl, rfl⟩ rfl
  | some n =>
    refine isOf_modify (fun c i hc => ?_) (hNew _ ⟨rfl, rfl, rfl, rfl, rfl⟩ rfl) n
    obtain ⟨owner, s⟩ := i
    cases s <;> exact hc

theorem Recorded.put (h : d.Recorded is) (i : Item) : (d.put i).Recorded (is ++ [i]) := by
  obtain ⟨owner, s⟩ := i
  have hOther : ∀ p : Item → Bool, p ⟨owner, s⟩ = false →
      (is ++ [Item.mk owner s]).filter p = is.filter p := by
    intro p hp
    rw [List.filter_append, List.filter_cons, hp, if_neg Bool.false_ne_true, List.filter_nil,
      List.append_nil]
  have hSelf : ∀ p : Item → Bool, p ⟨owner, s⟩ = true →
      (is ++ [Item.mk owner s]).filter p = is.filter p ++ [Item.mk owner s] := by
    intro p hp
    rw [List.filter_append, List.filter_cons, hp, if_pos rfl, List.filter_nil]
  cases s with
  | function line name params body decorators result =>
    refine ⟨?_, ?_⟩
    · rw [hSelf (·.stmt.isFunction) rfl, Declared.put, declarations_addFunction]
      exact List.rel_append h.functions (.cons ⟨rfl, rfl⟩ .nil)
    · rw [hOther (·.stmt.isClass) rfl]
      exact isOf_addFunction h.classes _ _
  | classDef line name bases keywords body decorators =>
    refine ⟨?_, ?_⟩
    · rw [hOther (·.stmt.isFunction) rfl, Declared.put, declarations_addClass]
      exact h.functions
    · rw [hSelf (·.stmt.isClass) rfl]
      exact isOf_addClass h.classes _ _ _ _ _ _ _
  | _ =>
    refine ⟨?_, ?_⟩
    · rw [hOther (·.stmt.isFunction) rfl]
      exact h.functions
    · rw [hOther (·.stmt.isClass) rfl]
      exact h.classes

theorem Recorded.foldl_put (h : d.Recorded is) (js : List Item) :
    (js.foldl Declared.put d).Recorded (is ++ js) := by
  induction js generalizing d is with
  | nil => rwa [List.append_nil]
  | cons j js ih =>
    rw [List.foldl_cons, ← List.singleton_append, ← List.append_assoc]
    exact ih (h.put j)

theorem recorded_addAll {body : List Stmt} (h : Way none 0 body is) :
    (addAll none empty body).Recorded is := by
  rw [addAll_eq_foldl_put h rfl]
  exact recorded_empty.foldl_put is

end Declared

/-! ## Scopes of a module -/

/-- The statements of a module or of one of its classes. -/
def Source.scopeBody (s : Source) : Option Nat → List Stmt
  | none => s.body
  | some n => ((s.class? n).map (·.body)).getD []

/-- The functions and the classes of every scope are those that are defined alongside in its statements,
in the order of the text. -/
structure ScopesRecorded (s : Source) : Prop where
  functions : ∀ owner, List.Forall₂ Function.Records (s.declarations.filter (·.owner = owner))
    ((Inner.alongside.listing (s.scopeBody owner)).filter Stmt.isFunction)
  classes : ∀ outer, List.Forall₂ Class.Records (s.allClasses.filter (·.outer = outer))
    ((Inner.alongside.listing (s.scopeBody outer)).filter Stmt.isClass)

theorem filter_isDefinition {p : Stmt → Bool} (hp : ∀ s, p s = true → s.isDefinition = true)
    (ss : List Stmt) : (ss.filter Stmt.isDefinition).filter p = ss.filter p := by
  rw [List.filter_filter]
  refine List.filter_congr fun s _ => ?_
  cases h : p s with
  | false => rfl
  | true => rw [hp s h, Bool.and_self]

/-- What stands in one scope of what a choice of definitions has recorded. -/
theorem forall₂_filter_inScope {α : Type} {R : α → Stmt → Prop} {owner : α → Option Nat} {xs : List α}
    {is : List Item} {p : Stmt → Bool} (hp : ∀ s, p s = true → s.isDefinition = true)
    (h : List.Forall₂ (fun x i => R x i.stmt ∧ owner x = i.owner) xs (is.filter (p ·.stmt)))
    {o : Option Nat} {ss : List Stmt} (hScope : inScope o is = ss.filter Stmt.isDefinition) :
    List.Forall₂ R (xs.filter (owner · = o)) (ss.filter p) := by
  have hFilter : List.Forall₂ _ (xs.filter (owner · = o))
      ((is.filter (p ·.stmt)).filter (·.owner = o)) :=
    List.rel_filter (fun x i hx => by simp [hx.2]) h
  have hMap : ((is.filter (p ·.stmt)).filter (·.owner = o)).map (·.stmt) = ss.filter p := by
    have hInside : ((is.filter (p ·.stmt)).filter (·.owner = o)).map (·.stmt) =
        (inScope o is).filter p := by
      rw [inScope, List.filter_map, List.filter_comm]
      rfl
    rw [hInside, hScope, filter_isDefinition hp]
  rw [← hMap]
  exact List.forall₂_map_right_iff.mpr (hFilter.imp fun _ _ hx => hx.1)

theorem Source.Read.scopesRecorded {s : Source} (h : s.Read) : ScopesRecorded s := by
  obtain ⟨number, name, path, body, rfl⟩ := h
  obtain ⟨is, hWay⟩ := exists_way none 0 body
  have hRecorded := Declared.recorded_addAll hWay
  have hScope : ∀ owner, inScope owner is = (Inner.alongside.listing
      ((sourceOf number name path body).scopeBody owner)).filter Stmt.isDefinition := by
    intro owner
    cases owner with
    | none => exact hWay.inScope_owner nofun
    | some n =>
      cases hClass : (sourceOf number name path body).class? n with
      | none =>
        -- there is no class of this number
        have hBeyond : countClasses is ≤ n := by
          rw [countClasses, classesOf, ← hRecorded.classes.length_eq]
          exact List.getElem?_eq_none_iff.mp hClass
        rw [Source.scopeBody, hClass, hWay.inScope_eq_nil (by simp)]
        · rw [Option.map_none, Option.getD_none, Inner.listing_nil, List.filter_nil]
        · rintro k ⟨⟩
          exact .inr (by omega)
      | some c =>
        obtain ⟨i, hi, hIs, -⟩ := getElem?_of_forall₂ hRecorded.classes hClass
        have hBody : i.stmt.searched = c.body := by
          obtain ⟨owner, s⟩ := i
          cases s <;> first | exact hIs.2.2.2.1.symm | exact hIs.elim
        have hNumber : 0 + n = n := Nat.zero_add n
        rw [Source.scopeBody, hClass, Option.map_some, Option.getD_some, ← hBody, ← hNumber]
        exact hWay.inScope_cls nofun hi
  exact ⟨fun owner => forall₂_filter_inScope isDefinition_of_isFunction hRecorded.functions (hScope owner),
    fun outer => forall₂_filter_inScope isDefinition_of_isClass hRecorded.classes (hScope outer)⟩

/-! ## Functions and their places -/

/-- The functions are those that are defined at the places to which a choice of statements leads, each
once and in the order of the text. -/
def ListsDefinitions (I : Inner) (body : List Stmt) (fs : List Function) : Prop :=
  ∃ spots : List (List Nat × Stmt), spots.Pairwise (fun x y => x.1 < y.1) ∧
    (∀ p s, (p, s) ∈ spots ↔ I.At body p s ∧ s.isFunction = true) ∧
    List.Forall₂ (fun f x => f.Records x.2) fs spots

theorem listsDefinitions_of_forall₂ {I : Inner} {body : List Stmt} {fs : List Function}
    (h : List.Forall₂ Function.Records fs ((I.listing body).filter Stmt.isFunction)) :
    ListsDefinitions I body fs := by
  refine ⟨(I.spots body).filter (·.2.isFunction), (I.pairwise_spots body).filter _, ?_, ?_⟩
  · intro p s
    rw [List.mem_filter, Inner.mem_spots]
  · have hMap : (I.listing body).filter Stmt.isFunction =
        ((I.spots body).filter (·.2.isFunction)).map (·.2) := List.filter_map
    rw [hMap] at h
    exact List.forall₂_map_right_iff.mp h

/-- The functions of a module are the definitions among its searched statements. -/
theorem forall₂_declarations (body : List Stmt) :
    List.Forall₂ Function.Records (Declared.addAll none .empty body).declarations
      ((Inner.searched.listing body).filter Stmt.isFunction) := by
  obtain ⟨is, hWay⟩ := exists_way none 0 body
  have hMap : (is.filter (·.stmt.isFunction)).map (·.stmt) =
      (Inner.searched.listing body).filter Stmt.isFunction := by
    have hFilter : (is.filter (·.stmt.isFunction)).map (·.stmt) =
        (is.map (·.stmt)).filter Stmt.isFunction := by
      rw [List.filter_map]
      rfl
    rw [hFilter, hWay.map_stmt, filter_isDefinition isDefinition_of_isFunction]
  rw [← hMap]
  exact List.forall₂_map_right_iff.mpr ((Declared.recorded_addAll hWay).functions.imp fun _ _ h => h.1)

/-- A second choice leads to the same number of definitions only if it leads to the same. -/
theorem at_of_listsDefinitions {I J : Inner} {body : List Stmt} {fs : List Function}
    (hI : ListsDefinitions I body fs) (hJ : ListsDefinitions J body fs)
    (hSub : ∀ p s, I.At body p s → J.At body p s) {p : List Nat} {s : Stmt} (h : J.At body p s)
    (hs : s.isFunction = true) : I.At body p s := by
  obtain ⟨xs, hOrder, hExact, hEach⟩ := hI
  obtain ⟨ys, -, hExact', hEach'⟩ := hJ
  have hSubset : xs ⊆ ys := fun x hx =>
    (hExact' x.1 x.2).mpr ⟨hSub _ _ ((hExact x.1 x.2).mp hx).1, ((hExact x.1 x.2).mp hx).2⟩
  have hLength : ys.length ≤ xs.length :=
    Nat.le_of_eq (hEach'.length_eq.symm.trans hEach.length_eq)
  have hMem := Inner.subset_of_length_le hOrder hSubset hLength ((hExact' p s).mpr ⟨h, hs⟩)
  exact ((hExact p s).mp hMem).1

/-- The definitions at the searched places are those at all open ones just if none is hidden. -/
theorem listsDefinitions_opened_iff {body : List Stmt} {fs : List Function}
    (h : ListsDefinitions .searched body fs) : ListsDefinitions .opened body fs ↔
      ∀ q s p t, Inner.opened.At body q s → Inner.opened.At s.hidden p t → t.isFunction = false := by
  constructor
  · intro hAll q s p t hs ht
    refine Bool.eq_false_iff.mpr fun hFunction => ?_
    obtain ⟨r, hr, hNot⟩ := Inner.exists_not_searched hs ht
    exact hNot (at_of_listsDefinitions h hAll (fun _ _ hIn => hIn.opened) hr hFunction)
  · intro hNone
    obtain ⟨spots, hOrder, hExact, hEach⟩ := h
    refine ⟨spots, hOrder, fun p s => (hExact p s).trans ?_, hEach⟩
    refine and_congr_left fun hFunction => ⟨fun hIn => hIn.opened, fun hIn => ?_⟩
    rcases hIn.searched_or with hSearched | ⟨q, u, r, hu, hr⟩
    · exact hSearched
    · rw [hNone q u r s hu hr] at hFunction
      cases hFunction

theorem listsDefinitions_searched (number : Nat) (name path : String) (body : List Stmt) :
    ListsDefinitions .searched body (sourceOf number name path body).declarations :=
  listsDefinitions_of_forall₂ (forall₂_declarations body)

/-- What indexing finds of the functions that a module defines. -/
structure DefinitionsIndexed (body : List Stmt) (fs : List Function) : Prop where
  /-- They are those at the searched places. -/
  searched : ListsDefinitions .searched body fs
  /-- They are those at all open places just if no function is defined in a hidden statement. -/
  all_iff : ListsDefinitions .opened body fs ↔ ∀ q s p t, Inner.opened.At body q s →
    Inner.opened.At s.hidden p t → t.isFunction = false

theorem definitionsIndexed (number : Nat) (name path : String) (body : List Stmt) :
    DefinitionsIndexed body (sourceOf number name path body).declarations where
  searched := listsDefinitions_searched number name path body
  all_iff := listsDefinitions_opened_iff (listsDefinitions_searched number name path body)

/-! ### A function where handled failures end -/

def finalBody : List Stmt :=
  [.attempt false [.plain []] [] [] [.function 4 "f" ⟨[], [], none, [], [], none, []⟩ [.plain []] [] none]]

/-- A function that is defined where handled failures end is not found. -/
theorem not_listed_final : ¬ ListsDefinitions .opened finalBody
    (sourceOf 0 "m" "m.py" finalBody).declarations := by
  rw [listsDefinitions_opened_iff (listsDefinitions_searched 0 "m" "m.py" finalBody)]
  intro hNone
  have hFalse := hNone [0] _ [0] _ (.here rfl) (.here rfl)
  cases hFalse

end CodeAtlas.Module
