import CodeAtlas.Module.Scope
import CodeAtlas.Proofs.Module.Blocks

/-!
# Scopes in a function

Functions, nameless ones, comprehensions and classes open scopes of their own inside a function. A name
denotes what the nearest scope binds it to, where a class is only seen from directly inside it, and a
statement can say that a name is bound elsewhere. A value that is named inside an expression is bound in
the scope around the comprehensions there.

* `exists_stands`: every call in a function stands in some scopes.
* `Stands.holds_scope`: what is in one of these scopes is in the function.
* `Denotes.mem`: a name denotes what one of these scopes binds.
-/

namespace CodeAtlas.Module

/-! ## Scopes -/

inductive ScopeKind where
  | function
  | comprehension
  | cls
  deriving DecidableEq

/-- What binds names: its parameters, and all that is directly inside it. -/
structure Scope where
  kind : ScopeKind
  params : List String
  inside : List Node

/-- The elements and the loops of a comprehension. -/
def Expr.comprehension? : Expr → Option (List Expr × List Clause)
  | .listComp element clauses => some ([element], clauses)
  | .setComp element clauses => some ([element], clauses)
  | .dictComp key value clauses => some ([key, value], clauses)
  | .generator element clauses => some ([element], clauses)
  | _ => none

namespace Node

/-- What of the loops of a comprehension belongs to the scope around it: only the values of the first. -/
def source : List Clause → List Node
  | .mk _ _ source _ :: _ => [.expr source]
  | [] => []

/-- What of them belongs to the comprehension itself. -/
def loops : List Clause → List Node
  | .mk _ target _ conditions :: rest => .expr target :: exprs conditions ++ rest.map .clause
  | [] => []

/-- The scope that a node opens. -/
def scope? : Node → Option Scope
  | .stmt (.function _ _ ps body _ _) => some ⟨.function, ps.all.map (·.name), stmts body⟩
  | .stmt (.classDef _ _ _ _ body _) => some ⟨.cls, [], stmts body⟩
  | .expr (.lambda ps body) => some ⟨.function, ps.all.map (·.name), [.expr body]⟩
  | .expr e => e.comprehension?.map fun c => ⟨.comprehension, [], exprs c.1 ++ loops c.2⟩
  | _ => none

/-- The name that an assignment inside an expression binds. -/
def named? : Node → Option String
  | .expr (.named (.name id true) _) => some id
  | _ => none

/-- What directly below a node belongs to the scope around it; a name that is bound inside an expression
is left to its assignment. -/
def around : Node → List Node
  | .stmt (.function _ _ ps _ decorators result) => .params ps :: exprs decorators ++ expr? result
  | .stmt (.classDef _ _ bases keywords _ decorators) =>
    exprs bases ++ keywords.map .keyword ++ exprs decorators
  | .expr (.lambda ps _) => [.params ps]
  | .expr (.named (.name _ true) value) => [.expr value]
  | .expr e => match e.comprehension? with
    | some c => source c.2
    | none => ofExpr e
  | n => n.children

section Comprehension

variable {e : Expr} {c : List Expr × List Clause} (h : e.comprehension? = some c)

include h

theorem children_comprehension : (expr e).children = exprs c.1 ++ c.2.map .clause := by
  cases e <;> simp only [Expr.comprehension?, Option.some.injEq, reduceCtorEq] at h <;> subst h <;> rfl

theorem around_comprehension : (expr e).around = source c.2 := by
  cases e <;> simp only [Expr.comprehension?, Option.some.injEq, reduceCtorEq] at h <;> subst h <;> rfl

theorem scope?_comprehension :
    (expr e).scope? = some ⟨.comprehension, [], exprs c.1 ++ loops c.2⟩ := by
  cases e <;> simp only [Expr.comprehension?, Option.some.injEq, reduceCtorEq] at h <;> subst h <;> rfl

end Comprehension

theorem mem_source_or_loops {clauses : List Clause} {k : Clause} {n : Node} (hk : k ∈ clauses)
    (hn : n ∈ (clause k).children) : clause k ∈ loops clauses ∨ n ∈ source clauses ∨ n ∈ loops clauses := by
  cases clauses with
  | nil => cases hk
  | cons first rest =>
    obtain ⟨isAsync, target, value, conditions⟩ := first
    rcases List.mem_cons.mp hk with rfl | hk
    · refine .inr ?_
      simp only [children, List.mem_cons] at hn
      simp only [source, loops, List.mem_cons, List.mem_append, List.not_mem_nil]
      grind
    · exact .inl (List.mem_append_right _ (List.mem_map_of_mem hk))

/-- The node belongs to the scope around `a` or to the scope that `a` opens. -/
def Parted (a n : Node) : Prop := n ∈ a.around ∨ ∃ S, a.scope? = some S ∧ n ∈ S.inside

theorem parted_comprehension {e : Expr} {c : List Expr × List Clause} (h : e.comprehension? = some c)
    {n : Node} : (expr e).Parted n ↔ n ∈ source c.2 ∨ n ∈ exprs c.1 ++ loops c.2 := by
  rw [Parted, around_comprehension h, scope?_comprehension h]
  simp only [Option.some.injEq, exists_eq_left']

/-- What stands directly below a comprehension is parted, except for its first loop, which makes no call
itself and whose own parts are. -/
theorem children_comprehension_cases {e : Expr} {comp : List Expr × List Clause}
    (hComp : e.comprehension? = some comp) {c : Node} (h : c ∈ (expr e).children) :
    (expr e).Parted c ∨ (c.call? = none ∧ ∀ n ∈ c.children, (expr e).Parted n) := by
  rw [children_comprehension hComp] at h
  simp only [parted_comprehension hComp]
  rcases List.mem_append.mp h with h | h
  · exact .inl (.inr (List.mem_append_left _ h))
  · obtain ⟨k, hk, rfl⟩ := List.mem_map.mp h
    by_cases hInside : clause k ∈ loops comp.2
    · exact .inl (.inr (List.mem_append_right _ hInside))
    · refine .inr ⟨rfl, fun n hn => ?_⟩
      rcases mem_source_or_loops hk hn with hLoop | hSource | hLoop
      · exact (hInside hLoop).elim
      · exact .inl hSource
      · exact .inr (List.mem_append_right _ hLoop)

/-- What stands directly below a node is parted, or else it makes no call itself, and all that is directly
below it is. -/
theorem children_cases {a c : Node} (h : c ∈ a.children) :
    a.Parted c ∨ (c.call? = none ∧ ∀ n ∈ c.children, a.Parted n) := by
  cases a with
  | stmt s =>
    refine .inl ?_
    cases s with
    | function line name ps body decorators result =>
      simp only [children, ofStmt, List.mem_cons, List.mem_append] at h
      simp only [Parted, around, scope?, List.mem_cons, List.mem_append, Option.some.injEq,
        exists_eq_left']
      grind
    | classDef line name bases keywords body decorators =>
      simp only [children, ofStmt, List.mem_append] at h
      simp only [Parted, around, scope?, List.mem_append, Option.some.injEq, exists_eq_left']
      grind
    | _ => exact .inl h
  | expr e =>
    cases hComp : e.comprehension? with
    | some comp => exact children_comprehension_cases hComp h
    | none =>
      cases e with
      | lambda ps body =>
        simp only [children, ofExpr, List.mem_cons, List.not_mem_nil, or_false] at h
        rcases h with rfl | rfl
        · exact .inl (.inl (.head _))
        · exact .inl (.inr ⟨_, rfl, .head _⟩)
      | named target value =>
        cases target with
        | name id bound =>
          cases bound with
          | true =>
            -- the name that is bound is left out
            simp only [children, ofExpr, List.mem_cons, List.not_mem_nil, or_false] at h
            rcases h with rfl | rfl
            · exact .inr ⟨rfl, fun n hn => by cases hn⟩
            · exact .inl (.inl (.head _))
          | false => exact .inl (.inl h)
        | _ => exact .inl (.inl h)
      | _ => first | exact .inl (.inl h) | cases hComp
  | _ => exact .inl (.inl h)

theorem exists_clause {clauses : List Clause} {n : Node} (h : n ∈ source clauses ∨ n ∈ loops clauses) :
    ∃ k ∈ clauses, (clause k).Holds n := by
  cases clauses with
  | nil => rcases h with h | h <;> cases h
  | cons first rest =>
    obtain ⟨isAsync, target, value, conditions⟩ := first
    have hFirst : n ∈ (clause (.mk isAsync target value conditions)).children →
        ∃ k ∈ Clause.mk isAsync target value conditions :: rest, (clause k).Holds n :=
      fun hn => ⟨_, .head _, .single hn⟩
    rcases h with h | h
    · obtain rfl := List.mem_singleton.mp h
      exact hFirst (.tail _ (.head _))
    · rcases List.mem_append.mp h with h | h
      · refine hFirst ?_
        rcases List.mem_cons.mp h with rfl | h
        · exact .head _
        · exact .tail _ (.tail _ h)
      · obtain ⟨k, hk, rfl⟩ := List.mem_map.mp h
        exact ⟨k, .tail _ hk, .refl⟩

theorem holds_of_comprehension {e : Expr} {c : List Expr × List Clause} (h : e.comprehension? = some c)
    {n : Node} (hn : n ∈ exprs c.1 ∨ n ∈ source c.2 ∨ n ∈ loops c.2) : (expr e).Holds n := by
  have hChild : ∀ m ∈ exprs c.1 ++ c.2.map clause, (expr e).Holds m := by
    intro m hm
    rw [← children_comprehension h] at hm
    exact .single hm
  rcases hn with hn | hn
  · exact hChild n (List.mem_append_left _ hn)
  · obtain ⟨k, hk, hHolds⟩ := exists_clause hn
    exact (hChild _ (List.mem_append_right _ (List.mem_map_of_mem hk))).trans hHolds

theorem holds_of_mem_around {a c : Node} (h : c ∈ a.around) : a.Holds c := by
  cases a with
  | stmt s =>
    refine .single ?_
    cases s with
    | function =>
      simp only [around, List.mem_cons, List.mem_append] at h
      simp only [children, ofStmt, List.mem_cons, List.mem_append]
      grind
    | classDef =>
      simp only [around, List.mem_append] at h
      simp only [children, ofStmt, List.mem_append]
      grind
    | _ => exact h
  | expr e =>
    cases hComp : e.comprehension? with
    | some comp =>
      rw [around_comprehension hComp] at h
      exact holds_of_comprehension hComp (.inr (.inl h))
    | none =>
      refine .single ?_
      cases e with
      | lambda => exact List.mem_cons.mpr (.inl (List.mem_singleton.mp h))
      | named target value =>
        cases target with
        | name id bound =>
          cases bound with
          | true => exact .tail _ h
          | false => exact h
        | _ => exact h
      | _ => first | exact h | cases hComp
  | _ => exact .single h

theorem holds_of_mem_inside {a c : Node} {S : Scope} (hS : a.scope? = some S) (h : c ∈ S.inside) :
    a.Holds c := by
  cases a with
  | stmt s =>
    refine .single ?_
    cases s with
    | function =>
      obtain rfl := Option.some.inj hS
      exact List.mem_cons_of_mem _ (List.mem_append_left _ (List.mem_append_left _ h))
    | classDef =>
      obtain rfl := Option.some.inj hS
      exact List.mem_append_left _ (List.mem_append_right _ h)
    | _ => cases hS
  | expr e =>
    cases hComp : e.comprehension? with
    | some comp =>
      rw [scope?_comprehension hComp] at hS
      obtain rfl := Option.some.inj hS
      rcases List.mem_append.mp h with h | h
      · exact holds_of_comprehension hComp (.inl h)
      · exact holds_of_comprehension hComp (.inr (.inr h))
    | none =>
      cases e with
      | lambda =>
        obtain rfl := Option.some.inj hS
        exact .single (.tail _ h)
      | _ => first | (cases hComp; done) | cases hS
  | _ => cases hS

end Node

/-! ## Bindings -/

/-- How a name is bound. -/
inductive Form where
  | parameter
  | assigned
  | function
  | cls
  | imported
  /-- The name of a failure that is handled. -/
  | caught
  /-- A name in a pattern. -/
  | captured
  deriving DecidableEq

/-- The names that a node binds in its scope. -/
def Node.binds : Node → List (String × Form)
  | .expr (.name id true) => [(id, .assigned)]
  | .stmt (.function _ name _ _ _ _) => [(name, .function)]
  | .stmt (.classDef _ name _ _ _ _) => [(name, .cls)]
  | .stmt (.imports names) =>
    names.map fun i => (i.alias?.getD (Text.beforeFirst '.' i.name), .imported)
  | .stmt (.importsFrom _ names _) => names.map fun i => (i.alias?.getD i.name, .imported)
  | .handler (.mk _ (some name) _) => [(name, .caught)]
  | .pattern (.mk (some name) _ _) => [(name, .captured)]
  | _ => []

namespace Scope

variable {S T : Scope} {n : Node}

/-- The node is directly in the scope. -/
def Direct (S : Scope) (n : Node) : Prop :=
  ∃ m ∈ S.inside, Relation.ReflTransGen (fun a b => b ∈ a.around) m n

/-- The node is in the scope, and only comprehensions lie around it there. -/
def Reaches (S : Scope) (n : Node) : Prop :=
  ∃ m ∈ S.inside, Relation.ReflTransGen (fun a b => b ∈ a.around ∨
    ∃ C, a.scope? = some C ∧ C.kind = .comprehension ∧ b ∈ C.inside) m n

/-- The node is somewhere in the scope. -/
def Contains (S : Scope) (n : Node) : Prop := ∃ m ∈ S.inside, m.Holds n

/-- The scope binds the name. -/
inductive Binds (S : Scope) (id : String) : Form → Prop
  | parameter (h : id ∈ S.params) : S.Binds id .parameter
  | direct {n : Node} {form : Form} (h : S.Direct n) (hBinds : (id, form) ∈ n.binds) : S.Binds id form
  | named {n : Node} (hKind : S.kind ≠ .comprehension) (h : S.Reaches n) (hNamed : n.named? = some id) :
      S.Binds id .assigned

/-- A statement of the scope says that the name is bound elsewhere. -/
def Leaves (S : Scope) (atTop : Bool) (id : String) : Prop :=
  ∃ names, S.Direct (.stmt (.elsewhere atTop names)) ∧ id ∈ names

theorem Direct.contains (h : S.Direct n) : S.Contains n := by
  obtain ⟨m, hm, hPath⟩ := h
  refine ⟨m, hm, ?_⟩
  induction hPath with
  | refl => exact .refl
  | tail _ hStep ih => exact ih.trans (Node.holds_of_mem_around hStep)

theorem Reaches.contains (h : S.Reaches n) : S.Contains n := by
  obtain ⟨m, hm, hPath⟩ := h
  refine ⟨m, hm, ?_⟩
  induction hPath with
  | refl => exact .refl
  | tail _ hStep ih =>
    rcases hStep with hStep | ⟨C, hC, -, hStep⟩
    · exact ih.trans (Node.holds_of_mem_around hStep)
    · exact ih.trans (Node.holds_of_mem_inside hC hStep)

theorem Contains.scope {a : Node} (ha : S.Contains a) (hT : a.scope? = some T) (h : T.Contains n) :
    S.Contains n := by
  obtain ⟨m, hm, hHolds⟩ := ha
  obtain ⟨k, hk, hHolds'⟩ := h
  exact ⟨m, hm, (hHolds.trans (Node.holds_of_mem_inside hT hk)).trans hHolds'⟩

end Scope

/-- The node stands in some scopes inside `F`, the innermost first. -/
inductive Stands (F : Scope) : List Scope → Node → Prop
  | own {n : Node} (h : F.Direct n) : Stands F [F] n
  | inner {scopes : List Scope} {S : Scope} {m n : Node} (hm : Stands F scopes m)
      (hS : m.scope? = some S) (hn : S.Direct n) : Stands F (S :: scopes) n

/-- The name denotes what the scope `T` binds, looked up in some scopes from the first one on. -/
inductive Denotes : List Scope → String → Scope → Prop
  | here {T : Scope} {outer : List Scope} {id : String} (hBinds : ∃ form, T.Binds id form)
      (hOwn : ∀ atTop, ¬ T.Leaves atTop id) : Denotes (T :: outer) id T
  | beyond {S T : Scope} {outer : List Scope} {id : String}
      (hNot : (∀ form, ¬ S.Binds id form) ∨ S.Leaves false id) (hTop : ¬ S.Leaves true id)
      (h : Denotes (outer.filter fun T => T.kind ≠ .cls) id T) : Denotes (S :: outer) id T

theorem Denotes.mem {scopes : List Scope} {id : String} {T : Scope} (h : Denotes scopes id T) :
    T ∈ scopes := by
  induction h with
  | here => exact List.mem_cons_self
  | beyond _ _ _ ih => exact List.mem_cons_of_mem _ (List.mem_of_mem_filter ih)

namespace Stands

variable {F S : Scope} {scopes : List Scope} {a n : Node}

theorem around (h : Stands F scopes a) (hn : n ∈ a.around) : Stands F scopes n := by
  cases h with
  | own h =>
    obtain ⟨m, hm, hPath⟩ := h
    exact .own ⟨m, hm, hPath.tail hn⟩
  | inner hm hS h =>
    obtain ⟨m, hIn, hPath⟩ := h
    exact .inner hm hS ⟨m, hIn, hPath.tail hn⟩

theorem inside (h : Stands F scopes a) (hS : a.scope? = some S) (hn : n ∈ S.inside) :
    Stands F (S :: scopes) n := .inner h hS ⟨n, hn, .refl⟩

theorem exists_of_parted (h : Stands F scopes a) (hn : a.Parted n) : ∃ scopes, Stands F scopes n := by
  rcases hn with hn | ⟨S, hS, hn⟩
  · exact ⟨scopes, h.around hn⟩
  · exact ⟨S :: scopes, h.inside hS hn⟩

theorem contains (h : Stands F scopes n) : F.Contains n := by
  induction h with
  | own h => exact h.contains
  | inner _ hS hn ih => exact ih.scope hS hn.contains

/-- What is in one of the scopes is in the outermost one. -/
theorem contains_of_mem {T : Scope} (h : Stands F scopes a) (hT : T ∈ scopes) (hn : T.Contains n) :
    F.Contains n := by
  induction h with
  | own =>
    obtain rfl := List.mem_singleton.mp hT
    exact hn
  | inner hm hS _ ih =>
    rcases List.mem_cons.mp hT with rfl | hT
    · exact hm.contains.scope hS hn
    · exact ih hT

end Stands

/-- Every call in a scope stands in some scopes inside it. -/
theorem exists_stands {F : Scope} {n : Node} {c : Call} (h : F.Contains n) (hCall : n.call? = some c) :
    ∃ scopes, Stands F scopes n := by
  -- what holds a call on the way to it stands somewhere, or else all directly below it does
  have hOpen : (∃ scopes, Stands F scopes n) ∨
      (n.call? = none ∧ ∀ k ∈ n.children, ∃ scopes, Stands F scopes k) := by
    clear hCall
    obtain ⟨m, hm, hHolds⟩ := h
    induction hHolds with
    | refl => exact .inl ⟨_, .own ⟨m, hm, .refl⟩⟩
    | @tail a b _ hChild ih =>
      rcases ih with ⟨scopes, hAt⟩ | ⟨-, hBelow⟩
      · rcases Node.children_cases hChild with hb | ⟨hNone, hBelow⟩
        · exact .inl (hAt.exists_of_parted hb)
        · exact .inr ⟨hNone, fun k hk => hAt.exists_of_parted (hBelow k hk)⟩
      · exact .inl (hBelow b hChild)
  rcases hOpen with hAt | ⟨hNone, -⟩
  · exact hAt
  · rw [hNone] at hCall
    cases hCall

end CodeAtlas.Module
