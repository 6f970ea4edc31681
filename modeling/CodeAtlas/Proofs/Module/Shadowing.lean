import CodeAtlas.Proofs.Module.Indexed
import CodeAtlas.Proofs.Module.Resolved
import CodeAtlas.Proofs.Module.Scopes

/-!
# Names that a function binds

A function has one table of the names that it binds, in whatever scope inside it. A called name that is
in the table leads nowhere. The table has its parameters, all assigned names and the functions in it, but
neither parameters of these nor classes nor the names of failures and patterns; and where a member of
what a call makes is called, nothing asks the table.

* `mem_locals_of_binds`: which bindings are in the table.
* `resolve_bare`, `resolve_made`: what a call is answered from.
* `namesNoticed`: a name that denotes what is bound inside the function leads outwards in just the cases
  that the table misses.
* `strays_shadowed`: it does for a parameter of a nameless function, and for what a parameter makes.
-/

namespace CodeAtlas.Module

/-! ## Declared functions -/

/-- A function as the outermost scope inside it. -/
def Function.scope (f : Function) : Scope :=
  ⟨.function, f.params.all.map (·.name), Node.stmts f.body⟩

/-- The call is made in the function, in some scopes, the innermost first. -/
def CallIn (f : Function) (scopes : List Scope) (c : Call) : Prop :=
  ∃ n, Stands f.scope scopes n ∧ n.call? = some c

theorem exists_of_mem_calls {n : Node} {c : Call} (h : c ∈ n.calls) : ∃ m, n.Holds m ∧ m.call? = some c := by
  induction hSize : sizeOf n using Nat.strongRecOn generalizing n with
  | ind k ih =>
    rw [Node.calls, List.mem_append, List.mem_flatMap] at h
    rcases h with h | ⟨⟨m, hm⟩, -, h⟩
    · exact ⟨n, .refl, Option.mem_toList.mp h⟩
    · have hChild := Node.mem_children_of_mem_searched hm
      obtain ⟨l, hHolds, hCall⟩ := ih (sizeOf m) (hSize ▸ Node.sizeOf_lt hChild) h rfl
      exact ⟨l, .head hChild hHolds, hCall⟩

/-- Every call of a function is made in some scopes inside it. -/
theorem exists_callIn {f : Function} {c : Call} (h : c ∈ f.calls) : ∃ scopes, CallIn f scopes c := by
  obtain ⟨m, hm, hCalls⟩ := List.mem_flatMap.mp h
  obtain ⟨n, hHolds, hCall⟩ := exists_of_mem_calls hCalls
  obtain ⟨scopes, hAt⟩ := exists_stands (F := f.scope) ⟨m, hm, hHolds⟩ hCall
  exact ⟨scopes, n, hAt, hCall⟩

section Locals

variable {s : Source} {f : Function} {id : String}

/-- The statements of a function stand in its definition. -/
theorem Source.Read.body_subset (hs : s.Read) (hf : f ∈ s.declarations) :
    Node.stmts f.body ⊆ f.node.children := by
  obtain ⟨number, name, path, body, rfl⟩ := hs
  obtain ⟨n, hn⟩ := List.mem_iff_getElem?.mp hf
  obtain ⟨d, -, hRecords⟩ := getElem?_of_forall₂ (forall₂_declarations body) hn
  cases d with
  | function line name params stmts decorators result =>
    have hRecord : f = _ := hRecords
    rw [hRecord]
    intro m hm
    exact List.mem_cons_of_mem _ (List.mem_append_left _ (List.mem_append_left _ hm))
  | _ => exact hRecords.elim

/-- What a node anywhere in a function binds is in its table. -/
theorem mem_locals_of_contains (hs : s.Read) (hf : f ∈ s.declarations) {n : Node}
    (h : f.scope.Contains n) (hBound : n.bound? = some id) : id ∈ f.locals := by
  obtain ⟨m, hm, hHolds⟩ := h
  have hWalk : f.node.walk.drop 1 = walkFrom f.node.children := by
    rw [Node.walk, walkFrom, dif_neg (List.cons_ne_nil _ _), below, List.flatMap_singleton]
    rfl
  have hMem : n ∈ f.node.walk.drop 1 := by
    rw [hWalk]
    exact mem_walkFrom.mpr ⟨m, hs.body_subset hf hm, hHolds⟩
  exact List.mem_append_right _ (List.mem_filterMap.mpr ⟨n, hMem, hBound⟩)

/-- The function has the binding in its table. -/
inductive Noticed (f : Function) (T : Scope) : Form → Prop
  | parameter (h : T = f.scope) : Noticed f T .parameter
  | assigned : Noticed f T .assigned
  | function : Noticed f T .function

theorem bound?_of_mem_binds {n : Node} {T : Scope} {form : Form} (h : (id, form) ∈ n.binds)
    (hNoticed : Noticed f T form) : n.bound? = some id := by
  unfold Node.binds at h
  split at h <;> cases hNoticed <;> simp_all [Node.bound?]

theorem mem_locals_of_binds (hs : s.Read) (hf : f ∈ s.declarations) {T : Scope} {form : Form}
    (hT : ∀ n, T.Contains n → f.scope.Contains n) (hBinds : T.Binds id form) (hNoticed : Noticed f T form) :
    id ∈ f.locals := by
  cases hBinds with
  | parameter h =>
    cases hNoticed with
    | parameter hOwn =>
      subst hOwn
      exact List.mem_append_left _ h
  | direct h hBinds =>
    exact mem_locals_of_contains hs hf (hT _ h.contains) (bound?_of_mem_binds hBinds hNoticed)
  | @named n _ h hNamed =>
    obtain ⟨value, rfl⟩ : ∃ value, n = .expr (.named (.name id true) value) := by
      unfold Node.named? at hNamed
      split at hNamed
      · obtain rfl := Option.some.inj hNamed
        exact ⟨_, rfl⟩
      · cases hNamed
    obtain ⟨m, hm, hHolds⟩ := hT _ h.contains
    have hTarget : f.scope.Contains (.expr (.name id true)) := ⟨m, hm, hHolds.tail (.head _)⟩
    exact mem_locals_of_contains hs hf hTarget rfl

end Locals

/-! ## Calls from a name -/

/-- The name is called, or else a member of what a call of the name makes. -/
inductive Call.StartsAt (c : Call) (id : String) : Bool → Prop
  | bare {bound : Bool} (h : c.func = .name id bound) : c.StartsAt id true
  | made {line : Nat} {bound : Bool} {args : List Expr} {keywords : List Keyword} {attr : String}
      (h : c.func = .attribute (.call line (.name id bound) args keywords) attr) : c.StartsAt id false

/-- What a name stands for outside all functions. -/
def Source.meaning? (s : Source) (name : String) : Option String :=
  match s.qualifyName name with
  | some q => some q
  | none => if builtinNames.contains name then some (builtins ++ "." ++ name) else none

namespace Caller

/-- What a call from a name refers to if the name stands for what it does outside all functions. -/
def outward (t : Table) (c : Caller) (call : Call) : Except Failure (Option Target) :=
  match call.func with
  | .name id _ =>
    match c.source.meaning? id with
    | some q => resolveName t q call.argCount
    | none => .ok none
  | .attribute (.call _ (.name id bound) _ _) attr =>
    if id = "super" then
      match c.cls? with
      | some k => inheritedMethod t k attr call.argCount
      | none => .ok none
    else
      match typeName t c.source (.name id bound) with
      | some type => resolveName t (type ++ "." ++ attr) call.argCount
      | none => .ok none
  | _ => .ok none

/-- The call is bound to what its name stands for outside the function. -/
def Strays (t : Table) (c : Caller) (call : Call) : Prop :=
  ∃ target, c.outward t call = .ok (some target) ∧ c.resolve t call = .ok (some target)

variable {t : Table} {c : Caller} {call : Call} {id : String}

/-- A called name leads outwards unless the function has it in its table. -/
theorem resolve_bare (h : call.StartsAt id true) :
    c.resolve t call = if id ∈ c.function.locals then .ok none else c.outward t call := by
  cases h with
  | bare h =>
    rw [resolve, outward, h]
    dsimp only
    by_cases hLocal : id ∈ c.function.locals
    · have hHead : c.qualifyHead true id = none := by
        rw [qualifyHead, if_pos (List.contains_iff_mem.mpr hLocal)]
      rw [hHead, if_pos hLocal]
    · have hHead : c.qualifyHead true id = c.source.meaning? id := by
        rw [qualifyHead, if_neg fun hIn => hLocal (List.contains_iff_mem.mp hIn), Source.meaning?]
        cases c.source.qualifyName id with
        | some q => rfl
        | none => simp only [Bool.true_and]
      cases hMeaning : c.source.meaning? id with
      | none => simp only [hHead, hMeaning, if_neg hLocal]
      | some q => simp only [hHead, hMeaning, if_neg hLocal]

/-- A member of what a call makes is looked up outwards, whatever the function binds. -/
theorem resolve_made (h : call.StartsAt id false) : c.resolve t call = c.outward t call := by
  cases h with
  | @made line bound args keywords attr h =>
    rw [resolve, outward, h]
    dsimp only
    by_cases hSuper : id = "super"
    · subst hSuper
      rfl
    · have hNot : (Expr.call line (.name id bound) args keywords).isSuperCall = false := by
        unfold Expr.isSuperCall
        split
        · rename_i heq
          cases heq
          exact (hSuper rfl).elim
        · rfl
      have hSelf : c.isSelf (.call line (.name id bound) args keywords) = false := rfl
      have hType : c.receiverType t (.call line (.name id bound) args keywords) =
          typeName t c.source (.name id bound) := rfl
      have hDotted : c.dottedTarget t (.attribute (.call line (.name id bound) args keywords) attr)
          call.argCount = .ok none := rfl
      rw [hNot, hSelf, hDotted, if_neg hSuper, if_neg Bool.false_ne_true, if_neg Bool.false_ne_true]
      cases hMade : typeName t c.source (.name id bound) with
      | none => simp only [hType, hMade]
      | some type => simp only [hType, hMade]

theorem strays_bare_iff (h : call.StartsAt id true) : c.Strays t call ↔
    id ∉ c.function.locals ∧ ∃ target, c.outward t call = .ok (some target) := by
  rw [Strays, resolve_bare h]
  by_cases hLocal : id ∈ c.function.locals
  · simp [hLocal]
  · simp [hLocal]

theorem strays_made_iff (h : call.StartsAt id false) : c.Strays t call ↔
    ∃ target, c.outward t call = .ok (some target) := by
  rw [Strays, resolve_made h]
  simp

end Caller

/-! ## Names inside a function -/

/-- How calls are answered from the names that a function binds. -/
structure NamesNoticed (s : Source) (f : Function) : Prop where
  /-- Every call of the function is made in some scopes inside it. -/
  placed : ∀ call ∈ f.calls, ∃ scopes, CallIn f scopes call
  /-- A called name that denotes what is bound inside the function leads nowhere if the function has the
  binding in its table. -/
  noticed : ∀ t call scopes id T form, call.StartsAt id true → CallIn f scopes call →
    Denotes scopes id T → T.Binds id form → Noticed f T form → Caller.resolve t ⟨s, f⟩ call = .ok none
  /-- A called name leads outwards just if it is not in the table and leads somewhere there. -/
  bare_iff : ∀ t call id, call.StartsAt id true → (Caller.Strays t ⟨s, f⟩ call ↔
    id ∉ f.locals ∧ ∃ target, Caller.outward t ⟨s, f⟩ call = .ok (some target))
  /-- What is made by a call of the name leads outwards just if the name leads somewhere there. -/
  made_iff : ∀ t call id, call.StartsAt id false → (Caller.Strays t ⟨s, f⟩ call ↔
    ∃ target, Caller.outward t ⟨s, f⟩ call = .ok (some target))

theorem namesNoticed {s : Source} (hs : s.Read) {f : Function} (hf : f ∈ s.declarations) :
    NamesNoticed s f where
  placed _ h := exists_callIn h
  noticed t call scopes id T form hStart hCall hDenotes hBinds hNoticed := by
    obtain ⟨n, hAt, -⟩ := hCall
    have hLocal := mem_locals_of_binds hs hf (fun _ => hAt.contains_of_mem hDenotes.mem) hBinds hNoticed
    rw [Caller.resolve_bare hStart, if_pos hLocal]
  bare_iff _ _ _ h := Caller.strays_bare_iff h
  made_iff _ _ _ h := Caller.strays_made_iff h

/-! ### Parameters that hide what a module defines -/

def soleParams (name : String) : Params := ⟨[], [⟨name, none⟩], none, [], [], none, []⟩

/-- A call of the parameter of a nameless function. -/
def innerCall : Expr := .call 4 (.name "g" false) [] []

/-- A call of what a parameter makes. -/
def madeCall : Expr := .call 9 (.attribute (.call 9 (.name "K" false) [] []) "m") [] []

def lambdaStmt : Stmt :=
  .function 3 "f" echoParams [.plain [.lambda (soleParams "g") innerCall]] [] none

def makingStmt : Stmt := .function 8 "h" (soleParams "K") [.expr 9 madeCall] [] none

def shadowBody : List Stmt :=
  [.function 1 "g" echoParams [.plain []] [] none, lambdaStmt,
    .classDef 5 "K" [] [] [.function 6 "m" (soleParams "self") [.plain []] [] none] [], makingStmt]

def lambdaFunction : Function :=
  functionOf 1 none 3 "f" echoParams [.plain [.lambda (soleParams "g") innerCall]] [] (.stmt lambdaStmt)

def makingFunction : Function :=
  functionOf 3 none 8 "h" (soleParams "K") [.expr 9 madeCall] [] (.stmt makingStmt)

def lambdaScope : Scope := ⟨.function, ["g"], [.expr innerCall]⟩

theorem callIn_lambda :
    CallIn lambdaFunction [lambdaScope, lambdaFunction.scope] ⟨4, .name "g" false, [], []⟩ := by
  have hLambda : lambdaFunction.scope.Direct (.expr (.lambda (soleParams "g") innerCall)) :=
    ⟨_, .head _, .single (.head _)⟩
  exact ⟨.expr innerCall, .inner (.own hLambda) rfl ⟨_, .head _, .refl⟩, rfl⟩

theorem callIn_making : CallIn makingFunction [makingFunction.scope]
    ⟨9, .attribute (.call 9 (.name "K" false) [] []) "m", [], []⟩ :=
  ⟨.expr madeCall, .own ⟨_, .head _, .single (.head _)⟩, rfl⟩

theorem callIn_called :
    CallIn makingFunction [makingFunction.scope] ⟨9, .name "K" false, [], []⟩ := by
  have hMade : makingFunction.scope.Direct (.expr madeCall) := ⟨_, .head _, .single (.head _)⟩
  obtain ⟨m, hm, hPath⟩ := hMade
  exact ⟨_, .own ⟨m, hm, (hPath.tail (.head _)).tail (.head _)⟩, rfl⟩

theorem denotes_lambda : Denotes [lambdaScope, lambdaFunction.scope] "g" lambdaScope := by
  refine .here ⟨_, .parameter (.head _)⟩ ?_
  rintro atTop ⟨names, hDirect, -⟩
  obtain ⟨m, hm, hHolds⟩ := hDirect.contains
  obtain rfl := List.mem_singleton.mp hm
  cases Node.isPart_of_holds hHolds rfl

theorem denotes_making : Denotes [makingFunction.scope] "K" makingFunction.scope := by
  refine .here ⟨_, .parameter (.head _)⟩ ?_
  rintro atTop ⟨names, hDirect, -⟩
  obtain ⟨m, hm, hHolds⟩ := hDirect.contains
  obtain rfl := List.mem_singleton.mp hm
  rcases Relation.ReflTransGen.cases_head hHolds with hEq | ⟨c, hc, hHolds⟩
  · cases hEq
  · obtain rfl := List.mem_singleton.mp hc
    cases Node.isPart_of_holds hHolds rfl

theorem namesNoticed_making : NamesNoticed (soleSource shadowBody) makingFunction ∧
    Caller.resolve [("m", soleSource shadowBody)] ⟨soleSource shadowBody, makingFunction⟩
      ⟨9, .name "K" false, [], []⟩ = .ok none := by
  have hRead : (soleSource shadowBody).Read := ⟨_, _, _, _, rfl⟩
  have hDeclared : makingFunction ∈ (soleSource shadowBody).declarations :=
    .tail _ (.tail _ (.tail _ (.head _)))
  have hNoticed := namesNoticed hRead hDeclared
  exact ⟨hNoticed, hNoticed.noticed _ _ _ _ _ _ (.bare rfl) callIn_called denotes_making
    (.parameter (.head _)) (.parameter rfl)⟩

/-- The parameter of a nameless function, and a parameter by way of what it makes, are answered with what
the module defines under their names. -/
theorem strays_shadowed :
    (CallIn lambdaFunction [lambdaScope, lambdaFunction.scope] ⟨4, .name "g" false, [], []⟩ ∧
      Denotes [lambdaScope, lambdaFunction.scope] "g" lambdaScope ∧ lambdaScope.Binds "g" .parameter ∧
      Caller.Strays [("m", soleSource shadowBody)] ⟨soleSource shadowBody, lambdaFunction⟩
        ⟨4, .name "g" false, [], []⟩) ∧
    (CallIn makingFunction [makingFunction.scope]
        ⟨9, .attribute (.call 9 (.name "K" false) [] []) "m", [], []⟩ ∧
      Denotes [makingFunction.scope] "K" makingFunction.scope ∧
      makingFunction.scope.Binds "K" .parameter ∧
      Caller.Strays [("m", soleSource shadowBody)] ⟨soleSource shadowBody, makingFunction⟩
        ⟨9, .attribute (.call 9 (.name "K" false) [] []) "m", [], []⟩) := by
  refine ⟨⟨callIn_lambda, denotes_lambda, .parameter (.head _), ?_⟩,
    ⟨callIn_making, denotes_making, .parameter (.head _), ?_⟩⟩
  · have hMeaning : (soleSource shadowBody).meaning? "g" = some "m.g" := by cbv
    refine (Caller.strays_bare_iff (.bare rfl)).mpr ⟨?_, ?_⟩
    · have hLocals : lambdaFunction.locals = [] := by cbv
      rw [hLocals]
      exact List.not_mem_nil
    · rw [Caller.outward]
      dsimp only
      rw [hMeaning]
      exact ⟨_, rfl⟩
  · refine (Caller.strays_made_iff (.made rfl)).mpr ?_
    have hType : typeName [("m", soleSource shadowBody)] (soleSource shadowBody) (.name "K" false) =
        some "m.K" := by cbv
    rw [Caller.outward]
    dsimp only
    rw [hType]
    exact ⟨_, rfl⟩

end CodeAtlas.Module
