import CodeAtlas.Module.Indexing
import CodeAtlas.Module.Resolve
import CodeAtlas.Proofs.Module.Blocks
import CodeAtlas.Proofs.Paired

/-!
# Modules with other bases

A class may extend an expression that is no dotted name, such as a class with parameters in brackets.
Two modules are compared that differ in what stands there.

* `AllRebased`: statements differ only in such bases of the classes in them.
* `rebased_walkFrom`: but for the parts of statements, walks through them pass the same nodes.
* `rebased_sourceOf`: their modules declare the same, with other bases.
-/

namespace CodeAtlas.Module

/-! ## Trees -/

/-- The base `e'` may stand in place of `e`: it is the same, or `e` is no dotted name. -/
def Replaced (e e' : Expr) : Prop := e = e' ∨ e.dotted? = none

theorem Replaced.refl (e : Expr) : Replaced e e := .inl rfl

mutual

/-- Two statements differ only in bases that are no dotted names in the first. -/
inductive Stmt.Rebased : Stmt → Stmt → Prop
  | single {s : Stmt} : s.blocks = [] → Stmt.Rebased s s
  | function {line : Nat} {name : String} {params : Params} {body body' : List Stmt}
      {decorators : List Expr} {result : Option Expr} : AllRebased body body' →
      Stmt.Rebased (.function line name params body decorators result)
        (.function line name params body' decorators result)
  | classDef {line : Nat} {name : String} {bases bases' : List Expr} {keywords : List Keyword}
      {body body' : List Stmt} {decorators : List Expr} : List.Forall₂ Replaced bases bases' →
      AllRebased body body' → Stmt.Rebased (.classDef line name bases keywords body decorators)
        (.classDef line name bases' keywords body' decorators)
  | branch {line : Nat} {test : Expr} {body body' orElse orElse' : List Stmt} :
      AllRebased body body' → AllRebased orElse orElse' →
      Stmt.Rebased (.branch line test body orElse) (.branch line test body' orElse')
  | loop {heads : List Expr} {body body' orElse orElse' : List Stmt} :
      AllRebased body body' → AllRebased orElse orElse' →
      Stmt.Rebased (.loop heads body orElse) (.loop heads body' orElse')
  | managed {items : List WithItem} {body body' : List Stmt} : AllRebased body body' →
      Stmt.Rebased (.managed items body) (.managed items body')
  | attempt {grouped : Bool} {body body' : List Stmt} {handlers handlers' : List Handler}
      {orElse orElse' final final' : List Stmt} : AllRebased body body' →
      HandlersRebased handlers handlers' → AllRebased orElse orElse' → AllRebased final final' →
      Stmt.Rebased (.attempt grouped body handlers orElse final)
        (.attempt grouped body' handlers' orElse' final')
  | select {subject : Expr} {cases cases' : List Case} : CasesRebased cases cases' →
      Stmt.Rebased (.select subject cases) (.select subject cases')

inductive AllRebased : List Stmt → List Stmt → Prop
  | nil : AllRebased [] []
  | cons {s s' : Stmt} {ss ss' : List Stmt} : Stmt.Rebased s s' → AllRebased ss ss' →
      AllRebased (s :: ss) (s' :: ss')

inductive HandlersRebased : List Handler → List Handler → Prop
  | nil : HandlersRebased [] []
  | cons {kind : Option Expr} {name : Option String} {body body' : List Stmt}
      {hs hs' : List Handler} : AllRebased body body' → HandlersRebased hs hs' →
      HandlersRebased (.mk kind name body :: hs) (.mk kind name body' :: hs')

inductive CasesRebased : List Case → List Case → Prop
  | nil : CasesRebased [] []
  | cons {pattern : Pattern} {guard : Option Expr} {body body' : List Stmt} {cs cs' : List Case} :
      AllRebased body body' → CasesRebased cs cs' →
      CasesRebased (.mk pattern guard body :: cs) (.mk pattern guard body' :: cs')

end

mutual

theorem Stmt.Rebased.refl (s : Stmt) : Stmt.Rebased s s := by
  match s with
  | .function _ _ _ body _ _ => exact .function (AllRebased.refl body)
  | .classDef _ _ _ _ body _ =>
    exact .classDef (List.forall₂_same.mpr fun e _ => .refl e) (AllRebased.refl body)
  | .branch _ _ body orElse => exact .branch (AllRebased.refl body) (AllRebased.refl orElse)
  | .loop _ body orElse => exact .loop (AllRebased.refl body) (AllRebased.refl orElse)
  | .managed _ body => exact .managed (AllRebased.refl body)
  | .attempt _ body handlers orElse final =>
    exact .attempt (AllRebased.refl body) (HandlersRebased.refl handlers) (AllRebased.refl orElse)
      (AllRebased.refl final)
  | .select _ cases => exact .select (CasesRebased.refl cases)
  | .imports .. | .importsFrom .. | .assign .. | .annotated .. | .expr .. | .elsewhere .. | .plain .. =>
    exact .single rfl

theorem AllRebased.refl (ss : List Stmt) : AllRebased ss ss := by
  match ss with
  | [] => exact .nil
  | s :: ss => exact .cons (Stmt.Rebased.refl s) (AllRebased.refl ss)

theorem HandlersRebased.refl (hs : List Handler) : HandlersRebased hs hs := by
  match hs with
  | [] => exact .nil
  | .mk _ _ body :: hs => exact .cons (AllRebased.refl body) (HandlersRebased.refl hs)

theorem CasesRebased.refl (cs : List Case) : CasesRebased cs cs := by
  match cs with
  | [] => exact .nil
  | .mk _ _ body :: cs => exact .cons (AllRebased.refl body) (CasesRebased.refl cs)

end

/-! ## Walks -/

namespace Node

/-- So do two nodes that hold statements. -/
inductive Rebased : Node → Node → Prop
  | stmt {s s' : Stmt} : s.Rebased s' → Rebased (.stmt s) (.stmt s')
  | handler {kind : Option Expr} {name : Option String} {body body' : List Stmt} :
      AllRebased body body' → Rebased (.handler (.mk kind name body)) (.handler (.mk kind name body'))
  | case {pattern : Pattern} {guard : Option Expr} {body body' : List Stmt} : AllRebased body body' →
      Rebased (.case (.mk pattern guard body)) (.case (.mk pattern guard body'))

/-- The nodes that are no parts of statements. -/
def holders (ns : List Node) : List Node := ns.filter (!·.isPart)

@[simp]
theorem holders_nil : holders [] = [] := rfl

@[simp]
theorem holders_append (ns ms : List Node) : holders (ns ++ ms) = holders ns ++ holders ms :=
  List.filter_append ..

theorem holders_cons (n : Node) (ns : List Node) :
    holders (n :: ns) = if n.isPart then holders ns else n :: holders ns := by
  rw [holders, List.filter_cons]
  cases n.isPart <;> rfl

@[simp]
theorem holders_exprs (es : List Expr) : holders (exprs es) = [] := by
  simp [holders, exprs, isPart]

@[simp]
theorem holders_expr? (e : Option Expr) : holders (expr? e) = [] := by
  simp [holders, expr?, isPart]

@[simp]
theorem holders_stmts (ss : List Stmt) : holders (stmts ss) = stmts ss := by
  simp [holders, stmts, isPart]

@[simp]
theorem holders_keywords (ks : List Keyword) : holders (ks.map .keyword) = [] := by
  simp [holders, isPart]

@[simp]
theorem holders_items (is : List WithItem) : holders (is.map .item) = [] := by
  simp [holders, isPart]

@[simp]
theorem holders_handlers (hs : List Handler) : holders (hs.map .handler) = hs.map .handler := by
  simp [holders, isPart]

@[simp]
theorem holders_cases (cs : List Case) : holders (cs.map .case) = cs.map .case := by
  simp [holders, isPart]

/-- Below a part there are only parts. -/
theorem holders_children {n : Node} (h : n.isPart = true) : holders n.children = [] :=
  List.filter_eq_nil_iff.mpr fun c hc => by simp [isPart_children h hc]

theorem holders_below (ns : List Node) :
    holders (below ns) = (holders ns).flatMap fun n => holders n.children := by
  induction ns with
  | nil => rfl
  | cons n ns ih =>
    rw [below, List.flatMap_cons, holders_append, ← below, ih]
    rw [holders_cons]
    split
    · rw [holders_children ‹_›, List.nil_append]
    · rw [List.flatMap_cons]

/-- Below a statement without blocks, too. -/
theorem holders_children_of_blocks {s : Stmt} (h : s.blocks = []) :
    holders (stmt s).children = [] := by
  cases s with
  | function | classDef | branch | loop | managed | attempt => cases h
  | select subject cases =>
    obtain rfl : cases = [] := List.map_eq_nil_iff.mp h
    rfl
  | _ => simp [children, ofStmt, holders_cons, isPart]

end Node

theorem AllRebased.forall₂ {ss ss' : List Stmt} (h : AllRebased ss ss') :
    List.Forall₂ Stmt.Rebased ss ss' := by
  induction ss generalizing ss' with
  | nil => cases h; exact .nil
  | cons s ss ih => cases h with | cons hs hss => exact .cons hs (ih hss)

theorem AllRebased.stmts {ss ss' : List Stmt} (h : AllRebased ss ss') :
    List.Forall₂ Node.Rebased (Node.stmts ss) (Node.stmts ss') := by
  rw [Node.stmts, Node.stmts, List.forall₂_map_left_iff, List.forall₂_map_right_iff]
  exact h.forall₂.imp fun _ _ hs => .stmt hs

theorem HandlersRebased.nodes {hs hs' : List Handler} (h : HandlersRebased hs hs') :
    List.Forall₂ Node.Rebased (hs.map .handler) (hs'.map .handler) := by
  induction hs generalizing hs' with
  | nil => cases h; exact .nil
  | cons _ hs ih => cases h with | cons hBody hRest => exact .cons (.handler hBody) (ih hRest)

theorem CasesRebased.nodes {cs cs' : List Case} (h : CasesRebased cs cs') :
    List.Forall₂ Node.Rebased (cs.map .case) (cs'.map .case) := by
  induction cs generalizing cs' with
  | nil => cases h; exact .nil
  | cons _ cs ih => cases h with | cons hBody hRest => exact .cons (.case hBody) (ih hRest)

/-- What stands directly below two such nodes corresponds, but for parts of statements. -/
theorem Node.Rebased.holders_children {n n' : Node} (h : n.Rebased n') :
    List.Forall₂ Node.Rebased (holders n.children) (holders n'.children) := by
  cases h with
  | handler hBody | case hBody => simpa [children, holders_cons, isPart] using hBody.stmts
  | stmt hs =>
    cases hs with
    | single hBlocks =>
      rw [holders_children_of_blocks hBlocks]
      exact .nil
    | function hBody => simpa [children, ofStmt, holders_cons, isPart] using hBody.stmts
    | classDef _ hBody | managed hBody => simpa [children, ofStmt] using hBody.stmts
    | branch hBody hElse | loop hBody hElse =>
      simpa [children, ofStmt, holders_cons, isPart] using List.rel_append hBody.stmts hElse.stmts
    | attempt hBody hHandlers hElse hFinal =>
      simpa [children, ofStmt] using List.rel_append hBody.stmts
        (List.rel_append hHandlers.nodes (List.rel_append hElse.stmts hFinal.stmts))
    | select hCases => simpa [children, ofStmt, holders_cons, isPart] using hCases.nodes

theorem walkFrom_eq (ns : List Node) : walkFrom ns = ns ++ walkFrom (below ns) := by
  by_cases h : ns = []
  · subst h
    simp [walkFrom, below]
  · rw [walkFrom, dif_neg h]

theorem largest_below_le (ns : List Node) : largest (below ns) ≤ largest ns := by
  by_cases h : ns = []
  · subst h
    exact le_rfl
  · exact (largest_below_lt h).le

/-- But for parts of statements, walks from such nodes pass such nodes one by one. -/
theorem rebased_walkFrom {ns ns' : List Node}
    (h : List.Forall₂ Node.Rebased (Node.holders ns) (Node.holders ns')) :
    List.Forall₂ Node.Rebased (Node.holders (walkFrom ns)) (Node.holders (walkFrom ns')) := by
  -- parts may stand on one side alone, so that one walk can be deeper than the other
  generalize hSize : largest ns + largest ns' = size
  induction size using Nat.strong_induction_on generalizing ns ns' with
  | _ size ih =>
    by_cases hEmpty : ns = [] ∧ ns' = []
    · obtain ⟨rfl, rfl⟩ := hEmpty
      simp [walkFrom]
    · have hBelow : List.Forall₂ Node.Rebased (Node.holders (below ns)) (Node.holders (below ns')) := by
        rw [Node.holders_below, Node.holders_below]
        exact List.rel_flatMap h fun _ _ hn => hn.holders_children
      have hLess : largest (below ns) + largest (below ns') < size := by
        have hLeft := largest_below_le ns
        have hRight := largest_below_le ns'
        rcases not_and_or.mp hEmpty with hne | hne
        · have := largest_below_lt hne
          omega
        · have := largest_below_lt hne
          omega
      rw [walkFrom_eq ns, walkFrom_eq ns', Node.holders_append, Node.holders_append]
      exact List.rel_append h (ih _ hLess hBelow rfl)

/-- What a walk notes of statements does not change if it passes over their parts. -/
theorem foldl_walkFrom_eq {α : Type} {note : α → Node → α} {ns ns' : List Node}
    (hParts : ∀ found n, n.isPart = true → note found n = found)
    (hSame : ∀ found n n', n.Rebased n' → note found n = note found n')
    (h : List.Forall₂ Node.Rebased (Node.holders ns) (Node.holders ns')) (found : α) :
    (walkFrom ns).foldl note found = (walkFrom ns').foldl note found := by
  have hHolders (ms : List Node) : (Node.holders ms).foldl note found = ms.foldl note found := by
    rw [Node.holders, List.foldl_filter]
    congr 1
    funext found n
    split
    · rfl
    · rename_i hPart
      rw [hParts found n (by simpa using hPart)]
  rw [← hHolders (walkFrom ns), ← hHolders (walkFrom ns')]
  exact foldl_eq_of_forall₂ (rebased_walkFrom h) hSame found

theorem foldl_walk_eq {α : Type} {note : α → Node → α} {n n' : Node}
    (hParts : ∀ found n, n.isPart = true → note found n = found)
    (hSame : ∀ found n n', n.Rebased n' → note found n = note found n') (h : n.Rebased n') (found : α) :
    n.walk.foldl note found = n'.walk.foldl note found := by
  refine foldl_walkFrom_eq hParts hSame ?_ found
  cases h with
  | stmt h => exact .cons (.stmt h) .nil
  | handler h => exact .cons (.handler h) .nil
  | case h => exact .cons (.case h) .nil

/-! ## Functions -/

/-- Two functions differ only in bases of the classes in them. -/
structure Function.Rebased (f f' : Function) : Prop where
  rest : f' = { f with body := f'.body, node := f'.node }
  node : f.node.Rebased f'.node

section Functions

variable {f f' : Function}

theorem variableTypes_eq (h : f.Rebased f') : f.variableTypes = f'.variableTypes := by
  have hParams : f'.params = f.params := by rw [h.rest]
  rw [Function.variableTypes, Function.variableTypes, hParams]
  refine foldl_walk_eq (fun found n hn => ?_) (fun found n n' hn => ?_) h.node _
  · cases n <;> first | rfl | cases hn
  · cases hn with
    | stmt hs => cases hs <;> rfl
    | _ => rfl

theorem assignment?_eq {n n' : Node} (h : n.Rebased n') : assignment? n = assignment? n' := by
  cases h with
  | stmt hs => cases hs <;> rfl
  | _ => rfl

theorem noteAttributes_eq (h : f.Rebased f') (found : List (String × Expr)) :
    noteAttributes f found = noteAttributes f' found := by
  have hParams : f'.params = f.params := by rw [h.rest]
  have hSelf : f'.selfName = f.selfName := by rw [h.rest]; rfl
  rw [noteAttributes, noteAttributes, hParams, hSelf]
  split
  · rfl
  · refine foldl_walk_eq (fun found n hn => ?_) (fun found n n' hn => ?_) h.node _
    · cases n <;> first | rfl | cases hn
    · rw [assignment?_eq hn]

end Functions

/-! ## Classes -/

/-- Two classes differ only in bases, their own and those of the classes in them. -/
structure Class.Rebased (k k' : Class) : Prop where
  rest : k' = { k with bases := k'.bases, body := k'.body }
  bases : List.Forall₂ Replaced k.bases k'.bases
  body : AllRebased k.body k'.body

theorem fieldHints_eq {body body' : List Stmt} (h : AllRebased body body') :
    fieldHints body = fieldHints body' :=
  filterMap_eq_of_forall₂ h.forall₂ fun _ _ hs => by cases hs <;> rfl

theorem Class.Rebased.fieldCount_eq {k k' : Class} (h : k.Rebased k') :
    k.fieldCount = k'.fieldCount :=
  foldlM_eq_of_forall₂ h.body.forall₂ (fun _ _ _ hs => by cases hs <;> rfl) 0

/-! ## Declarations -/

namespace Declared

/-- What two modules declare differs only in bases. -/
structure Rebased (d d' : Declared) : Prop where
  functions : d.functions = d'.functions
  classes : d.classes = d'.classes
  declarations : List.Forall₂ Function.Rebased d.declarations d'.declarations
  allClasses : List.Forall₂ Class.Rebased d.allClasses d'.allClasses

variable {d d' : Declared}

theorem Rebased.modifyClass (h : d.Rebased d') (n : Nat) {f g : Class → Class}
    (hChange : ∀ k k', k.Rebased k' → (f k).Rebased (g k')) :
    (d.modifyClass n f).Rebased (d'.modifyClass n g) :=
  ⟨h.functions, h.classes, h.declarations, modify_of_forall₂ h.allClasses hChange n⟩

theorem Rebased.addFunction (h : d.Rebased d') (owner : Option Nat) {f f' : Function}
    (hf : f.Rebased f') : (d.addFunction owner f).Rebased (d'.addFunction owner f') := by
  have hName : f'.name = f.name := by rw [hf.rest]
  have hNumber : f'.number = f.number := by rw [hf.rest]
  have hKind : f'.isConstructor = f.isConstructor := by rw [hf.rest]
  have hAll : Rebased { d with declarations := d.declarations ++ [f] }
      { d' with declarations := d'.declarations ++ [f'] } :=
    ⟨h.functions, h.classes, List.rel_append h.declarations (.cons hf .nil), h.allClasses⟩
  cases owner with
  | none =>
    refine ⟨?_, h.classes, hAll.declarations, h.allClasses⟩
    simp only [Declared.addFunction, hName, hNumber, h.functions]
  | some n =>
    refine hAll.modifyClass n fun k k' hk => ⟨?_, hk.bases, hk.body⟩
    rw [hk.rest]
    simp only [hName, hNumber, hKind, noteAttributes_eq hf]

theorem Rebased.addClass (h : d.Rebased d') (outer : Option Nat) (line : Nat) (name : String)
    {bases bases' : List Expr} (decorators : List Expr) {body body' : List Stmt}
    (hBases : List.Forall₂ Replaced bases bases') (hBody : AllRebased body body') :
    (d.addClass outer line name bases decorators body).Rebased
      (d'.addClass outer line name bases' decorators body') := by
  have hFront : ((outer.bind (d.allClasses[·]?)).map fun c => c.path ++ ".") =
      (outer.bind (d'.allClasses[·]?)).map fun c => c.path ++ "." := by
    cases outer with
    | none => rfl
    | some n =>
      have hClass := rel_getElem? h.allClasses n
      rw [Option.bind_some, Option.bind_some]
      generalize d.allClasses[n]? = k, d'.allClasses[n]? = k' at hClass ⊢
      cases hClass with
      | none => rfl
      | some hk => rw [hk.rest]; rfl
  simp only [Declared.addClass, ← hFront, ← fieldHints_eq hBody, ← h.allClasses.length_eq]
  cases outer with
  | none =>
    refine ⟨h.functions, ?_, h.declarations,
      List.rel_append h.allClasses (.cons ⟨rfl, hBases, hBody⟩ .nil)⟩
    rw [h.classes]
  | some n =>
    refine Rebased.modifyClass ?_ n fun k k' hk => ⟨?_, hk.bases, hk.body⟩
    · exact ⟨h.functions, h.classes, h.declarations,
        List.rel_append h.allClasses (.cons ⟨rfl, hBases, hBody⟩ .nil)⟩
    · rw [hk.rest]

end Declared

mutual

theorem Declared.Rebased.add (owner : Option Nat) (s : Stmt) {s' : Stmt} {d d' : Declared}
    (h : d.Rebased d') (hs : s.Rebased s') :
    (Declared.add owner d s).Rebased (Declared.add owner d' s') := by
  match s with
  | .function line name params body decorators result =>
    cases hs with
    | single hBlocks => cases hBlocks
    | function hBody =>
      rw [Declared.add, Declared.add, h.declarations.length_eq]
      exact h.addFunction owner ⟨rfl, .stmt (.function hBody)⟩
  | .classDef line name bases keywords body decorators =>
    cases hs with
    | single hBlocks => cases hBlocks
    | classDef hBases hBody =>
      rw [Declared.add, Declared.add, h.allClasses.length_eq]
      exact Declared.Rebased.addAll _ body (h.addClass owner line name decorators hBases hBody) hBody
  | .branch line test body orElse =>
    cases hs with
    | single hBlocks => cases hBlocks
    | branch hBody hElse =>
      rw [Declared.add, Declared.add]
      exact Declared.Rebased.addAll owner orElse (Declared.Rebased.addAll owner body h hBody) hElse
  | .attempt false body handlers orElse final =>
    cases hs with
    | single hBlocks => cases hBlocks
    | attempt hBody hHandlers hElse _ =>
      rw [Declared.add, Declared.add]
      exact Declared.Rebased.addAll owner orElse (Declared.Rebased.addHandlers owner handlers
        (Declared.Rebased.addAll owner body h hBody) hHandlers) hElse
  | .attempt true .. | .loop .. | .managed .. | .select .. | .imports .. | .importsFrom .. | .assign ..
    | .annotated .. | .expr .. | .elsewhere .. | .plain .. =>
    cases hs <;> exact h

theorem Declared.Rebased.addAll (owner : Option Nat) (ss : List Stmt) {ss' : List Stmt}
    {d d' : Declared} (h : d.Rebased d') (hss : AllRebased ss ss') :
    (Declared.addAll owner d ss).Rebased (Declared.addAll owner d' ss') := by
  match ss with
  | [] =>
    cases hss
    exact h
  | s :: ss =>
    cases hss with
    | cons hs hss =>
      rw [Declared.addAll, Declared.addAll]
      exact Declared.Rebased.addAll owner ss (Declared.Rebased.add owner s h hs) hss

theorem Declared.Rebased.addHandlers (owner : Option Nat) (hs : List Handler) {hs' : List Handler}
    {d d' : Declared} (h : d.Rebased d') (hAll : HandlersRebased hs hs') :
    (Declared.addHandlers owner d hs).Rebased (Declared.addHandlers owner d' hs') := by
  match hs with
  | [] =>
    cases hAll
    exact h
  | .mk _ _ body :: hs =>
    cases hAll with
    | cons hBody hRest =>
      rw [Declared.addHandlers, Declared.addHandlers]
      exact Declared.Rebased.addHandlers owner hs (Declared.Rebased.addAll owner body h hBody) hRest

end

namespace Declared

variable {d d' : Declared}

theorem Rebased.linksOf_eq (h : d.Rebased d') (numbers : List Nat) :
    linksOf d numbers = linksOf d' numbers := by
  have hFunctions : List.Forall₂ Function.Rebased (numbers.filterMap (d.declarations[·]?))
      (numbers.filterMap (d'.declarations[·]?)) :=
    filterMap_same_of_rel numbers (rel_getElem? h.declarations)
  have hStub {f f' : Function} (hf : f.Rebased f') : f.isStub = f'.isStub := by rw [hf.rest]
  have hNumber {f f' : Function} (hf : f.Rebased f') : f.number = f'.number := by rw [hf.rest]
  rw [linksOf, linksOf]
  generalize numbers.filterMap (d.declarations[·]?) = fs,
    numbers.filterMap (d'.declarations[·]?) = fs' at hFunctions ⊢
  have hLast := rel_getLast? (filter_of_forall₂ (p := fun f => !f.isStub) (q := fun f => !f.isStub)
    hFunctions fun f f' hf => by rw [hStub hf])
  have hStubs := filter_of_forall₂ hFunctions fun f f' hf => hStub hf
  generalize (fs.filter fun f => !f.isStub).getLast? = f,
    (fs'.filter fun f => !f.isStub).getLast? = f' at hLast ⊢
  cases hLast with
  | none => rfl
  | some hf =>
    refine map_eq_of_forall₂ hStubs fun stub stub' hStub => ?_
    rw [hNumber hStub.1, hNumber hf.1]

theorem Rebased.held_eq (h : d.Rebased d') : d.held = d'.held := by
  refine foldl_eq_of_forall₂ h.allClasses (fun held k k' hk => ?_) []
  have hHolds : d.holds held k = d'.holds held k' := by
    rw [holds, holds, hk.rest, h.classes]
    dsimp only
    cases k.outer with
    | none => rfl
    | some n =>
      have hOuter := rel_getElem? h.allClasses n
      dsimp only
      generalize d.allClasses[n]? = o, d'.allClasses[n]? = o' at hOuter ⊢
      cases hOuter with
      | none => rfl
      | some ho => rw [ho.rest]; rfl
  rw [hHolds, hk.rest]

theorem Rebased.links_eq (h : d.Rebased d') : d.links = d'.links := by
  have hHeld := filter_of_forall₂ (p := fun c => d.held.contains c.number)
    (q := fun c => d'.held.contains c.number) h.allClasses fun k k' hk => by rw [h.held_eq, hk.rest]
  have hMethods := flatMap_eq_of_forall₂ (f := (·.methods)) (g := (·.methods)) hHeld
    fun k k' hk => by rw [hk.1.rest]
  rw [links, links]
  dsimp only
  rw [h.functions, hMethods]
  exact List.flatMap_congr fun x _ => h.linksOf_eq x.2

end Declared

/-! ## Modules -/

theorem importsOf_eq {package : String} {body body' : List Stmt} (h : AllRebased body body') :
    importsOf package body = importsOf package body' := by
  refine foldl_walkFrom_eq (fun found n hn => ?_) (fun found n n' hn => ?_) ?_ _
  · cases n <;> first | rfl | cases hn
  · cases hn with
    | stmt hs => cases hs <;> rfl
    | _ => rfl
  · rw [Node.holders_stmts, Node.holders_stmts]
    exact h.stmts

namespace Source

/-- Two modules have been read from texts that differ only in bases. -/
inductive Rebased : Source → Source → Prop
  | of (number : Nat) (name path : String) {body body' : List Stmt} (h : AllRebased body body') :
      Rebased (sourceOf number name path body) (sourceOf number name path body')

/-- Two modules declare the same, with other bases. -/
structure DeclaresRebased (s s' : Source) : Prop where
  rest : s' = { s with body := s'.body, declarations := s'.declarations, allClasses := s'.allClasses }
  declarations : List.Forall₂ Function.Rebased s.declarations s'.declarations
  allClasses : List.Forall₂ Class.Rebased s.allClasses s'.allClasses

theorem Rebased.declares {s s' : Source} (h : s.Rebased s') : s.DeclaresRebased s' := by
  obtain ⟨number, name, path, hBody⟩ := h
  have hEmpty : Declared.Rebased .empty .empty := ⟨rfl, rfl, .nil, .nil⟩
  have hDeclared := Declared.Rebased.addAll none _ hEmpty hBody
  refine ⟨?_, hDeclared.declarations, hDeclared.allClasses⟩
  simp only [sourceOf, hDeclared.functions, hDeclared.classes, hDeclared.links_eq, importsOf_eq hBody]

end Source

end CodeAtlas.Module
