import CodeAtlas.Decimal

/-!
# Trees of indented modules

The tree of a module whose blocks are given by indentation, as far as an index needs it. Expressions
are complete; of the statements that only matter through the expressions in them just those are
kept.

`Node.children` lists what stands directly below a node, in a fixed order; a child is smaller than
its node (`Node.sizeOf_lt`), on which every walk of a tree rests.
-/

namespace CodeAtlas.Module

/-! ## Expressions -/

inductive Constant where
  | none
  | bool (b : Bool)
  | ellipsis
  | int (n : Nat)
  | float (d : Decimal)
  | imaginary (d : Decimal)
  /-- A text, perhaps marked as Unicode by its first literal. -/
  | text (s : String) (marked : Bool)
  | bytes (bs : List UInt8)
  deriving DecidableEq, Repr

inductive BinaryOp where
  | add | sub | mul | matMul | div | floorDiv | mod | pow
  | shiftLeft | shiftRight | bitOr | bitXor | bitAnd
  deriving DecidableEq, Repr

inductive UnaryOp where
  | not | plus | minus | invert
  deriving DecidableEq, Repr

inductive BooleanOp where
  | and | or
  deriving DecidableEq, Repr

inductive Comparison where
  | eq | notEq | less | lessEq | greater | greaterEq | is | isNot | within | notWithin
  deriving DecidableEq, Repr

mutual

inductive Expr where
  | boolean (op : BooleanOp) (values : List Expr)
  /-- An assignment inside an expression. -/
  | named (target value : Expr)
  | binary (left : Expr) (op : BinaryOp) (right : Expr)
  | unary (op : UnaryOp) (operand : Expr)
  | lambda (params : Params) (body : Expr)
  | conditional (test body orElse : Expr)
  /-- A key is missing where a mapping is unpacked. -/
  | dict (keys : List (Option Expr)) (values : List Expr)
  | set (elements : List Expr)
  | listComp (element : Expr) (clauses : List Clause)
  | setComp (element : Expr) (clauses : List Clause)
  | dictComp (key value : Expr) (clauses : List Clause)
  | generator (element : Expr) (clauses : List Clause)
  | await (value : Expr)
  | yield (value : Option Expr)
  | yieldFrom (value : Expr)
  | compare (left : Expr) (ops : List Comparison) (rights : List Expr)
  | call (line : Nat) (func : Expr) (args : List Expr) (keywords : List Keyword)
  /-- A value in a formatted text. -/
  | formatted (value : Expr) (conversion : Option Char) (spec : Option Expr)
  /-- A formatted text. -/
  | joined (parts : List Expr)
  | constant (value : Constant)
  | attribute (value : Expr) (name : String)
  | subscript (value index : Expr)
  | starred (value : Expr)
  /-- A name, bound here or not. -/
  | name (id : String) (bound : Bool)
  | list (elements : List Expr)
  | tuple (elements : List Expr)
  | slice (lower upper step : Option Expr)

/-- A parameter with its annotation. -/
inductive Param where
  | mk (name : String) (hint : Option Expr)

/-- The parameters of a function: those given by position only and the other positional ones with
the defaults of the last of them, the one for further arguments, those given by keyword only, each
with its default, and the one for further keywords. -/
inductive Params where
  | mk (positionalOnly positional : List Param) (rest : Option Param) (keywordOnly : List Param)
    (keywordDefaults : List (Option Expr)) (keywordRest : Option Param) (defaults : List Expr)

/-- An argument by keyword; the name is missing where a mapping is unpacked. -/
inductive Keyword where
  | mk (name : Option String) (value : Expr)

/-- One loop of a comprehension. -/
inductive Clause where
  | mk (isAsync : Bool) (target source : Expr) (conditions : List Expr)

end

namespace Param

def name : Param → String | mk n _ => n

def hint : Param → Option Expr | mk _ a => a

end Param

namespace Params

def positionalOnly : Params → List Param | mk ps _ _ _ _ _ _ => ps

def positional : Params → List Param | mk _ ps _ _ _ _ _ => ps

def rest : Params → Option Param | mk _ _ p _ _ _ _ => p

def keywordOnly : Params → List Param | mk _ _ _ ps _ _ _ => ps

def keywordDefaults : Params → List (Option Expr) | mk _ _ _ _ ds _ _ => ds

def keywordRest : Params → Option Param | mk _ _ _ _ _ p _ => p

def defaults : Params → List Expr | mk _ _ _ _ _ _ ds => ds

end Params

namespace Keyword

def name : Keyword → Option String | mk n _ => n

def value : Keyword → Expr | mk _ v => v

end Keyword

instance : Inhabited Expr := ⟨.constant .none⟩

/-! ## Statements -/

/-- A name brought in by an import, and the name that it gets if that differs. -/
structure Imported where
  name : String
  alias? : Option String
  deriving DecidableEq, Repr

/-- A pattern: the name that it binds, values that are compared or looked up, and parts. -/
inductive Pattern where
  | mk (name : Option String) (values : List Expr) (parts : List Pattern)

/-- A managed value and the target that it is bound to. -/
structure WithItem where
  value : Expr
  target : Option Expr

mutual

inductive Stmt where
  | function (line : Nat) (name : String) (params : Params) (body : List Stmt)
    (decorators : List Expr) (result : Option Expr)
  | classDef (line : Nat) (name : String) (bases : List Expr) (keywords : List Keyword)
    (body : List Stmt) (decorators : List Expr)
  | imports (names : List Imported)
  /-- An import from a module; dots before its name lead upwards from the importing module. -/
  | importsFrom (source : Option String) (names : List Imported) (level : Nat)
  | assign (line : Nat) (targets : List Expr) (value : Expr)
  | annotated (target hint : Expr) (value : Option Expr)
  | expr (line : Nat) (value : Expr)
  | branch (line : Nat) (test : Expr) (body orElse : List Stmt)
  /-- A loop over some values or under a condition. -/
  | loop (heads : List Expr) (body orElse : List Stmt)
  | managed (items : List WithItem) (body : List Stmt)
  /-- Handled failures; in groups or one by one. -/
  | attempt (grouped : Bool) (body : List Stmt) (handlers : List Handler)
    (orElse final : List Stmt)
  | select (subject : Expr) (cases : List Case)
  /-- Names that are bound elsewhere: at the top of the module, or in a function around. -/
  | elsewhere (atTop : Bool) (names : List String)
  /-- A statement that matters only by the expressions in it. -/
  | plain (parts : List Expr)

/-- What is done about a kind of failure, which can get a name. -/
inductive Handler where
  | mk (kind : Option Expr) (name : Option String) (body : List Stmt)

inductive Case where
  | mk (pattern : Pattern) (guard : Option Expr) (body : List Stmt)

end

def Handler.body : Handler → List Stmt | mk _ _ b => b

def Case.body : Case → List Stmt | mk _ _ b => b

/-! ## Nodes -/

/-- Whatever stands in a tree. -/
inductive Node where
  | expr (e : Expr)
  | param (p : Param)
  | params (p : Params)
  | keyword (k : Keyword)
  | clause (c : Clause)
  | stmt (s : Stmt)
  | handler (h : Handler)
  | case (c : Case)
  | pattern (p : Pattern)
  | item (i : WithItem)

namespace Node

def exprs (es : List Expr) : List Node := es.map .expr

def expr? (e : Option Expr) : List Node := e.toList.map .expr

def stmts (ss : List Stmt) : List Node := ss.map .stmt

def paramList (ps : List Param) : List Node := ps.map .param

def param? (p : Option Param) : List Node := p.toList.map .param

/-- The nodes directly below an expression. -/
def ofExpr : Expr → List Node
  | .boolean _ values => exprs values
  | .named target value => [.expr target, .expr value]
  | .binary left _ right => [.expr left, .expr right]
  | .unary _ operand => [.expr operand]
  | .lambda ps body => [.params ps, .expr body]
  | .conditional test body orElse => [.expr test, .expr body, .expr orElse]
  | .dict keys values => keys.flatMap expr? ++ exprs values
  | .set elements => exprs elements
  | .listComp element clauses => .expr element :: clauses.map .clause
  | .setComp element clauses => .expr element :: clauses.map .clause
  | .dictComp key value clauses => .expr key :: .expr value :: clauses.map .clause
  | .generator element clauses => .expr element :: clauses.map .clause
  | .await value => [.expr value]
  | .yield value => expr? value
  | .yieldFrom value => [.expr value]
  | .compare left _ rights => .expr left :: exprs rights
  | .call _ func args keywords => .expr func :: exprs args ++ keywords.map .keyword
  | .formatted value _ spec => .expr value :: expr? spec
  | .joined parts => exprs parts
  | .constant _ => []
  | .attribute value _ => [.expr value]
  | .subscript value index => [.expr value, .expr index]
  | .starred value => [.expr value]
  | .name _ _ => []
  | .list elements => exprs elements
  | .tuple elements => exprs elements
  | .slice lower upper step => expr? lower ++ expr? upper ++ expr? step

/-- The nodes directly below a statement. -/
def ofStmt : Stmt → List Node
  | .function _ _ ps body decorators result =>
    .params ps :: stmts body ++ exprs decorators ++ expr? result
  | .classDef _ _ bases keywords body decorators =>
    exprs bases ++ keywords.map .keyword ++ stmts body ++ exprs decorators
  | .imports _ => []
  | .importsFrom _ _ _ => []
  | .assign _ targets value => exprs targets ++ [.expr value]
  | .annotated target hint value => .expr target :: .expr hint :: expr? value
  | .expr _ value => [.expr value]
  | .branch _ test body orElse => .expr test :: stmts body ++ stmts orElse
  | .loop heads body orElse => exprs heads ++ stmts body ++ stmts orElse
  | .managed items body => items.map .item ++ stmts body
  | .attempt _ body handlers orElse final =>
    stmts body ++ handlers.map .handler ++ stmts orElse ++ stmts final
  | .select subject cases => .expr subject :: cases.map .case
  | .elsewhere _ _ => []
  | .plain parts => exprs parts

/-- The nodes directly below a node. -/
def children : Node → List Node
  | expr e => ofExpr e
  | param (.mk _ hint) => expr? hint
  | params (.mk posOnly positional rest keywordOnly keywordDefaults keywordRest defaults) =>
    paramList posOnly ++ paramList positional ++ param? rest ++ paramList keywordOnly ++
      keywordDefaults.flatMap expr? ++ param? keywordRest ++ exprs defaults
  | keyword (.mk _ value) => [.expr value]
  | clause (.mk _ target source conditions) => .expr target :: .expr source :: exprs conditions
  | stmt s => ofStmt s
  | handler (.mk kind _ body) => expr? kind ++ stmts body
  | case (.mk p guard body) => .pattern p :: expr? guard ++ stmts body
  | pattern (.mk _ values parts) => exprs values ++ parts.map .pattern
  | item ⟨value, target⟩ => .expr value :: expr? target

/-! ### Sizes -/

theorem sizeOf_lt_exprs {c : Node} {es : List Expr} (h : c ∈ exprs es) :
    sizeOf c < 1 + sizeOf es := by
  obtain ⟨e, he, rfl⟩ := List.mem_map.mp h
  have := List.sizeOf_lt_of_mem he
  simp only [expr.sizeOf_spec]
  omega

theorem sizeOf_lt_expr? {c : Node} {e : Option Expr} (h : c ∈ expr? e) :
    sizeOf c < 1 + sizeOf e := by
  cases e with
  | none => simp [expr?] at h
  | some e =>
    simp only [expr?, Option.toList_some, List.map_cons, List.map_nil, List.mem_singleton] at h
    subst h
    simp only [expr.sizeOf_spec, Option.some.sizeOf_spec]
    omega

theorem sizeOf_lt_flatMap {c : Node} {es : List (Option Expr)} (h : c ∈ es.flatMap expr?) :
    sizeOf c < 1 + sizeOf es := by
  obtain ⟨e, he, hc⟩ := List.mem_flatMap.mp h
  have := List.sizeOf_lt_of_mem he
  have := sizeOf_lt_expr? hc
  omega

theorem sizeOf_lt_stmts {c : Node} {ss : List Stmt} (h : c ∈ stmts ss) :
    sizeOf c < 1 + sizeOf ss := by
  obtain ⟨s, hs, rfl⟩ := List.mem_map.mp h
  have := List.sizeOf_lt_of_mem hs
  simp only [stmt.sizeOf_spec]
  omega

/-- A node made by `f` from an element of a list is smaller than what holds the list. -/
theorem sizeOf_lt_map {α : Type} [SizeOf α] {f : α → Node} (hf : ∀ a, sizeOf (f a) = 1 + sizeOf a)
    {c : Node} {as : List α} (h : c ∈ as.map f) : sizeOf c < 1 + sizeOf as := by
  obtain ⟨a, ha, rfl⟩ := List.mem_map.mp h
  have := List.sizeOf_lt_of_mem ha
  rw [hf]
  omega

theorem sizeOf_lt_paramList {c : Node} {ps : List Param} (h : c ∈ paramList ps) :
    sizeOf c < 1 + sizeOf ps := sizeOf_lt_map param.sizeOf_spec h

theorem sizeOf_lt_param? {c : Node} {p : Option Param} (h : c ∈ param? p) :
    sizeOf c < 1 + sizeOf p := by
  cases p with
  | none => simp [param?] at h
  | some p =>
    simp only [param?, Option.toList_some, List.map_cons, List.map_nil, List.mem_singleton] at h
    subst h
    simp only [param.sizeOf_spec, Option.some.sizeOf_spec]
    omega

theorem sizeOf_lt_ofExpr {c : Node} {e : Expr} (h : c ∈ ofExpr e) : sizeOf c < 1 + sizeOf e := by
  cases e <;> simp [ofExpr, -List.mem_map, -List.mem_flatMap] at h ⊢ <;>
    grind [→ sizeOf_lt_exprs, → sizeOf_lt_expr?, → sizeOf_lt_map, → sizeOf_lt_flatMap,
      expr.sizeOf_spec, params.sizeOf_spec, clause.sizeOf_spec, keyword.sizeOf_spec]

theorem sizeOf_lt_ofStmt {c : Node} {s : Stmt} (h : c ∈ ofStmt s) : sizeOf c < 1 + sizeOf s := by
  cases s <;> simp [ofStmt, -List.mem_map] at h ⊢ <;>
    grind [→ sizeOf_lt_exprs, → sizeOf_lt_expr?, → sizeOf_lt_stmts, → sizeOf_lt_map,
      expr.sizeOf_spec, params.sizeOf_spec, keyword.sizeOf_spec, item.sizeOf_spec,
      handler.sizeOf_spec, case.sizeOf_spec]

/-- A child is smaller than its node. -/
theorem sizeOf_lt {n c : Node} (h : c ∈ n.children) : sizeOf c < sizeOf n := by
  cases n with
  | expr e => simpa using sizeOf_lt_ofExpr h
  | stmt s => simpa using sizeOf_lt_ofStmt h
  | param p =>
    cases p
    simp [children] at h ⊢
    grind [→ sizeOf_lt_expr?]
  | params p =>
    cases p
    simp [children, -List.mem_flatMap] at h ⊢
    grind [→ sizeOf_lt_exprs, → sizeOf_lt_paramList, → sizeOf_lt_param?, → sizeOf_lt_flatMap]
  | keyword k =>
    cases k
    simp [children] at h ⊢
    grind [expr.sizeOf_spec]
  | clause k =>
    cases k
    simp [children] at h ⊢
    grind [→ sizeOf_lt_exprs, expr.sizeOf_spec]
  | handler k =>
    cases k
    simp [children] at h ⊢
    grind [→ sizeOf_lt_expr?, → sizeOf_lt_stmts]
  | case k =>
    cases k
    simp [children] at h ⊢
    grind [→ sizeOf_lt_expr?, → sizeOf_lt_stmts, pattern.sizeOf_spec]
  | pattern p =>
    cases p
    simp [children, -List.mem_map] at h ⊢
    grind [→ sizeOf_lt_exprs, → sizeOf_lt_map, pattern.sizeOf_spec]
  | item i =>
    cases i
    simp [children] at h ⊢
    grind [→ sizeOf_lt_expr?, expr.sizeOf_spec]

end Node

end CodeAtlas.Module
