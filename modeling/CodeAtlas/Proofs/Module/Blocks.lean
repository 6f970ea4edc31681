import CodeAtlas.Module.Commands
import Mathlib.Data.List.Lex
import Mathlib.Logic.Relation

/-!
# Nodes and blocks

What a walk of a tree visits, and where its statements stand: the place of a statement consists of the
number of a block and an index in it, behind those of each statement around it. Places are ordered like
words, which is the order of the text: what a statement says itself comes before its blocks.

* `mem_walkFrom`: a walk visits what some nodes hold.
* `holds_iff`: what statements hold belongs to one of the statements in them.
* `holds_later_iff`: what stands behind a statement in its block stands at the places behind its own.
* `mem_blocks_iff`: the blocks in a tree are those of its statements.
-/

namespace CodeAtlas.Module

/-! ## Walks -/

namespace Node

/-- The node `n` is `m` or stands somewhere below it. -/
def Holds (m n : Node) : Prop := Relation.ReflTransGen (fun a b => b ∈ a.children) m n

end Node

/-- A walk visits what some nodes hold. -/
theorem mem_walkFrom {ns : List Node} {n : Node} : n ∈ walkFrom ns ↔ ∃ m ∈ ns, m.Holds n := by
  induction ns using walkFrom.induct with
  | case1 => simp [walkFrom]
  | case2 ns hne ih =>
    rw [walkFrom, dif_neg hne, List.mem_append, ih]
    constructor
    · rintro (h | ⟨c, hc, h⟩)
      · exact ⟨n, h, .refl⟩
      · obtain ⟨m, hm, hc⟩ := List.mem_flatMap.mp hc
        exact ⟨m, hm, .head hc h⟩
    · rintro ⟨m, hm, h⟩
      rcases Relation.ReflTransGen.cases_head h with rfl | ⟨c, hc, h⟩
      · exact .inl hm
      · exact .inr ⟨c, List.mem_flatMap.mpr ⟨m, hm, hc⟩, h⟩

/-! ## What a statement says itself -/

namespace Node

def isStmt : Node → Bool
  | stmt _ => true
  | _ => false

/-- Parts of a statement in which no further statement stands. -/
def isPart : Node → Bool
  | stmt _ => false
  | handler _ => false
  | case _ => false
  | _ => true

theorem isPart_children {n c : Node} (hn : n.isPart = true) (h : c ∈ n.children) :
    c.isPart = true := by
  have hExpr : ∀ {es : List Expr}, c ∈ exprs es → c.isPart = true := by
    intro es hc
    obtain ⟨e, -, rfl⟩ := List.mem_map.mp hc
    rfl
  have hExpr? : ∀ {e : Option Expr}, c ∈ expr? e → c.isPart = true := by
    intro e hc
    obtain ⟨e, -, rfl⟩ := List.mem_map.mp hc
    rfl
  have hParam : ∀ {ps : List Param}, c ∈ ps.map Node.param → c.isPart = true := by
    intro ps hc
    obtain ⟨p, -, rfl⟩ := List.mem_map.mp hc
    rfl
  cases n with
  | stmt => cases hn
  | handler => cases hn
  | case => cases hn
  | expr e =>
    cases e <;> simp only [children, ofExpr, List.mem_cons, List.mem_append, List.mem_flatMap,
      List.not_mem_nil, List.mem_map] at h <;> grind [isPart]
  | param p => cases p; exact hExpr? h
  | params p =>
    cases p
    simp only [children, List.mem_append, List.mem_flatMap, paramList, param?] at h
    grind
  | keyword k => cases k; simp only [children] at h; grind [isPart]
  | clause k => cases k; simp only [children] at h; grind [isPart]
  | pattern k => cases k; simp only [children] at h; grind [isPart]
  | item k => cases k; simp only [children] at h; grind [isPart]

theorem isPart_of_holds {m n : Node} (h : m.Holds n) (hm : m.isPart = true) : n.isPart = true := by
  induction h with
  | refl => exact hm
  | tail _ hChild ih => exact isPart_children ih hChild

theorem blocks_of_isPart {n : Node} (h : n.isPart = true) : n.blocks = [] := by
  cases n <;> first | rfl | cases h

/-- What is neither a statement nor a part stands directly in a statement. -/
theorem exists_stmt_of_head {n c : Node} (h : c ∈ n.children) (hStmt : c.isStmt = false)
    (hPart : c.isPart = false) : ∃ s, n = .stmt s := by
  cases n with
  | stmt s => exact ⟨s, rfl⟩
  | handler k =>
    cases k
    simp only [children] at h
    grind [expr?, stmts, isStmt, isPart]
  | case k =>
    cases k
    simp only [children] at h
    grind [expr?, stmts, isStmt, isPart]
  | _ =>
    rw [isPart_children rfl h] at hPart
    cases hPart

/-- The statements directly below a node are those of its blocks. -/
theorem mem_children_stmt_iff {n : Node} {t : Stmt} :
    .stmt t ∈ n.children ↔ ∃ block ∈ n.blocks, t ∈ block := by
  have hPart : n.isPart = true → .stmt t ∉ n.children := fun hn h => by
    cases isPart_children hn h
  cases n with
  | stmt s => cases s <;> simp [children, ofStmt, blocks, stmts, exprs, expr?]
  | handler h => cases h; simp [children, blocks, stmts, expr?, Handler.body]
  | case c => cases c; simp [children, blocks, stmts, expr?, Case.body]
  | _ =>
    refine iff_of_false (hPart rfl) ?_
    rintro ⟨block, hBlock, -⟩
    cases hBlock

end Node

/-- The blocks of a statement, in the order of the text. -/
def Stmt.blocks : Stmt → List (List Stmt)
  | .function _ _ _ body _ _ => [body]
  | .classDef _ _ _ _ body _ => [body]
  | .branch _ _ body orElse => [body, orElse]
  | .loop _ body orElse => [body, orElse]
  | .managed _ body => [body]
  | .attempt _ body handlers orElse final => body :: handlers.map Handler.body ++ [orElse, final]
  | .select _ cases => cases.map Case.body
  | _ => []

/-- The statement says the node itself: no further statement stands between them. -/
def Stmt.Owns (s : Stmt) (n : Node) : Prop :=
  Relation.ReflTransGen (fun a b => b ∈ a.children ∧ b.isStmt = false) (.stmt s) n

namespace Stmt

/-- What stands in a statement between it and some of its blocks. -/
def heads : Stmt → List Node
  | .attempt _ _ handlers _ _ => handlers.map .handler
  | .select _ cases => cases.map .case
  | _ => []

variable {s t : Stmt} {n : Node}

theorem mem_heads_iff :
    n ∈ s.heads ↔ n ∈ (Node.stmt s).children ∧ n.isStmt = false ∧ n.isPart = false := by
  cases s <;> simp only [heads, Node.children, Node.ofStmt, Node.exprs, Node.expr?, Node.stmts] <;>
    grind [Node.isStmt, Node.isPart]

theorem mem_blocks_of_heads {block : List Stmt} : block ∈ s.blocks ↔
    block ∈ (Node.stmt s).blocks ∨ ∃ n ∈ s.heads, block ∈ n.blocks := by
  cases s <;> simp [blocks, heads, Node.blocks] <;> grind

theorem Owns.eq_self (h : s.Owns (.stmt t)) : t = s := by
  rcases Relation.ReflTransGen.cases_tail h with hEq | ⟨n, -, -, hNot⟩
  · exact Node.stmt.inj hEq
  · cases hNot

/-- What a statement says itself is the statement, a head of one of its blocks, or a part without blocks. -/
theorem Owns.cases (h : s.Owns n) : n = .stmt s ∨ n ∈ s.heads ∨ n.isPart = true := by
  rcases Relation.ReflTransGen.cases_tail h with hEq | ⟨m, hOwns, hChild, hNot⟩
  · exact .inl hEq
  · cases hPart : n.isPart with
    | true => exact .inr (.inr rfl)
    | false =>
      obtain ⟨t, rfl⟩ := Node.exists_stmt_of_head hChild hNot hPart
      obtain rfl := Owns.eq_self hOwns
      exact .inr (.inl (mem_heads_iff.mpr ⟨hChild, hNot, hPart⟩))

/-- The blocks of a statement stand in it or in its heads. -/
theorem mem_blocks_iff {block : List Stmt} :
    block ∈ s.blocks ↔ ∃ n, s.Owns n ∧ block ∈ n.blocks := by
  rw [mem_blocks_of_heads]
  constructor
  · rintro (hSelf | ⟨n, hHead, hBlock⟩)
    · exact ⟨_, .refl, hSelf⟩
    · obtain ⟨hChild, hNot, -⟩ := mem_heads_iff.mp hHead
      exact ⟨n, .single ⟨hChild, hNot⟩, hBlock⟩
  · rintro ⟨n, hOwns, hBlock⟩
    rcases hOwns.cases with rfl | hHead | hPart
    · exact .inl hBlock
    · exact .inr ⟨n, hHead, hBlock⟩
    · rw [Node.blocks_of_isPart hPart] at hBlock
      cases hBlock

theorem exists_block (h : s.Owns n) (ht : .stmt t ∈ n.children) : ∃ block ∈ s.blocks, t ∈ block := by
  obtain ⟨block, hBlock, ht⟩ := Node.mem_children_stmt_iff.mp ht
  exact ⟨block, mem_blocks_iff.mpr ⟨n, h, hBlock⟩, ht⟩

theorem Owns.holds (h : s.Owns n) : (Node.stmt s).Holds n :=
  Relation.ReflTransGen.mono (fun _ _ hStep => hStep.1) _ _ h

theorem holds_of_mem_block {block : List Stmt} (h : block ∈ s.blocks) (ht : t ∈ block) :
    (Node.stmt s).Holds (.stmt t) := by
  obtain ⟨n, hOwns, hBlock⟩ := mem_blocks_iff.mp h
  exact hOwns.holds.tail (Node.mem_children_stmt_iff.mpr ⟨block, hBlock, ht⟩)

end Stmt

/-! ## Places in blocks -/

/-- The statement `s` stands at a place in some blocks, with `later` behind it in its block. -/
inductive StandsAt : List (List Stmt) → List Nat → Stmt → List Stmt → Prop
  | here {blocks : List (List Stmt)} {block later : List Stmt} {b i : Nat} {s : Stmt}
      (hBlock : blocks[b]? = some block) (h : block.drop i = s :: later) : StandsAt blocks [b, i] s later
  | within {blocks : List (List Stmt)} {block rest later : List Stmt} {b i : Nat} {p : List Nat}
      {s t : Stmt} (hBlock : blocks[b]? = some block) (h : block.drop i = s :: rest)
      (ht : StandsAt s.blocks p t later) : StandsAt blocks (b :: i :: p) t later

/-- The second place lies behind the first in its block, or inside a statement behind it there. -/
inductive Behind : List Nat → List Nat → Prop
  | here {b i j : Nat} {p : List Nat} (h : i < j) : Behind [b, i] (b :: j :: p)
  | within {b i : Nat} {p q : List Nat} (h : Behind p q) : Behind (b :: i :: p) (b :: i :: q)

theorem Behind.lt {p q : List Nat} (h : Behind p q) : p < q := by
  induction h with
  | here h => exact List.cons_lt_cons_iff.mpr (.inr ⟨rfl, List.cons_lt_cons_iff.mpr (.inl h)⟩)
  | within _ ih => exact List.cons_lt_cons_iff.mpr (.inr ⟨rfl, List.cons_lt_cons_iff.mpr (.inr ⟨rfl, ih⟩)⟩)

namespace StandsAt

variable {blocks : List (List Stmt)} {block later l : List Stmt} {p q : List Nat} {s t : Stmt} {n : Node}

theorem ne_nil (h : StandsAt blocks p s later) : p ≠ [] := by
  cases h <;> exact List.cons_ne_nil _ _

theorem unique (h : StandsAt blocks p s later) (h' : StandsAt blocks p t l) : s = t ∧ later = l := by
  induction h with
  | here hBlock h =>
    cases h' with
    | here hBlock' h' =>
      obtain rfl := Option.some.inj (hBlock.symm.trans hBlock')
      exact List.cons.inj (h.symm.trans h')
    | within _ _ ht => exact (ht.ne_nil rfl).elim
  | within hBlock h ht ih =>
    cases h' with
    | here => exact (ht.ne_nil rfl).elim
    | within hBlock' h' ht' =>
      obtain rfl := Option.some.inj (hBlock.symm.trans hBlock')
      obtain ⟨rfl, -⟩ := List.cons.inj (h.symm.trans h')
      exact ih ht'

theorem trans (h : StandsAt blocks p s later) (ht : StandsAt s.blocks q t l) :
    StandsAt blocks (p ++ q) t l := by
  induction h with
  | here hBlock h => exact .within hBlock h ht
  | within hBlock h _ ih => exact .within hBlock h (ih ht)

theorem exists_of_mem (hBlock : block ∈ blocks) (h : s ∈ block) :
    ∃ p later, StandsAt blocks p s later := by
  obtain ⟨b, hb⟩ := List.mem_iff_getElem?.mp hBlock
  obtain ⟨front, later, rfl⟩ := List.append_of_mem h
  exact ⟨[b, front.length], later, .here hb List.drop_left⟩

/-- What a statement holds it says itself, or a statement in its blocks does. -/
theorem exists_of_holds (h : (Node.stmt s).Holds n) :
    s.Owns n ∨ ∃ p t later, StandsAt s.blocks p t later ∧ t.Owns n := by
  induction h with
  | refl => exact .inl .refl
  | @tail a c _ hChild ih =>
    cases hStmt : c.isStmt with
    | false =>
      rcases ih with hOwns | ⟨p, t, later, hAt, hOwns⟩
      · exact .inl (hOwns.tail ⟨hChild, hStmt⟩)
      · exact .inr ⟨p, t, later, hAt, hOwns.tail ⟨hChild, hStmt⟩⟩
    | true =>
      cases c with
      | stmt u =>
        refine .inr ?_
        rcases ih with hOwns | ⟨p, t, later, hAt, hOwns⟩
        · obtain ⟨block, hBlock, hu⟩ := Stmt.exists_block hOwns hChild
          obtain ⟨q, l, hq⟩ := exists_of_mem hBlock hu
          exact ⟨q, u, l, hq, .refl⟩
        · obtain ⟨block, hBlock, hu⟩ := Stmt.exists_block hOwns hChild
          obtain ⟨q, l, hq⟩ := exists_of_mem hBlock hu
          exact ⟨p ++ q, u, l, hAt.trans hq, .refl⟩
      | _ => cases hStmt

theorem exists_holds (h : StandsAt blocks p t later) :
    ∃ block ∈ blocks, ∃ s ∈ block, (Node.stmt s).Holds (.stmt t) := by
  have hMem : ∀ {block rest : List Stmt} {i : Nat} {s : Stmt}, block.drop i = s :: rest → s ∈ block :=
    fun hDrop => List.mem_of_mem_drop (hDrop ▸ List.mem_cons_self)
  induction h with
  | @here _ block _ _ _ s hBlock h => exact ⟨block, List.mem_of_getElem? hBlock, s, hMem h, .refl⟩
  | @within _ block _ _ _ _ _ s _ hBlock h _ ih =>
    obtain ⟨inside, hInside, u, hu, hHolds⟩ := ih
    exact ⟨block, List.mem_of_getElem? hBlock, s, hMem h,
      (Stmt.holds_of_mem_block hInside hu).trans hHolds⟩

/-- A block in which a statement stands is one of the given ones or that of a statement in them. -/
theorem exists_block (h : StandsAt blocks p s later) : ∃ block i, block.drop i = s :: later ∧
    (block ∈ blocks ∨ ∃ q t l, StandsAt blocks q t l ∧ block ∈ t.blocks) := by
  induction h with
  | here hBlock h => exact ⟨_, _, h, .inl (List.mem_of_getElem? hBlock)⟩
  | within hBlock h _ ih =>
    obtain ⟨inside, i, hDrop, hInside | ⟨q, t, l, hq, hInside⟩⟩ := ih
    · exact ⟨inside, i, hDrop, .inr ⟨_, _, _, .here hBlock h, hInside⟩⟩
    · exact ⟨inside, i, hDrop, .inr ⟨_, t, l, .within hBlock h hq, hInside⟩⟩

end StandsAt

/-- What statements hold belongs to one of the statements in them. -/
theorem holds_iff {blocks : List (List Stmt)} {n : Node} :
    (∃ block ∈ blocks, ∃ s ∈ block, (Node.stmt s).Holds n) ↔
      ∃ p t later, StandsAt blocks p t later ∧ t.Owns n := by
  constructor
  · rintro ⟨block, hBlock, s, hs, hHolds⟩
    obtain ⟨p, later, hAt⟩ := StandsAt.exists_of_mem hBlock hs
    rcases StandsAt.exists_of_holds hHolds with hOwns | ⟨q, t, l, hq, hOwns⟩
    · exact ⟨p, s, later, hAt, hOwns⟩
    · exact ⟨p ++ q, t, l, hAt.trans hq, hOwns⟩
  · rintro ⟨p, t, later, hAt, hOwns⟩
    obtain ⟨block, hBlock, s, hs, hHolds⟩ := hAt.exists_holds
    exact ⟨block, hBlock, s, hs, hHolds.trans hOwns.holds⟩

/-- The later statements of a block are those with a larger index. -/
theorem mem_later_iff {block later : List Stmt} {i : Nat} {s t : Stmt} (h : block.drop i = s :: later) :
    t ∈ later ↔ ∃ j rest, i < j ∧ block.drop j = t :: rest := by
  have hRest : block.drop (i + 1) = later := by
    rw [← List.drop_drop, h]
    rfl
  constructor
  · intro ht
    obtain ⟨front, rest, hSplit⟩ := List.append_of_mem ht
    refine ⟨i + 1 + front.length, rest, by omega, ?_⟩
    rw [← List.drop_drop, hRest, hSplit, List.drop_left]
  · rintro ⟨j, rest, hLt, hj⟩
    have hFront : later.drop (j - (i + 1)) = block.drop j := by
      rw [← hRest, List.drop_drop]
      congr 1
      omega
    exact List.mem_of_mem_drop (hFront.trans hj ▸ List.mem_cons_self)

/-- What stands behind a statement in its block stands at the places behind its own. -/
theorem holds_later_iff {blocks : List (List Stmt)} {p : List Nat} {s : Stmt} {later : List Stmt}
    {n : Node} (h : StandsAt blocks p s later) : (∃ m ∈ later, (Node.stmt m).Holds n) ↔
      ∃ q t l, Behind p q ∧ StandsAt blocks q t l ∧ t.Owns n := by
  induction h with
  | @here blocks block later b i s hBlock hDrop =>
    constructor
    · rintro ⟨m, hm, hHolds⟩
      obtain ⟨j, rest, hLt, hj⟩ := (mem_later_iff hDrop).mp hm
      rcases StandsAt.exists_of_holds hHolds with hOwns | ⟨q, t, l, hq, hOwns⟩
      · exact ⟨[b, j], m, rest, .here hLt, .here hBlock hj, hOwns⟩
      · exact ⟨b :: j :: q, t, l, .here hLt, .within hBlock hj hq, hOwns⟩
    · rintro ⟨q, t, l, hBehind, hAt, hOwns⟩
      cases hBehind with
      | here hLt =>
        cases hAt with
        | here hBlock' hj =>
          obtain rfl := Option.some.inj (hBlock.symm.trans hBlock')
          exact ⟨t, (mem_later_iff hDrop).mpr ⟨_, _, hLt, hj⟩, hOwns.holds⟩
        | @within _ _ _ _ _ _ _ u _ hBlock' hj ht =>
          obtain rfl := Option.some.inj (hBlock.symm.trans hBlock')
          obtain ⟨inside, hInside, v, hv, hHolds⟩ := ht.exists_holds
          exact ⟨u, (mem_later_iff hDrop).mpr ⟨_, _, hLt, hj⟩,
            ((Stmt.holds_of_mem_block hInside hv).trans hHolds).trans hOwns.holds⟩
      | within h => cases h
  | @within blocks block rest later b i p s t hBlock hDrop ht ih =>
    rw [ih]
    constructor
    · rintro ⟨q, u, l, hBehind, hAt, hOwns⟩
      exact ⟨b :: i :: q, u, l, .within hBehind, .within hBlock hDrop hAt, hOwns⟩
    · rintro ⟨q, u, l, hBehind, hAt, hOwns⟩
      cases hBehind with
      | here => exact (ht.ne_nil rfl).elim
      | @within _ _ _ q hBehind =>
        cases hAt with
        | here => cases hBehind
        | within hBlock' hj hu =>
          obtain rfl := Option.some.inj (hBlock.symm.trans hBlock')
          obtain ⟨rfl, rfl⟩ := List.cons.inj (hDrop.symm.trans hj)
          exact ⟨q, u, l, hBehind, hu, hOwns⟩

/-- A walk through statements visits what the statements in them say. -/
theorem mem_walkFrom_stmts {body : List Stmt} {n : Node} : n ∈ walkFrom (Node.stmts body) ↔
    ∃ p t later, StandsAt [body] p t later ∧ t.Owns n := by
  rw [mem_walkFrom, ← holds_iff, Node.stmts]
  simp

/-- A statement that stands in a block of a tree has a place. -/
theorem exists_standsAt_iff {body later : List Stmt} {s : Stmt} :
    (∃ p, StandsAt [body] p s later) ↔ ∃ block i, block.drop i = s :: later ∧
      (block = body ∨ ∃ n ∈ walkFrom (Node.stmts body), block ∈ n.blocks) := by
  constructor
  · rintro ⟨p, hAt⟩
    obtain ⟨block, i, hDrop, hBlock⟩ := hAt.exists_block
    refine ⟨block, i, hDrop, ?_⟩
    rcases hBlock with hBlock | ⟨q, t, l, hq, hBlock⟩
    · exact .inl (List.mem_singleton.mp hBlock)
    · obtain ⟨n, hOwns, hBlock⟩ := Stmt.mem_blocks_iff.mp hBlock
      exact .inr ⟨n, mem_walkFrom_stmts.mpr ⟨q, t, l, hq, hOwns⟩, hBlock⟩
  · rintro ⟨block, i, hDrop, rfl | ⟨n, hn, hBlock⟩⟩
    · exact ⟨[0, i], .here rfl hDrop⟩
    · obtain ⟨q, t, l, hq, hOwns⟩ := mem_walkFrom_stmts.mp hn
      obtain ⟨b, hb⟩ := List.mem_iff_getElem?.mp (Stmt.mem_blocks_iff.mpr ⟨n, hOwns, hBlock⟩)
      exact ⟨_, hq.trans (.here hb hDrop)⟩

end CodeAtlas.Module
