import CodeAtlas.Module.Grammar
import CodeAtlas.Module.Resolve
import CodeAtlas.Proofs.Module.Weights

/-!
# Extents of expressions

The extent of an expression bounds how deep one goes into it when it is read as an annotation. No rule
of the grammar makes more of it than the tokens weigh that the rule passes: each rule is put together
from parsers of which that is known.

* `Frugal`, `Passes`: a parser gives no more than it passes, or gives no tokens back.
* `frugalRules`: the rules for expressions, whatever bounds their depth.
* `extent_readExpression_le`: an expression has no more extent than its text has characters.
-/

namespace CodeAtlas.Module

open Parse

variable {α β : Type}

/-! ## Frugal parsers -/

/-- Read from `ts`, what the parser gives and what it leaves weigh at most `k` together. -/
def Reads (k : Nat) (worth : α → Nat) (p : Parse α) (ts : List Token) : Prop :=
  ∀ a rest, p ts = some (a, rest) → worth a + weight rest ≤ k

/-- What the parser gives weighs no more than the tokens that it passes. -/
def Frugal (worth : α → Nat) (p : Parse α) : Prop := ∀ ts, Reads (weight ts) worth p ts

/-- The parser does not give tokens back. -/
abbrev Passes (p : Parse α) : Prop := Frugal (fun _ => 0) p

section Frugal

variable {k : Nat} {f : α → Nat} {g : β → Nat} {p : Parse α} {q : α → Parse β} {ts : List Token}

theorem reads_pure {a : α} (h : f a + weight ts ≤ k) : Reads k f (pure a) ts := by
  intro b rest hb
  cases hb
  exact h

theorem reads_fail : Reads k f Parse.fail ts := nofun

theorem reads_ite {c : Prop} [Decidable c] {p' : Parse α} (hp : Reads k f p ts) (hp' : Reads k f p' ts) :
    Reads k f (if c then p else p') ts := by
  split
  · exact hp
  · exact hp'

theorem reads_bind (hp : Frugal f p)
    (hq : ∀ a rest, f a + weight rest ≤ weight ts → Reads k g (q a) rest) :
    Reads k g (p >>= q) ts := by
  intro b rest h
  obtain ⟨⟨a, mid⟩, ha, hb⟩ := Option.bind_eq_some_iff.mp h
  exact hq a mid (hp ts a mid ha) b rest hb

theorem Frugal.mono {f' : α → Nat} (hp : Frugal f p) (h : ∀ a, f' a ≤ f a) : Frugal f' p := by
  intro ts a rest ha
  have hWorth := hp ts a rest ha
  have hLess := h a
  omega

theorem Frugal.passes (hp : Frugal f p) : Passes p := hp.mono fun _ => Nat.zero_le _

/-- Tokens that are weighed before a parser are left over behind it. -/
theorem Frugal.reads (hp : Frugal f p) (h : weight ts ≤ k) : Reads k f p ts := fun a rest ha =>
  Nat.le_trans (hp ts a rest ha) h

theorem passes_pure (a : α) : Passes (pure a) := fun _ => reads_pure (Nat.le_of_eq (Nat.zero_add _))

theorem passes_fail : Passes (Parse.fail : Parse α) := fun _ => reads_fail

theorem reads_fail_bind : Reads k g (Parse.fail >>= q) ts := nofun

theorem passes_fail_bind : Passes (Parse.fail >>= q) := fun _ => reads_fail_bind

theorem Passes.bind (hp : Frugal f p) (hq : ∀ a, Passes (q a)) : Passes (p >>= q) := fun _ =>
  reads_bind hp fun a _ hRest => (hq a).reads (Nat.le_trans (Nat.le_add_left _ _) hRest)

theorem passes_map (made : α → β) (hp : Passes p) : Passes (made <$> p) := by
  intro ts b rest h
  obtain ⟨⟨a, mid⟩, ha, hb⟩ := Option.bind_eq_some_iff.mp h
  cases hb
  exact hp ts a _ ha

theorem Passes.ite {c : Prop} [Decidable c] {p' : Parse α} (hp : Passes p) (hp' : Passes p') :
    Passes (if c then p else p') := fun ts => reads_ite (hp ts) (hp' ts)

/-! ## Single tokens -/

/-- The kind of the next token. -/
def nextKind (ts : List Token) : Kind := (ts.head?.map (·.kind)).getD .finish

theorem weight_drop (ts : List Token) : (nextKind ts).weight + weight (ts.drop 1) = weight ts := by
  cases ts with
  | nil => rfl
  | cons t ts => exact (weight_cons t ts).symm

theorem weight_drop_op {s : String} (h : nextKind ts = .op s) : 1 + weight (ts.drop 1) = weight ts := by
  rw [← weight_drop ts, h]
  rfl

theorem reads_peek {q : Kind → Parse β} (h : Reads k g (q (nextKind ts)) ts) :
    Reads k g (peek >>= q) ts := h

theorem reads_skip {q : Unit → Parse β} (h : Reads k g (q ()) (ts.drop 1)) :
    Reads k g (skip >>= q) ts := h

theorem passes_peek : Passes peek := by
  intro ts a rest h
  cases h
  exact Nat.le_of_eq (Nat.zero_add _)

theorem passes_peekSecond : Passes peekSecond := by
  intro ts a rest h
  cases h
  exact Nat.le_of_eq (Nat.zero_add _)

theorem passes_line : Passes Parse.line := by
  intro ts a rest h
  cases h
  exact Nat.le_of_eq (Nat.zero_add _)

theorem passes_skip : Passes skip := by
  intro ts a rest h
  cases h
  have hDrop := weight_drop ts
  dsimp only
  omega

/-- A token of some kinds is passed with what it weighs at least. -/
theorem frugal_expect {kinds : Kind → Bool} {w : Nat} (h : ∀ t, kinds t = true → w ≤ t.weight) :
    Frugal (fun _ => w) (expect kinds) := by
  intro ts
  refine reads_peek ?_
  split
  · rename_i hNext
    intro a rest hSkip
    cases hSkip
    have hLess := h _ hNext
    have hDrop := weight_drop ts
    dsimp only
    omega
  · exact reads_fail

theorem frugal_skipIf {kinds : Kind → Bool} {w : Nat} (h : ∀ t, kinds t = true → w ≤ t.weight) :
    Frugal (fun b => if b then w else 0) (skipIf kinds) := by
  intro ts
  refine reads_peek ?_
  split
  · rename_i hNext
    have hLess := h _ hNext
    have hDrop := weight_drop ts
    exact reads_skip (reads_pure (by simp only [if_true]; omega))
  · exact reads_pure (by simp)

theorem le_weight_of_isOp (s : String) (t : Kind) (h : t.isOp s = true) : 1 ≤ t.weight := by
  cases t <;> simp_all [Kind.isOp, Kind.weight]

theorem le_weight_of_isKeyword (s : String) (t : Kind) (h : t.isKeyword s = true) : 1 ≤ t.weight := by
  cases t <;> simp_all [Kind.isKeyword, Kind.weight]

theorem frugal_op (s : String) : Frugal (fun _ => 1) (op s) := frugal_expect (le_weight_of_isOp s)

theorem frugal_keyword (s : String) : Frugal (fun _ => 1) (keyword s) :=
  frugal_expect (le_weight_of_isKeyword s)

theorem frugal_skipOp (s : String) : Frugal (fun b => if b then 1 else 0) (skipOp s) :=
  frugal_skipIf (le_weight_of_isOp s)

theorem frugal_skipKeyword (s : String) : Frugal (fun b => if b then 1 else 0) (skipKeyword s) :=
  frugal_skipIf (le_weight_of_isKeyword s)

theorem passes_nextIsOp (s : String) : Passes (nextIsOp s) := .bind passes_peek fun _ => passes_pure _

theorem passes_nextIsKeyword (s : String) : Passes (nextIsKeyword s) :=
  .bind passes_peek fun _ => passes_pure _

theorem passes_anyName : Passes anyName := by
  refine .bind passes_peek fun t => ?_
  split
  · exact .bind passes_skip fun _ => passes_pure _
  · exact passes_fail

/-! ## Repetition -/

theorem frugal_maybe (hp : Frugal f p) : Frugal (fun o => (o.map f).getD 0) (maybe p) := by
  intro ts a rest h
  unfold maybe at h
  split at h
  · rename_i b rest' hb
    cases h
    exact hp ts b _ hb
  · cases h
    simp

theorem passes_many (fuel : Nat) (hp : Passes p) : Passes (many fuel p) := by
  induction fuel with
  | zero => exact passes_pure _
  | succ fuel ih =>
    refine .bind (frugal_maybe hp) fun a => ?_
    cases a with
    | none => exact passes_pure _
    | some a => exact .bind ih fun _ => passes_pure _

theorem passes_manyWhile (fuel : Nat) (kinds : Kind → Bool) (hp : Passes p) :
    Passes (manyWhile fuel kinds p) := by
  induction fuel with
  | zero => exact passes_pure _
  | succ fuel ih =>
    exact .bind passes_peek fun t => .ite (.bind hp fun _ => .bind ih fun _ => passes_pure _)
      (passes_pure _)

/-- What the first of some elements weighs. -/
def headWorth (f : α → Nat) (x : List α × Bool) : Nat := (x.1.head?.map f).getD 1

theorem frugal_listed (fuel : Nat) (hp : Frugal f p) : Frugal (headWorth f) (listed fuel p) := by
  intro ts
  refine reads_bind hp fun a rest hFirst => ?_
  refine reads_bind (passes_many fuel (.bind (frugal_op ",") fun _ => hp.passes))
    fun others rest' hOthers => ?_
  refine reads_bind (frugal_skipOp ",").passes fun trailing rest'' hTrailing => reads_pure ?_
  simp only [headWorth, List.head?_cons, Option.map_some, Option.getD_some]
  omega

end Frugal

/-! ## Extents -/

theorem one_le_extent (e : Expr) : 1 ≤ e.extent := by
  unfold Expr.extent
  split <;> omega

/-- Most expressions have no depth. -/
theorem reads_shallow {k : Nat} {ts : List Token} {e : Expr} (he : e.extent = 1)
    (h : 1 + weight ts ≤ k) : Reads k Expr.extent (pure e) ts := reads_pure (by rw [he]; exact h)

/-- The parsers on which the rules are built give no more than they pass. -/
structure FrugalRules (r : Rules) : Prop where
  expression : Frugal Expr.extent r.expression
  factor : Frugal Expr.extent r.factor

section Rules

variable {r : Rules} {k : Nat} {ts : List Token}

/-! ### Operators -/

theorem reads_leftChain {ops : String → Option BinaryOp} {operand : Parse Expr}
    (hp : Frugal Expr.extent operand) (fuel : Nat) {left : Expr} (hLeft : left.extent + weight ts ≤ k) :
    Reads k Expr.extent (leftChain ops operand fuel left) ts := by
  induction fuel generalizing left ts with
  | zero => exact reads_pure hLeft
  | succ fuel ih =>
    refine reads_peek ?_
    split
    · rename_i s hNext
      split
      · rename_i o hOp
        have hDrop := weight_drop_op hNext
        refine reads_skip (reads_bind hp fun right rest hRight => ih ?_)
        rw [Expr.extent]
        omega
      · exact reads_pure hLeft
    · exact reads_pure hLeft

theorem frugal_rank {ops : String → Option BinaryOp} {operand : Parse Expr}
    (hp : Frugal Expr.extent operand) : Frugal Expr.extent (rank r ops operand) := fun _ =>
  reads_bind hp fun _ _ hLeft => reads_leftChain hp r.fuel hLeft

theorem frugal_bitwiseOr (h : FrugalRules r) : Frugal Expr.extent (bitwiseOr r) :=
  frugal_rank (frugal_rank (frugal_rank (frugal_rank (frugal_rank (frugal_rank h.factor)))))

theorem passes_comparisonOp : Passes comparisonOp := by
  refine .bind passes_peek fun t => .bind passes_peekSecond fun u => ?_
  split <;> first
    | exact .bind passes_skip fun _ => passes_pure _
    | exact .bind passes_skip fun _ => .bind passes_skip fun _ => passes_pure _
    | exact passes_pure _

theorem passes_comparisons (h : FrugalRules r) (fuel : Nat) : Passes (comparisons r fuel) := by
  induction fuel with
  | zero => exact passes_pure _
  | succ fuel ih =>
    refine .bind passes_comparisonOp fun o => ?_
    cases o with
    | none => exact passes_pure _
    | some o => exact .bind (frugal_bitwiseOr h) fun _ => .bind ih fun _ => passes_pure _

theorem frugal_comparison (h : FrugalRules r) : Frugal Expr.extent (comparison r) := by
  intro ts
  refine reads_bind (frugal_bitwiseOr h) fun left rest hLeft => ?_
  refine reads_bind (passes_comparisons h r.fuel) fun found rest' hFound => ?_
  have hSome := one_le_extent left
  split
  · exact reads_pure (by omega)
  · exact reads_shallow rfl (by omega)

theorem extent_nots_le (nots : List Unit) (e : Expr) :
    (nots.foldl (fun e _ => .unary .not e) e).extent ≤ e.extent := by
  induction nots generalizing e with
  | nil => exact Nat.le_refl _
  | cons _ nots ih => exact Nat.le_trans (ih _) (one_le_extent e)

theorem frugal_inversion (h : FrugalRules r) : Frugal Expr.extent (inversion r) := by
  intro ts
  refine reads_bind (passes_manyWhile r.fuel _ passes_skip) fun nots rest hNots => ?_
  refine reads_bind (frugal_comparison h) fun e rest' he => reads_pure ?_
  have hLess := extent_nots_le nots e
  omega

theorem frugal_booleanChain {o : BooleanOp} {word : String} {operand : Parse Expr}
    (hp : Frugal Expr.extent operand) : Frugal Expr.extent (booleanChain r o word operand) := by
  intro ts
  refine reads_bind hp fun first rest hFirst => ?_
  refine reads_bind (passes_manyWhile r.fuel _ (.bind passes_skip fun _ => hp.passes))
    fun others rest' hOthers => ?_
  have hSome := one_le_extent first
  split
  · exact reads_pure (by omega)
  · exact reads_shallow rfl (by omega)

theorem frugal_disjunction (h : FrugalRules r) : Frugal Expr.extent (disjunction r) :=
  frugal_booleanChain (frugal_booleanChain (frugal_inversion h))

/-! ### Lists of expressions -/

theorem passes_assignmentName : Passes assignmentName := by
  refine .bind passes_peek fun t => .bind passes_peekSecond fun u => ?_
  split
  · exact .bind passes_skip fun _ => .bind passes_skip fun _ => passes_pure _
  · exact passes_pure _

/-- Something is given that has no depth, behind an expression. -/
theorem reads_above {p : Parse Expr} {made : Expr → Expr} (hp : Frugal Expr.extent p)
    (hMade : ∀ e, (made e).extent = 1) (h : weight ts ≤ k) :
    Reads k Expr.extent (p >>= fun e => pure (made e)) ts :=
  reads_bind hp fun e rest he => by
    have hSome := one_le_extent e
    exact reads_shallow (hMade e) (by omega)

theorem frugal_namedExpression (h : FrugalRules r) : Frugal Expr.extent (namedExpression r) := by
  intro ts
  refine reads_bind passes_assignmentName fun o rest ho => ?_
  cases o with
  | some name => exact reads_above h.expression (fun _ => rfl) (by omega)
  | none =>
    refine reads_bind h.expression fun e rest' he => ?_
    refine reads_bind (passes_nextIsOp _) fun b rest'' hb => ?_
    split
    · exact reads_fail_bind
    · exact reads_pure (by omega)

theorem frugal_starExpression (h : FrugalRules r) : Frugal Expr.extent (starExpression r) := by
  intro ts
  refine reads_bind (frugal_skipOp "*").passes fun b rest hb => ?_
  split
  · exact reads_above (frugal_bitwiseOr h) (fun _ => rfl) (by omega)
  · exact h.expression.reads (by omega)

theorem frugal_starNamedExpression (h : FrugalRules r) : Frugal Expr.extent (starNamedExpression r) := by
  intro ts
  refine reads_bind (frugal_skipOp "*").passes fun b rest hb => ?_
  split
  · exact reads_above (frugal_bitwiseOr h) (fun _ => rfl) (by omega)
  · exact (frugal_namedExpression h).reads (by omega)

/-- A list of elements stands for its only one, or else for something without depth. -/
theorem one_le_headWorth (x : List Expr × Bool) : 1 ≤ headWorth Expr.extent x := by
  obtain ⟨_ | ⟨e, es⟩, b⟩ := x
  · exact Nat.le_refl 1
  · exact one_le_extent e

theorem frugal_starExpressions (h : FrugalRules r) : Frugal Expr.extent (starExpressions r) := by
  intro ts
  refine reads_bind (frugal_listed r.fuel (frugal_starExpression h)) fun x rest hListed => ?_
  have hSome := one_le_headWorth x
  obtain ⟨es, comma⟩ := x
  dsimp only
  split
  · exact reads_pure hListed
  · exact reads_shallow rfl (by omega)

theorem frugal_yieldRule (h : FrugalRules r) : Frugal Expr.extent (yieldRule r) := by
  intro ts
  refine reads_bind (frugal_keyword "yield") fun _ rest hYield => ?_
  refine reads_bind (frugal_skipKeyword "from").passes fun b rest' hb => ?_
  split
  · exact reads_above h.expression (fun _ => rfl) (by omega)
  · refine reads_bind (frugal_maybe (frugal_starExpressions h)).passes fun o rest'' ho => ?_
    exact reads_shallow rfl (by omega)

/-! ### Comprehensions -/

theorem passes_starTarget (h : FrugalRules r) : Passes (starTarget r) := by
  refine .bind (frugal_skipOp "*") fun b => .bind h.factor fun e => ?_
  split
  · exact passes_pure _
  · exact passes_fail

theorem passes_starTargets (h : FrugalRules r) : Passes (starTargets r) := by
  refine .bind (frugal_listed r.fuel (passes_starTarget h)) fun (ts, comma) => ?_
  dsimp only
  split <;> exact passes_pure _

theorem passes_clauseRule (h : FrugalRules r) : Passes (clauseRule r) := by
  have hConditions : Passes (manyWhile r.fuel (Kind.isKeyword "if") (do skip; disjunction r)) :=
    passes_manyWhile r.fuel _ (.bind passes_skip fun _ => (frugal_disjunction h).passes)
  exact .bind (frugal_skipKeyword "async") fun _ => .bind (frugal_keyword "for") fun _ =>
    .bind (passes_starTargets h) fun _ => .bind (frugal_keyword "in") fun _ =>
    .bind (frugal_disjunction h) fun _ => .bind hConditions fun _ => passes_pure _

theorem passes_clauses (h : FrugalRules r) : Passes (clauses r) :=
  .bind (passes_clauseRule h) fun _ =>
    .bind (passes_manyWhile r.fuel _ (passes_clauseRule h)) fun _ => passes_pure _

/-! ### Arguments and indices -/

theorem passes_keywordName : Passes keywordName := by
  refine .bind passes_peek fun t => .bind passes_peekSecond fun u => ?_
  split
  · exact .bind passes_skip fun _ => .bind passes_skip fun _ => passes_pure _
  · exact passes_pure _

theorem passes_argument (h : FrugalRules r) (a : Arguments) : Passes (argument r a) := by
  refine .bind (frugal_skipOp "**") fun b => .ite ?_ ?_
  · exact .bind h.expression fun _ => passes_pure _
  · refine .bind (frugal_skipOp "*") fun b => .ite ?_ ?_
    · exact .ite passes_fail_bind (.bind h.expression fun _ => passes_pure _)
    · refine .bind passes_keywordName fun o => ?_
      cases o with
      | some name => exact .bind h.expression fun _ => passes_pure _
      | none =>
        exact .ite passes_fail_bind (.bind (frugal_namedExpression h) fun _ => passes_pure _)

theorem passes_argumentsFrom (h : FrugalRules r) (fuel : Nat) (a : Arguments) :
    Passes (argumentsFrom r fuel a) := by
  induction fuel generalizing a with
  | zero => exact passes_fail
  | succ fuel ih =>
    exact .bind (passes_nextIsOp ")") fun _ => .ite (passes_pure _) <|
      .bind (passes_argument h a) fun _ => .bind (frugal_skipOp ",") fun _ => .ite (ih _) <|
      .bind (passes_nextIsOp ")") fun _ => .ite (passes_pure _) passes_fail

theorem passes_arguments (h : FrugalRules r) : Passes (arguments r) := passes_argumentsFrom h _ _

theorem passes_nextIsPositional : Passes nextIsPositional := by
  refine .bind passes_peek fun t => .bind passes_peekSecond fun u => ?_
  split <;> exact passes_pure _

theorem passes_callArguments (h : FrugalRules r) : Passes (callArguments r) := by
  have hRest : Passes (do
      let first ← namedExpression r
      if beginsClause (← peek) then
        return ⟨.positional, [.generator first (← clauses r)], []⟩
      if ← skipOp "," then argumentsFrom r r.fuel ⟨.positional, [first], []⟩
      else return ⟨.positional, [first], []⟩) :=
    .bind (frugal_namedExpression h) fun _ => .bind passes_peek fun _ =>
      .ite (.bind (passes_clauses h) fun _ => passes_pure _) <|
      .bind (frugal_skipOp ",") fun _ => .ite (passes_argumentsFrom h _ _) (passes_pure _)
  exact .bind passes_nextIsPositional fun _ =>
    .ite (passes_arguments h) hRest

theorem passes_slicePart (h : FrugalRules r) : Passes (slicePart r) := by
  refine .bind passes_peek fun t => ?_
  split
  · exact .ite (passes_pure _) (passes_map _ h.expression.passes)
  · exact passes_map _ h.expression.passes

theorem reads_sliceAfter (h : FrugalRules r) (lower : Option Expr) (hSome : 1 + weight ts ≤ k) :
    Reads k Expr.extent (sliceAfter r lower) ts := by
  refine reads_bind (passes_slicePart h) fun upper rest hUpper => ?_
  refine reads_bind (frugal_skipOp ":").passes fun b rest' hb => ?_
  split
  · exact reads_bind (passes_slicePart h) fun step rest'' hStep => reads_shallow rfl (by omega)
  · exact reads_shallow rfl (by omega)

theorem frugal_sliceRule (h : FrugalRules r) : Frugal Expr.extent (sliceRule r) := by
  intro ts
  refine reads_bind (frugal_skipOp ":") fun b rest hb => ?_
  split
  · rename_i hColon
    rw [if_pos hColon] at hb
    exact reads_sliceAfter h none hb
  · refine reads_bind (frugal_skipOp "*").passes fun b rest' hb' => ?_
    split
    · exact reads_above h.expression (fun _ => rfl) (by omega)
    · refine reads_bind passes_assignmentName fun o rest'' ho => ?_
      cases o with
      | some name => exact reads_above h.expression (fun _ => rfl) (by omega)
      | none =>
        refine reads_bind h.expression fun e mid he => ?_
        refine reads_bind (frugal_skipOp ":").passes fun b rest₃ hb₃ => ?_
        have hSome := one_le_extent e
        split
        · exact reads_sliceAfter h _ (by omega)
        · exact reads_pure (by omega)

theorem frugal_slices (h : FrugalRules r) : Frugal Expr.extent (slices r) := by
  intro ts
  refine reads_bind (frugal_listed r.fuel (frugal_sliceRule h)) fun x rest hListed => ?_
  have hSome := one_le_headWorth x
  obtain ⟨es, comma⟩ := x
  dsimp only
  split
  · exact reads_shallow rfl (by omega)
  · exact reads_pure hListed
  · exact reads_shallow rfl (by omega)

/-! ### Literals -/

/-- How long the text of a token is. -/
def Kind.textLength : Kind → Nat
  | .text s _ => s.length
  | _ => 0

/-- What the tokens of literals weigh together. -/
def literalWorth (ks : List Kind) : Nat := (ks.map fun t => 1 + t.textLength).sum

theorem frugal_textTokens (fuel : Nat) : Frugal literalWorth (textTokens fuel) := by
  induction fuel with
  | zero => exact fun ts => reads_pure (by simp [literalWorth])
  | succ fuel ih =>
    intro ts
    -- every token that is taken weighs as much as it is worth
    have hTaken : ∀ t : Kind, nextKind ts = t → t.weight = 1 + t.textLength →
        Reads (weight ts) literalWorth (do skip; return t :: (← textTokens fuel)) ts := by
      intro t hNext hWeight
      have hDrop := weight_drop ts
      rw [hNext] at hDrop
      refine reads_skip (reads_bind ih fun ks rest hRest => reads_pure ?_)
      simp only [literalWorth, List.map_cons, List.sum_cons] at hRest ⊢
      omega
    refine reads_peek ?_
    split
    · exact hTaken _ ‹_› (Nat.add_comm _ _)
    · exact hTaken _ ‹_› rfl
    · exact hTaken _ ‹_› rfl
    · exact reads_pure (by simp [literalWorth])

theorem one_le_literalWorth {ks : List Kind} (h : ks ≠ []) : 1 ≤ literalWorth ks := by
  cases ks with
  | nil => exact absurd rfl h
  | cons t ks =>
    rw [literalWorth, List.map_cons, List.sum_cons]
    omega

theorem length_plainText {ks : List Kind} {cs : List Char} (h : plainText ks = some cs) :
    cs.length + ks.length = literalWorth ks := by
  fun_induction plainText ks generalizing cs with
  | case1 =>
    cases h
    rfl
  | case2 s marked rest ih =>
    obtain ⟨others, hOthers, rfl⟩ := Option.map_eq_some_iff.mp h
    have hRest := ih hOthers
    simp only [literalWorth, Kind.textLength, List.map_cons, List.sum_cons, List.length_append,
      List.length_cons, String.length_toList] at hRest ⊢
    omega
  | case3 => cases h

theorem passes_fieldExpression (tokens : List Token) : Passes (fieldExpression r tokens) := by
  intro ts a rest h
  obtain ⟨x, -, hPair⟩ := Option.map_eq_some_iff.mp h
  cases hPair
  exact Nat.le_of_eq (Nat.zero_add _)

mutual

theorem passes_joinPiece (j : Joining) : (p : Piece) → Passes (joinPiece r j p)
  | .literal _ => passes_pure _
  | .field tokens _ none => .bind (passes_fieldExpression tokens) fun _ => passes_pure _
  | .field tokens _ (some ps) => .bind (passes_fieldExpression tokens) fun _ =>
    .bind (passes_joinPieces ⟨[], []⟩ ps) fun _ => passes_pure _

theorem passes_joinPieces (j : Joining) : (ps : List Piece) → Passes (joinPieces r j ps)
  | [] => passes_pure _
  | p :: ps => .bind (passes_joinPiece j p) fun j' => passes_joinPieces j' ps

end

theorem passes_joinTokens (j : Joining) (ks : List Kind) : Passes (joinTokens r j ks) := by
  induction ks generalizing j with
  | nil => exact passes_pure _
  | cons t ks ih =>
    refine .bind (?_ : Passes (joinToken r j t)) fun _ => ih _
    unfold joinToken
    split
    · exact passes_pure _
    · exact passes_joinPieces j _
    · exact passes_fail

theorem frugal_textRule : Frugal Expr.extent (textRule r) := by
  intro ts
  refine reads_bind (frugal_textTokens r.fuel) fun ks rest hTokens => ?_
  cases ks with
  | nil => exact reads_fail
  | cons t ks =>
    have hSome : 1 ≤ literalWorth (t :: ks) := one_le_literalWorth (List.cons_ne_nil t ks)
    split
    · exact reads_fail
    · rename_i cs hText _
      have hLength := length_plainText hText
      refine reads_pure ?_
      rw [List.length_cons] at hLength
      rw [Expr.extent, String.length_ofList]
      omega
    · exact reads_shallow rfl (by omega)
    · exact reads_bind (passes_joinTokens _ _) fun j rest' hj => reads_shallow rfl (by omega)

/-! ### Displays -/

/-- Something without depth is given behind a closing mark. -/
theorem reads_closed {s : String} {e : Expr} (he : e.extent = 1) (h : 1 + weight ts ≤ k) :
    Reads k Expr.extent (do op s; return e) ts :=
  reads_bind (frugal_op s) fun _ rest hRest => reads_shallow he (by omega)

theorem reads_parenthesized (h : FrugalRules r) (hSome : 1 + weight ts ≤ k) :
    Reads k Expr.extent (parenthesized r) ts := by
  refine reads_bind (frugal_skipOp ")").passes fun b rest hb => ?_
  split
  · exact reads_shallow rfl (by omega)
  · refine reads_bind (passes_nextIsKeyword "yield") fun b rest' hb' => ?_
    split
    · refine reads_bind (frugal_yieldRule h) fun e rest'' he => ?_
      exact reads_bind (frugal_op ")") fun _ rest₃ hClose => reads_pure (by omega)
    · refine reads_bind (frugal_starNamedExpression h) fun first rest'' hFirst => reads_peek ?_
      have hDrop := weight_drop rest''
      have hEntries := frugal_maybe (frugal_listed r.fuel (frugal_starNamedExpression h))
      split
      · refine reads_skip (reads_bind hEntries fun others rest₃ hOthers => ?_)
        exact reads_closed rfl (by omega)
      · exact reads_fail
      · split
        · exact reads_bind (passes_clauses h) fun cs rest₃ hClauses => reads_closed rfl (by omega)
        · exact reads_bind (frugal_op ")") fun _ rest₃ hClose => reads_pure (by omega)

theorem reads_listDisplay (h : FrugalRules r) (hSome : 1 + weight ts ≤ k) :
    Reads k Expr.extent (listDisplay r) ts := by
  refine reads_bind (frugal_skipOp "]").passes fun b rest hb => ?_
  split
  · exact reads_shallow rfl (by omega)
  · refine reads_bind (frugal_starNamedExpression h).passes fun first rest' hFirst => reads_peek ?_
    refine reads_ite ?_ ?_
    · exact reads_bind (passes_clauses h) fun cs rest'' hClauses => reads_closed rfl (by omega)
    · refine reads_bind (frugal_skipOp ",").passes fun b rest'' hb'' => ?_
      split
      · refine reads_bind (frugal_maybe (frugal_listed r.fuel (frugal_starNamedExpression h))).passes
          fun others rest₃ hOthers => reads_closed rfl (by omega)
      · exact reads_closed rfl (by omega)

theorem passes_dictEntry (h : FrugalRules r) : Passes (dictEntry r) :=
  .bind (frugal_skipOp "**") fun _ => .ite (.bind (frugal_bitwiseOr h) fun _ => passes_pure _) <|
    .bind h.expression fun _ => .bind (frugal_op ":") fun _ =>
    .bind h.expression fun _ => passes_pure _

theorem reads_dictAfter (h : FrugalRules r) (first : Option Expr × Expr) (hSome : 1 + weight ts ≤ k) :
    Reads k Expr.extent (dictAfter r first) ts := by
  refine reads_bind (frugal_skipOp ",").passes fun b rest hb => ?_
  split
  · refine reads_bind (frugal_maybe (frugal_listed r.fuel (passes_dictEntry h))).passes
      fun others rest' hOthers => reads_closed rfl (by omega)
  · exact reads_closed rfl (by omega)

theorem reads_setAfter (h : FrugalRules r) (first : Expr) (hSome : 1 + weight ts ≤ k) :
    Reads k Expr.extent (setAfter r first) ts := by
  refine reads_bind (frugal_skipOp ",").passes fun b rest hb => ?_
  split
  · refine reads_bind (frugal_maybe (frugal_listed r.fuel (frugal_starNamedExpression h))).passes
      fun others rest' hOthers => reads_closed rfl (by omega)
  · exact reads_closed rfl (by omega)

theorem reads_braced (h : FrugalRules r) (hSome : 1 + weight ts ≤ k) :
    Reads k Expr.extent (braced r) ts := by
  refine reads_bind (frugal_skipOp "\x7d").passes fun b rest hb => ?_
  split
  · exact reads_shallow rfl (by omega)
  refine reads_bind (passes_nextIsOp "**") fun b rest hb => ?_
  split
  · exact reads_bind (passes_dictEntry h) fun first rest' hFirst => reads_dictAfter h first (by omega)
  refine reads_bind (frugal_skipOp "*").passes fun b rest hb => ?_
  split
  · refine reads_bind (frugal_bitwiseOr h).passes fun e rest' he => reads_setAfter h _ (by omega)
  refine reads_bind passes_assignmentName fun o rest ho => ?_
  cases o with
  | some name =>
    refine reads_bind h.expression.passes fun e rest he => reads_peek ?_
    split
    · exact reads_bind (passes_clauses h) fun cs rest' hClauses => reads_closed rfl (by omega)
    · exact reads_setAfter h _ (by omega)
  | none =>
    refine reads_bind h.expression.passes fun e rest he => ?_
    refine reads_bind (frugal_skipOp ":").passes fun b rest hb => ?_
    split
    · refine reads_bind h.expression.passes fun value rest hValue => reads_peek ?_
      split
      · exact reads_bind (passes_clauses h) fun cs rest' hClauses => reads_closed rfl (by omega)
      · exact reads_dictAfter h _ (by omega)
    · refine reads_peek ?_
      split
      · exact reads_bind (passes_clauses h) fun cs rest' hClauses => reads_closed rfl (by omega)
      · exact reads_setAfter h _ (by omega)

/-! ### Primaries -/

theorem frugal_atom (h : FrugalRules r) : Frugal Expr.extent (atom r) := by
  intro ts
  -- a token that stands for an expression of its weight
  have hToken : ∀ (t : Kind) (e : Expr), nextKind ts = t → e.extent = t.weight →
      Reads (weight ts) Expr.extent (do skip; return e) ts := by
    intro t e hNext he
    have hDrop := weight_drop ts
    rw [hNext, ← he] at hDrop
    exact reads_skip (reads_pure (Nat.le_of_eq hDrop))
  refine reads_peek ?_
  split
  · exact hToken _ _ ‹_› rfl
  · exact hToken _ _ ‹_› rfl
  · exact hToken _ _ ‹_› rfl
  · exact hToken _ _ ‹_› rfl
  · exact hToken _ _ ‹_› rfl
  · rename_i c hNext
    refine hToken _ _ hNext ?_
    cases c <;> rfl
  · exact hToken _ _ ‹_› rfl
  · exact reads_skip (reads_parenthesized h (Nat.le_of_eq (weight_drop_op ‹_›)))
  · exact reads_skip (reads_listDisplay h (Nat.le_of_eq (weight_drop_op ‹_›)))
  · exact reads_skip (reads_braced h (Nat.le_of_eq (weight_drop_op ‹_›)))
  · exact frugal_textRule ts

theorem reads_trailers (h : FrugalRules r) (line fuel : Nat) {e : Expr} (he : e.extent + weight ts ≤ k) :
    Reads k Expr.extent (trailers r line fuel e) ts := by
  induction fuel generalizing e ts with
  | zero => exact reads_pure he
  | succ fuel ih =>
    have hSome := one_le_extent e
    refine reads_bind (frugal_skipOp ".").passes fun b rest hb => reads_ite ?_ ?_
    · refine reads_bind passes_anyName fun name rest' hName => ih ?_
      rw [Expr.extent] <;> first | omega | nofun
    · refine reads_bind (frugal_skipOp "(").passes fun b rest' hb' => reads_ite ?_ ?_
      · refine reads_bind (passes_callArguments h) fun a mid hArguments => ?_
        refine reads_bind (frugal_op ")").passes fun _ rest'' hClose => ih ?_
        rw [Expr.extent] <;> first | omega | nofun
      · refine reads_bind (frugal_skipOp "[") fun b rest'' hb'' => ?_
        split
        · rename_i hOpen
          rw [if_pos hOpen] at hb''
          refine reads_bind (frugal_slices h) fun index mid hIndex => ?_
          refine reads_bind (frugal_op "]").passes fun _ rest₃ hClose => ih ?_
          rw [Expr.extent]
          omega
        · exact reads_pure (by omega)

theorem frugal_primary (h : FrugalRules r) : Frugal Expr.extent (primary r) := by
  intro ts
  refine reads_bind passes_line fun line rest hLine => ?_
  exact reads_bind (frugal_atom h) fun e rest' he => reads_trailers h line r.fuel (by omega)

theorem frugal_awaitPrimary (h : FrugalRules r) : Frugal Expr.extent (awaitPrimary r) := by
  intro ts
  refine reads_bind (frugal_skipKeyword "await").passes fun b rest hb => reads_ite ?_ ?_
  · exact reads_above (frugal_primary h) (fun _ => rfl) (by omega)
  · exact (frugal_primary h).reads (by omega)

theorem frugal_power (h : FrugalRules r) : Frugal Expr.extent (do
    let base ← awaitPrimary r
    if ← skipOp "**" then return .binary base .pow (← r.factor)
    return base) := by
  intro ts
  refine reads_bind (frugal_awaitPrimary h) fun base rest hBase => ?_
  refine reads_bind (frugal_skipOp "**") fun b rest' hb => ?_
  split
  · rename_i hPower
    rw [if_pos hPower] at hb
    refine reads_bind h.factor fun e rest'' he => reads_pure ?_
    rw [Expr.extent]
    omega
  · exact reads_pure (by omega)

theorem frugal_factorRule (h : FrugalRules r) : Frugal Expr.extent (factorRule r) := by
  intro ts
  refine reads_peek ?_
  split
  · rename_i s _
    cases hSign : unaryOp s with
    | some o =>
      exact reads_bind passes_skip fun _ rest hSkip => reads_above h.factor (fun _ => rfl) (by omega)
    | none => exact frugal_power h ts
  · exact frugal_power h ts

/-! ### Parameters -/

theorem passes_paramRule (annotated : Bool) {hint : Parse Expr} (hHint : Passes hint) :
    Passes (paramRule annotated hint) := by
  refine .bind passes_anyName fun name => ?_
  have hRest (hasHint : Bool) : Passes (do
      if hasHint then return Param.mk name (some (← hint))
      return .mk name none) := .ite (.bind hHint fun _ => passes_pure _) (passes_pure _)
  exact .ite (.bind (frugal_skipOp ":") hRest) (hRest false)

theorem passes_defaultRule (h : FrugalRules r) : Passes (defaultRule r) :=
  .bind (frugal_skipOp "=") fun _ => .ite (.bind h.expression fun _ => passes_pure _) (passes_pure _)

theorem passes_paramItem (h : FrugalRules r) (annotated : Bool) {starredHint : Parse Expr}
    (hHint : Passes starredHint) (l : ParamList) : Passes (paramItem r annotated starredHint l) := by
  refine .bind (frugal_skipOp "/") fun b => .ite ?_ ?_
  · split
    · exact passes_pure _
    · exact passes_fail
  · refine .bind (frugal_skipOp "**") fun b => .ite ?_ ?_
    · refine .ite passes_fail_bind ?_
      exact .bind (passes_paramRule annotated h.expression.passes) fun _ => passes_pure _
    · refine .bind (frugal_skipOp "*") fun b => .ite ?_ ?_
      · refine .ite passes_fail_bind <| .bind (passes_nextIsOp ",") fun b => .ite ?_ ?_
        · exact .bind passes_peekSecond fun t => .ite passes_fail_bind (passes_pure _)
        · exact .bind (passes_paramRule annotated hHint) fun _ => passes_pure _
      · refine .bind (passes_paramRule annotated h.expression.passes) fun p => ?_
        refine .bind (passes_defaultRule h) fun d => ?_
        split
        · exact passes_pure _
        · exact passes_fail

theorem passes_paramItems (h : FrugalRules r) (annotated : Bool) {starredHint : Parse Expr}
    (hHint : Passes starredHint) (ending : String) (fuel : Nat) (l : ParamList) :
    Passes (paramItems r annotated starredHint ending fuel l) := by
  induction fuel generalizing l with
  | zero => exact passes_fail
  | succ fuel ih =>
    exact .bind (passes_nextIsOp ending) fun _ => .ite (passes_pure _) <|
      .bind (passes_paramItem h annotated hHint l) fun _ => .bind (frugal_skipOp ",") fun _ =>
      .ite (ih _) <| .bind (passes_nextIsOp ending) fun _ => .ite (passes_pure _) passes_fail

/-! ### Expressions -/

theorem frugal_lambdaRule (h : FrugalRules r) : Frugal Expr.extent (lambdaRule r) := by
  intro ts
  refine reads_bind (frugal_keyword "lambda").passes fun _ rest hWord => ?_
  refine reads_bind (passes_paramItems h false h.expression.passes ":" r.fuel .empty)
    fun l rest' hParams => ?_
  refine reads_bind (frugal_op ":").passes fun _ rest'' hColon => ?_
  exact reads_above h.expression (fun _ => rfl) (by omega)

theorem frugal_conditionAfter (h : FrugalRules r) (body : Expr) :
    Frugal Expr.extent (conditionAfter r body) := by
  intro ts
  refine reads_bind (frugal_keyword "if").passes fun _ rest hIf => ?_
  refine reads_bind (frugal_disjunction h).passes fun test rest' hTest => ?_
  refine reads_bind (frugal_keyword "else").passes fun _ rest'' hElse => ?_
  exact reads_above h.expression (fun _ => rfl) (by omega)

theorem frugal_expressionRule (h : FrugalRules r) : Frugal Expr.extent (expressionRule r) := by
  intro ts
  refine reads_bind (passes_nextIsKeyword "lambda") fun b rest hb => reads_ite ?_ ?_
  · exact (frugal_lambdaRule h).reads (by omega)
  · refine reads_bind (frugal_disjunction h) fun e rest' he => ?_
    refine reads_bind (passes_nextIsKeyword "if") fun b rest'' hb' => reads_ite ?_ ?_
    · refine reads_bind (frugal_maybe (frugal_conditionAfter h e)) fun o rest₃ ho => ?_
      cases o with
      | none => exact reads_pure (by omega)
      | some c =>
        refine reads_pure ?_
        simp only [Option.map_some, Option.getD_some] at ho
        omega
    · exact reads_pure (by omega)

end Rules

theorem frugalRules (depth : Nat) : FrugalRules (rules depth) := by
  induction depth with
  | zero => exact ⟨fun _ => reads_fail, fun _ => reads_fail⟩
  | succ depth ih => exact ⟨frugal_expressionRule ih, frugal_factorRule ih⟩

theorem frugal_expressionText {r : Rules} (h : FrugalRules r) :
    Frugal Expr.extent (expressionText r) := by
  intro ts
  refine reads_bind (frugal_listed r.fuel h.expression) fun x rest hListed => ?_
  have hSome := one_le_headWorth x
  obtain ⟨es, comma⟩ := x
  refine reads_bind (passes_manyWhile r.fuel _ passes_skip) fun _ rest' hLines => ?_
  refine reads_bind (frugal_expect (w := 0) fun _ _ => Nat.zero_le _) fun _ rest'' hFinish => ?_
  have hWorth : headWorth Expr.extent (es, comma) + weight rest'' ≤ weight ts := by omega
  split
  · exact reads_pure hWorth
  · exact reads_shallow rfl (by omega)

theorem length_unifyLineEnds_le (cs : List Char) : (Text.unifyLineEnds cs).length ≤ cs.length := by
  fun_induction Text.unifyLineEnds cs <;> simp only [List.length_cons, List.length_nil] <;> omega

/-- **Extents.** An expression that is read from a text has no more extent than the text itself has as a
literal. -/
theorem extent_readExpression_le {text : String} {e : Expr} (h : readExpression text = some e) :
    e.extent ≤ text.length + 1 := by
  obtain ⟨ts, hTokens, h⟩ := Option.bind_eq_some_iff.mp h
  obtain ⟨⟨e', rest⟩, hRead, h⟩ := Option.bind_eq_some_iff.mp h
  cases h
  have hWeight := weight_tokens_le hTokens
  have hExtent := frugal_expressionText (frugalRules _) ts e rest hRead
  have hLength : (Text.unifyLineEnds text.toList).length ≤ text.length :=
    length_unifyLineEnds_le text.toList
  omega

end CodeAtlas.Module
