import CodeAtlas.Proofs.Module.ClassNames
import CodeAtlas.Proofs.Module.Extents

/-!
# Annotations

An annotation is read in turns: each turn goes into a part of the annotation, or ends with the type that
is named. Quotes are taken off on the way, and what is read from between them is no larger than the
text, so that the turns come to an end for every annotation.

* `turns_iff`: the turns end with one type, and this is the type of the annotation.
* `annotationRead`: an annotation that says of a dotted name only that nothing may stand for it, in
  whatever way and behind whatever quotes, is of the type of the name alone.

Alternatives group to the left, and a turn goes into the first of two that is not nothing itself: the
text `None | None | Engine` does not put one alternative around `None | Engine`, and names no type.
-/

namespace CodeAtlas.Module

variable {t : Table} {s : Source} {e e' base : Expr} {o : Option String}

/-! ## Turns -/

/-- The expression stands for the option of something. -/
def Expr.IsOptional (e : Expr) : Prop := e.dotted? = some "Optional" ∨ e.dotted? = some "typing.Optional"

instance (e : Expr) : Decidable e.IsOptional :=
  inferInstanceAs (Decidable (e.dotted? = some "Optional" ∨ e.dotted? = some "typing.Optional"))

/-- One turn: the type that is named, or the part of the annotation that is next. -/
def turn (t : Table) (s : Source) (e : Expr) : Option String ⊕ Expr :=
  match unquote readExpression e with
  | some (.binary left .bitOr right) =>
    if !left.isNone then .inr left else if !right.isNone then .inr right else .inl none
  | some (.subscript value index) => if value.IsOptional then .inr index else .inl none
  | some e => .inl (e.dotted?.bind (namedType t s))
  | none => .inl none

/-- The turns from an annotation end with a type, or with none. -/
inductive Turns (t : Table) (s : Source) : Expr → Option String → Prop
  | ends {e : Expr} {o : Option String} (h : turn t s e = .inl o) : Turns t s e o
  | goes {e e' : Expr} {o : Option String} (h : turn t s e = .inr e') (hNext : Turns t s e' o) :
    Turns t s e o

theorem typeNameWithin_succ (depth : Nat) (e : Expr) :
    typeNameWithin readExpression t s (depth + 1) e =
      (turn t s e).elim id (typeNameWithin readExpression t s depth) := by
  rw [typeNameWithin, turn]
  cases unquote readExpression e with
  | none => rfl
  | some part =>
    cases part with
    | binary left op right =>
      cases op with
      | bitOr =>
        dsimp only
        split
        · rfl
        · split <;> rfl
      | _ => rfl
    | subscript value index =>
      dsimp only
      by_cases hOptional : value.IsOptional
      · rw [if_pos hOptional]
        obtain hName | hName := hOptional <;> simp only [hName] <;> rfl
      · rw [if_neg hOptional]
        obtain ⟨hShort, hLong⟩ := not_or.mp hOptional
        split
        · exact absurd ‹_› hShort
        · exact absurd ‹_› hLong
        · rfl
    | _ => simp only [Sum.elim_inl, id_eq]

/-- What quotes are taken off is no larger than the text between them. -/
theorem extent_unquote_le (h : unquote readExpression e = some e') : e'.extent ≤ e.extent := by
  unfold unquote at h
  split at h
  · exact extent_readExpression_le h
  · cases h
    exact Nat.le_refl _

/-- Each turn goes into something smaller. -/
theorem extent_lt_of_turn (h : turn t s e = .inr e') : e'.extent < e.extent := by
  unfold turn at h
  split at h
  · rename_i left right hUnion
    have hWhole := extent_unquote_le hUnion
    rw [Expr.extent] at hWhole
    split at h
    · cases h
      omega
    · split at h
      · cases h
        omega
      · cases h
  · rename_i value index hPart
    have hWhole := extent_unquote_le hPart
    rw [Expr.extent] at hWhole
    split at h
    · cases h
      omega
    · cases h
  · cases h
  · cases h

theorem turns_typeNameWithin {depth : Nat} (h : e.extent ≤ depth) :
    Turns t s e (typeNameWithin readExpression t s depth e) := by
  induction depth generalizing e with
  | zero => exact absurd (one_le_extent e) (by omega)
  | succ depth ih =>
    rw [typeNameWithin_succ]
    cases hTurn : turn t s e with
    | inl o => exact .ends hTurn
    | inr e' =>
      have hLess := extent_lt_of_turn hTurn
      exact .goes hTurn (ih (by omega))

theorem Turns.functional {o' : Option String} (h : Turns t s e o) (h' : Turns t s e o') : o = o' := by
  induction h with
  | ends h =>
    cases h' with
    | ends h' => exact Sum.inl.inj (h.symm.trans h')
    | goes h' => cases h.symm.trans h'
  | goes h _ ih =>
    cases h' with
    | ends h' => cases h.symm.trans h'
    | goes h' hNext =>
      cases h.symm.trans h'
      exact ih hNext

/-- For every annotation the turns come to an end, with its type alone. -/
theorem turns_iff : Turns t s e o ↔ typeName t s e = o := by
  have hEnds : Turns t s e (typeName t s e) := turns_typeNameWithin (Nat.le_refl _)
  constructor
  · exact hEnds.functional
  · rintro rfl
    exact hEnds

/-! ## Annotations over a name -/

/-- The expression is a text. -/
def Expr.IsText (e : Expr) : Prop := ∃ text marked, e = .constant (.text text marked)

/-- Annotations that say of a type that nothing may stand for it, in any ways one around another, with
quotes around any of them that has none. -/
inductive Annotates (base : Expr) : Expr → Prop
  | bare : Annotates base base
  | optional {value e : Expr} (h : value.IsOptional) (he : Annotates base e) :
    Annotates base (.subscript value e)
  | orNone {e : Expr} (he : Annotates base e) : Annotates base (.binary e .bitOr (.constant .none))
  | noneOr {e : Expr} (he : Annotates base e) : Annotates base (.binary (.constant .none) .bitOr e)
  | quoted {text : String} {marked : Bool} {e : Expr} (h : readExpression text = some e)
    (hOnce : ¬e.IsText) (he : Annotates base e) : Annotates base (.constant (.text text marked))

theorem turn_of_dotted {d : String} (h : e.dotted? = some d) : turn t s e = .inl (namedType t s d) := by
  have hWhole : turn t s e = .inl (e.dotted?.bind (namedType t s)) := by
    obtain ⟨parts, hParts, -⟩ := Option.map_eq_some_iff.mp h
    obtain ⟨id, bound, rfl, -⟩ | ⟨value, attr, -, rfl, -⟩ := dottedParts_cases hParts
    · rfl
    · rfl
  rw [hWhole, h, Option.bind_some]

theorem turn_optional {value index : Expr} (h : value.IsOptional) :
    turn t s (.subscript value index) = .inr index := by
  rw [turn, unquote]
  · exact if_pos h
  · nofun

theorem turn_orNone (h : e.isNone = false) : turn t s (.binary e .bitOr (.constant .none)) = .inr e := by
  simp [turn, unquote, h]

theorem turn_noneOr (h : e.isNone = false) : turn t s (.binary (.constant .none) .bitOr e) = .inr e := by
  have hNone : (Expr.constant .none).isNone = true := rfl
  simp [turn, unquote, hNone, h]

theorem turn_quoted {text : String} {marked : Bool} (h : readExpression text = some e)
    (hOnce : ¬e.IsText) : turn t s (.constant (.text text marked)) = turn t s e := by
  have hPlain : unquote readExpression e = some e := by
    unfold unquote
    split
    · exact absurd ⟨_, _, rfl⟩ hOnce
    · rfl
  rw [turn, turn, unquote, h, hPlain]

theorem isNone_of_dotted {d : String} (h : e.dotted? = some d) : e.isNone = false := by
  unfold Expr.isNone
  split
  · cases h
  · rfl

/-- An annotation over a name is not nothing itself: what stands next to nothing is taken. -/
theorem Annotates.isNone_eq_false {d : String} (hBase : base.dotted? = some d) (h : Annotates base e) :
    e.isNone = false := by
  cases h with
  | bare => exact isNone_of_dotted hBase
  | optional | orNone | noneOr | quoted => rfl

/-- The turns go inwards from one way of saying it to the next. -/
theorem Annotates.turns {d : String} (hBase : base.dotted? = some d) (h : Annotates base e) :
    Turns t s e (namedType t s d) := by
  induction h with
  | bare => exact .ends (turn_of_dotted hBase)
  | optional h _ ih => exact .goes (turn_optional h) ih
  | orNone he ih => exact .goes (turn_orNone (he.isNone_eq_false hBase)) ih
  | noneOr he ih => exact .goes (turn_noneOr (he.isNone_eq_false hBase)) ih
  | quoted h hOnce _ ih =>
    cases ih with
    | ends hEnd => exact .ends ((turn_quoted h hOnce).trans hEnd)
    | goes hPart hNext => exact .goes ((turn_quoted h hOnce).trans hPart) hNext

/-- **Annotations.** The turns from an annotation over a dotted name come to an end, and its type is
that of the name. -/
theorem annotationRead {d : String} (hBase : base.dotted? = some d) (h : Annotates base e) :
    Turns t s e (typeName t s base) ∧ typeName t s e = typeName t s base := by
  have hTurns : Turns t s e (typeName t s base) := by
    rw [typeName_of_dotted hBase]
    exact h.turns hBase
  exact ⟨hTurns, turns_iff.mp hTurns⟩

/-! ### An option in quotes -/

def engineName : Expr := .attribute (.name "pkg" false) "Engine"

/-- The option of the name in quotes. -/
def engineOption : Expr := .subscript (.name "Optional" false) (.constant (.text "pkg.Engine" false))

def engineAnnotation : Expr :=
  .binary (.constant .none) .bitOr (.constant (.text "Optional['pkg.Engine']" false))

/-- A module that sees the package. -/
def engineUser : Source := sourceOf 3 "app" "src/app.py" [.imports [⟨"pkg", none⟩]]

set_option maxRecDepth 2000 in
/-- Nothing, or in quotes the option of a name that is in quotes itself. -/
theorem annotationRead_engineAnnotation : engineName.dotted? = some "pkg.Engine" ∧
    Annotates engineName engineAnnotation ∧
    Turns engineTable engineUser engineAnnotation (typeName engineTable engineUser engineName) ∧
    typeName engineTable engineUser engineAnnotation = some "pkg.core.Engine" := by
  have hDotted : engineName.dotted? = some "pkg.Engine" := by decide
  have hInner : readExpression "pkg.Engine" = some engineName := by cbv
  have hOuter : readExpression "Optional['pkg.Engine']" = some engineOption := by cbv
  have hName : ¬engineName.IsText := by
    rintro ⟨_, _, hText⟩
    cases hText
  have hOption : ¬engineOption.IsText := by
    rintro ⟨_, _, hText⟩
    cases hText
  have hAnnotates : Annotates engineName engineAnnotation :=
    .noneOr (.quoted hOuter hOption (.optional (.inl rfl) (.quoted hInner hName .bare)))
  have hQualified : engineUser.qualify "pkg.Engine" = "pkg.Engine" := by cbv
  have hFound : (findClass engineTable "pkg.Engine").map (·.fullName) = some "pkg.core.Engine" := by cbv
  have hBase : typeName engineTable engineUser engineName = some "pkg.core.Engine" := by
    obtain ⟨c, hClass, hFull⟩ := Option.map_eq_some_iff.mp hFound
    simp only [typeName_of_dotted hDotted, namedType, hQualified, hClass, hFull]
  obtain ⟨hTurns, hSame⟩ := annotationRead (t := engineTable) (s := engineUser) hDotted hAnnotates
  exact ⟨hDotted, hAnnotates, hTurns, hSame.trans hBase⟩

end CodeAtlas.Module
