import CodeAtlas.Module.Grammar.Basic

/-!
# Grammar of parameters
-/

namespace CodeAtlas.Module

/-- Which parameters may still come. -/
inductive ParamStage where
  | positional
  /-- All further ones are given by keyword. -/
  | keyword
  | closed
  deriving DecidableEq

/-- The parameters read so far. -/
structure ParamList where
  stage : ParamStage
  slashed : Bool
  positionalOnly : List Param
  positional : List Param
  rest : Option Param
  keywordOnly : List Param
  keywordDefaults : List (Option Expr)
  keywordRest : Option Param
  defaults : List Expr

namespace ParamList

def empty : ParamList := ⟨.positional, false, [], [], none, [], [], none, []⟩

def toParams (l : ParamList) : Params :=
  .mk l.positionalOnly l.positional l.rest l.keywordOnly l.keywordDefaults l.keywordRest l.defaults

/-- Adds a parameter with its default. Behind a positional one with a default all have one. -/
def add (l : ParamList) (p : Param) (default : Option Expr) : Option ParamList :=
  match l.stage, default with
  | .positional, some d =>
    some { l with positional := l.positional ++ [p], defaults := l.defaults ++ [d] }
  | .positional, none =>
    if l.defaults.isEmpty then some { l with positional := l.positional ++ [p] } else none
  | .keyword, d =>
    some { l with
      keywordOnly := l.keywordOnly ++ [p], keywordDefaults := l.keywordDefaults ++ [d] }
  | .closed, _ => none

/-- Makes the parameters so far positional only. -/
def slash (l : ParamList) : Option ParamList :=
  if l.stage = .positional && !l.slashed && !l.positional.isEmpty then
    some { l with slashed := true, positionalOnly := l.positional, positional := [] }
  else none

end ParamList

open Parse

/-- A name with its annotation, if annotations are possible. -/
def paramRule (annotated : Bool) (hint : Parse Expr) : Parse Param := do
  let name ← anyName
  let hasHint ← if annotated then skipOp ":" else pure false
  if hasHint then return .mk name (some (← hint))
  return .mk name none

/-- The default of a parameter. -/
def defaultRule (r : Rules) : Parse (Option Expr) := do
  if ← skipOp "=" then return some (← r.expression)
  return none

/-- One parameter or mark. The annotation of a parameter for further arguments can be starred. -/
def paramItem (r : Rules) (annotated : Bool) (starredHint : Parse Expr) (l : ParamList) :
    Parse ParamList := do
  if ← skipOp "/" then
    match l.slash with
    | some l => return l
    | none => fail
  else if ← skipOp "**" then
    if l.stage = .closed then fail
    return { l with stage := .closed, keywordRest := some (← paramRule annotated r.expression) }
  else if ← skipOp "*" then
    if l.stage != .positional then fail
    if ← nextIsOp "," then
      if !(← peekSecond).isName then fail
      return { l with stage := .keyword }
    return { l with stage := .keyword, rest := some (← paramRule annotated starredHint) }
  else
    let p ← paramRule annotated r.expression
    match l.add p (← defaultRule r) with
    | some l => return l
    | none => fail

/-- Parameters with commas between them, up to the given end. -/
def paramItems (r : Rules) (annotated : Bool) (starredHint : Parse Expr) (ending : String) :
    Nat → ParamList → Parse ParamList
  | 0, _ => fail
  | fuel + 1, l => do
    if ← nextIsOp ending then return l
    let l ← paramItem r annotated starredHint l
    if ← skipOp "," then paramItems r annotated starredHint ending fuel l
    else if ← nextIsOp ending then return l
    else fail

end CodeAtlas.Module
