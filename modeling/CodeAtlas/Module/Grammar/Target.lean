import CodeAtlas.Module.Tree

/-!
# Targets

An expression that stands where something is bound is a target if it is a name, an attribute, an
element or a sequence of targets.
-/

namespace CodeAtlas.Module

mutual

/-- The expression as a target of an assignment, with its names marked as bound. -/
def Expr.asTarget : Expr → Option Expr
  | .name id _ => some (.name id true)
  | .attribute value attr => some (.attribute value attr)
  | .subscript value index => some (.subscript value index)
  | .starred (.starred _) => none
  | .starred value => value.asTarget.map .starred
  | .tuple elements => (targets elements).map .tuple
  | .list elements => (targets elements).map .list
  | _ => none

def targets : List Expr → Option (List Expr)
  | [] => some []
  | e :: rest =>
    match e.asTarget, targets rest with
    | some t, some ts => some (t :: ts)
    | _, _ => none

end

/-- The expression as the target of an annotation or of an update. -/
def Expr.asSingleTarget : Expr → Option Expr
  | .name id _ => some (.name id true)
  | .attribute value attr => some (.attribute value attr)
  | .subscript value index => some (.subscript value index)
  | _ => none

mutual

/-- Can the expression be deleted? -/
def Expr.isDeletable : Expr → Bool
  | .name _ _ => true
  | .attribute _ _ => true
  | .subscript _ _ => true
  | .tuple elements => areDeletable elements
  | .list elements => areDeletable elements
  | _ => false

def areDeletable : List Expr → Bool
  | [] => true
  | e :: rest => e.isDeletable && areDeletable rest

end

end CodeAtlas.Module
