import CodeAtlas.Module.Declaration

/-!
# Names inside a function

The names that a function binds anywhere in it, which hide those of its module, and what is known of
the types of its variables.
-/

namespace CodeAtlas.Module

/-! ## Bound names -/

/-- The name that a node binds: an assigned one or that of a function. -/
def Node.bound? : Node → Option String
  | .expr (.name id true) => some id
  | .stmt (.function _ name _ _ _ _) => some name
  | _ => none

/-- All parameters. -/
def Params.all (ps : Params) : List Param := ps.plain ++ ps.rest.toList ++ ps.keywordRest.toList

/-- The names that a function binds, its own name not among them. -/
def Function.locals (f : Function) : List String :=
  f.params.all.map (·.name) ++ (f.node.walk.drop 1).filterMap Node.bound?

/-! ## Types of variables -/

/-- A variable that a managed value is bound to, with the function that made the value. -/
def WithItem.made? (i : WithItem) : Option (String × Expr) :=
  match i.target, i.value with
  | some (.name id _), .call _ func _ _ => some (id, func)
  | _, _ => none

/-- Notes what a node tells about the type of a variable: an annotation replaces what is known, a
call counts if nothing is. -/
def noteVariable (found : List (String × Expr)) : Node → List (String × Expr)
  | .stmt (.annotated (.name id _) hint _) => Assoc.put id hint found
  | .stmt (.assign _ [.name id _] (.call _ func _ _)) => Assoc.putNew id func found
  | .stmt (.managed items _) =>
    (items.filterMap WithItem.made?).foldl (fun found v => Assoc.putNew v.1 v.2 found) found
  | _ => found

/-- What is known of the types of a function's variables: annotations, and functions that made
their values. -/
def Function.variableTypes (f : Function) : List (String × Expr) :=
  let params := f.params.plain.foldl (fun found p =>
    match p.hint with
    | some a => Assoc.put p.name a found
    | none => found) []
  f.node.walk.foldl noteVariable params

end CodeAtlas.Module
