import CodeAtlas.Compilation.Token

/-!
# Trees of compilation units

A tree holds every token of a unit, so a part of it has the text that it was read from. A node says
what it is, and which part it plays in the node above it. Nodes that only matter by what is inside
them have no kind of their own.

Comments stand before tokens. `Node.members` shows them among the parts of a node: a comment belongs
to the smallest node that reaches over it.
-/

namespace CodeAtlas.Compilation

/-- What a node is. -/
inductive Kind where
  -- Single tokens
  | mark
  | name
  | literal
  | text
  | thisWord
  | superWord
  | comment
  -- Types
  | type
  | typeList
  | modifiers
  | annotated
  | element
  | elementList
  -- Declarations
  | package
  | imported
  | typeDeclaration
  | method
  | constructor
  | fields
  | enumMembers
  | parameter
  | variadic
  | declarator
  -- Statements
  | variables
  | forEach
  | resource
  -- Expressions
  | call
  | creation
  | constructorCall
  | access
  | arguments
  /-- Anything else. -/
  | other
  deriving DecidableEq, Repr

/-- The part that a node plays in the node above it. -/
inductive Role where
  | plain
  | name
  | type
  | superclass
  | interfaces
  | body
  | parameters
  | arguments
  | receiver
  | target
  | declarator
  | value
  | key
  deriving DecidableEq, Repr

inductive Node where
  | leaf (role : Role) (kind : Kind) (token : Token)
  | branch (role : Role) (kind : Kind) (children : List Node)

namespace Node

def role : Node → Role
  | leaf r _ _ => r
  | branch r _ _ => r

def kind : Node → Kind
  | leaf _ k _ => k
  | branch _ k _ => k

def children : Node → List Node
  | leaf _ _ _ => []
  | branch _ _ cs => cs

mutual

/-- Trees can be compared. -/
def decEq : (m n : Node) → Decidable (m = n)
  | leaf r k t, leaf r' k' t' => decidable_of_iff (r = r' ∧ k = k' ∧ t = t') (by rw [leaf.injEq])
  | branch r k ms, branch r' k' ns =>
    haveI := decEqAll ms ns
    decidable_of_iff (r = r' ∧ k = k' ∧ ms = ns) (by rw [branch.injEq])
  | leaf .., branch .. | branch .., leaf .. => isFalse nofun

def decEqAll : (ms ns : List Node) → Decidable (ms = ns)
  | [], [] => isTrue rfl
  | m :: ms, n :: ns =>
    haveI := decEq m n
    haveI := decEqAll ms ns
    decidable_of_iff (m = n ∧ ms = ns) (by rw [List.cons.injEq])
  | [], _ :: _ | _ :: _, [] => isFalse nofun

end

instance : DecidableEq Node := decEq

/-- The node in another part. -/
def withRole (r : Role) : Node → Node
  | leaf _ k t => leaf r k t
  | branch _ k cs => branch r k cs

/-- A node of a kind over some others. -/
def node (k : Kind) (children : List Node) : Node := branch .plain k children

/-- The first node below that plays a part. -/
def child? (n : Node) (r : Role) : Option Node := n.children.find? (·.role = r)

/-- The nodes below that play a part. -/
def parts (n : Node) (r : Role) : List Node := n.children.filter (·.role = r)

/-! ## Texts -/

mutual

/-- The tokens of a node. -/
def tokens : Node → List Token
  | leaf _ _ t => [t]
  | branch _ _ cs => tokensOf cs

def tokensOf : List Node → List Token
  | [] => []
  | n :: rest => n.tokens ++ tokensOf rest

end

mutual

/-- The first token of a node. -/
def first? : Node → Option Token
  | leaf _ _ t => some t
  | branch _ _ cs => firstOf? cs

def firstOf? : List Node → Option Token
  | [] => none
  | n :: rest => n.first?.or (firstOf? rest)

end

end Node

/-- The text of some tokens, without what stands before the first. -/
def textOf : List Token → String
  | [] => ""
  | t :: rest => rest.foldl (fun text t => text ++ t.full) t.text

namespace Node

/-- The text that the node was read from. -/
def text (n : Node) : String := textOf n.tokens

/-- The text of the part of a node that plays a role. -/
def partText (n : Node) (r : Role) : String := ((n.child? r).map (·.text)).getD ""

/-- The line on which the node begins. -/
def line (n : Node) : Nat := (n.first?.map (·.line)).getD 0

/-! ## Comments -/

/-- The comments before a node. -/
def commentsBefore (n : Node) : List Node :=
  match n.first? with
  | some t => t.comments.map fun c => leaf .plain .comment ⟨.mark, c, "", [], t.line⟩
  | none => []

/-- The parts of a node that are not just marks, and the comments between its parts. -/
def members (n : Node) : List Node :=
  match n.children with
  | [] => []
  | c :: rest => (c :: rest.flatMap fun d => d.commentsBefore ++ [d]).filter (·.kind != .mark)

/-! ## Walks -/

mutual

/-- A node and all below it, each before what is below it. -/
def walk : Node → List Node
  | leaf r k t => [leaf r k t]
  | branch r k cs => branch r k cs :: walkAll cs

def walkAll : List Node → List Node
  | [] => []
  | n :: rest => n.walk ++ walkAll rest

end

end Node

end CodeAtlas.Compilation
