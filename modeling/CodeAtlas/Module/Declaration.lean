import CodeAtlas.Assoc
import CodeAtlas.Module.Walk
import CodeAtlas.Text.Split

/-!
# Declarations of a module

What is known of a module's functions, classes and imports. Functions and classes have numbers in
their module, by which scopes refer to them: a name can be declared more than once, and a later class
takes the name of an earlier one without undoing it.
-/

namespace CodeAtlas.Module

/-! ## Dotted names -/

/-- The parts of a name with attributes, last first. -/
def Expr.dottedParts : Expr → Option (List String)
  | .name id _ => some [id]
  | .attribute value attr => value.dottedParts.map (attr :: ·)
  | _ => none

/-- A name with attributes as text. -/
def Expr.dotted? (e : Expr) : Option String :=
  e.dottedParts.map fun parts => Text.join "." parts.reverse

/-! ## Records -/

/-- The name of the file that makes a directory a package. -/
def packageFile : String := "__init__.py"

/-- A function or method with the numbers of arguments that it takes. -/
structure Function where
  /-- Its place among the declarations of its module. -/
  number : Nat
  /-- The number of the class that it stands in. -/
  owner : Option Nat
  line : Nat
  name : String
  params : Params
  body : List Stmt
  /-- The whole declaration. -/
  node : Node
  paramCount : Nat
  minArgs : Nat
  maxArgs : Option Nat
  isConstructor : Bool
  isStatic : Bool
  /-- The declaration only gives one of several signatures. -/
  isStub : Bool

/-- Does the function take a number of arguments? -/
def Function.accepts (f : Function) (argCount : Nat) : Bool :=
  f.minArgs ≤ argCount && f.maxArgs.all (argCount ≤ ·)

/-- The parameters that can be given by position. -/
def Params.byPosition (ps : Params) : List Param := ps.positionalOnly ++ ps.positional

/-- The parameters with a name of their own. -/
def Params.plain (ps : Params) : List Param := ps.byPosition ++ ps.keywordOnly

/-- The name that a method has for the object that it belongs to. -/
def Function.selfName (f : Function) : Option String :=
  if f.owner.isNone || f.isStatic then none else f.params.byPosition.head?.map (·.name)

structure Class where
  number : Nat
  /-- The number of the class around it. -/
  outer : Option Nat
  line : Nat
  /-- Its name behind the names of the classes around it. -/
  path : String
  name : String
  bases : List Expr
  decorators : List Expr
  body : List Stmt
  methods : List (String × List Nat)
  nested : List (String × Nat)
  /-- What is known of the types of its attributes. -/
  attributes : List (String × Expr)

/-- What an imported name stands for: a module, or a member of one. -/
structure Import where
  source : String
  member : Option String
  deriving DecidableEq, Repr

/-- The dotted name of what is imported. -/
def Import.target (i : Import) : String :=
  match i.member with
  | some m => i.source ++ "." ++ m
  | none => i.source

/-- A module with what it declares. -/
structure Source where
  number : Nat
  name : String
  path : String
  body : List Stmt
  declarations : List Function
  functions : List (String × List Nat)
  allClasses : List Class
  classes : List (String × Nat)
  imports : List (String × Import)
  /-- Functions that only give a signature, each with the function that runs. -/
  links : List (Nat × Nat)
  deriving Inhabited

namespace Source

def function? (s : Source) (n : Nat) : Option Function := s.declarations[n]?

def class? (s : Source) (n : Nat) : Option Class := s.allClasses[n]?

/-- Does a function have signatures of its own, under which it is declared? -/
def hasStubs (s : Source) (n : Nat) : Bool := s.links.any (·.2 = n)

/-- The full name of a class. -/
def className (s : Source) (c : Class) : String := s.name ++ "." ++ c.path

/-- The name of the type that a function belongs to: its class, or else its module. -/
def typeName (s : Source) (f : Function) : String :=
  match f.owner.bind s.class? with
  | some c => s.className c
  | none => s.name

/-- The functions that calls see: signatures in place of what they lead to. -/
def visible (s : Source) : List Function := s.declarations.filter fun f => !s.hasStubs f.number

end Source

/-- A function, by the number of its module and its own. -/
structure FunctionRef where
  source : Nat
  function : Nat
  deriving DecidableEq, Repr

end CodeAtlas.Module
