import CodeAtlas.Assoc
import CodeAtlas.Compilation.Tree
import CodeAtlas.Text.Blank
import CodeAtlas.Text.Split

/-!
# Declarations of a compilation unit

What is known of a unit's types, their fields, methods and constructors, and of its imports. Types
and methods have numbers in their unit, by which scopes refer to them.
-/

namespace CodeAtlas.Compilation

/-! ## Texts of types -/

/-- The brackets of an array. -/
def arrayMark : String := "[]"

/-- How often a part of two characters stands in a text. -/
def countPairs (a b : Char) : List Char → Nat
  | x :: y :: rest => if x = a && y = b then countPairs a b rest + 1 else countPairs a b (y :: rest)
  | _ => 0

/-- The brackets that stand anywhere in the text of a type. -/
def bracketsOf (text : String) : String :=
  String.join (List.replicate (countPairs '[' ']' text.toList) arrayMark)

/-- The text of a type without its arguments. The brackets behind them are kept. -/
def baseType (text : String) : String :=
  let base := Text.strip (Text.beforeFirst '<' text)
  if Text.endsWith base arrayMark then base else base ++ bracketsOf text

/-! ## Records -/

/-- A method or constructor. -/
structure Callable where
  /-- Its place among the declarations of its unit. -/
  number : Nat
  /-- The number of the type that it stands in. -/
  owner : Nat
  name : String
  paramTypes : List String
  isVariadic : Bool
  isConstructor : Bool
  isStatic : Bool
  line : Nat
  node : Node

namespace Callable

def paramCount (c : Callable) : Nat := c.paramTypes.length

/-- Does the method take a number of arguments? -/
def accepts (c : Callable) (argCount : Nat) : Bool :=
  if c.isVariadic then c.paramCount ≤ argCount + 1 else argCount = c.paramCount

end Callable

structure TypeDecl where
  number : Nat
  /-- The number of the type around it. -/
  outer : Option Nat
  name : String
  /-- Its name behind the names of the types around it. -/
  path : String
  line : Nat
  node : Node
  superclass : Option String
  interfaces : List String
  methods : List (String × List Nat)
  constructors : List Nat
  /-- The types of its fields. -/
  fields : List (String × String)
  nested : List (String × Nat)

/-- The types that a type extends, the class first. -/
def TypeDecl.supers (t : TypeDecl) : List String := t.superclass.toList ++ t.interfaces

/-- A compilation unit with what it declares. -/
structure Source where
  number : Nat
  path : String
  tree : Node
  package : String
  /-- The imported types by their names, each with its full name. -/
  imports : List (String × String)
  /-- The packages and types of which all members are imported. -/
  wildcards : List String
  allTypes : List TypeDecl
  types : List (String × Nat)
  declarations : List Callable

namespace Source

def type? (s : Source) (n : Nat) : Option TypeDecl := s.allTypes[n]?

def callable? (s : Source) (n : Nat) : Option Callable := s.declarations[n]?

/-- A name in the package of the unit. -/
def inPackage (s : Source) (name : String) : String :=
  if s.package = "" then name else s.package ++ "." ++ name

/-- The full name of a type. -/
def fullName (s : Source) (t : TypeDecl) : String := s.inPackage t.path

/-- The full name of the type that a method stands in. -/
def ownerName (s : Source) (c : Callable) : String :=
  ((s.type? c.owner).map s.fullName).getD ""

/-- The types under some names, each before those inside it. The number bounds their depth. -/
def typesUnder (s : Source) : Nat → List (String × Nat) → List TypeDecl
  | 0, _ => []
  | depth + 1, names => names.flatMap fun (_, n) =>
    match s.type? n with
    | some t => t :: typesUnder s depth t.nested
    | none => []

/-- The types that can be reached by name, each before those inside it. -/
def heldTypes (s : Source) : List TypeDecl := s.typesUnder (s.allTypes.length + 1) s.types

end Source

/-- A method or constructor, by the number of its unit and its own. -/
structure CallableRef where
  source : Nat
  callable : Nat
  deriving DecidableEq, Repr

end CodeAtlas.Compilation
