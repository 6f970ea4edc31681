import CodeAtlas.Compilation.Declaration
import CodeAtlas.Method
import CodeAtlas.Text.Case

/-!
# What calls in compilation units refer to

What a call is made on has a type if a declaration gives it one: that of a parameter, a variable or a
field. The method is looked up in that type and those that it extends; of several the number of
arguments chooses. A type outside the units is known by its name only.
-/

namespace CodeAtlas.Compilation

/-! ## Types -/

/-- A type with the unit that it stands in. -/
structure TypeRef where
  source : Source
  decl : TypeDecl

namespace TypeRef

/-- Are these the same type? -/
def same (a b : TypeRef) : Bool :=
  a.source.number = b.source.number && a.decl.number = b.decl.number

def fullName (t : TypeRef) : String := t.source.fullName t.decl

/-- The type of the same unit with a number. -/
def sibling? (t : TypeRef) (n : Nat) : Option TypeRef := (t.source.type? n).map (⟨t.source, ·⟩)

/-- The type inside this one with a name. -/
def nested? (t : TypeRef) (name : String) : Option TypeRef :=
  (t.decl.nested.lookup name).bind t.sibling?

/-- The type inside this one along some names. -/
def descend? : TypeRef → List String → Option TypeRef
  | t, [] => some t
  | t, name :: rest => (t.nested? name).bind (descend? · rest)

/-- The type and those around it, innermost first. The number bounds them. -/
def aroundWithin : Nat → TypeRef → List TypeRef
  | 0, _ => []
  | depth + 1, t => t :: (((t.decl.outer.bind t.sibling?).map (aroundWithin depth)).getD [])

/-- The type and those around it, innermost first. -/
def around (t : TypeRef) : List TypeRef := t.aroundWithin (t.source.allTypes.length + 1)

end TypeRef

/-- The types of all units by their full names. -/
structure Table where
  sources : List Source
  types : List (String × TypeRef)

/-- The types of a unit that can be reached, with their full names. -/
def Source.entries (s : Source) : List (String × TypeRef) :=
  s.heldTypes.map fun t => (s.fullName t, ⟨s, t⟩)

/-- Of several types with one full name the first counts. -/
def Table.ofSources (sources : List Source) : Table :=
  ⟨sources, sources.flatMap Source.entries⟩

/-- What the name of a type stands for. -/
inductive Found where
  | declared (t : TypeRef)
  /-- A type outside the units. -/
  | outside (name : String)

namespace Found

def declared? : Found → Option TypeRef
  | declared t => some t
  | outside _ => none

def outside? : Found → Option String
  | declared _ => none
  | outside name => some name

end Found

/-! ## Names of types -/

/-- The type that a name of one part stands for in the types around a place. -/
def scopedType (context : TypeRef) (name : String) : Option TypeRef :=
  context.around.findSome? fun t => if t.decl.name = name then some t else t.nested? name

/-- The type that an import of all members gives a name. -/
def wildcardType (table : Table) (s : Source) (name : String) : Option TypeRef :=
  s.wildcards.findSome? fun w => table.types.lookup (w ++ "." ++ name)

/-- A full name, and the type that has it if there is one. -/
def named (table : Table) (fullName : String) : Found :=
  match table.types.lookup fullName with
  | some t => .declared t
  | none => .outside fullName

/-- What a name of one part stands for: in the types around, in the unit, among the imports, in the
package. -/
def findSimple (table : Table) (context : TypeRef) (name : String) : Found :=
  let s := context.source
  match (scopedType context name).or ((s.types.lookup name).bind context.sibling?) with
  | some t => .declared t
  | none =>
    match s.imports.lookup name with
    | some fullName => named table fullName
    | none =>
      match (table.types.lookup (s.inPackage name)).or (wildcardType table s name) with
      | some t => .declared t
      | none => .outside name

/-- A type without its arguments and one pair of brackets. -/
def elementType (text : String) : String := Text.withoutEnding (baseType text) arrayMark

/-- What the text of a type stands for. -/
def findType (table : Table) (context : TypeRef) (text : String) : Option Found :=
  if text = "" then none
  else
    let name := elementType text
    match Text.cutFirst '.' name with
    | none => some (findSimple table context name)
    | some (head, rest) =>
      match table.types.lookup name with
      | some t => some (.declared t)
      | none =>
        let start := if head = "" then none
          else (findSimple table context (elementType head)).declared?
        match start.bind (·.descend? (Text.splitAt '.' rest)) with
        | some t => some (.declared t)
        | none => some (.outside name)

/-! ## Hierarchies -/

/-- The declared types that a type extends. -/
def superTypes (table : Table) (t : TypeRef) : List TypeRef :=
  t.decl.supers.filterMap fun name => (findType table t name).bind (·.declared?)

/-- How many steps a walk through all types can take. -/
def walkBound (table : Table) (start : TypeRef) : Nat :=
  let all := table.sources.flatMap (·.allTypes)
  (all.flatMap (·.supers)).length + start.decl.supers.length + 2

/-- The types of a stack and all that they extend, each before those and only once. -/
def hierarchyFrom (table : Table) : Nat → List TypeRef → List TypeRef → List TypeRef
  | 0, _, _ => []
  | _, _, [] => []
  | fuel + 1, seen, t :: stack =>
    if seen.any t.same then hierarchyFrom table fuel seen stack
    else t :: hierarchyFrom table fuel (t :: seen) (superTypes table t ++ stack)

/-- A type and all that it extends, each before those, from left to right. -/
def hierarchy (table : Table) (t : TypeRef) : List TypeRef :=
  hierarchyFrom table (walkBound table t) [] [t]

/-- The methods of a type under a name. -/
def TypeRef.methods (t : TypeRef) (name : String) : List Callable :=
  ((t.decl.methods.lookup name).getD []).filterMap t.source.callable?

def TypeRef.constructors (t : TypeRef) : List Callable :=
  t.decl.constructors.filterMap t.source.callable?

/-- The first method that takes a number of arguments, or else the first. -/
def pick (argCount : Nat) (cs : List Callable) : Option Callable :=
  (cs.find? (·.accepts argCount)).or cs.head?

/-- The method that a name leads to in a type and all that it extends, with its unit. -/
def findMethod (table : Table) (t : TypeRef) (name : String) (argCount : Nat) :
    Option (Source × Callable) :=
  ((hierarchy table t).find? fun u => !(u.methods name).isEmpty).bind fun u =>
    (pick argCount (u.methods name)).map fun c => (u.source, c)

/-- The first type outside the units that a type extends. -/
def outsideSuper (table : Table) (t : TypeRef) : Option String :=
  (hierarchy table t).findSome? fun u =>
    u.decl.supers.findSome? fun name => (findType table u name).bind (·.outside?)

/-- The type that a field has by its declaration in a type, in those that it extends, or in those
around it. -/
def fieldType (table : Table) (t : TypeRef) (name : String) : Option String :=
  t.around.findSome? fun u => (hierarchy table u).findSome? (·.decl.fields.lookup name)

/-! ## Targets -/

/-- What a call can refer to. -/
abbrev Target := Method (Option CallableRef)

/-- A declared method as a target. -/
def targetOf (s : Source) (c : Callable) : Target where
  typeName := s.ownerName c
  name := c.name
  arity := c.paramCount
  isConstructor := c.isConstructor
  inSource := true
  file := some s.path
  line := some c.line
  handle := some ⟨s.number, c.number⟩

/-- A method of a type outside the units. -/
def outsideMethod (typeName name : String) (argCount : Nat) : Target :=
  ⟨typeName, name, argCount, false, false, none, none, none⟩

/-- A constructor of a type outside the units. -/
def outsideConstructor (typeName : String) (argCount : Nat) : Target :=
  ⟨typeName, Text.afterLast '.' typeName, argCount, true, false, none, none, none⟩

/-- A method of a type or of what it extends. -/
def methodOf (table : Table) (t : TypeRef) (name : String) (argCount : Nat) : Option Target :=
  match findMethod table t name argCount with
  | some (s, c) => some (targetOf s c)
  | none => (outsideSuper table t).map fun super => outsideMethod super name argCount

/-- A method of the type around a call, or of those around that. -/
def enclosingMethod (table : Table) (t : TypeRef) (name : String) (argCount : Nat) :
    Option Target :=
  match t.around.findSome? fun u => findMethod table u name argCount with
  | some (s, c) => some (targetOf s c)
  | none => (outsideSuper table t).map fun super => outsideMethod super name argCount

/-- A constructor of a type; one that declares none has one without parameters. -/
def constructorOf (t : TypeRef) (argCount : Nat) : Target :=
  match pick argCount t.constructors with
  | some c => targetOf t.source c
  | none =>
    ⟨t.fullName, t.decl.name, 0, true, true, some t.source.path, some t.decl.line, none⟩

/-- A method of what a name stands for. -/
def methodAt (table : Table) (name : String) (argCount : Nat) : Found → Option Target
  | .declared t => methodOf table t name argCount
  | .outside typeName => some (outsideMethod typeName name argCount)

/-- A constructor of what a name stands for. -/
def constructorAt (argCount : Nat) : Found → Target
  | .declared t => constructorOf t argCount
  | .outside typeName => outsideConstructor typeName argCount

/-! ## Variables -/

/-- The type of the new object that a variable begins with. -/
def madeType (declarator : Node) : Option String :=
  match declarator.child? .value with
  | some value => if value.kind = .creation then (value.child? .type).map (baseType ·.text) else none
  | none => none

/-- The variables that a node declares, with their types. -/
def declaredVariables (n : Node) : List (String × String) :=
  match n.kind, n.child? .type with
  | .variables, some type =>
    let written := baseType type.text
    (n.parts .declarator).filterMap fun d =>
      ((if written = "var" then madeType d else some written).filter (· != "")).map
        (d.partText .name, ·)
  | .parameter, some type | .forEach, some type | .resource, some type =>
    [(n.partText .name, baseType type.text)]
  | _, _ => []

/-- The types of the variables of a method; the first declaration of a name counts. -/
def Callable.variables (c : Callable) : List (String × String) :=
  c.node.walk.flatMap declaredVariables

/-! ## Calls -/

/-- How many arguments a call has. A comment among them counts as one. -/
def Node.argCount (n : Node) : Nat := ((n.child? .arguments).map (·.members.length)).getD 0

/-- A method with the unit that it stands in. -/
structure Caller where
  source : Source
  callable : Callable

namespace Caller

/-- The type around the method. -/
def type? (c : Caller) : Option TypeRef := (c.source.type? c.callable.owner).map (⟨c.source, ·⟩)

/-- What a name that a method is called on stands for: a variable, a field, or a type. -/
def nameType (table : Table) (c : Caller) (t : TypeRef) (name : String) : Option Found :=
  match (c.callable.variables.lookup name).or (fieldType table t name) with
  | some type => findType table t type
  | none =>
    if Text.startsUpper name || Assoc.hasKey name c.source.imports then findType table t name
    else none

/-- The type of a member that a method is called on: a field of the object itself, or a type with
its full name. -/
def accessType (table : Table) (t : TypeRef) (receiver : Node) : Option Found :=
  match receiver.child? .receiver with
  | none => none
  | some object =>
    if object.kind = .thisWord then
      (fieldType table t (receiver.partText .name)).bind (findType table t)
    else if Text.startsUpper (Text.afterLast '.' receiver.text) then
      some (named table receiver.text)
    else none

/-- The type of what a method is called on. -/
def receiverType (table : Table) (c : Caller) (t : TypeRef) (receiver : Node) : Option Found :=
  match receiver.kind with
  | .name => c.nameType table t receiver.text
  | .access => accessType table t receiver
  | .creation => findType table t (receiver.partText .type)
  | _ => none

/-- What the call of a method refers to. -/
def resolveCall (table : Table) (c : Caller) (t : TypeRef) (n : Node) : Option Target :=
  let name := n.partText .name
  match n.child? .receiver with
  | none => enclosingMethod table t name n.argCount
  | some receiver =>
    match receiver.kind with
    | .thisWord => enclosingMethod table t name n.argCount
    | .superWord =>
      (t.decl.superclass.bind (findType table t)).bind (methodAt table name n.argCount)
    | _ => (c.receiverType table t receiver).bind (methodAt table name n.argCount)

/-- What the call of another constructor refers to. -/
def resolveConstructorCall (table : Table) (t : TypeRef) (n : Node) : Option Target :=
  if (n.child? .target).any (·.text = "this") then some (constructorOf t n.argCount)
  else (t.decl.superclass.bind (findType table t)).map (constructorAt n.argCount)

/-- What a call in a method refers to. -/
def resolve (table : Table) (c : Caller) (n : Node) : Option Target :=
  c.type?.bind fun t =>
    match n.kind with
    | .creation => (findType table t (n.partText .type)).map (constructorAt n.argCount)
    | .constructorCall => resolveConstructorCall table t n
    | _ => c.resolveCall table t n

end Caller

end CodeAtlas.Compilation
