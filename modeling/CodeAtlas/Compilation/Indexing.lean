import CodeAtlas.Compilation.Declaration

/-!
# Indexing a compilation unit

Types are indexed where they stand at the top of a unit or directly in another type. Types inside
methods are not.
-/

namespace CodeAtlas.Compilation

/-! ## Parts of declarations -/

namespace Node

/-- The modifiers of a declaration. -/
def modifierNodes (n : Node) : List Node :=
  ((n.children.find? (·.kind = .modifiers)).map (·.children)).getD []

def hasModifier (n : Node) (word : String) : Bool := n.modifierNodes.any (·.text = word)

/-- The types that a declaration extends beside a class. A comment in their list counts as one. -/
def interfaceNames (n : Node) : List String :=
  match n.child? .interfaces with
  | some clause =>
    (clause.children.filter (·.kind = .typeList)).flatMap fun list =>
      list.members.map fun t => baseType t.text
  | none => []

/-- The class that a declaration extends. -/
def superclassName (n : Node) : Option String :=
  ((n.child? .superclass).bind (·.child? .type)).map fun t => baseType t.text

end Node

/-- The type of a parameter for further arguments: the first thing that is neither its modifiers nor
its name. -/
def variadicType (n : Node) : String :=
  ((n.members.find? fun m => m.kind != .modifiers && m.kind != .declarator).map (·.text)).getD "?"

/-- The type of a parameter as it is written; dots behind it stand for further arguments. -/
def paramType (n : Node) : Option String :=
  match n.kind with
  | .parameter => some (n.partText .type)
  | .variadic => some (variadicType n ++ "...")
  | _ => none

/-- The parts of the parameter list of a method. -/
def paramNodes (n : Node) : List Node := ((n.child? .parameters).map (·.children)).getD []

/-- A method or constructor of a type. -/
def callableOf (number owner : Nat) (n : Node) : Callable where
  number := number
  owner := owner
  name := n.partText .name
  paramTypes := (paramNodes n).filterMap paramType
  isVariadic := (paramNodes n).any (·.kind = .variadic)
  isConstructor := n.kind = .constructor
  isStatic := n.hasModifier "static"
  line := n.line
  node := n

/-- The names of fields with their types. -/
def fieldsOf (n : Node) : List (String × String) :=
  (n.parts .declarator).map fun d => (d.partText .name, baseType (n.partText .type))

/-! ## Collecting -/

/-- What has been declared so far. -/
structure Declared where
  allTypes : List TypeDecl
  types : List (String × Nat)
  declarations : List Callable

namespace Declared

def empty : Declared := ⟨[], [], []⟩

def modifyType (d : Declared) (n : Nat) (f : TypeDecl → TypeDecl) : Declared :=
  { d with allTypes := d.allTypes.modify n f }

/-- Adds a type without its members. -/
def addType (owner : Option Nat) (d : Declared) (n : Node) : Declared :=
  let number := d.allTypes.length
  let name := n.partText .name
  let front := ((owner.bind (d.allTypes[·]?)).map fun t => t.path ++ ".").getD ""
  let new : TypeDecl := {
    number, outer := owner, name, path := front ++ name, line := n.line, node := n
    superclass := n.superclassName
    interfaces := n.interfaceNames
    methods := [], constructors := [], fields := [], nested := [] }
  let d := { d with allTypes := d.allTypes ++ [new] }
  match owner with
  | none => { d with types := Assoc.put name number d.types }
  | some o => d.modifyType o fun t => { t with nested := Assoc.put name number t.nested }

/-- Adds a method or constructor to a type. -/
def addCallable (owner : Nat) (d : Declared) (n : Node) : Declared :=
  let c := callableOf d.declarations.length owner n
  let d := { d with declarations := d.declarations ++ [c] }
  d.modifyType owner fun t =>
    if c.isConstructor then { t with constructors := t.constructors ++ [c.number] }
    else { t with methods := Assoc.push c.name c.number t.methods }

/-- Adds fields to a type. -/
def addFields (owner : Nat) (d : Declared) (n : Node) : Declared :=
  d.modifyType owner fun t =>
    { t with fields := (fieldsOf n).foldl (fun found f => Assoc.put f.1 f.2 found) t.fields }

mutual

/-- Adds what a member of the type `owner` declares. -/
def addMember (owner : Nat) (d : Declared) : Node → Declared
  | .leaf _ _ _ => d
  | .branch role kind children =>
    match kind with
    | .typeDeclaration =>
      addBodies d.allTypes.length (d.addType (some owner) (.branch role kind children)) children
    | .enumMembers => addMembers owner d children
    | .method | .constructor => d.addCallable owner (.branch role kind children)
    | .fields => d.addFields owner (.branch role kind children)
    | _ => d

def addMembers (owner : Nat) (d : Declared) : List Node → Declared
  | [] => d
  | n :: rest => addMembers owner (addMember owner d n) rest

/-- Adds what is declared in the body among the parts of the type `owner`. -/
def addBodies (owner : Nat) (d : Declared) : List Node → Declared
  | [] => d
  | .leaf _ _ _ :: rest => addBodies owner d rest
  | .branch role _ children :: rest =>
    addBodies owner (if role = .body then addMembers owner d children else d) rest

end

/-- Adds a type at the top of a unit. -/
def addTop (d : Declared) (n : Node) : Declared :=
  if n.kind = .typeDeclaration then addBodies d.allTypes.length (d.addType none n) n.children else d

end Declared

/-! ## Imports -/

/-- The package that a part of a unit names. -/
def packageName? (n : Node) : Option String :=
  if n.kind = .package then (n.child? .name).map (·.text) else none

/-- Does an import bring in all members? -/
def importsAll (n : Node) : Bool := n.children.any fun c => c.kind = .mark && c.text = "*"

/-- Does an import bring in types, and not members of one? -/
def importsTypes (n : Node) : Bool :=
  n.kind = .imported && !n.children.any fun c => c.kind = .mark && c.text = "static"

/-- A unit with its declarations. -/
def sourceOf (number : Nat) (path : String) (tree : Node) : Source :=
  let d := tree.children.foldl Declared.addTop .empty
  let imports := tree.children.filter importsTypes
  { number, path, tree
    package := (tree.children.filterMap packageName?).getLast?.getD ""
    imports := (imports.filter (!importsAll ·)).foldl (fun found n =>
      let name := n.partText .name
      Assoc.put (Text.afterLast '.' name) name found) []
    wildcards := (imports.filter importsAll).map (·.partText .name)
    allTypes := d.allTypes
    types := d.types
    declarations := d.declarations }

end CodeAtlas.Compilation
