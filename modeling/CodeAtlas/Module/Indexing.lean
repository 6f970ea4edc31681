import CodeAtlas.Module.Declaration

/-!
# Finding the declarations of a module

Declarations stand at the top of a module or directly in a class; conditions and handled failures
around them do not hide them. What stands in a function is not declared.
-/

namespace CodeAtlas.Module

/-! ## Functions -/

/-- The decorators of a function that only gives a signature. -/
def stubDecorators : List String := ["overload", "typing.overload", "typing_extensions.overload"]

/-- A function as declared in a class or at the top of a module. The first positional parameter of a
method is given by the object. -/
def functionOf (number : Nat) (owner : Option Nat) (line : Nat) (name : String) (params : Params)
    (body : List Stmt) (decorators : List Expr) (node : Node) : Function :=
  let marks := decorators.filterMap (·.dotted?)
  let isStatic := owner.isSome && marks.contains "staticmethod"
  let all := params.byPosition
  let positional := if owner.isSome && !isStatic then all.drop 1 else all
  let defaults := min params.defaults.length positional.length
  let required := (params.keywordDefaults.filter (·.isNone)).length
  let plain := positional.length + params.keywordOnly.length
  let extra := params.rest.toList.length + params.keywordRest.toList.length
  { number, owner, line, name, params, body, node, isStatic
    paramCount := plain + extra
    minArgs := positional.length - defaults + required
    maxArgs := if extra = 0 then some plain else none
    isConstructor := owner.isSome && name = "__init__"
    isStub := marks.any stubDecorators.contains }

/-! ## Types of attributes -/

/-- The targets of an assignment, its value and its annotation. -/
def assignment? : Node → Option (List Expr × Option Expr × Option Expr)
  | .stmt (.annotated target hint value) => some ([target], value, some hint)
  | .stmt (.assign _ targets value) => some (targets, some value, none)
  | _ => none

/-- The attribute of the object that a target is. -/
def ownAttribute? (selfName : String) : Expr → Option String
  | .attribute (.name id _) attr => if id = selfName then some attr else none
  | _ => none

/-- The parameters with their annotations; the last of several with one name counts. -/
def paramHints (ps : Params) : List (String × Expr) :=
  ps.plain.foldl (fun found p =>
    match p.hint with
    | some a => Assoc.put p.name a found
    | none => found) []

/-- Notes what an assignment to an attribute tells about its type: an annotation decides, a call or
an annotated parameter counts if nothing is known. -/
def noteAttribute (types : List (String × Expr)) (value hint : Option Expr)
    (found : List (String × Expr)) (attr : String) : List (String × Expr) :=
  match hint, value with
  | some a, _ => Assoc.put attr a found
  | none, some (.call _ func _ _) => Assoc.putNew attr func found
  | none, some (.name id _) =>
    match types.lookup id with
    | some a => Assoc.putNew attr a found
    | none => found
  | _, _ => found

/-- What the constructor `f` tells about the types of attributes. -/
def noteAttributes (f : Function) (found : List (String × Expr)) : List (String × Expr) :=
  match f.selfName with
  | none => found
  | some selfName =>
    let types := paramHints f.params
    f.node.walk.foldl (fun found n =>
      match assignment? n with
      | some (targets, value, hint) =>
        (targets.filterMap (ownAttribute? selfName)).foldl (noteAttribute types value hint)
          found
      | none => found) found

/-- The annotated names directly in the body of a class. -/
def fieldHints (body : List Stmt) : List (String × Expr) :=
  body.filterMap fun
    | .annotated (.name id _) hint _ => some (id, hint)
    | _ => none

/-! ## Scopes -/

/-- The declarations found so far. -/
structure Declared where
  declarations : List Function
  functions : List (String × List Nat)
  allClasses : List Class
  classes : List (String × Nat)

namespace Declared

def empty : Declared := ⟨[], [], [], []⟩

def modifyClass (d : Declared) (n : Nat) (change : Class → Class) : Declared :=
  { d with allClasses := d.allClasses.modify n change }

/-- Adds a function to the class `owner` or to the module. -/
def addFunction (d : Declared) (owner : Option Nat) (f : Function) : Declared :=
  let d := { d with declarations := d.declarations ++ [f] }
  match owner with
  | none => { d with functions := Assoc.push f.name f.number d.functions }
  | some n => d.modifyClass n fun c =>
    { c with
      methods := Assoc.push f.name f.number c.methods
      attributes := if f.isConstructor then noteAttributes f c.attributes else c.attributes }

/-- Adds a class to the class `outer` or to the module. -/
def addClass (d : Declared) (outer : Option Nat) (line : Nat) (name : String) (bases : List Expr)
    (decorators : List Expr) (body : List Stmt) : Declared :=
  let number := d.allClasses.length
  let front := ((outer.bind (d.allClasses[·]?)).map fun c => c.path ++ ".").getD ""
  let fields := fieldHints body
  let attributes := fields.foldl (fun found f => Assoc.putNew f.1 f.2 found) []
  let new : Class := {
    number, outer, line, name, bases, decorators, body, attributes
    path := front ++ name, methods := [], nested := [] }
  let d := { d with allClasses := d.allClasses ++ [new] }
  match outer with
  | none => { d with classes := Assoc.put name number d.classes }
  | some n => d.modifyClass n fun c => { c with nested := Assoc.put name number c.nested }

end Declared

mutual

/-- Adds what a statement declares in the class `owner` or in the module. -/
def Declared.add (owner : Option Nat) (d : Declared) : Stmt → Declared
  | .function line name params body decorators result =>
    d.addFunction owner (functionOf d.declarations.length owner line name params body decorators
      (.stmt (.function line name params body decorators result)))
  | .classDef line name bases _ body decorators =>
    Declared.addAll (some d.allClasses.length)
      (d.addClass owner line name bases decorators body) body
  | .branch _ _ body orElse => Declared.addAll owner (Declared.addAll owner d body) orElse
  | .attempt false body handlers orElse _ =>
    Declared.addAll owner (Declared.addHandlers owner (Declared.addAll owner d body) handlers)
      orElse
  | _ => d

def Declared.addAll (owner : Option Nat) (d : Declared) : List Stmt → Declared
  | [] => d
  | s :: rest => Declared.addAll owner (Declared.add owner d s) rest

def Declared.addHandlers (owner : Option Nat) (d : Declared) : List Handler → Declared
  | [] => d
  | .mk _ _ body :: rest => Declared.addHandlers owner (Declared.addAll owner d body) rest

end

/-! ## Signatures -/

/-- The functions of one name that only give a signature, each with the last one that does more. -/
def linksOf (d : Declared) (numbers : List Nat) : List (Nat × Nat) :=
  let fs := numbers.filterMap (d.declarations[·]?)
  match (fs.filter fun f => !f.isStub).getLast? with
  | some f => (fs.filter (·.isStub)).map fun stub => (stub.number, f.number)
  | none => []

/-- Does the class still have its name in the class or module around it? -/
def Declared.holds (d : Declared) (held : List Nat) (c : Class) : Bool :=
  match c.outer with
  | none => d.classes.lookup c.name = some c.number
  | some n => held.contains n &&
    ((d.allClasses[n]?).bind (·.nested.lookup c.name)) = some c.number

/-- The classes that can be reached by name. -/
def Declared.held (d : Declared) : List Nat :=
  d.allClasses.foldl (fun held c => if d.holds held c then held ++ [c.number] else held) []

/-- Signatures are given for functions of the same scope, if names lead to it. -/
def Declared.links (d : Declared) : List (Nat × Nat) :=
  let held := d.held
  let classes := d.allClasses.filter fun c => held.contains c.number
  let scopes := d.functions ++ classes.flatMap (·.methods)
  scopes.flatMap fun (_, numbers) => linksOf d numbers

/-! ## Imports -/

/-- The package that a module stands in; a module that is a package stands in itself. -/
def packageOf (name : String) (isPackage : Bool) : String :=
  if isPackage then name else Text.beforeLast '.' name

/-- The module that an import names, seen from a package; every level but the first leads upwards. -/
def absoluteModule (package : String) (name : Option String) (level : Nat) : Option String :=
  if level = 0 then name
  else
    let parts := if package = "" then [] else Text.splitAt '.' package
    if parts.length < level - 1 then none
    else
      let found := Text.join "." (parts.take (parts.length - (level - 1)) ++ name.toList)
      if found = "" then none else some found

/-- Adds an imported module under its other name or else under the first part of its name. -/
def addImport (found : List (String × Import)) (i : Imported) : List (String × Import) :=
  match i.alias? with
  | some a => Assoc.put a ⟨i.name, none⟩ found
  | none =>
    let head := Text.beforeFirst '.' i.name
    Assoc.putNew head ⟨head, none⟩ found

/-- Adds a name imported from a module. -/
def addMember (source : String) (found : List (String × Import)) (i : Imported) :
    List (String × Import) :=
  if i.name = "*" then found
  else Assoc.put (i.alias?.getD i.name) ⟨source, some i.name⟩ found

/-- The imports of a module, wherever they stand. -/
def importsOf (package : String) (body : List Stmt) : List (String × Import) :=
  (walkFrom (Node.stmts body)).foldl (fun found n =>
    match n with
    | .stmt (.imports names) => names.foldl addImport found
    | .stmt (.importsFrom source names level) =>
      match absoluteModule package source level with
      | some s => names.foldl (addMember s) found
      | none => found
    | _ => found) []

/-! ## Modules -/

/-- A module with its declarations. -/
def sourceOf (number : Nat) (name path : String) (body : List Stmt) : Source :=
  let d := Declared.addAll none .empty body
  let isPackage := Text.afterLast '/' path = packageFile
  { number, name, path, body
    declarations := d.declarations
    functions := d.functions
    allClasses := d.allClasses
    classes := d.classes
    imports := importsOf (packageOf name isPackage) body
    links := d.links }

end CodeAtlas.Module
