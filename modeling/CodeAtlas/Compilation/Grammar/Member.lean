import CodeAtlas.Compilation.Grammar.Stmt

/-!
# Grammar of declarations
-/

namespace CodeAtlas.Compilation

open Parse

variable (r : Rules)

/-! ## Heads -/

/-- Types behind a word, if the word is next. -/
def typesBehind (word : String) (role : Role) : Parse (List Node) := do
  if ← nextIs word then
    return [(Node.node .other [← mark word, ← typeList r]).withRole role]
  return []

/-- The class that a class extends. -/
def superclass : Parse (List Node) := do
  if ← nextIs "extends" then
    return [(Node.node .other [← mark "extends", (← r.type).withRole .type]).withRole .superclass]
  return []

/-- The failures that a method declares. -/
def throwsClause : Parse (List Node) := typesBehind r "throws" .plain

/-! ## Methods -/

/-- A call of another constructor at the beginning of one. -/
def constructorCall : Parse Node := do
  let start ← either (do
    let args ← optionalTypeArguments r
    guardThat (do return (← nextIs "this") || (← nextIs "super"))
    return args ++ [(← anyMark).withRole .target]) (do
    let outer ← partsBehind r r.fuel (← primary r)
    let dot ← mark "."
    let args ← optionalTypeArguments r
    return outer :: dot :: args ++ [(← mark "super").withRole .target])
  return .node .constructorCall (start ++ [← callArguments r, ← mark ";"])

def constructorBody : Parse Node := do
  let left ← mark leftBrace
  let first ← maybe (constructorCall r)
  let inner ← manyWhile r.fuel (do return !(← nextIs rightBrace)) (do return [← r.statement])
  return .node .other (left :: first.toList ++ inner ++ [← mark rightBrace])

/-- A method behind its type. A method of an annotation can have a value. -/
def methodRest (head : List Node) : Parse Node := do
  let name := (← name).withRole .name
  let ps := (← parameters r).withRole .parameters
  let brackets ← dimensions r
  let failures ← throwsClause r
  let start := head ++ [name, ps] ++ brackets ++ failures
  if ← nextIs leftBrace then return .node .method (start ++ [(← r.block).withRole .body])
  if ← nextIs "default" then
    return .node .other (start ++ [← anyMark, ← r.elementValue, ← mark ";"])
  return .node .method (start ++ [← mark ";"])

/-- A constructor behind its modifiers and type parameters. -/
def constructorRest (head : List Node) : Parse Node := do
  let name := (← name).withRole .name
  let ps := (← parameters r).withRole .parameters
  let failures ← throwsClause r
  let body := (← constructorBody r).withRole .body
  return .node .constructor (head ++ [name, ps] ++ failures ++ [body])

/-! ## Types -/

/-- A constant of an enumeration. -/
def enumConstant : Parse Node := do
  let mods ← modifiers r
  let name ← name
  let args ← if ← nextIs "(" then (do return [← callArguments r]) else pure []
  let body ← if ← nextIs leftBrace then (do return [← r.classBody]) else pure []
  return .node .other (mods ++ name :: args ++ body)

/-- What stands in the body of a type. -/
inductive BodyKind where
  | ofClass
  | ofInterface
  deriving DecidableEq

/-- A field or method behind its modifiers, or a constructor. Fields of interfaces are constants. -/
def memberRest (b : BodyKind) (mods : List Node) : Parse Node := do
  let typeParams ← optionalTypeParameters r
  let head := mods ++ typeParams
  if ← look 0 (·.isName) then
    if ← lookText 1 "(" then return ← constructorRest r head
    if ← lookText 1 leftBrace then return .node .other (head ++ [← name, ← r.block])
  let head := head ++ (← annotations r)
  let type := (← plainType r).withRole .type
  if (← look 0 (·.isName)) && (← lookText 1 "(") then methodRest r (head ++ [type])
  else
    let found ← declarators r
    let kind := if b = .ofClass then Kind.fields else Kind.other
    return .node kind (head ++ type :: found ++ [← mark ";"])

/-- One member of a type. -/
def member (b : BodyKind) : Parse Node := do
  if ← nextIs ";" then anyMark
  else if ← nextIs leftBrace then r.block
  else if (← nextIs "static") && (← lookText 1 leftBrace) then
    return .node .other [← anyMark, ← r.block]
  else
    let mods ← modifiers r
    if ← nextIsDeclaration then r.declaration mods else memberRest r b mods

/-- Members up to a closing bracket. -/
def members (b : BodyKind) : Parse (List Node) :=
  manyWhile r.fuel (do return !(← nextIs rightBrace)) (do return [← member r b])

def bodyRule (b : BodyKind) : Parse Node := do
  let left ← mark leftBrace
  let inner ← members r b
  return .node .other (left :: inner ++ [← mark rightBrace])

def enumBody : Parse Node := do
  let left ← mark leftBrace
  let constants ← manyWhile r.fuel (do return !((← nextIs ";") || (← nextIs rightBrace))) (do
    return (← enumConstant r) :: (← optionalMark ","))
  let inner ← if ← nextIs ";" then (do
      let semicolon ← mark ";"
      return [Node.node .enumMembers (semicolon :: (← members r .ofClass))])
    else pure []
  return .node .other (left :: constants ++ inner ++ [← mark rightBrace])

/-- The declaration of a type behind its modifiers. -/
def declarationRule (mods : List Node) : Parse Node := do
  if ← nextIs "@" then
    let head := mods ++ [← anyMark, ← anyMark, ← name]
    return .node .other (head ++ [← bodyRule r .ofInterface])
  let kind ← nextText
  let word ← anyMark
  let head := mods ++ [word, (← name).withRole .name]
  let typeParams ← optionalTypeParameters r
  match kind with
  | "class" =>
    let above ← superclass r
    let interfaces ← typesBehind r "implements" .interfaces
    let permitted ← typesBehind r "permits" .plain
    return .node .typeDeclaration (head ++ typeParams ++ above ++ interfaces ++ permitted ++
      [(← bodyRule r .ofClass).withRole .body])
  | "interface" =>
    let interfaces ← typesBehind r "extends" .interfaces
    let permitted ← typesBehind r "permits" .plain
    return .node .typeDeclaration (head ++ typeParams ++ interfaces ++ permitted ++
      [(← bodyRule r .ofInterface).withRole .body])
  | "enum" =>
    let interfaces ← typesBehind r "implements" .interfaces
    return .node .typeDeclaration (head ++ typeParams ++ interfaces ++
      [(← enumBody r).withRole .body])
  | "record" =>
    let ps ← parameters r
    let interfaces ← typesBehind r "implements" .interfaces
    return .node .typeDeclaration (head ++ typeParams ++ ps :: interfaces ++
      [(← bodyRule r .ofClass).withRole .body])
  | _ => fail

/-! ## Units -/

/-- The package of a unit. -/
def packageDeclaration : Parse Node := do
  let marks ← annotations r
  let word ← mark "package"
  return .node .package (marks ++ [word, (← qualifiedName r).withRole .name, ← mark ";"])

def importDeclaration : Parse Node := do
  let word ← mark "import"
  let mods ← optionalMark "static"
  let name := (← qualifiedName r).withRole .name
  let all ← if ← nextIs "." then (do return [← mark ".", ← mark "*"]) else pure []
  return .node .imported (word :: mods ++ name :: all ++ [← mark ";"])

/-- The description of a module, whose parts do not matter. -/
def moduleDeclaration : Parse Node := do
  let marks ← annotations r
  let opened ← optionalMark "open"
  let word ← mark "module"
  let name ← qualifiedName r
  let left ← mark leftBrace
  let inner ← manyWhile r.fuel (do return !(← nextIs rightBrace)) (do return [← anyMark])
  return .node .other (marks ++ opened ++ [word, name, left] ++ inner ++ [← mark rightBrace])

/-- One part of a unit. Text that is none is passed token by token. -/
def unitPart : Parse Node :=
  either (packageDeclaration r) <| either (importDeclaration r) <| either (moduleDeclaration r) <|
    either (member r .ofClass) <| either r.statement anyMark

end CodeAtlas.Compilation
