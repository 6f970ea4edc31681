import CodeAtlas.Compilation.Grammar.Basic

/-!
# Grammar of types and modifiers
-/

namespace CodeAtlas.Compilation

open Parse

variable (r : Rules)

/-! ## Names -/

/-- Is a dot next, with a name behind it? -/
def nextIsMember : Parse Bool := do
  if ← nextIs "." then look 1 (·.isName) else return false

/-- A name that may have dots in it. -/
def qualifiedName : Parse Node := do
  let first ← name
  let rest ← manyWhile r.fuel nextIsMember (do return [← mark ".", ← name])
  return if rest.isEmpty then first else .node .name (first :: rest)

/-! ## Annotations -/

/-- Does an annotation begin here, and not the declaration of one? -/
def nextIsAnnotation : Parse Bool := do
  if ← nextIs "@" then return !(← lookText 1 "interface")
  return false

def annotations : Parse (List Node) :=
  manyWhile r.fuel nextIsAnnotation (do return [← r.annotation])

/-- An element of an annotation with its name. -/
def elementPair : Parse Node := do
  return .node .element [(← name).withRole .key, ← mark "=", (← r.elementValue).withRole .value]

/-- An element of an annotation, perhaps with its name. -/
def annotationElement : Parse Node := do
  if ← lookText 1 "=" then elementPair r else r.elementValue

def annotationRule : Parse Node := do
  let start ← mark "@"
  let name := (← qualifiedName r).withRole .name
  if ← nextIs "(" then
    let elements := Node.node .other (← enclosed r.fuel "(" ")" (annotationElement r))
    return .node .annotated [start, name, elements.withRole .arguments]
  return .node .annotated [start, name]

/-- The value of an element: an annotation, a list or an expression. -/
def elementValueRule : Parse Node := do
  if ← nextIsAnnotation then r.annotation
  else if ← nextIs leftBrace then return .node .elementList (← enclosed r.fuel leftBrace rightBrace r.elementValue)
  else r.expression true

/-! ## Types -/

/-- An argument that stands for any type within a bound. -/
def wildcard : Parse Node := do
  let marks ← annotations r
  let sign ← mark "?"
  if (← nextIs "extends") || (← nextIs "super") then
    return .node .other (marks ++ [sign, ← anyMark, ← r.type])
  return .node .other (marks ++ [sign])

def typeArguments : Parse Node := do
  return .node .other (← enclosed r.fuel "<" ">" (either (wildcard r) r.type))

/-- Type arguments if there are any. -/
def optionalTypeArguments : Parse (List Node) := do
  if ← nextIs "<" then return [← typeArguments r]
  return []

/-- A name inside a type, behind a dot. -/
def innerType : Parse (List Node) := do
  let dot ← mark "."
  let marks ← annotations r
  let name ← name
  return dot :: marks ++ [name] ++ (← optionalTypeArguments r)

/-- A type that is no array. -/
def simpleType : Parse Node := do
  if ← look 0 (·.isPrimitive) then return .node .type [← anyMark]
  let first ← name
  let args ← optionalTypeArguments r
  return .node .type (first :: args ++ (← many r.fuel (innerType r)))

/-- The brackets of an array type. -/
def dimensions : Parse (List Node) :=
  many r.fuel (do return (← annotations r) ++ [← mark "[", ← mark "]"])

/-- A type without annotations before it. -/
def plainType : Parse Node := do
  let t ← simpleType r
  match ← dimensions r with
  | [] => return t
  | brackets => return .node .type (t :: brackets)

def typeRule : Parse Node := do
  match ← annotations r with
  | [] => plainType r
  | marks => return .node .type (marks ++ [← plainType r])

/-- One or more types with commas between them. -/
def typeList : Parse Node := do return .node .typeList (← separated r.fuel "," r.type)

/-- The bounds of a type parameter. -/
def typeBound : Parse (List Node) := do
  if ← nextIs "extends" then return (← mark "extends") :: (← separated r.fuel "&" r.type)
  return []

def typeParameter : Parse Node := do
  return .node .other ((← annotations r) ++ [← name] ++ (← typeBound r))

/-- Type parameters if there are any. -/
def optionalTypeParameters : Parse (List Node) := do
  if ← nextIs "<" then return [.node .other (← enclosed r.fuel "<" ">" (typeParameter r))]
  return []

/-! ## Modifiers -/

def modifierWords : List String := ["public", "protected", "private", "abstract", "static", "final",
  "strictfp", "default", "synchronized", "native", "transient", "volatile"]

/-- Does a modifier begin at this word, which is a name elsewhere? -/
def nextIsSoftModifier : Parse Bool := do
  if ← nextIs "sealed" then
    look 1 fun t => modifierWords.contains t.text || t.text = "class" || t.text = "interface"
  else if ← nextIs "non" then
    return (← look 1 fun t => t.text = "-" && t.isTight) && (← lookText 2 "sealed")
  else return false

/-- One modifier. -/
def modifier : Parse (List Node) := do
  if ← nextIsAnnotation then return [← r.annotation]
  if ← look 0 (modifierWords.contains ·.text) then return [← anyMark]
  guardThat nextIsSoftModifier
  if ← nextIs "non" then return [← anyMark, ← anyMark, ← anyMark]
  return [← anyMark]

/-- Modifiers if there are any. -/
def modifiers : Parse (List Node) := do
  match ← many r.fuel (modifier r) with
  | [] => return []
  | found => return [.node .modifiers found]

/-! ## Parameters and declarators -/

/-- A name with its brackets and perhaps a value. -/
def declarator : Parse Node := do
  let name := (← name).withRole .name
  let brackets ← dimensions r
  if ← nextIs "=" then
    let sign ← mark "="
    return .node .declarator (name :: brackets ++ [sign, (← r.initializer).withRole .value])
  return .node .declarator (name :: brackets)

/-- One or more declarators. -/
def declarators : Parse (List Node) := do
  let found ← separated r.fuel "," (declarator r)
  return found.map fun n => if n.kind = .declarator then n.withRole .declarator else n

/-- The parameter for the object that a method belongs to, behind its type. -/
def receiverRest : Parse (List Node) := do
  let names ← many r.fuel (do return [← name, ← mark "."])
  return names ++ [← mark "this"]

/-- One parameter. -/
def parameter : Parse Node := do
  let mods ← modifiers r
  let type ← plainType r
  match ← maybe (receiverRest r) with
  | some rest => return .node .other (mods ++ type :: rest)
  | none =>
    match ← maybe (do return (← annotations r) ++ [← mark "..."]) with
    | some dots => return .node .variadic (mods ++ type :: dots ++ [← declarator r])
    | none =>
      let name := (← name).withRole .name
      return .node .parameter (mods ++ [type.withRole .type, name] ++ (← dimensions r))

/-- The parameters of a method. -/
def parameters : Parse Node := do return .node .other (← enclosed r.fuel "(" ")" (parameter r))

end CodeAtlas.Compilation
