import CodeAtlas.Method
import CodeAtlas.Module.Grammar
import CodeAtlas.Module.Printer
import CodeAtlas.Module.Scope
import CodeAtlas.Text.Case
import CodeAtlas.Failure

/-!
# What calls refer to

The target of a call is looked up by dotted names: its first part in the scopes around the call, the
whole in the modules that are known. What lies outside these is an external method, of which only
the name is known.
-/

namespace CodeAtlas.Module

/-! ## Tables of modules -/

/-- Modules by name. -/
abbrev Table := List (String × Source)

/-- A class with the module that it stands in. -/
structure ClassRef where
  source : Source
  cls : Class

/-- Are these the same class? -/
def ClassRef.same (a b : ClassRef) : Bool :=
  a.source.number = b.source.number && a.cls.number = b.cls.number

def ClassRef.fullName (c : ClassRef) : String := c.source.className c.cls

/-- What a call can refer to. -/
abbrev Target := Method (Option FunctionRef)

/-- How many imports of imported names are followed. -/
def maxHops : Nat := 5

/-- The names that need no import. -/
def builtinNames : List String := (Text.splitAt ' ' (Text.replaceChar '\n' ' '
"ArithmeticError AssertionError AttributeError BaseException BaseExceptionGroup BlockingIOError
BrokenPipeError BufferError BytesWarning ChildProcessError ConnectionAbortedError ConnectionError
ConnectionRefusedError ConnectionResetError DeprecationWarning EOFError Ellipsis EncodingWarning
EnvironmentError Exception ExceptionGroup False FileExistsError FileNotFoundError FloatingPointError
FutureWarning GeneratorExit IOError ImportError ImportWarning IndentationError IndexError
InterruptedError IsADirectoryError KeyError KeyboardInterrupt LookupError MemoryError
ModuleNotFoundError NameError None NotADirectoryError NotImplemented NotImplementedError OSError
OverflowError PendingDeprecationWarning PermissionError ProcessLookupError RecursionError
ReferenceError ResourceWarning RuntimeError RuntimeWarning StopAsyncIteration StopIteration
SyntaxError SyntaxWarning SystemError SystemExit TabError TimeoutError True TypeError
UnboundLocalError UnicodeDecodeError UnicodeEncodeError UnicodeError UnicodeTranslateError
UnicodeWarning UserWarning ValueError Warning ZeroDivisionError __build_class__ __debug__ __doc__
__import__ __loader__ __name__ __package__ __spec__ abs aiter all anext any ascii bin bool
breakpoint bytearray bytes callable chr classmethod compile complex copyright credits delattr dict
dir divmod enumerate eval exec exit filter float format frozenset getattr globals hasattr hash help
hex id input int isinstance issubclass iter len license list locals map max memoryview min next
object oct open ord pow print property quit range repr reversed round set setattr slice sorted
staticmethod str sum super tuple type vars zip"))

/-- The module of built-in names. -/
def builtins : String := "builtins"

/-! ## Names -/

namespace Source

/-- What a name at the top of a module stands for. -/
def qualifyName (s : Source) (name : String) : Option String :=
  if Assoc.hasKey name s.classes || Assoc.hasKey name s.functions then some (s.name ++ "." ++ name)
  else (s.imports.lookup name).map (·.target)

/-- A dotted name with its first part replaced by what it stands for. -/
def qualify (s : Source) (dotted : String) : String :=
  match Text.cutFirst '.' dotted with
  | some (head, rest) => (s.qualifyName head).getD head ++ "." ++ rest
  | none => (s.qualifyName dotted).getD dotted

end Source

/-- The module with the longest name that a dotted name begins with, and the parts behind it. The
number says how many parts of the name are tried at first. -/
def splitModuleAt (t : Table) (parts : List String) : Nat → Option (Source × List String)
  | 0 => none
  | n + 1 =>
    match t.lookup (Text.join "." (parts.take (n + 1))) with
    | some s => some (s, parts.drop (n + 1))
    | none => splitModuleAt t parts n

/-- The module that a dotted name leads into, and the parts behind its name. -/
def splitModule (t : Table) (qualified : String) : Option (Source × List String) :=
  let parts := Text.splitAt '.' qualified
  splitModuleAt t parts parts.length

/-- The class that lies in a class along some names. -/
def nestedClass (c : ClassRef) : List String → Option ClassRef
  | [] => some c
  | name :: rest =>
    match (c.cls.nested.lookup name).bind c.source.class? with
    | some d => nestedClass ⟨c.source, d⟩ rest
    | none => none

/-- The class at the top of a module. -/
def Source.topClass? (s : Source) (name : String) : Option ClassRef :=
  ((s.classes.lookup name).bind s.class?).map fun c => ⟨s, c⟩

/-- The class of a dotted name, with a bound on the imports that are followed. -/
def findClassWithin (t : Table) : Nat → String → Option ClassRef
  | hops, qualified =>
    match splitModule t qualified with
    | some (s, head :: rest) =>
      match s.topClass? head with
      | some c => nestedClass c rest
      | none =>
        match hops, s.imports.lookup head with
        | hops + 1, some i => findClassWithin t hops (Text.join "." (i.target :: rest))
        | _, _ => none
    | _ => none

/-- The class of a dotted name. -/
def findClass (t : Table) (qualified : String) : Option ClassRef :=
  findClassWithin t maxHops qualified

/-! ## Types -/

/-- Is the expression the constant for nothing? -/
def Expr.isNone : Expr → Bool
  | .constant .none => true
  | _ => false

/-- The type of a dotted name: an indexed class, or else a name that looks like a class. -/
def namedType (t : Table) (s : Source) (dotted : String) : Option String :=
  let qualified := s.qualify dotted
  match findClass t qualified with
  | some c => some c.fullName
  | none => if Text.startsUpper (Text.afterLast '.' qualified) then some qualified else none

/-- What an annotation in quotes stands for; `read` reads the text between the quotes. -/
def unquote (read : String → Option Expr) : Expr → Option Expr
  | .constant (.text text _) => read text
  | e => some e

/-- The type that an annotation, or the function that makes a value, names. The first alternative
counts that is not the one for nothing. The number bounds how deep the annotation is. -/
def typeNameWithin (read : String → Option Expr) (t : Table) (s : Source) : Nat → Expr → Option String
  | 0, _ => none
  | depth + 1, e =>
    match unquote read e with
    | some (.binary left .bitOr right) =>
      if !left.isNone then typeNameWithin read t s depth left
      else if !right.isNone then typeNameWithin read t s depth right
      else none
    | some (.subscript value index) =>
      match value.dotted? with
      | some "Optional" => typeNameWithin read t s depth index
      | some "typing.Optional" => typeNameWithin read t s depth index
      | _ => none
    | some e => e.dotted?.bind (namedType t s)
    | none => none

/-- A bound on the depth of an annotation, a text between quotes counted by its length. -/
def Expr.extent : Expr → Nat
  | .constant (.text text _) => text.length + 1
  | .binary left _ right => left.extent + right.extent + 1
  | .subscript _ index => index.extent + 1
  | _ => 1

/-- The type that an annotation, or the function that makes a value, names. -/
def typeName (t : Table) (s : Source) (e : Expr) : Option String :=
  typeNameWithin readExpression t s e.extent e

/-! ## Hierarchies -/

/-- The indexed classes among the bases of a class. -/
def projectBases (t : Table) (c : ClassRef) : List ClassRef :=
  c.cls.bases.filterMap fun base => base.dotted?.bind fun d => findClass t (c.source.qualify d)

/-- How many steps a search through all classes can take. -/
def searchBound (t : Table) (start : List ClassRef) : Nat :=
  let all := t.flatMap fun (_, s) => s.allClasses
  start.length + (all.flatMap (·.bases)).length + (start.flatMap (·.cls.bases)).length + 1

/-- The first class with a property, searched through the bases, each class before its bases and
those from left to right. `stack` holds what is still to be searched. -/
def searchFrom (t : Table) (found : ClassRef → Bool) :
    Nat → List ClassRef → List ClassRef → Option ClassRef
  | 0, _, _ => none
  | _, _, [] => none
  | fuel + 1, seen, c :: stack =>
    if seen.any c.same then searchFrom t found fuel seen stack
    else if found c then some c
    else searchFrom t found fuel (c :: seen) (projectBases t c ++ stack)

/-- The first class with a property among some classes and all above them. -/
def search (t : Table) (found : ClassRef → Bool) (start : List ClassRef) : Option ClassRef :=
  searchFrom t found (searchBound t start) [] start

/-- The functions of a class under a name. -/
def ClassRef.methods (c : ClassRef) (name : String) : List Function :=
  ((c.cls.methods.lookup name).getD []).filterMap c.source.function?

/-- The first function that takes a number of arguments, or else the first. Signatures come in place
of the function that they are given for. -/
def pick (s : Source) (argCount : Nat) (fs : List Function) : Option Function :=
  let shown := fs.filter fun f => !s.hasStubs f.number
  let shown := if shown.isEmpty then fs else shown
  (shown.find? (·.accepts argCount)).or shown.head?

/-- The function that a name leads to in some classes and all above them, with its module. -/
def findMethod (t : Table) (start : List ClassRef) (name : String) (argCount : Nat) :
    Option (Source × Function) :=
  (search t (fun c => !(c.methods name).isEmpty) start).bind fun c =>
    (pick c.source argCount (c.methods name)).map fun f => (c.source, f)

/-- The first base of a class that is not indexed. -/
def externalBase (t : Table) (c : ClassRef) : Option String :=
  c.cls.bases.findSome? fun base =>
    match base.dotted? with
    | none => none
    | some "object" => none
    | some dotted =>
      let qualified := c.source.qualify dotted
      if (findClass t qualified).isSome then none
      else if !qualified.toList.contains '.' && builtinNames.contains qualified then
        some (builtins ++ "." ++ qualified)
      else some qualified

/-! ## Targets -/

/-- The name under which constructors are declared. -/
def initName : String := "__init__"

/-- A declared function as a target. -/
def targetOf (s : Source) (f : Function) : Target where
  typeName := s.typeName f
  name := f.name
  arity := f.paramCount
  isConstructor := f.isConstructor
  inSource := true
  file := some s.path
  line := some f.line
  handle := some ⟨s.number, f.number⟩

/-- A method outside the modules. What looks like a class is called as its constructor. -/
def external (qualified : String) (argCount : Nat) (isConstructor : Bool) : Target :=
  let name := Text.afterLast '.' qualified
  let typeName := Text.beforeLast '.' qualified
  if Text.startsUpper name then
    ⟨qualified, initName, argCount, true, false, none, none, none⟩
  else
    ⟨if typeName = "" then builtins else typeName, name, argCount, isConstructor, false, none, none,
      none⟩

/-- Does a decorator give the class a constructor from its fields? -/
def Class.isDataclass (c : Class) : Bool :=
  c.decorators.any fun d =>
    let target := match d with
      | .call _ func _ _ => func
      | e => e
    target.dotted? = some "dataclass" || target.dotted? = some "dataclasses.dataclass"

/-- The number of fields that a class declares for its instances. -/
def Class.fieldCount (c : Class) : Except Failure Nat :=
  c.body.foldlM (fun count s =>
    match s with
    | .annotated (.name _ _) hint _ =>
      match hint.text? with
      | some text => .ok (if Text.contains text "ClassVar" then count else count + 1)
      | none => .error .badValue
    | _ => .ok count) 0

/-- The constructor of a class: its own, or one that follows from its fields or its bases. -/
def constructorOf (t : Table) (c : ClassRef) (argCount : Nat) : Except Failure (Option Target) :=
  match c.methods initName with
  | f :: fs => .ok ((pick c.source argCount (f :: fs)).map (targetOf c.source))
  | [] => do
    let inherited := findMethod t (projectBases t c) initName argCount
    let count ← if c.cls.isDataclass then c.cls.fieldCount
      else pure ((inherited.map (·.2.paramCount)).getD 0)
    return some ⟨c.fullName, initName, count, true, true, some c.source.path, some c.cls.line,
      inherited.map fun (s, f) => ⟨s.number, f.number⟩⟩

/-- A method of a class or of one above it, or else of its base outside the modules. -/
def methodOf (t : Table) (c : ClassRef) (name : String) (argCount : Nat) :
    Except Failure (Option Target) :=
  if name = initName then constructorOf t c argCount
  else
    match findMethod t [c] name argCount with
    | some (s, f) => .ok (some (targetOf s f))
    | none => .ok ((externalBase t c).map fun base => external (base ++ "." ++ name) argCount false)

/-- A method of the classes above a class. -/
def inheritedMethod (t : Table) (c : ClassRef) (name : String) (argCount : Nat) :
    Except Failure (Option Target) :=
  match findMethod t (projectBases t c) name argCount with
  | some (s, f) => .ok (some (targetOf s f))
  | none =>
    match if name = initName then (projectBases t c).head? else none with
    | some base => constructorOf t base argCount
    | none => .ok ((externalBase t c).map fun base =>
        external (base ++ "." ++ name) argCount (name = initName))

/-- A member of a class along some names: a class inside it as its constructor, or a method. -/
def memberOf (t : Table) (c : ClassRef) (names : List String) (argCount : Nat) :
    Except Failure (Option Target) :=
  match names.getLast? with
  | none => constructorOf t c argCount
  | some last =>
    match nestedClass c names.dropLast with
    | none => .ok none
    | some d =>
      match nestedClass d [last] with
      | some e => constructorOf t e argCount
      | none => methodOf t d last argCount

/-- The target of a dotted name, with a bound on the imports that are followed. -/
def resolveNameWithin (t : Table) (argCount : Nat) : Nat → String → Except Failure (Option Target)
  | hops, qualified =>
    match splitModule t qualified with
    | none => .ok (some (external qualified argCount false))
    | some (_, []) => .ok none
    | some (s, head :: rest) =>
      match if rest.isEmpty then s.functions.lookup head else none with
      | some numbers =>
        .ok ((pick s argCount (numbers.filterMap s.function?)).map (targetOf s))
      | none =>
        match s.topClass? head with
        | some c => memberOf t c rest argCount
        | none =>
          match hops, s.imports.lookup head with
          | hops + 1, some i =>
            resolveNameWithin t argCount hops (Text.join "." (i.target :: rest))
          | _, _ => .ok none

/-- The target of a dotted name. -/
def resolveName (t : Table) (qualified : String) (argCount : Nat) : Except Failure (Option Target) :=
  resolveNameWithin t argCount maxHops qualified

/-! ## Calls -/

/-- A function with the module that it stands in. -/
structure Caller where
  source : Source
  function : Function

namespace Caller

/-- The class around a function. -/
def cls? (c : Caller) : Option ClassRef :=
  (c.function.owner.bind c.source.class?).map fun k => ⟨c.source, k⟩

/-- Does the expression stand for the object that the function belongs to? -/
def isSelf (c : Caller) : Expr → Bool
  | .name id _ => c.function.selfName = some id
  | _ => false

/-- What the first part of a name stands for in a function; nothing if the function binds it. -/
def qualifyHead (c : Caller) (withBuiltins : Bool) (name : String) : Option String :=
  if c.function.locals.contains name then none
  else
    match c.source.qualifyName name with
    | some q => some q
    | none =>
      if withBuiltins && builtinNames.contains name then some (builtins ++ "." ++ name) else none

/-- The type of an attribute of the object, from its class or the first one above it that knows. The
number bounds how many classes are asked. -/
def attributeType (t : Table) (attr : String) : Nat → ClassRef → Option String
  | 0, _ => none
  | fuel + 1, k =>
    match k.cls.attributes.lookup attr with
    | some e => typeName t k.source e
    | none => ((projectBases t k).head?).bind (attributeType t attr fuel)

/-- A chain of first bases has no more classes than there are, unless it is a cycle. -/
def chainBound (t : Table) : Nat := (t.flatMap fun (_, s) => s.allClasses).length + 2

/-- The type of what a method is called on, if it is known. -/
def receiverType (t : Table) (c : Caller) (receiver : Expr) : Option String :=
  match receiver with
  | .name id _ => (c.function.variableTypes.lookup id).bind (typeName t c.source)
  | .call _ func _ _ => typeName t c.source func
  | .attribute value attr =>
    if c.isSelf value then c.cls?.bind (attributeType t attr (chainBound t)) else none
  | _ => none

/-- The target of a method call on a dotted name. -/
def dottedTarget (t : Table) (c : Caller) (func : Expr) (argCount : Nat) :
    Except Failure (Option Target) :=
  match func.dotted?.bind (Text.cutFirst '.') with
  | none => .ok none
  | some (head, rest) =>
    match c.qualifyHead false head with
    | some q => resolveName t (q ++ "." ++ rest) argCount
    | none => .ok none

/-- What a call in a function refers to. -/
def resolve (t : Table) (c : Caller) (call : Call) : Except Failure (Option Target) :=
  let n := call.argCount
  match call.func with
  | .name id _ =>
    match c.qualifyHead true id with
    | some q => resolveName t q n
    | none => .ok none
  | .attribute receiver attr =>
    if receiver.isSuperCall then
      match c.cls? with
      | some k => inheritedMethod t k attr n
      | none => .ok none
    else if c.isSelf receiver then
      match c.cls? with
      | some k => methodOf t k attr n
      | none => .ok none
    else
      match c.receiverType t receiver with
      | some type => resolveName t (type ++ "." ++ attr) n
      | none => c.dottedTarget t call.func n
  | _ => .ok none

end Caller

end CodeAtlas.Module
