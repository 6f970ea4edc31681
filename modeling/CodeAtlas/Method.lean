import CodeAtlas.Text.Split

/-!
# Methods and call sites

What is known of a declared method or constructor from outside, the calls in its body, and the
canonical identity `Type.name(n)` under which call graphs show it.
-/

namespace CodeAtlas

/-- A method or constructor. The handle is how the provider of the method finds it again; it has no
meaning elsewhere. -/
structure Method (ι : Type) where
  typeName : String
  name : String
  arity : Int
  isConstructor : Bool
  inSource : Bool
  file : Option String
  line : Option Int
  handle : ι

/-- A call in a method's body. The text is the call's target as the source has it. -/
structure CallSite (κ : Type) where
  text : String
  argCount : Int
  line : Option Int
  handle : κ

/-- The same method with a handle of another type. -/
def Method.map {ι ι' : Type} (f : ι → ι') (m : Method ι) : Method ι' :=
  { m with handle := f m.handle }

/-- The same call with a handle of another type. -/
def CallSite.map {κ κ' : Type} (f : κ → κ') (c : CallSite κ) : CallSite κ' :=
  { c with handle := f c.handle }

/-! ## Canonical identity -/

/-- The name under which constructors appear. -/
def constructorName : String := ".ctor"

/-- Cuts at the first marker, unless the text begins with it. -/
def cutMarker (marker : Char) (cs : List Char) : List Char :=
  match Text.cutFirstChars marker cs with
  | some (before, _) => if before.isEmpty then cs else before
  | none => cs

/-- Cuts off a generic suffix, which begins with a backtick or an angle bracket. -/
def stripGenericsChars (cs : List Char) : List Char := cutMarker '<' (cutMarker '\x60' cs)

/-- A name without its generic suffix. -/
def stripGenerics (name : String) : String := String.ofList (stripGenericsChars name.toList)

/-- The type's name as an identity shows it. -/
def identityType (typeName : String) : String :=
  stripGenerics (if typeName = "" then "<unknown>" else typeName)

namespace Method

variable {ι : Type}

/-- The member's name as an identity shows it. -/
def identityName (m : Method ι) : String :=
  if m.isConstructor then constructorName else stripGenerics m.name

/-- The canonical identity: type, member and number of parameters, and nothing else. -/
def id (m : Method ι) : String :=
  identityType m.typeName ++ "." ++ m.identityName ++ "(" ++ toString m.arity ++ ")"

end Method

end CodeAtlas
