import CodeAtlas.Provider
import CodeAtlas.Text.Numeral

/-!
# Roots

A root names a method of a project: `Type.member`, with `/n` for one that takes `n` parameters.
`Root.parse` reads it and `resolveRoot` finds the declarations it names.
-/

namespace CodeAtlas

open Text

structure Root where
  text : String
  typePart : String
  memberPart : String
  arity : Option Nat
  deriving DecidableEq, Repr

/-- A qualifier that may stand before a type's name. -/
def globalQualifier : String := "global::"

namespace Root

/-- Does the root name the constructors of its type? -/
def isConstructor (r : Root) : Bool := r.memberPart = constructorName

/-! ## Reading -/

/-- A parameter count at the end: what stands before the last slash on one line, and the digits
after it. -/
def cutArity (cs : List Char) : Option (List Char × List Char) := do
  let (digits, before) ← cutFirstChars '/' cs.reverse
  if !before.isEmpty && !before.contains '\n' && !digits.isEmpty && digits.all isDigit then
    some (before.reverse, digits.reverse)
  else none

/-- The number that a list of digits stands for. -/
def arityValue (digits : List Char) : Except Failure Nat :=
  match readNat digits with
  | some n => .ok n
  | none => .error .badValue

/-- Cuts a specification into type and member. A constructor is written with two dots. -/
def cutMember (spec : String) : Option (String × String) :=
  if endsWith spec ("." ++ constructorName) then
    some (dropLastChars 6 spec, constructorName)
  else cutLast '.' spec

/-- A type's name without the global qualifier. -/
def withoutQualifier (typePart : String) : String :=
  if startsWith typePart globalQualifier then dropChars 8 typePart else typePart

/-- The root with a given count, unless the type or the member is missing. -/
def ofSpec (text spec : String) (arity : Option Nat) : Option Root := do
  let (typePart, memberPart) ← cutMember spec
  let typePart := withoutQualifier typePart
  if typePart = "" || memberPart = "" then none else some ⟨text, typePart, memberPart, arity⟩

/-- Reads a root; `none` if it has no type or no member. -/
def parse (text : String) : Except Failure (Option Root) := do
  let spec := trimBy isBlank text.toList
  match cutArity spec with
  | some (before, digits) =>
    let n ← arityValue digits
    return ofSpec text (String.ofList before) (some n)
  | none => return ofSpec text (String.ofList spec) none

/-! ## Matching -/

/-- Does the root name the method? -/
def names {ι : Type} (r : Root) (m : Method ι) : Bool :=
  (m.typeName = r.typePart || m.typeName = globalQualifier ++ r.typePart) &&
    (if r.isConstructor then m.isConstructor else m.name = r.memberPart) &&
    r.arity.all fun n => m.arity = n

end Root

/-! ## Resolution -/

/-- What a root comes to in a project: nothing, or the first declaration it names with the others.
It is ambiguous if there are several and it gives no parameter count. -/
inductive Resolved (ι : Type) where
  | notFound
  | found (ambiguous : Bool) (method : Method ι) (others : List (Method ι))

variable {ι κ : Type}

/-- Finds the declarations among `declared` that a root names. -/
def Root.select (r : Root) (declared : List (Method ι)) : Resolved ι :=
  match declared.filter r.names with
  | [] => .notFound
  | m :: others => .found (!others.isEmpty && r.arity.isNone) m others

/-- Finds what a root names in a project. -/
def resolveRoot (p : Provider ι κ) (project : Project) (r : Root) : Traced (Resolved ι) := do
  let declared ← p.ask (p.declarations project)
  let resolved := r.select declared
  match resolved with
  | .notFound => Traced.note (.rootNotFound project.name r.text)
  | .found true _ _ => Traced.note (.ambiguousRoot project.name r.text)
  | .found false _ _ => pure ()
  return resolved

/-- Finds what the text of a root names in a project. -/
def resolveText (p : Provider ι κ) (project : Project) (text : String) : Traced (Resolved ι) := do
  match ← Traced.ofExcept (Root.parse text) with
  | some r => resolveRoot p project r
  | none =>
    Traced.note (.invalidRoot text)
    return .notFound

end CodeAtlas
