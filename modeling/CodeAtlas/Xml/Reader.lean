import CodeAtlas.Text.Blank
import CodeAtlas.Text.Runs
import CodeAtlas.Text.Split
import CodeAtlas.Text.Word
import CodeAtlas.Xml.Encoding

/-!
# Reading XML

A document is refused unless it is well-formed and every name space that it uses is declared. Entities
that its own declarations define are expanded; all others are refused.
-/

namespace CodeAtlas.Xml

open CodeAtlas.Text

/-!
## Elements

The elements of a document with their local names. Of the text in an element only what stands before
the first element inside is kept, comments taken out.
-/

inductive Element where
  | mk (name : String) (text : Option String) (children : List Element)

namespace Element

def name : Element → String
  | mk n _ _ => n

/-- The text before the first element inside, if there is any. -/
def text : Element → Option String
  | mk _ t _ => t

def children : Element → List Element
  | mk _ _ cs => cs

/-- The elements along some names below an element. -/
def along : List String → Element → List Element
  | [], e => [e]
  | n :: rest, e => (e.children.filter (·.name = n)).flatMap (along rest)

/-- The text of an element without blanks around it. -/
def value (e : Element) : Option String := e.text.map Text.strip

end Element

/-! ## Names -/

/-- Can a document hold the character? -/
def isLegal (c : Char) : Bool :=
  c = '\t' || c = '\n' || c = '\r' || (0x20 ≤ c.toNat && c.toNat != 0xFFFE && c.toNat != 0xFFFF)

def isNameStart (c : Char) : Bool := isWordStart c

def isNamePart (c : Char) : Bool := isWordPart c || c = '-' || c = '.'

/-- A name without a colon. -/
def plainName : List Char → Option (List Char × List Char)
  | c :: rest =>
    if isNameStart c then some (c :: rest.takeWhile isNamePart, rest.dropWhile isNamePart) else none
  | [] => none

/-- A name with the name of its space, which may be missing. -/
structure Name where
  space : List Char
  part : List Char
  deriving DecidableEq

def readName (cs : List Char) : Option (Name × List Char) := do
  let (first, rest) ← plainName cs
  match rest with
  | ':' :: rest =>
    let (second, rest) ← plainName rest
    return (⟨first, second⟩, rest)
  | _ => return (⟨[], first⟩, rest)

/-! ## References -/

/-- What stands for a character by its number or for an entity by its name. -/
inductive Reference where
  | char (c : Char)
  | entity (name : List Char)

/-- The value of digits in a base. -/
def digitsValue (base : Nat) (digits : List Char) : Option Nat :=
  if digits.isEmpty then none
  else (digits.mapM hexDigit?).bind fun ds =>
    if ds.all (· < base) then some (ds.foldl (fun n d => base * n + d) 0) else none

/-- The character with a number. -/
def charOf (n : Nat) : Option Char :=
  if h : n.isValidChar then
    let c := Char.ofNatAux n h
    if isLegal c then some c else none
  else none

/-- A reference behind its first mark. -/
def readReference (cs : List Char) : Option (Reference × List Char) :=
  let finish (body : List Char) : Option (List Char × List Char) :=
    match body.dropWhile (· != ';') with
    | _ :: after => some (body.takeWhile (· != ';'), after)
    | [] => none
  match cs with
  | '#' :: 'x' :: rest => do
    let (digits, after) ← finish rest
    return (.char (← (digitsValue 16 digits).bind charOf), after)
  | '#' :: rest => do
    let (digits, after) ← finish rest
    return (.char (← (digitsValue 10 digits).bind charOf), after)
  | _ => do
    let (name, after) ← plainName cs
    match after with
    | ';' :: after => return (.entity name, after)
    | _ => none

/-- Entities by name, each with its text. -/
abbrev Entities := List (List Char × List Char)

/-- The entities that need no declaration. -/
def predefined : List (List Char × Char) :=
  [("amp".toList, '&'), ("lt".toList, '<'), ("gt".toList, '>'), ("quot".toList, '"'),
    ("apos".toList, '\'')]

/-! ## Marks -/

/-- What stands before and behind the first occurrence of a text. -/
def cutAt (mark : List Char) : List Char → Option (List Char × List Char)
  | [] => none
  | c :: rest =>
    if mark.isPrefixOf (c :: rest) then some ([], (c :: rest).drop mark.length)
    else (cutAt mark rest).map fun (before, after) => (c :: before, after)

/-- What stands behind a comment whose beginning has been read. -/
def skipComment (cs : List Char) : Option (List Char) := do
  let (inner, rest) ← cutAt "--".toList cs
  if !inner.all isLegal then none
  behind ">" rest

/-- What stands behind an instruction whose beginning has been read. -/
def skipInstruction (cs : List Char) : Option (List Char) := do
  let (target, rest) ← plainName cs
  if lower (String.ofList target) = "xml" then none
  let (inner, after) ← cutAt "?>".toList rest
  if !(inner.isEmpty || inner.head?.any isSpace) || !inner.all isLegal then none
  return after

/-! ## Start tags -/

/-- The text of an attribute with its references replaced. The number bounds the replacements. -/
def attributeText (entities : Entities) : Nat → List Char → Option (List Char)
  | 0, _ => none
  | _, [] => some []
  | fuel + 1, '&' :: rest => do
    match ← readReference rest with
    | (.char c, after) => return c :: (← attributeText entities fuel after)
    | (.entity name, after) =>
      match predefined.lookup name with
      | some c => return c :: (← attributeText entities fuel after)
      | none => attributeText entities fuel ((← entities.lookup name) ++ after)
  | fuel + 1, c :: rest => do
    if c = '<' || !isLegal c then none
    return c :: (← attributeText entities fuel rest)

/-- How many steps the expansion of a text can take. -/
def expansionBound (entities : Entities) (cs : List Char) : Nat :=
  (cs.length + 2) * ((entities.flatMap (·.2)).length + entities.length + 2)

structure Attribute where
  name : Name
  value : List Char

/-- The attributes of a tag, each behind a blank. The number bounds them. -/
def attributes (entities : Entities) : Nat → List Char → Option (List Attribute × List Char)
  | 0, _ => none
  | fuel + 1, cs =>
    let rest := skipSpaces cs
    match rest with
    | '>' :: _ | '/' :: _ => some ([], rest)
    | _ => do
      if !cs.head?.any isSpace then none
      let (name, rest) ← readName rest
      let rest ← behind "=" (skipSpaces rest)
      let (raw, rest) ← quotedText (skipSpaces rest)
      let value ← attributeText entities (expansionBound entities raw) raw
      let (others, rest) ← attributes entities fuel rest
      return (⟨name, value⟩ :: others, rest)

/-- What is known where an element begins: entities, and name spaces with what they stand for. -/
structure Scope where
  entities : Entities
  spaces : List (List Char × List Char)

def spaceWord : List Char := "xmlns".toList

def xmlSpace : List Char × List Char :=
  ("xml".toList, "http://www.w3.org/XML/1998/namespace".toList)

def xmlnsAddress : List Char := "http://www.w3.org/2000/xmlns/".toList

/-- The name space that an attribute declares; `none` if it is not allowed to. -/
def declaredSpace (a : Attribute) : Option (List (List Char × List Char)) :=
  if a.name.space = spaceWord then
    if a.name.part = spaceWord || a.value.isEmpty || a.value = xmlnsAddress ||
        (a.name.part = xmlSpace.1) != (a.value = xmlSpace.2) then none
    else some [(a.name.part, a.value)]
  else if a.name = ⟨[], spaceWord⟩ && (a.value = xmlSpace.2 || a.value = xmlnsAddress) then none
  else some []

/-- The scope inside an element with some attributes. -/
def Scope.enter (s : Scope) (as : List Attribute) : Option Scope := do
  return { s with spaces := (← as.mapM declaredSpace).flatten ++ s.spaces }

/-- The full name of a name with a space. -/
def Scope.fullName (s : Scope) (n : Name) : Option (List Char × List Char) :=
  if n.space.isEmpty then some ([], n.part) else (s.spaces.lookup n.space).map (·, n.part)

/-- Are all names of a tag declared, and no two attributes the same? -/
def Scope.allows (s : Scope) (name : Name) (as : List Attribute) : Bool :=
  let plain := as.filter fun a => a.name.space != spaceWord
  match s.fullName name, plain.mapM fun a => s.fullName a.name with
  | some _, some names => (as.map (·.name)).Nodup && names.Nodup
  | _, _ => false

/-! ## Content -/

/-- What has been read inside an element: text before the first element, and elements, last first. -/
structure Content where
  text : Option (List Char)
  children : List Element

namespace Content

def empty : Content := ⟨none, []⟩

/-- Adds text, which is last first while it is collected. -/
def addText (c : Content) (cs : List Char) : Content :=
  if c.children.isEmpty && !cs.isEmpty then { c with text := some (cs.reverse ++ c.text.getD []) }
  else c

def addChild (c : Content) (e : Element) : Content := { c with children := e :: c.children }

/-- The element of a name with the content. -/
def close (c : Content) (name : Name) : Element :=
  .mk (String.ofList name.part) (c.text.map fun t => String.ofList t.reverse) c.children.reverse

end Content

/-- What stands behind the end of an element. -/
def endTag (name : Name) (cs : List Char) : Option (List Char) := do
  let rest ← behind "</" cs
  let (found, rest) ← readName rest
  if found != name then none
  behind ">" (skipSpaces rest)

mutual

/-- Reads an element behind its first mark. The number bounds the steps. -/
def element : Nat → Scope → List Char → Option (Element × List Char)
  | 0, _, _ => none
  | fuel + 1, s, cs => do
    let (name, rest) ← readName cs
    let (as, rest) ← attributes s.entities (rest.length + 1) rest
    let s ← s.enter as
    if !s.allows name as then none
    match rest with
    | '/' :: '>' :: rest => return (Content.empty.close name, rest)
    | '>' :: rest =>
      let (found, rest) ← content fuel s .empty rest
      return (found.close name, ← endTag name rest)
    | _ => none

/-- Reads content up to the next end of an element. -/
def content : Nat → Scope → Content → List Char → Option (Content × List Char)
  | 0, _, _, _ => none
  | _, _, c, [] => some (c, [])
  | fuel + 1, s, c, x :: cs =>
    match x, cs with
    | '<', '/' :: _ => some (c, x :: cs)
    | '<', '!' :: '-' :: '-' :: rest => do content fuel s c (← skipComment rest)
    | '<', '!' :: rest => do
      let (text, after) ← cutAt "]]>".toList (← behind "[CDATA[" rest)
      if !text.all isLegal then none
      content fuel s (c.addText text) after
    | '<', '?' :: rest => do content fuel s c (← skipInstruction rest)
    | '<', rest => do
      let (e, after) ← element fuel s rest
      content fuel s (c.addChild e) after
    | '&', rest => do
      match ← readReference rest with
      | (.char y, after) => content fuel s (c.addText [y]) after
      | (.entity name, after) =>
        match predefined.lookup name with
        | some y => content fuel s (c.addText [y]) after
        | none => content fuel s c ((← s.entities.lookup name) ++ after)
    | ']', ']' :: '>' :: _ => none
    | x, rest => if isLegal x then content fuel s (c.addText [x]) rest else none

end

/-! ## Document types -/

/-- The text that defines an entity, with references to characters replaced. The number bounds
them. -/
def entityText : Nat → List Char → Option (List Char)
  | 0, _ => none
  | _, [] => some []
  | fuel + 1, '&' :: rest => do
    match ← readReference rest with
    | (.char c, after) => return c :: (← entityText fuel after)
    | (.entity name, after) => return '&' :: name ++ ';' :: (← entityText fuel after)
  | fuel + 1, c :: rest => do
    if c = '%' || !isLegal c then none
    return c :: (← entityText fuel rest)

/-- Skips a declaration up to its end, texts between quotes passed over. -/
def skipDeclaration : Nat → List Char → Option (List Char)
  | 0, _ => none
  | _, [] => none
  | _, '>' :: rest => some rest
  | fuel + 1, c :: rest =>
    match quotedText (c :: rest) with
    | some (_, after) => skipDeclaration fuel after
    | none => if c = '"' || c = '\'' || c = '<' then none else skipDeclaration fuel rest

/-- Reads the declaration of an entity; only one with a text of its own adds to those known. -/
def entityDeclaration (entities : Entities) (cs : List Char) : Option (Entities × List Char) := do
  if !cs.head?.any isSpace then none
  let cs := skipSpaces cs
  match plainName cs with
  | none => return (entities, ← skipDeclaration (cs.length + 1) (← behind "%" cs))
  | some (name, rest) =>
    match quotedText (skipSpaces rest) with
    | some (raw, after) =>
      let text ← entityText (raw.length + 1) raw
      let after ← behind ">" (skipSpaces after)
      return (if (entities.lookup name).isSome then entities else entities ++ [(name, text)], after)
    | none => return (entities, ← skipDeclaration (rest.length + 1) rest)

/-- Reads the declarations inside a document type. The number bounds them. -/
def declarations : Nat → Entities → List Char → Option (Entities × List Char)
  | 0, _, _ => none
  | fuel + 1, entities, cs =>
    match skipSpaces cs with
    | ']' :: rest => some (entities, rest)
    | '%' :: rest => do
      let (_, rest) ← plainName rest
      declarations fuel entities (← behind ";" rest)
    | '<' :: '!' :: '-' :: '-' :: rest => do declarations fuel entities (← skipComment rest)
    | '<' :: '?' :: rest => do declarations fuel entities (← skipInstruction rest)
    | '<' :: '!' :: rest =>
      match behind "ENTITY" rest with
      | some rest => do
        let (entities, rest) ← entityDeclaration entities rest
        declarations fuel entities rest
      | none => do
        let known := ["ELEMENT", "ATTLIST", "NOTATION"].any fun w => (behind w rest).isSome
        if !known then none
        declarations fuel entities (← skipDeclaration (rest.length + 1) rest)
    | _ => none

/-- What stands behind a text between quotes, which itself stands behind a blank. -/
def skipQuoted (cs : List Char) : Option (List Char) := do
  if !cs.head?.any isSpace then none
  let (inner, rest) ← quotedText (skipSpaces cs)
  if !inner.all isLegal then none
  return rest

/-- What stands behind the place of a document type outside of the document. -/
def skipPlace (cs : List Char) : Option (List Char) :=
  match behind "SYSTEM" cs, behind "PUBLIC" cs with
  | some rest, _ => skipQuoted rest
  | none, some rest => do skipQuoted (← skipQuoted rest)
  | none, none => some cs

/-- Reads a document type behind its first word. -/
def documentType (cs : List Char) : Option (Entities × List Char) := do
  if !cs.head?.any isSpace then none
  let (_, rest) ← readName (skipSpaces cs)
  let rest := skipSpaces (← skipPlace (skipSpaces rest))
  match rest with
  | '[' :: rest =>
    let (entities, rest) ← declarations (rest.length + 1) [] rest
    return (entities, ← behind ">" (skipSpaces rest))
  | _ => return ([], ← behind ">" rest)

/-! ## Documents -/

/-- Skips blanks, comments and instructions. The number bounds them. -/
def skipMisc : Nat → List Char → Option (List Char)
  | 0, _ => none
  | fuel + 1, cs =>
    match skipSpaces cs with
    | '<' :: '!' :: '-' :: '-' :: rest => do skipMisc fuel (← skipComment rest)
    | '<' :: '?' :: rest => do skipMisc fuel (← skipInstruction rest)
    | rest => some rest

/-- The root element of the text of a document. -/
def readText (text : List Char) : Option Element := do
  let cs := unifyLineEnds text
  let bound := cs.length + 1
  let cs ← skipMisc bound cs
  let (entities, cs) ← match behind "<!DOCTYPE" cs with
    | some rest => documentType rest
    | none => some ([], cs)
  let cs ← skipMisc bound cs
  let (root, rest) ← element (expansionBound entities cs) ⟨entities, [xmlSpace]⟩ (← behind "<" cs)
  match ← skipMisc bound rest with
  | [] => return root
  | _ => none

/-- The root element of a document; `none` if it is malformed. -/
def read (bytes : List UInt8) : Option Element := (documentText bytes).bind readText

end CodeAtlas.Xml
