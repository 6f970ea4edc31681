import CodeAtlas.Compilation.Indexing
import CodeAtlas.Index

/-!
# Commands of a compilation unit

A type with an annotation that names a command declares one. Annotated fields are its options and
arguments.
-/

namespace CodeAtlas.Compilation

/-! ## Annotations -/

/-- The quotes of a text that can go over lines. -/
def blockQuotes : String := "\"\"\""

/-- What stands between the quotes of a text on one line. -/
def quotedText (text : String) : Option String :=
  if Text.startsWith text blockQuotes || text.length < 2 then none
  else some (Text.dropLastChars 1 (Text.dropChars 1 text))

/-- What stands between the quotes of a text on one line, unless it is empty. -/
def filledText (text : String) : Option String := (quotedText text).filter (· != "")

namespace Node

/-- The annotations of a declaration. -/
def annotations (n : Node) : List Node := n.modifierNodes.filter (·.kind = .annotated)

/-- The last part of the name of an annotation. -/
def annotationName (n : Node) : String := Text.afterLast '.' (n.partText .name)

mutual

/-- The texts in the value of an element. -/
def elementTexts : Node → List String
  | leaf _ kind t => if kind = .text then (filledText t.text).toList else []
  | branch _ kind children => if kind = .elementList then elementTextsOf children else []

def elementTextsOf : List Node → List String
  | [] => []
  | n :: rest => n.elementTexts ++ elementTextsOf rest

end

/-- The texts of the named elements of an annotation. -/
def elements (n : Node) : List (String × List String) :=
  let given := ((n.child? .arguments).map (·.children)).getD []
  (given.filter (·.kind = .element)).foldl (fun found e =>
    match e.child? .value with
    | some value => Assoc.put (e.partText .key) value.elementTexts found
    | none => found) []

/-- The texts of one element of an annotation. -/
def element (n : Node) (key : String) : List String := (n.elements.lookup key).getD []

end Node

/-! ## Commands -/

/-- The options that an annotated field declares. -/
def fieldOptions (field : Node) : List String :=
  (field.annotations.filter (·.annotationName = "Option")).flatMap fun a =>
    (a.element "names").filter (Text.startsWith · "--")

/-- The name of a field, the first if there are several. -/
def fieldName (field : Node) : Option String :=
  ((field.child? .declarator).bind (·.child? .name)).map (·.text)

/-- The arguments that an annotated field declares, under their labels or its name. -/
def fieldArguments (field : Node) : List String :=
  (field.annotations.filter (·.annotationName = "Parameters")).filterMap fun a =>
    (a.element "paramLabel").head?.or (fieldName field)

/-- The fields that stand directly in the body of a type. -/
def fieldNodes (t : TypeDecl) : List Node :=
  ((t.node.child? .body).map (·.children.filter (·.kind = .fields))).getD []

/-- The command that a type declares. Of several annotations the last counts. -/
def commandOf (s : Source) (t : TypeDecl) : Option Command := do
  let a ← (t.node.annotations.filter (·.annotationName = "Command")).getLast?
  let name ← (a.element "name").head?
  return {
    name
    aliases := sortedSet (a.element "aliases")
    options := sortedSet ((fieldNodes t).flatMap fieldOptions)
    arguments := sortedSet ((fieldNodes t).flatMap fieldArguments)
    file := s.path
    line := t.line }

/-- The commands that a unit declares. -/
def Source.commands (s : Source) : List Command := s.heldTypes.filterMap (commandOf s)

end CodeAtlas.Compilation
