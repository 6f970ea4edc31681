import CodeAtlas.Failure
import CodeAtlas.Index
import CodeAtlas.Json.Value

/-!
# The written index

The value as which an index is written, with every list in its final order whatever the order in the
index, and the text of that value. Sections that hold nothing are left out.
-/

namespace CodeAtlas

open Json (Value)

namespace Report

/-! ## Records -/

def ofRef (r : ProjectRef) : Value :=
  .object [("name", .text r.name), ("relativePath", .text r.path)]

/-- The language shows only if it is known. -/
def ofProject (p : ProjectEntry) : Value :=
  .object ([("name", .text p.name), ("path", .text p.path)] ++
    match p.language with
    | some l => if l = "" then [] else [("language", .text l)]
    | none => [])

def ofFile (f : FileEntry) : Value :=
  .object [("path", .text f.path), ("kind", .text f.kind), ("loc", .int f.lineCount),
    ("sha256", .text f.digest)]

def ofEntrypoint (e : Entrypoint) : Value :=
  .object ([("file", .text e.file), ("line", .int e.line), ("kind", .text e.kind)] ++
    match e.typeName with
    | some t => [("typeName", .text t)]
    | none => [])

def ofEntrypoints (s : ProjectEntrypoints) : Value :=
  .object [("project", ofRef s.project),
    ("entrypoints", .array ((sortBy Entrypoint.order s.entrypoints).map ofEntrypoint))]

/-- Texts in ascending order. -/
def sortedTexts (xs : List String) : Value := .array ((sortBy compare xs).map .text)

def ofCommand (c : Command) : Value :=
  .object [("name", .text c.name), ("aliases", sortedTexts c.aliases),
    ("options", sortedTexts c.options), ("arguments", sortedTexts c.arguments),
    ("file", .text c.file), ("line", .int c.line)]

def ofEdge (e : Edge) : Value := .object [("caller", .text e.caller), ("callee", .text e.callee)]

def ofCallgraph (g : Callgraph) : Value :=
  .object [("root", .text g.root), ("depth", .int g.depth), ("truncated", .bool g.truncated),
    ("edges", .array ((sortBy compare g.edges).map ofEdge))]

def ofCallgraphs (p : ProjectCallgraphs) : Value :=
  .object [("project", ofRef p.project),
    ("graphs", .array ((sortBy Callgraph.order p.graphs).map ofCallgraph))]

/-! ## Sections -/

/-- A section under its name, unless it holds nothing. -/
def sectionOf {α : Type} (name : String) (order : α → α → Ordering) (sh : α → Value)
    (found : List α) : List (String × Value) :=
  if found.isEmpty then [] else [(name, .array ((sortBy order found).map sh))]

/-- The names of environment variables, each once. -/
def configSection (keys : List String) : List (String × Value) :=
  if keys.isEmpty then []
  else [("configs", .object [("envKeys", .array ((sortedSet keys).map .text))])]

/-- The sections in the order in which they are written. -/
def sections (index : Index) : List (String × Value) :=
  sectionOf "projects" ProjectEntry.order ofProject index.projects ++
    sectionOf "tree" FileEntry.order ofFile (index.tree.getD []) ++
    sectionOf "entrypoints" ProjectEntrypoints.order ofEntrypoints (index.entrypoints.getD []) ++
    sectionOf "commands" Command.order ofCommand (index.commands.getD []) ++
    configSection (index.configs.getD []) ++
    sectionOf "callgraphs" ProjectCallgraphs.order ofCallgraphs
      ((index.callgraphs.getD []).filter fun p => !p.graphs.isEmpty)

/-- What is said about the index itself; the names of its sections stand in ascending order. -/
def ofMeta (about : Meta) (sectionNames : List String) : Value :=
  .object [("version", .text about.version), ("schemaVersion", .text about.schema),
    ("generatedAt", .text about.generatedAt), ("sections", sortedTexts sectionNames)]

/-- The value as which an index is written. -/
def ofIndex (index : Index) : Value :=
  let found := sections index
  .object (("meta", ofMeta index.about (found.map (·.1))) :: found)

end Report

/-- The text of an index: on one line, or spread over many. -/
def Index.render (index : Index) (compact : Bool) : String :=
  let value := Report.ofIndex index
  String.ofList ((if compact then value.compact else value.spread 0) ++ ['\n'])

/-- The text of an index, unless a number in it is too long. -/
def Index.write (index : Index) (compact : Bool) : Except Failure String :=
  if (Report.ofIndex index).numbers.all Json.fits then .ok (index.render compact)
  else .error .badValue

end CodeAtlas
