import CodeAtlas.Order
import CodeAtlas.Text.Case

/-!
# The index of a repository

The sections that an index can have, each absent unless it was asked for and found something, and
the records in them.
-/

namespace CodeAtlas

/-- How a project is referred to. -/
structure ProjectRef where
  name : String
  path : String
  deriving DecidableEq, Repr, Inhabited

structure ProjectEntry where
  name : String
  path : String
  language : Option String
  deriving DecidableEq, Repr

/-- A file of the repository with its number of lines and the digest of its text. -/
structure FileEntry where
  path : String
  kind : String
  lineCount : Int
  digest : String
  deriving DecidableEq, Repr

/-- A place where a program starts. -/
structure Entrypoint where
  file : String
  line : Int
  typeName : Option String
  kind : String
  deriving DecidableEq, Repr

structure ProjectEntrypoints where
  project : ProjectRef
  entrypoints : List Entrypoint
  deriving DecidableEq, Repr

/-- A command of a command line, as the source declares it. -/
structure Command where
  name : String
  aliases : List String
  options : List String
  arguments : List String
  file : String
  line : Int
  deriving DecidableEq, Repr

/-- A call between two canonical identities. -/
structure Edge where
  caller : String
  callee : String
  deriving DecidableEq, Repr

/-- Edges are ordered by caller, then by callee. -/
instance : Ord Edge := ⟨compareLex (compareOn (·.caller)) (compareOn (·.callee))⟩

/-- The calls found from one root. -/
structure Callgraph where
  root : String
  depth : Int
  truncated : Bool
  edges : List Edge
  deriving DecidableEq, Repr

structure ProjectCallgraphs where
  project : ProjectRef
  graphs : List Callgraph
  deriving DecidableEq, Repr

structure Meta where
  version : String
  schema : String
  generatedAt : String
  deriving DecidableEq, Repr

structure Index where
  about : Meta
  projects : List ProjectEntry
  tree : Option (List FileEntry)
  entrypoints : Option (List ProjectEntrypoints)
  commands : Option (List Command)
  /-- Names of environment variables. -/
  configs : Option (List String)
  callgraphs : Option (List ProjectCallgraphs)
  deriving DecidableEq, Repr

/-! ## Orders -/

def ProjectRef.order : ProjectRef → ProjectRef → Ordering :=
  compareLex (compareOn (·.name)) (compareOn (·.path))

def ProjectEntry.order : ProjectEntry → ProjectEntry → Ordering :=
  compareLex (compareOn (·.name)) (compareOn (·.path))

/-- Files are ordered without regard to case first. -/
def FileEntry.order : FileEntry → FileEntry → Ordering :=
  compareLex (compareOn fun f => Text.lower f.path) (compareOn (·.path))

def Entrypoint.order : Entrypoint → Entrypoint → Ordering :=
  compareLex (compareOn (·.file)) (compareOn (·.line))

def ProjectEntrypoints.order (a b : ProjectEntrypoints) : Ordering := a.project.order b.project

def Command.order : Command → Command → Ordering :=
  compareLex (compareOn (·.name)) (compareLex (compareOn (·.file)) (compareOn (·.line)))

def Callgraph.order : Callgraph → Callgraph → Ordering := compareOn (·.root)

def ProjectCallgraphs.order (a b : ProjectCallgraphs) : Ordering := a.project.order b.project

end CodeAtlas
