import CodeAtlas.Module.Commands
import CodeAtlas.Module.Indexing
import CodeAtlas.Module.Projects
import CodeAtlas.Module.Resolve
import CodeAtlas.Text.Utf8

/-!
# Answers about modules

All modules of a repository are read into a `Library`, from which a provider answers: what a project
declares, which calls a function makes and what they refer to, and where names of the environment
and other texts are written out.
-/

namespace CodeAtlas.Module

open Files (Entry Path pathText)

/-! ## Reading -/

/-- All modules of a repository. -/
structure Library where
  /-- Every module that could be read, at the place of its number. -/
  sources : List Source
  /-- Modules by name; of those with the same name the first. -/
  table : Table
  /-- The modules of each project. -/
  byProject : List (ProjectRef × List Source)
  /-- What reading reports. -/
  notes : List Note

namespace Library

def empty : Library := ⟨[], [], [], []⟩

/-- The statements of a file; `none` if it is malformed. -/
def readFile (f : ModuleFile) : Option (List Stmt) :=
  (Text.decode? f.content).bind fun cs => readModule (Text.unifyLineEnds cs)

/-- Adds a module that has been read. -/
def addSource (l : Library) (s : Source) : Library :=
  match l.table.lookup s.name with
  | some kept =>
    { l with sources := l.sources ++ [s], notes := l.notes ++ [.moduleTwice s.name kept.path] }
  | none => { l with sources := l.sources ++ [s], table := l.table ++ [(s.name, s)] }

/-- Reads a file, with what it holds if it can be read. -/
def addFile (l : Library) (f : ModuleFile) : Library × Option Source :=
  let path := pathText f.path
  match readFile f with
  | none => ({ l with notes := l.notes ++ [.unparseableModule path .malformed] }, none)
  | some body =>
    let s := sourceOf l.sources.length f.name path body
    (l.addSource s, some s)

/-- Reads some files, with what they hold. -/
def addFiles : Library → List ModuleFile → Library × List Source
  | l, [] => (l, [])
  | l, f :: rest =>
    let (l, s) := l.addFile f
    let (l, others) := l.addFiles rest
    (l, s.toList ++ others)

/-- Reads the modules of a project. -/
def addProject (l : Library) (p : ProjectRef) (files : List ModuleFile) : Library :=
  let (l, found) := l.addFiles files
  { l with byProject := Assoc.put p found l.byProject }

/-- The modules of a project. -/
def modules (l : Library) (p : Project) : List Source := (l.byProject.lookup p.ref).getD []

/-- The function that a reference stands for. -/
def caller? (l : Library) (r : FunctionRef) : Option Caller :=
  (l.sources[r.source]?).bind fun s => (s.function? r.function).map fun f => ⟨s, f⟩

end Library

/-- The files of a project in the repository `top`, which lies at `root`. -/
def filesOf (root : Path) (top : Entry) (p : Project) : List ModuleFile :=
  let path := p.directory.parts.drop root.parts.length
  ((top.descend? path).map (modulesOf path)).getD []

/-- Reads the modules of some projects. -/
def Library.ofProjects (root : Path) (top : Entry) (projects : List Project) : Library :=
  projects.foldl (fun l p => l.addProject p.ref (filesOf root top p)) .empty

/-! ## Functions and calls -/

/-- A call with the function that makes it. -/
structure CallRef where
  caller : FunctionRef
  call : Call

/-- The function that runs where a function is called. -/
def Caller.running (c : Caller) : Caller :=
  match (c.source.links.lookup c.function.number).bind c.source.function? with
  | some f => ⟨c.source, f⟩
  | none => c

/-- The calls in the body of a function. -/
def Function.calls (f : Function) : List Call := (Node.stmts f.body).flatMap Node.calls

/-- A call as it is shown. -/
def showCall (caller : FunctionRef) (c : Call) : Except Failure (CallSite CallRef) :=
  match c.func.text? with
  | some text => .ok ⟨text, c.argCount, some c.line, ⟨caller, c⟩⟩
  | none => .error .badValue

namespace Library

/-- The calls that a method makes. -/
def callSites (l : Library) (m : Target) : Except Failure (List (CallSite CallRef)) :=
  match m.handle.bind l.caller? with
  | none => .ok []
  | some c =>
    let c := c.running
    c.function.calls.mapM (showCall ⟨c.source.number, c.function.number⟩)

/-- What a call refers to. -/
def resolve (l : Library) (c : CallSite CallRef) : Except Failure (Option Target) :=
  match l.caller? c.handle.caller with
  | some caller => caller.resolve l.table c.handle.call
  | none => .ok none

end Library

/-! ## Other answers -/

/-- Does the condition hold just where the module is run itself? -/
def Expr.isMainGuard : Expr → Bool
  | .compare left [.eq] [right] =>
    let sides := [left, right]
    sides.any (fun e => match e with
      | .name "__name__" _ => true
      | _ => false) &&
      sides.any (·.literalText = some "__main__")
  | _ => false

/-- The place where a statement starts a program. -/
def guardAt (s : Source) : Stmt → Option Entrypoint
  | .branch line test _ _ =>
    if test.isMainGuard then some ⟨s.path, line, some s.name, "main-guard"⟩ else none
  | _ => none

/-- The name of the file that is run where a package is. -/
def mainFile : String := "__main__.py"

/-- The places where a module starts a program. -/
def Source.entrypoints (s : Source) : List Entrypoint :=
  let start : Entrypoint := ⟨s.path, 1, some s.name, "main-module"⟩
  (if Text.afterLast '/' s.path = mainFile then [start] else []) ++ s.body.filterMap (guardAt s)

/-- The functions that look a name up in the environment. -/
def accessors : List String := ["os.getenv", "os.environ.get", "os.environ.setdefault", "os.environ.pop"]

/-- The mapping that holds the environment. -/
def environment : String := "os.environ"

/-- The name that a node looks up in the environment. -/
def Source.lookedUp (s : Source) : Node → Option String
  | .expr (.call _ func (key :: _) _) =>
    match func.dotted? with
    | some dotted => if accessors.contains (s.qualify dotted) then key.filledText else none
    | none => none
  | .expr (.subscript value index) =>
    match value.dotted? with
    | some dotted => if s.qualify dotted = environment then index.filledText else none
    | none => none
  | _ => none

/-- The text that a node writes out. -/
def Node.literalText : Node → Option String
  | .expr e => e.literalText
  | _ => none

/-- All nodes of a module, level by level. -/
def Source.nodes (s : Source) : List Node := walkFrom (Node.stmts s.body)

/-! ## The provider -/

/-- Answers about the projects of a repository. -/
def Library.provider (l : Library) (projects : List Project) :
    Provider (Option FunctionRef) CallRef where
  language := language
  sourceNotes := l.notes
  projects := .ok projects
  declarations := fun p => .ok ((l.modules p).flatMap fun s => s.visible.map (targetOf s))
  callSites := l.callSites
  resolve := l.resolve
  entrypoints := fun p => .ok ((l.modules p).flatMap (·.entrypoints))
  commands := fun p => .ok ((l.modules p).flatMap (·.commands))
  envLookups := fun p => .ok ((l.modules p).flatMap fun s => s.nodes.filterMap s.lookedUp)
  literals := fun p => .ok ((l.modules p).flatMap fun s => s.nodes.filterMap Node.literalText)

/-- The provider for the modules of the repository `top`, which lies at `root`. -/
def provide (root : Path) (top : Entry) : Traced (Provider (Option FunctionRef) CallRef) := do
  let projects ← findProjects root top
  return (Library.ofProjects root top projects).provider projects

end CodeAtlas.Module
