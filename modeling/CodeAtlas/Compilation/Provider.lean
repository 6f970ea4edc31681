import CodeAtlas.Compilation.Commands
import CodeAtlas.Compilation.Grammar
import CodeAtlas.Compilation.Projects
import CodeAtlas.Compilation.Resolve

/-!
# Answers about compilation units

All units of a repository are read into a `Library`, from which a provider answers.
-/

namespace CodeAtlas.Compilation

open Files (Disk Entry Path)

/-! ## Reading -/

/-- All units of a repository. -/
structure Library where
  /-- Every unit, at the place of its number. -/
  sources : List Source
  /-- The units of each project. -/
  byProject : List (ProjectRef × List Source)
  /-- What reading reports. -/
  notes : List Note

namespace Library

def empty : Library := ⟨[], [], []⟩

/-- Reads a file, with what it holds if it can be read. -/
def addFile (l : Library) (path : String) (e : Entry) : Library × Option Source :=
  match e.content? with
  | none => ({ l with notes := l.notes ++ [.unparseableUnit path .system] }, none)
  | some bytes =>
    let s := sourceOf l.sources.length path (readUnit (Text.decodeLossy bytes))
    ({ l with sources := l.sources ++ [s] }, some s)

/-- Reads some files, with what they hold. -/
def addFiles : Library → List (List String × Entry) → Library × List Source
  | l, [] => (l, [])
  | l, (path, e) :: rest =>
    let (l, s) := l.addFile (Files.pathText path) e
    let (l, others) := l.addFiles rest
    (l, s.toList ++ others)

/-- Reads the units of a project. -/
def addProject (l : Library) (p : ProjectRef) (files : List (List String × Entry)) : Library :=
  let (l, found) := l.addFiles files
  { l with byProject := Assoc.put p found l.byProject }

/-- Reads the units of some projects. -/
def ofProjects (disk : Disk) (root : Path) (projects : List Project) : Library :=
  projects.foldl (fun l p => l.addProject p.ref (unitsOf disk root p.directory)) .empty

/-- The units of a project. -/
def units (l : Library) (p : Project) : List Source := (l.byProject.lookup p.ref).getD []

/-- The method that a reference stands for. -/
def caller? (l : Library) (r : CallableRef) : Option Caller :=
  (l.sources[r.source]?).bind fun s => (s.callable? r.callable).map fun c => ⟨s, c⟩

end Library

/-! ## Calls -/

/-- A call with the method that makes it. -/
structure CallRef where
  caller : CallableRef
  node : Node

def Node.isCall (n : Node) : Bool :=
  n.kind = .call || n.kind = .creation || n.kind = .constructorCall

/-- The target of a call as it is written. -/
def callText (n : Node) : String :=
  if n.kind = .creation then "new " ++ n.partText .type
  else
    let start := n.children.takeWhile (·.role != .arguments)
    let gap := ((n.child? .arguments).bind (·.first?)).map (·.before)
    Text.strip (textOf (start.flatMap Node.tokens) ++ gap.getD "")

/-- The calls in the body of a method, each before those inside it. -/
def Callable.calls (c : Callable) : List Node :=
  ((c.node.child? .body).map fun body => body.walk.filter Node.isCall).getD []

namespace Library

/-- The calls that a method makes. -/
def callSites (l : Library) (m : Target) : List (CallSite CallRef) :=
  match m.handle.bind fun r => (l.caller? r).map (r, ·) with
  | none => []
  | some (r, c) => c.callable.calls.map fun n => ⟨callText n, n.argCount, some n.line, ⟨r, n⟩⟩

/-- What a call refers to. -/
def resolve (l : Library) (table : Table) (c : CallSite CallRef) : Option Target :=
  (l.caller? c.handle.caller).bind fun caller => caller.resolve table c.handle.node

end Library

/-! ## Other answers -/

/-- The ways to write the type of the parameter of a method that starts a program. -/
def startParams : List String := ["String[]", "String..."]

/-- Does a method start a program? -/
def Callable.isStart (c : Callable) : Bool :=
  c.name = "main" && c.isStatic &&
    match c.paramTypes with
    | [type] => startParams.contains (String.ofList (type.toList.filter (· != ' ')))
    | _ => false

/-- The places where a unit starts a program. -/
def Source.entrypoints (s : Source) : List Entrypoint :=
  (s.declarations.filter (·.isStart)).map fun c =>
    ⟨s.path, c.line, some (s.ownerName c), "main-method"⟩

/-- The ways to write the type that holds the environment. -/
def systemNames : List String := ["System", "java.lang.System"]

/-- The name that a node looks up in the environment. -/
def Node.lookedUp (n : Node) : Option String :=
  if n.kind = .call && systemNames.contains (n.partText .receiver) &&
      n.partText .name = "getenv" then
    match ((n.child? .arguments).map (·.members)).getD [] with
    | key :: _ => if key.kind = .text then filledText key.text else none
    | [] => none
  else none

/-- The names that a unit looks up in the environment. -/
def Source.envLookups (s : Source) : List String := s.tree.walk.filterMap Node.lookedUp

/-- The texts on one line that a unit writes out. -/
def Source.literals (s : Source) : List String :=
  (s.tree.tokens.filter (·.shape = .text)).filterMap fun t => quotedText t.text

/-! ## The provider -/

/-- Answers about the projects of a repository. -/
def Library.provider (l : Library) (projects : List Project) :
    Provider (Option CallableRef) CallRef where
  language := language
  sourceNotes := l.notes
  projects := .ok projects
  declarations := fun p =>
    .ok ((l.units p).flatMap fun s => s.declarations.map (targetOf s))
  callSites := fun m => .ok (l.callSites m)
  resolve := fun c => .ok (l.resolve (Table.ofSources l.sources) c)
  entrypoints := fun p => .ok ((l.units p).flatMap (·.entrypoints))
  commands := fun p => .ok ((l.units p).flatMap (·.commands))
  envLookups := fun p => .ok ((l.units p).flatMap (·.envLookups))
  literals := fun p => .ok ((l.units p).flatMap (·.literals))

/-- The provider for the units of the repository at `root`. -/
def provide (disk : Disk) (root : Path) : Traced (Provider (Option CallableRef) CallRef) := do
  let projects ← findProjects disk root
  return (Library.ofProjects disk root projects).provider projects

end CodeAtlas.Compilation
