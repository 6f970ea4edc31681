import CodeAtlas.Files.Entry
import CodeAtlas.Module.Declaration
import CodeAtlas.Provider
import CodeAtlas.Toml.Document

/-!
# Projects and their modules

A directory with a packaging file holds a project. Its modules are its top-level files and, below
them, the files of packages, which are directories with a package file. A repository without any
packaging file is one project if it has modules at all.
-/

namespace CodeAtlas.Module

open Files (Entry Path pathText)

/-! ## Names -/

/-- The files that mark a project, in the order in which they stand for it. -/
def markers : List String := ["pyproject.toml", "setup.cfg", "setup.py", "pixi.toml"]

/-- Directories in which no project is looked for and that are no top-level packages. -/
def skippedDirectories : List String :=
  [".git", ".github", ".tox", ".venv", "venv", ".eggs", ".mypy_cache", ".pytest_cache",
    "__pycache__", "node_modules", "build", "dist", "docs", "doc", "tests", "test", "scripts", "bin",
    "examples", "target"]

/-- Top-level files that serve as tools. -/
def toolFiles : List String := ["setup.py", "conftest.py", "noxfile.py", "fabfile.py"]

def cacheDirectory : String := "__pycache__"

/-- The directory in which a project can keep its modules. -/
def sourceDirectory : String := "src"

/-- Is this the name of a file with tests? -/
def isTestFile (name : String) : Bool := Text.startsWith name "test_" || Text.endsWith name "_test.py"

/-- Is there something under a name? -/
def holds (e : Entry) (name : String) : Bool := (e.child? name).any (·.exists?)

/-- The packaging file that stands for a directory. -/
def marker? (e : Entry) : Option String := markers.find? (holds e)

/-! ## Modules -/

/-- A file with the name of its module and the way to it from the repository. -/
structure ModuleFile where
  path : List String
  name : String
  content : List UInt8

/-- Is the entry a file with a module? -/
def isModuleFile (e : Entry) : Bool := e.isFile && Files.suffix e.name = ".py"

/-- Is the entry a package? -/
def isPackage (e : Entry) : Bool := e.isDirectory && holds e packageFile

/-- The name of the module in a file of a package. -/
def memberName (package file : String) : String :=
  if file = packageFile then package else package ++ "." ++ Files.stem file

mutual

/-- The modules of a package in the order of its files and directories. -/
def packageModules (path : List String) (package : String) : Entry → List ModuleFile
  | .directory _ children =>
    ((packageParts path package children).mergeSort fun a b => a.1 ≤ b.1).flatMap (·.2)
  | _ => []

/-- The modules under each of some names of a package. -/
def packageParts (path : List String) (package : String) :
    List Entry → List (String × List ModuleFile)
  | [] => []
  | e :: rest =>
    let found :=
      if isModuleFile e then
        [ModuleFile.mk (path ++ [e.name]) (memberName package e.name) (e.content?.getD [])]
      else if e.name != cacheDirectory && isPackage e then
        packageModules (path ++ [e.name]) (package ++ "." ++ e.name) e
      else []
    (e.name, found) :: packageParts path package rest

end

/-- The modules under one name at the top of a project's sources. -/
def topModules (path : List String) (e : Entry) : List ModuleFile :=
  if isModuleFile e then
    if toolFiles.contains e.name || isTestFile e.name then []
    else [⟨path ++ [e.name], Files.stem e.name, e.content?.getD []⟩]
  else if isPackage e && !skippedDirectories.contains e.name && (marker? e).isNone then
    packageModules (path ++ [e.name]) e.name e
  else []

/-- The directory in which the names of a project's modules begin, and the way to it. -/
def sourceRoot (path : List String) (project : Entry) : List String × Entry :=
  match project.child? sourceDirectory with
  | some e => if e.isDirectory then (path ++ [sourceDirectory], e) else (path, project)
  | none => (path, project)

/-- The modules of a project in order. -/
def modulesOf (path : List String) (project : Entry) : List ModuleFile :=
  let (path, root) := sourceRoot path project
  root.sortedChildren.flatMap (topModules path)

/-! ## Projects -/

/-- A member of what has to be a table; an absent table is empty. -/
def memberOfTable (v : Option Toml.Value) (key : String) : Except Failure (Option Toml.Value) :=
  match v with
  | none => .ok none
  | some (.table t) => .ok (t.lookup key)
  | some _ => .error .wrongShape

/-- The name in a packaging file, of which an empty one does not count. -/
def namedIn (t : Toml.Table) : Except Failure (Option Toml.Value) := do
  match (← memberOfTable (t.lookup "project") "name").filter (·.isFilled) with
  | some v => return some v
  | none =>
    let tool ← memberOfTable (t.lookup "tool") "poetry"
    return (← memberOfTable tool "name").filter (·.isFilled)

/-- The name of a distribution as that of a package. -/
def packageName (name : String) : String := Text.replaceChar '-' '_' name

/-- A name from a packaging file as that of a package. -/
def readName : Toml.Value → Except Failure String
  | .text s => .ok (packageName s)
  | .moment => .error .wrongType
  | _ => .error .wrongShape

/-- The name that one packaging file of a project gives. -/
def nameFrom (directory : Path) (project : Entry) (file : String) : Traced (Option String) := do
  let path := (directory.child file).text
  match (project.child? file).filter (·.exists?) with
  | none => return none
  | some e =>
    match e.content?.map Toml.readBytes with
    | none =>
      Traced.note (.unreadable path .system)
      return none
    | some (.error _) =>
      Traced.note (.unreadable path .malformed)
      return none
    | some (.ok t) =>
      match ← Traced.ofExcept (namedIn t) with
      | some v => return some (← Traced.ofExcept (readName v))
      | none => return none

/-- The name of a project: from its packaging files, or else that of its directory. -/
def projectName (directory : Path) (project : Entry) : Traced String := do
  match ← nameFrom directory project "pixi.toml" with
  | some name => return name
  | none =>
    match ← nameFrom directory project "pyproject.toml" with
    | some name => return name
    | none => return packageName directory.name

/-- The language of these modules. -/
def language : String := "python"

/-- The project of a directory, if it is one. -/
def projectAt (root : Path) (v : Files.Visit) : Traced (Option Project) := do
  match marker? v.entry with
  | none => return none
  | some marker =>
    let directory := root.append ⟨"", v.path⟩
    return some ⟨← projectName directory v.entry, pathText (v.path ++ [marker]), language, directory⟩

/-- The projects in the repository `top`, which lies at `root`. -/
def findProjects (root : Path) (top : Entry) : Traced (List Project) := do
  let entered (_ : List String) (name : String) :=
    !skippedDirectories.contains name && !Text.startsWith name "."
  let found := (← (top.walk entered []).mapM (projectAt root)).filterMap id
  if found.isEmpty && !(modulesOf [] top).isEmpty then
    return [⟨packageName root.name, "", language, root⟩]
  return found

end CodeAtlas.Module
