import CodeAtlas.Files.Disk
import CodeAtlas.Provider
import CodeAtlas.Order
import CodeAtlas.Regex.Match
import CodeAtlas.Regex.Reader
import CodeAtlas.Text.Utf8
import CodeAtlas.Xml.Reader

/-!
# Projects and their units

The build file at the top of a repository names its modules. Each of them is a project, and so is the
repository itself if it has sources of its own or no modules.
-/

namespace CodeAtlas.Compilation

open Files (Disk Entry Path)

/-! ## Names -/

def pomFile : String := "pom.xml"

/-- The files that build a project, in the order in which they stand for it. -/
def buildFiles : List String := [pomFile, "build.gradle.kts", "build.gradle"]

/-- The files that list the parts of a build. -/
def settingsFiles : List String := ["settings.gradle.kts", "settings.gradle"]

/-- Directories whose files are no sources. -/
def skippedDirectories : List String :=
  [".git", ".gradle", ".idea", "build", "target", "out", "node_modules"]

/-- The way from a project to its sources. -/
def sourcePath : List String := ["src", "main", "java"]

/-- The language of these units. -/
def language : String := "java"

/-- The directory of a project's sources. -/
def sourceRoot (directory : Path) : Path := directory.append ⟨"", sourcePath⟩

/-- The file that builds a project. -/
def buildFile? (disk : Disk) (directory : Path) : Option String :=
  buildFiles.find? fun name => disk.exists? (directory.child name)

/-- The text of a file. -/
def readText (disk : Disk) (path : Path) : Except Failure String :=
  match disk.read path with
  | none => .error .system
  | some bytes =>
    match Text.decode? bytes with
    | none => .error .notText
    | some cs => .ok (String.ofList (Text.unifyLineEnds cs))

/-! ## Parts of a build -/

/-- What takes a part of a build from the text that includes it. -/
def includePattern : String := "include\\s*\\(?\\s*[\"':]+([^\"')]+)[\"']\\s*\\)?"

/-- What takes the name of a build. -/
def namePattern : String := "rootProject\\.name\\s*=\\s*[\"']([^\"']+)[\"']"

/-- What the only group of a pattern takes in each match. -/
@[irreducible]
def takenBy (pattern text : String) : List String :=
  match Regex.read pattern with
  | .ok node => (node.findAll text).map (·.taken 1)
  | .error _ => []

/-- The directory of a part of a build by its name, whose pieces stand between colons. -/
def partDirectory (name : String) : String :=
  Text.replaceChar ':' '/' (String.ofList (name.toList.dropWhile (· = ':')))

/-- The directories that the first readable one of some files lists. -/
def listedParts (disk : Disk) (root : Path) : List String → Traced (List String)
  | [] => return []
  | file :: rest => do
    if !disk.exists? (root.child file) then return ← listedParts disk root rest
    match readText disk (root.child file) with
    | .ok text => return (takenBy includePattern text).map partDirectory
    | .error .system =>
      Traced.note (.subprojectsUnparsed file .system)
      listedParts disk root rest
    | .error f => Traced.fail f

/-- The root element of a project description. -/
def readPom (disk : Disk) (path : Path) : Except Cause Xml.Element :=
  match disk.read path with
  | none => .error .system
  | some bytes =>
    match Xml.read bytes with
    | some e => .ok e
    | none => .error .malformed

/-- The modules that the description at the top of a repository lists; a name may be missing. -/
def pomModules (disk : Disk) (root : Path) : Traced (List (Option String)) := do
  if !disk.exists? (root.child pomFile) then return []
  match readPom disk (root.child pomFile) with
  | .ok e => return (e.along ["modules", "module"]).map (·.value)
  | .error cause =>
    Traced.note (.modulesUnparsed cause)
    return []

/-- The directories of the parts of a build, as they are named. -/
def partNames (disk : Disk) (root : Path) : Traced (List (Option String)) := do
  match ← pomModules disk root with
  | [] => return (← listedParts disk root settingsFiles).map some
  | found => return found

/-- The directories among the parts of a build. -/
def partDirectories (disk : Disk) (root : Path) : List (Option String) → Except Failure (List Path)
  | [] => .ok []
  | none :: _ => .error .wrongType
  | some name :: rest => do
    let path := root.append (.ofText name)
    let others ← partDirectories disk root rest
    return if disk.isDirectory path then path :: others else others

/-! ## Names of projects -/

/-- The name that a project description gives. -/
def artifactName (disk : Disk) (path : Path) : Traced (Option String) := do
  match readPom disk path with
  | .error cause =>
    Traced.note (.artifactUnread path.text cause)
    return none
  | .ok e =>
    match e.along ["artifactId"] with
    | [] => return none
    | [a] => return a.value.filter (· != "")
    | _ => Traced.fail .repeated

/-- The name that the settings of a build give. -/
def settingsName (disk : Disk) (directory : Path) : List String → Except Failure (Option String)
  | [] => .ok none
  | file :: rest =>
    match readText disk (directory.child file) with
    | .error .system => settingsName disk directory rest
    | .error f => .error f
    | .ok text =>
      match takenBy namePattern text with
      | name :: _ => .ok (some name)
      | [] => settingsName disk directory rest

/-- The name of a project: from its description, from its settings, or else that of its directory. -/
def projectName (disk : Disk) (directory : Path) (build : Option String) : Traced String := do
  let described ← if build = some pomFile then artifactName disk (directory.child pomFile)
    else pure none
  match described with
  | some name => return name
  | none =>
    match ← Traced.ofExcept (settingsName disk directory settingsFiles) with
    | some name => return name
    | none => return directory.name

/-! ## Projects -/

/-- A path as seen from the directory `root`, which has to lead to it. -/
def relativeParts (root path : Path) : Except Failure (List String) :=
  if path.root = root.root && root.parts.isPrefixOf path.parts then
    .ok (path.parts.drop root.parts.length)
  else .error .badValue

/-- The project of a directory. -/
def projectAt (disk : Disk) (root directory : Path) : Traced Project := do
  let build := buildFile? disk directory
  let path ← match build with
    | some file => Files.pathText <$> Traced.ofExcept (relativeParts root (directory.child file))
    | none => pure ""
  return ⟨← projectName disk directory build, path, language, directory⟩

/-- The projects of the repository at `root` by their paths. -/
def findProjects (disk : Disk) (root : Path) : Traced (List Project) := do
  if (buildFile? disk root).isNone then return []
  let parts ← Traced.ofExcept (partDirectories disk root (← partNames disk root))
  let hasSources := disk.isDirectory (sourceRoot root)
  let directories := if parts.isEmpty || hasSources then root :: parts else parts
  return sortBy (compareOn (·.path)) (← directories.mapM (projectAt disk root))

/-! ## Units -/

/-- The files and directories of a tree with the ending of a unit, each with the way to it. -/
def unitEntries (top : Entry) : List (List String × Entry) :=
  (top.walk (fun _ _ => true) []).flatMap fun v =>
    (v.entry.children.filter fun e => Text.endsWith e.name ".java").map fun e =>
      (v.path ++ [e.name], e)

/-- The units of a project by their paths, each with the way to it from the repository. What cannot be
read is among them. -/
def unitsOf (disk : Disk) (root directory : Path) : List (List String × Entry) :=
  match disk.entry? (sourceRoot directory) with
  | none => []
  | some top =>
    let found := (unitEntries top).filter fun (path, _) => !path.any skippedDirectories.contains
    let front := (sourceRoot directory).parts.drop root.parts.length
    (sortBy (compareOn (·.1)) found).map fun (path, e) => (front ++ path, e)

end CodeAtlas.Compilation
