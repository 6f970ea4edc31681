import CodeAtlas.CommandLine.Run
import Std.Time.DateTime.Timestamp

/-!
# The tool

Reads those parts of the disk that a request is about, runs the request, and writes what it produces.
-/

namespace CodeAtlas.CommandLine

open Files (Disk Entry Path)

/-! ## Reading the disk -/

/-- How many directories deep the disk is read. -/
def deepest : Nat := 100

/-- The names in the directory at a path. -/
def readNames (path : String) : IO (List String) := do
  let place ← IO.FS.realPath path
  return (← place.readDir).toList.map (·.fileName)

/-- What lies at a path, down to some depth. What cannot be read is taken for a link to nothing. -/
def readEntry (name : String) : Nat → String → IO Entry
  | 0, _ => return .broken name
  | depth + 1, path => do
    match ← (readNames path).toBaseIO with
    | .ok names =>
      return .directory name (← names.mapM fun n => readEntry n depth (path ++ "/" ++ n))
    | .error _ =>
      match ← (IO.FS.readBinFile path).toBaseIO with
      | .ok bytes => return .file name bytes.toList
      | .error _ => return .broken name

/-- Adds what lies at a path to what is known of the disk. -/
def addPath (d : Disk) (p : Path) : IO Disk := do
  let p := d.resolve p
  return d.put p (← readEntry p.name deepest p.text)

/-- What a request needs to know. -/
def readSurroundings (r : Request) : IO Surroundings := do
  let cwd := Path.ofText (toString (← IO.currentDir))
  let settingsFile ← IO.getEnv "CD_INDEX_CONFIG"
  let named := (settingsFile.filter (· != "")).map Path.ofText
  let paths := r.root :: (r.settingsFile.toList ++ named.toList)
  let disk ← paths.foldlM addPath ⟨.directory "" [], cwd.parts⟩
  let now ← Std.Time.Timestamp.now
  return ⟨disk, settingsFile, ← IO.getEnv "SOURCE_DATE_EPOCH", now.toSecondsSinceUnixEpoch.val⟩

/-! ## Writing -/

/-- How notes speak of causes that are not this library's own. -/
def wording : Wording := ⟨"the system reports an error", "the text is malformed"⟩

def sayNote (r : Request) (n : Note) : IO Unit := do
  if r.level.rank ≤ n.level.rank then IO.eprintln (n.text wording)

/-- Writes a file with the directories above it. -/
def writeText (path : Path) (text : String) : IO Unit := do
  IO.FS.createDirAll path.parent.text
  IO.FS.writeFile path.text text

/-- Writes the text of an index where the request wants it. -/
def writeProduct (r : Request) (text : String) : IO Exit := do
  match r.output with
  | none =>
    IO.print text
    return .ok
  | some path =>
    match ← (writeText path text).toBaseIO with
    | .ok _ =>
      sayNote r (.generated path.text)
      return .ok
    | .error _ =>
      sayNote r Request.unwritten
      return .unwritten

/-- Runs a request. A failure that has no exit code of its own ends with 1. -/
def perform (r : Request) : IO UInt32 := do
  let x := r.produce (← readSurroundings r)
  for n in x.notes do
    sayNote r n
  match x.result with
  | .ok (.text text) => return (← writeProduct r text).code.toUInt32
  | .ok (.stopped exit) => return exit.code.toUInt32
  | .error f =>
    IO.eprintln (f.message?.getD ((Cause.ofFailure f).text wording))
    return 1

end CodeAtlas.CommandLine

/-- Runs the command line. -/
def main (args : List String) : IO UInt32 := do
  match CodeAtlas.CommandLine.Request.read args with
  | .ok r => CodeAtlas.CommandLine.perform r
  | .error (.asked question) =>
    IO.print question.answer
    return CodeAtlas.CommandLine.Exit.ok.code.toUInt32
  | .error (.refused fault) =>
    IO.eprintln fault.report
    return CodeAtlas.CommandLine.Exit.refused.code.toUInt32
