import CodeAtlas.Files.Disk
import CodeAtlas.Settings.Read
import CodeAtlas.Toml.Document

/-!
# Finding the settings

Settings come from a file that is given, or else from the first of these that has them:
`cd-index.toml` and `.cd-index.toml` in the repository, the table for this tool in its
`pyproject.toml`, and the file that the environment names. A file that cannot be read or is
malformed leaves the defaults.
-/

namespace CodeAtlas

open Files (Disk Path)

/-- What a run knows of its surroundings beside the disk. -/
structure Surroundings where
  disk : Disk
  /-- A file with settings, named by the environment. -/
  settingsFile : Option String
  /-- The moment that the environment gives for the time of the run. -/
  epoch : Option String
  /-- The time of the run in seconds since the epoch. -/
  now : Int
  deriving Inhabited

namespace Settings

/-- A file that may hold settings, perhaps in a table for this tool. -/
structure Candidate where
  path : Path
  inTool : Bool
  deriving DecidableEq, Repr

def fileNames : List String := ["cd-index.toml", ".cd-index.toml"]

/-- The name of this tool's table. -/
def toolTable : String := "cd-index"

/-- The file that the environment names, unless it names none. -/
def named (env : Option String) : List Candidate :=
  match env with
  | some name => if name = "" then [] else [⟨Path.ofText name, false⟩]
  | none => []

/-- The files in which settings are looked for, in order. -/
def candidates (root : Path) (explicit : Option Path) (env : Option String) : List Candidate :=
  match explicit with
  | some path => [⟨path, false⟩]
  | none =>
    fileNames.map (fun name => ⟨root.child name, false⟩) ++
      [⟨root.child "pyproject.toml", true⟩] ++ named env

/-- The part of a document that holds settings, if there is one. -/
def settingsPart (inTool : Bool) (t : Toml.Table) : Option Toml.Value :=
  if !inTool then some (.table t)
  else
    match t.lookup "tool" with
    | some (.table tools) => tools.lookup toolTable
    | _ => none

/-- Settings from a file, unless they are malformed or out of bounds. -/
def ofValue (path : Path) (v : Toml.Value) : Traced Settings := do
  match ← Settings.read v with
  | .error (.failure f) => Traced.fail f
  | .error c =>
    Traced.note (.settingsInvalid path.text (.words c.message))
    return .default
  | .ok s =>
    let s := { s with source := some path }
    Traced.ofExcept s.validate
    Traced.note (.settingsLoaded path.text)
    return s

/-- Settings from a file's bytes; `none` if they hold no settings. -/
def ofBytes (c : Candidate) (bytes : List UInt8) : Traced (Option Settings) := do
  match Toml.readBytes bytes with
  | .error .notText => Traced.fail .notText
  | .error .tooLong => Traced.fail .badValue
  | .error .malformed =>
    Traced.note (.settingsUnread c.path.text .malformed)
    return some .default
  | .ok t =>
    match settingsPart c.inTool t with
    | some v => return some (← ofValue c.path v)
    | none => return none

/-- Settings from the first candidate that has them. A candidate that has to be there is missed. -/
def fromCandidates (disk : Disk) (required : Bool) : List Candidate → Traced Settings
  | [] => do
    Traced.note .noSettings
    return .default
  | c :: rest =>
    match (disk.entry? c.path).bind (·.content?) with
    | none =>
      if required then Traced.fail (.settings (.fileMissing c.path.text))
      else fromCandidates disk required rest
    | some bytes => do
      match ← ofBytes c bytes with
      | some s => return s
      | none => fromCandidates disk required rest

/-- The settings for a repository. -/
def load (around : Surroundings) (root : Path) (explicit : Option Path) : Traced Settings :=
  fromCandidates around.disk explicit.isSome (candidates root explicit around.settingsFile)

end Settings

end CodeAtlas
