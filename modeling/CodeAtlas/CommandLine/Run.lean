import CodeAtlas.Build
import CodeAtlas.CommandLine.Request
import CodeAtlas.Detection

/-!
# Running a request

A request ends with an exit code. An index is written to the standard output or to a file; a run that
is refused writes nothing.
-/

namespace CodeAtlas.CommandLine

open Files (Disk Path)

/-! ## Ends of a run -/

/-- How a run that does not fail ends. -/
inductive Exit where
  | ok
  /-- The command line or the settings are refused. -/
  | refused
  /-- There is nothing to index. -/
  | noProject
  /-- The index cannot be written. -/
  | unwritten
  deriving DecidableEq, Repr

def Exit.code : Exit → Nat
  | ok => 0
  | refused => 2
  | noProject => 3
  | unwritten => 4

/-- What a run leaves behind. -/
structure Outcome where
  exit : Exit
  /-- The text on the standard output. -/
  shown : String
  disk : Disk

/-- The text of an index, or the end of a run without one. -/
inductive Product where
  | text (t : String)
  | stopped (exit : Exit)
  deriving DecidableEq, Repr

/-! ## Steps of a run -/

/-- The index of the repository at `root`. -/
def indexAt (around : Surroundings) (root : Path) (settings : Settings) : Traced Index :=
  let top := around.disk.resolve root
  assemble around top.text settings (detect around.disk top)
    (Tree.scan settings.tree ((around.disk.entry? top).getD default))

namespace Request

/-- The settings of the repository with the changes of the request, within their bounds. -/
def settings (r : Request) (around : Surroundings) : Traced Settings := do
  let s := r.changes.apply (← Settings.load around r.root r.settingsFile)
  Traced.ofExcept s.validate
  return s

/-- The text of the index of the repository, if there is something to index. -/
def index (r : Request) (around : Surroundings) (settings : Settings) : Traced Product := do
  match ← (indexAt around r.root settings).attempt with
  | .ok index => return .text (← Traced.ofExcept (index.write r.compact))
  | .error (.noProject root) =>
    Traced.note (.failed (((Failure.noProject root).message?).getD ""))
    return .stopped .noProject
  | .error f => Traced.fail f

/-- The text that a request produces. -/
def produce (r : Request) (around : Surroundings) : Traced Product := do
  if !around.disk.isDirectory r.root then
    Traced.note (.notDirectory r.root.text)
    return .stopped .refused
  match ← (r.settings around).attempt with
  | .ok settings => r.index around settings
  | .error (.settings fault) =>
    Traced.note (.invalidConfiguration (.words fault.message))
    return .stopped .refused
  | .error f => Traced.fail f

/-- Writes a text into a file, with the directories above it. -/
def store (d : Disk) (path : Path) (text : String) : Option Disk :=
  (d.ensureDirectory path.parent).bind fun d => d.write path (Text.encode text)

/-- What is said if the index cannot be written. -/
def unwritten : Note := .failed "Could not write output"

/-- Writes the text of an index where the request wants it. -/
def deliver (r : Request) (d : Disk) (text : String) : Traced Outcome :=
  match r.output with
  | none => pure ⟨.ok, text, d⟩
  | some path =>
    match store d path text with
    | some d => do
      Traced.note (.generated path.text)
      return ⟨.ok, "", d⟩
    | none => do
      Traced.note unwritten
      return ⟨.unwritten, "", d⟩

/-- Runs a request. -/
def run (r : Request) (around : Surroundings) : Traced Outcome := do
  match ← r.produce around with
  | .text t => r.deliver around.disk t
  | .stopped exit => return ⟨exit, "", around.disk⟩

/-- The notes that a request wants to see begin at this level. -/
def level (r : Request) : Level := if r.verbose then .debug else .warning

end Request

/-! ## Answers without a run -/

/-- The name of this tool. -/
def program : String := "cd-index"

/-- What is said of a command line that is refused. -/
def Fault.report (f : Fault) : String := program ++ ": error: " ++ f.message

/-- The names of an option as a usage shows them. -/
def usageOf (o : OptionSpec Request) : String :=
  "  " ++ Text.join ", " o.names ++ (if o.effect.takes = .nothing then "" else " ...")

def Question.answer : Question → String
  | version => program ++ " " ++ toolVersion ++ "\n"
  | usage =>
    Text.join "\n" (("usage: " ++ program ++ " [options] " ++ Request.form.operandName) ::
      Request.form.options.map usageOf) ++ "\n"

end CodeAtlas.CommandLine
