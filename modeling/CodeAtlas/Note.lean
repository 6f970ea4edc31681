import CodeAtlas.Failure
import CodeAtlas.Text.Split

/-!
# Notes

What a run reports beside its result. A note is a value; its text is made when it is shown.
-/

namespace CodeAtlas

inductive Level where
  | debug
  | info
  | warning
  | error
  deriving DecidableEq, Repr

def Level.rank : Level → Nat
  | debug => 0
  | info => 1
  | warning => 2
  | error => 3

/-- The cause of a note about something that did not work. -/
inductive Cause where
  /-- The cause in this library's own words. -/
  | words (text : String)
  /-- The system reports an error. -/
  | system
  /-- The input is malformed. -/
  | malformed
  deriving DecidableEq, Repr

def Cause.ofFailure (f : Failure) : Cause :=
  match f.message? with
  | some m => words m
  | none => if f = .system ∨ f = .forbidden then system else malformed

/-- The words for the two causes that are not this library's own. -/
structure Wording where
  system : String
  malformed : String

def Cause.text (w : Wording) : Cause → String
  | words s => s
  | system => w.system
  | malformed => w.malformed

inductive Note where
  -- Roots and call graphs
  | invalidRoot (text : String)
  | rootNotFound (project root : String)
  | ambiguousRoot (project root : String)
  | truncated (project root : String)
  | rootAt (id : String) (file : Option String) (line : Option Int)
  | unresolvedCall (text : String) (args : Int) (file : Option String) (line : Option Int)
  | callgraphs (graphs projects : Nat)
  -- Other sections
  | entrypoints (project : String) (count : Nat)
  | commands (count : Nat)
  | envKeys (count : Nat)
  | treeFiles (count : Nat)
  | skippedFile (path : String) (cause : Cause)
  | skippedSection (name : String) (cause : Cause)
  -- Sources
  | unparseableModule (path : String) (cause : Cause)
  | unparseableUnit (path : String) (cause : Cause)
  | moduleTwice (name kept : String)
  | unreadable (path : String) (cause : Cause)
  | unreadableIgnoreFile (path : String) (cause : Cause)
  | modulesUnparsed (cause : Cause)
  | subprojectsUnparsed (file : String) (cause : Cause)
  | artifactUnread (path : String) (cause : Cause)
  -- Settings
  | noSettings
  | settingsLoaded (path : String)
  | settingsUnread (path : String) (cause : Cause)
  | settingsInvalid (path : String) (cause : Cause)
  | unknownSections (names : List String)
  | invalidEpoch (text : String)
  -- The command line
  | generated (path : String)
  | notDirectory (path : String)
  | invalidConfiguration (cause : Cause)
  | failed (message : String)
  deriving DecidableEq, Repr

/-- An absent value is shown as `None`. -/
def showOption {α : Type} (sh : α → String) : Option α → String
  | some a => sh a
  | none => "None"

namespace Note

def level : Note → Level
  | skippedSection .. | unreadableIgnoreFile .. | settingsUnread .. | settingsInvalid ..
  | unknownSections .. | invalidEpoch .. => .warning
  | generated .. => .info
  | notDirectory .. | invalidConfiguration .. | failed .. => .error
  | _ => .debug

/-- The text of a note. -/
def text (w : Wording) : Note → String
  | invalidRoot t => "CLG120 invalid-root " ++ t
  | rootNotFound p r => "CLG100 root-not-found " ++ p ++ " " ++ r
  | ambiguousRoot p r => "CLG110 ambiguous-root " ++ p ++ " " ++ r
  | truncated p r => "CLG200 truncated " ++ p ++ " " ++ r
  | rootAt id file line =>
    "Root " ++ id ++ " at " ++ showOption (·) file ++ ":" ++ showOption toString line
  | unresolvedCall t n file line =>
    "Unresolved call " ++ t ++ "/" ++ toString n ++ " at " ++ showOption (·) file ++ ":" ++
      showOption toString line
  | callgraphs n p => s!"Call graphs: {n} across {p} project(s)"
  | entrypoints p n => "Entrypoints in " ++ p ++ ": " ++ toString n
  | commands n => s!"Commands: {n}"
  | envKeys n => s!"Env keys: {n}"
  | treeFiles n => s!"Tree: {n} files"
  | skippedFile p c => "Skipping " ++ p ++ ": " ++ c.text w
  | skippedSection s c => "Skipping " ++ s ++ " section: " ++ c.text w
  | unparseableModule p c => "Skipping unparseable module " ++ p ++ ": " ++ c.text w
  | unparseableUnit p c => "Skipping unparseable Java file " ++ p ++ ": " ++ c.text w
  | moduleTwice n kept => "Module " ++ n ++ " defined twice; keeping " ++ kept
  | unreadable p c => "Could not read " ++ p ++ ": " ++ c.text w
  | unreadableIgnoreFile p c => "Could not read " ++ p ++ ": " ++ c.text w
  | modulesUnparsed c => "Could not parse pom.xml for modules: " ++ c.text w
  | subprojectsUnparsed f c => "Could not parse " ++ f ++ ": " ++ c.text w
  | artifactUnread p c => "Could not read artifactId from " ++ p ++ ": " ++ c.text w
  | noSettings => "CFG001 no configuration file found, using defaults"
  | settingsLoaded p => "CFG010 loaded configuration from " ++ p
  | settingsUnread p c => "CFG900 could not read " ++ p ++ ": " ++ c.text w ++ " (using defaults)"
  | settingsInvalid p c => "CFG900 invalid " ++ p ++ ": " ++ c.text w ++ " (using defaults)"
  | unknownSections names => "Ignoring unknown sections: " ++ Text.join ", " names
  | invalidEpoch t => "Ignoring invalid SOURCE_DATE_EPOCH=" ++ Text.quoted t
  | generated p => "Generated " ++ p
  | notDirectory p => "Not a directory: " ++ p
  | invalidConfiguration c => "Invalid configuration: " ++ c.text w
  | failed m => m

end Note

end CodeAtlas
