import CodeAtlas.CommandLine.Reader
import CodeAtlas.Settings.Basic

/-!
# Requests

What the command line of this tool asks for, and the options that ask for it. Most options change the
settings; `Changes.apply` says how.
-/

namespace CodeAtlas.CommandLine

open Files (Path)

/-! ## Changes of the settings -/

/-- What a command line changes in the settings. -/
structure Changes where
  noTree : Bool := false
  /-- The extensions that replace all others. -/
  extensions : Option (List String) := none
  /-- Further entries to leave out. -/
  ignore : List String := []
  noIgnoreFile : Bool := false
  lineMode : Option String := none
  entrypoints : Option Bool := none
  commands : Option Bool := none
  /-- The expression for commands; an empty one lets every command through. -/
  allowRegex : Option String := none
  configs : Bool := false
  envPrefixes : List String := []
  roots : List String := []
  depth : Option Int := none
  nodes : Option Int := none
  external : Bool := false
  deriving DecidableEq, Repr

/-- Switches a section on or off, or leaves it alone. -/
def switch (name : String) (on : Option Bool) (s : Settings) : Settings :=
  match on with
  | some true => s.enable name
  | some false => s.disable name
  | none => s

namespace Changes

/-- The sections that are switched on or off. -/
def switches (c : Changes) (s : Settings) : Settings :=
  let s := switch "tree" (if c.noTree then some false else none) s
  let s := switch "entrypoints" c.entrypoints s
  let s := switch "commands" c.commands s
  let s := switch "configs" (if c.configs then some true else none) s
  switch "callgraphs" (if c.roots.isEmpty then none else some true) s

def tree (c : Changes) (t : TreeSettings) : TreeSettings where
  ignore := t.ignore ++ c.ignore
  extensions := (c.extensions.map fun es => es.map Settings.normalExtension).getD t.extensions
  lineMode := c.lineMode.getD t.lineMode
  useIgnoreFile := t.useIgnoreFile && !c.noIgnoreFile

/-- The expression that restricts commands. -/
def allowed (c : Changes) (old : Option String) : Option String :=
  match c.allowRegex with
  | some pattern => if pattern = "" then none else some pattern
  | none => old

/-- The settings with the changes. -/
def apply (c : Changes) (s : Settings) : Settings :=
  let s := (c.switches s).addRoots c.roots
  { s with
    tree := c.tree s.tree
    limits := ⟨c.depth.getD s.limits.depth, c.nodes.getD s.limits.nodes⟩
    external := s.external || c.external
    allowRegex := c.allowed s.allowRegex
    envPrefixes := Settings.addNew s.envPrefixes c.envPrefixes }

end Changes

/-! ## Requests -/

structure Request where
  root : Path := ⟨"", []⟩
  /-- The file to write; none stands for the standard output. -/
  output : Option Path := none
  settingsFile : Option Path := none
  changes : Changes := {}
  compact : Bool := false
  verbose : Bool := false
  deriving DecidableEq, Repr

namespace Request

/-- An option that takes nothing and changes the settings. -/
def changing (name : String) (set : Changes → Changes) : OptionSpec Request :=
  ⟨[name], .flag fun r => { r with changes := set r.changes }⟩

/-- An option that changes the settings by a text. -/
def changingText (name : String) (set : String → Changes → Changes) : OptionSpec Request :=
  ⟨[name], .text fun t r => { r with changes := set t r.changes }⟩

/-- An option that changes the settings by some texts. -/
def changingTexts (name : String) (set : List String → Changes → Changes) : OptionSpec Request :=
  ⟨[name], .texts fun ts r => { r with changes := set ts r.changes }⟩

/-- An option that changes the settings by a number. -/
def changingNumber (name : String) (set : Int → Changes → Changes) : OptionSpec Request :=
  ⟨[name], .number fun n r => { r with changes := set n r.changes }⟩

/-- Options about the run as a whole. -/
def generalOptions : List (OptionSpec Request) := [
  ⟨["-h", "--help"], .ask .usage⟩,
  ⟨["-o", "--output"], .text fun t r => { r with output := some (.ofText t) }⟩,
  ⟨["--config"], .text fun t r => { r with settingsFile := some (.ofText t) }⟩,
  ⟨["--version"], .ask .version⟩]

/-- Options about the file tree. -/
def treeOptions : List (OptionSpec Request) := [
  changing "--no-tree" fun c => { c with noTree := true },
  changingTexts "--ext" fun ts c => { c with extensions := some ts },
  changingTexts "--ignore" fun ts c => { c with ignore := ts },
  changing "--no-gitignore" fun c => { c with noIgnoreFile := true },
  ⟨["--loc-mode"], .choice lineModes fun t r => { r with changes.lineMode := some t }⟩]

/-- Options about other sections. -/
def sectionOptions : List (OptionSpec Request) := [
  changing "--scan-entrypoints" fun c => { c with entrypoints := some true },
  changing "--no-entrypoints" fun c => { c with entrypoints := some false },
  changing "--scan-commands" fun c => { c with commands := some true },
  changing "--no-commands" fun c => { c with commands := some false },
  changingText "--commands-allow-regex" fun t c => { c with allowRegex := some t },
  changing "--scan-configs" fun c => { c with configs := true },
  changingText "--env-prefix" fun t c => { c with envPrefixes := c.envPrefixes ++ [t] }]

/-- Options about call graphs. -/
def callgraphOptions : List (OptionSpec Request) := [
  changingText "--callgraph-method" fun t c => { c with roots := c.roots ++ [t] },
  changingNumber "--max-call-depth" fun n c => { c with depth := some n },
  changingNumber "--max-call-nodes" fun n c => { c with nodes := some n },
  changing "--include-external" fun c => { c with external := true }]

/-- Options about what is shown. -/
def outputOptions : List (OptionSpec Request) := [
  ⟨["--compact"], .flag fun r => { r with compact := true }⟩,
  ⟨["-v", "--verbose"], .flag fun r => { r with verbose := true }⟩]

/-- The command lines of this tool. -/
def form : Form Request where
  options := generalOptions ++ treeOptions ++ sectionOptions ++ callgraphOptions ++ outputOptions
  operandName := "project_dir"
  operand := fun t r => { r with root := .ofText t }

/-- The request of a command line. -/
def read (args : List String) : Except Ending Request := form.read {} args

end Request

end CodeAtlas.CommandLine
