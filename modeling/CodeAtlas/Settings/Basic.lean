import CodeAtlas.Callgraph.Explore
import CodeAtlas.Files.Path
import CodeAtlas.Sections
import CodeAtlas.Text.Case
import CodeAtlas.Text.Blank

/-!
# Settings

What a run is asked to do, the values that hold where nothing is said, and the bounds that the values
have to keep.
-/

namespace CodeAtlas

structure TreeSettings where
  ignore : List String
  extensions : List String
  lineMode : String
  useIgnoreFile : Bool
  deriving DecidableEq, Repr

structure Settings where
  tree : TreeSettings
  roots : List String
  limits : Limits
  external : Bool
  allowRegex : Option String
  sections : List String
  envPrefixes : List String
  /-- The file that the settings come from. -/
  source : Option Files.Path
  deriving DecidableEq, Repr

/-! ## Defaults -/

/-- The names of the sections, in the order in which they are made. -/
def sectionNames : List String := ["tree", "entrypoints", "commands", "configs", "callgraphs"]

def lineModes : List String := ["physical", "logical"]

def TreeSettings.default : TreeSettings where
  ignore := [".git/", ".venv/", "venv/", "__pycache__/", "build/", "dist/", "target/",
    "node_modules/", ".tox/", ".mypy_cache/", ".pytest_cache/"]
  extensions := [".py", ".pyi", ".java", ".toml", ".cfg", ".json", ".yaml", ".yml", ".xml",
    ".gradle", ".kts", ".md"]
  lineMode := "physical"
  useIgnoreFile := true

def Settings.default : Settings where
  tree := .default
  roots := []
  limits := ⟨2, 200⟩
  external := false
  allowRegex := none
  sections := sectionNames
  envPrefixes := []
  source := none

namespace Settings

/-! ## Changes -/

def enabled (s : Settings) (name : String) : Bool := s.sections.contains name

/-- Switches a section off. -/
def disable (s : Settings) (name : String) : Settings :=
  { s with sections := s.sections.erase name }

/-- Switches a section on. -/
def enable (s : Settings) (name : String) : Settings :=
  if s.enabled name then s else { s with sections := s.sections ++ [name] }

/-- Adds elements that a list does not have. -/
def addNew (xs new : List String) : List String :=
  new.foldl (fun xs x => if xs.contains x then xs else xs ++ [x]) xs

/-- Adds roots behind those that are there. -/
def addRoots (s : Settings) (roots : List String) : Settings :=
  { s with roots := addNew s.roots roots }

/-- An extension in small letters and with its dot. -/
def normalExtension (raw : String) : String :=
  let e := Text.lower (Text.strip raw)
  if Text.startsWith e "." then e else "." ++ e

/-! ## Bounds -/

/-- The expression that restricts commands can be read. -/
def checkRegex (s : Settings) : Except Failure Unit :=
  match readAllowed s.allowRegex with
  | .ok _ => .ok ()
  | .error .regex => .error (.settings (.regex (s.allowRegex.getD "")))
  | .error f => .error f

/-- Refuses settings that are out of bounds. -/
def validate (s : Settings) : Except Failure Unit :=
  if s.limits.depth < 0 then .error (.settings (.depth s.limits.depth))
  else if s.limits.nodes < 1 then .error (.settings (.nodes s.limits.nodes))
  else if !lineModes.contains s.tree.lineMode then .error (.settings (.lineMode s.tree.lineMode))
  else s.checkRegex

end Settings

end CodeAtlas
