import CodeAtlas.Settings.Basic
import CodeAtlas.Toml.Value
import CodeAtlas.Traced

/-!
# Settings in a file

Settings are read from a table of tables. Keys that are not known do not matter; a known key with a
value of the wrong kind spoils the file.
-/

namespace CodeAtlas

open Toml (Value Table)

/-- What is wrong with a table of settings. -/
inductive Complaint where
  | noTable
  | notTable (name : String)
  | notStrings (key : String)
  | notInt (key : String)
  | notBool (key : String)
  | lineMode
  | regexNotText
  | regexMalformed
  | regexRepertoires
  /-- Something that is not a matter of the file's form. -/
  | failure (f : Failure)
  deriving DecidableEq, Repr

def Complaint.message : Complaint → String
  | noTable => "configuration must be a table"
  | notTable name => "[" ++ name ++ "] must be a table"
  | notStrings key => key ++ " must be a list of strings"
  | notInt key => key ++ " must be an integer"
  | notBool key => key ++ " must be true or false"
  | lineMode => "tree.loc_mode must be one of physical, logical"
  | regexNotText => "commands.allow_regex must be a string"
  | regexMalformed => "commands.allow_regex"
  | regexRepertoires => "ASCII and UNICODE flags are incompatible"
  | failure _ => ""

namespace Settings

/-! ## Values -/

/-- The table under a name, which may be missing. -/
def tableAt (t : Table) (name : String) : Except Complaint Table :=
  match t.lookup name with
  | none => .ok []
  | some (.table inner) => .ok inner
  | some _ => .error (.notTable name)

/-- The texts of a list that holds nothing else. -/
def textsOf : List Value → Option (List String)
  | [] => some []
  | .text s :: rest => (textsOf rest).map (s :: ·)
  | _ :: _ => none

/-- The texts of a list; a single text stands for a list of it. -/
def stringsAt (key : String) : Value → Except Complaint (List String)
  | .text s => .ok [s]
  | .array items =>
    match textsOf items with
    | some xs => .ok xs
    | none => .error (.notStrings key)
  | _ => .error (.notStrings key)

def intAt (key : String) : Value → Except Complaint Int
  | .int n => .ok n
  | _ => .error (.notInt key)

def boolAt (key : String) : Value → Except Complaint Bool
  | .bool b => .ok b
  | _ => .error (.notBool key)

/-- Reads the value under a name if there is one, and puts it into the settings. -/
def field {α : Type} (t : Table) (name : String) (read : Value → Except Complaint α)
    (put : Settings → α → Settings) (s : Settings) : Except Complaint Settings :=
  match t.lookup name with
  | none => .ok s
  | some v => (read v).map (put s)

/-! ## Tables -/

/-- The known tables of a file. -/
structure Tables where
  scan : Table
  tree : Table
  configs : Table
  commands : Table
  callgraph : Table

def tablesOf : Value → Except Complaint Tables
  | .table t => do
    return ⟨← tableAt t "scan", ← tableAt t "tree", ← tableAt t "configs",
      ← tableAt t "commands", ← tableAt t "callgraph"⟩
  | _ => .error .noTable

/-- Reads what is ignored and which files are wanted. -/
def readFiles (t : Tables) (s : Settings) : Except Complaint Settings := do
  let s ← field t.scan "ignore" (stringsAt "scan.ignore")
    (fun s xs => { s with tree.ignore := xs }) s
  field t.scan "ext" (stringsAt "scan.ext")
    (fun s xs => { s with tree.extensions := xs.map normalExtension }) s

/-- The sections that a file wants, if it says so. -/
def wantedSections (t : Tables) : Except Complaint (Option (List String)) :=
  match t.scan.lookup "sections" with
  | none => .ok none
  | some v => (stringsAt "scan.sections" v).map some

/-- The names that are no sections, in ascending order. -/
def unknownSections (wanted : List String) : List String :=
  sortedSet (wanted.filter fun s => !sectionNames.contains s)

def lineModeAt : Value → Except Complaint String
  | .text s => if lineModes.contains s then .ok s else .error .lineMode
  | _ => .error .lineMode

/-- A regular expression; an empty one is none. -/
def regexAt : Value → Except Complaint (Option String)
  | .text s =>
    match Regex.read s with
    | .ok _ => .ok (if s = "" then none else some s)
    | .error .malformed => .error .regexMalformed
    | .error .repertoires => .error .regexRepertoires
    | .error fault => .error (.failure (regexFailure fault))
  | _ => .error .regexNotText

/-- Reads everything behind the list of sections. -/
def readRest (t : Tables) (s : Settings) : Except Complaint Settings := do
  let s ← field t.scan "no_tree" (boolAt "scan.no_tree")
    (fun s off => if off then s.disable "tree" else s) s
  let s ← field t.tree "loc_mode" lineModeAt (fun s mode => { s with tree.lineMode := mode }) s
  let s ← field t.tree "use_gitignore" (boolAt "tree.use_gitignore")
    (fun s use => { s with tree.useIgnoreFile := use }) s
  let s ← field t.configs "env_prefixes" (stringsAt "configs.env_prefixes")
    (fun s xs => { s with envPrefixes := xs }) s
  let s ← field t.commands "allow_regex" regexAt (fun s r => { s with allowRegex := r }) s
  let s ← field t.callgraph "roots" (stringsAt "callgraph.roots") addRoots s
  let s ← field t.callgraph "max_depth" (intAt "callgraph.max_depth")
    (fun s n => { s with limits.depth := n }) s
  let s ← field t.callgraph "max_nodes" (intAt "callgraph.max_nodes")
    (fun s n => { s with limits.nodes := n }) s
  field t.callgraph "include_external" (boolAt "callgraph.include_external")
    (fun s b => { s with external := b }) s

/-- Puts the wanted sections into the settings, in their own order. -/
def wantSections (wanted : Option (List String)) (s : Settings) : Settings :=
  match wanted with
  | none => s
  | some names => { s with sections := sectionNames.filter names.contains }

/-- Reads everything up to the list of sections. -/
def readFirst (v : Value) : Except Complaint (Tables × Settings × Option (List String)) := do
  let tables ← tablesOf v
  let s ← readFiles tables .default
  return (tables, s, ← wantedSections tables)

/-- Reads settings; what a file does not say is as in the defaults. -/
def read (v : Value) : Traced (Except Complaint Settings) :=
  match readFirst v with
  | .error c => pure (.error c)
  | .ok (tables, s, wanted) => do
    let unknown := unknownSections (wanted.getD [])
    if !unknown.isEmpty then Traced.note (.unknownSections unknown)
    return readRest tables (wantSections wanted s)

end Settings

end CodeAtlas
