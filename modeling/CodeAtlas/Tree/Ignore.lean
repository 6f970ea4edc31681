import CodeAtlas.Tree.Glob
import CodeAtlas.Text.Blank
import CodeAtlas.Text.Case

/-!
# Ignored paths

An ignore entry that ends in a slash is for directories of that name at any depth, one that begins
with a dot and has no slash is for paths with that ending, and any other is for paths that begin
with it. The patterns of an ignore file stand beside them.
-/

namespace CodeAtlas.Tree

open CodeAtlas.Text

structure IgnoreRules where
  directories : List String
  suffixes : List String
  starts : List String
  globs : List Glob

/-- Which of the three kinds an entry is. -/
inductive IgnoreEntry where
  | directory (path : String)
  | suffix (ending : String)
  | start (path : String)
  deriving DecidableEq, Repr

/-- The kind of an entry; an empty one is none. -/
def readEntry (raw : String) : Option IgnoreEntry :=
  let entry := replaceChar '\\' '/' (strip raw)
  if entry = "" then none
  else if endsWith entry "/" then some (.directory entry)
  else if startsWith entry "." && !contains entry "/" then some (.suffix (lower entry))
  else some (.start entry)

namespace IgnoreRules

/-- The rules for some entries and the patterns of an ignore file. -/
def ofEntries (raw : List String) (globs : List Glob) : IgnoreRules :=
  let entries := raw.filterMap readEntry
  { directories := entries.filterMap fun | .directory p => some p | _ => none
    suffixes := entries.filterMap fun | .suffix e => some e | _ => none
    starts := entries.filterMap fun | .start p => some p | _ => none
    globs }

/-- Does a directory of the path stand in an entry for directories? -/
def hasDirectory (rules : IgnoreRules) (candidate : String) : Bool :=
  rules.directories.any fun d => contains ("/" ++ candidate) ("/" ++ d)

def hasSuffix (rules : IgnoreRules) (path : String) : Bool :=
  rules.suffixes.any (endsWith (lower path))

def hasStart (rules : IgnoreRules) (candidate : String) : Bool :=
  rules.starts.any (startsWith candidate)

/-- Is the path ignored? The path of a directory is matched with a slash at its end. -/
def ignores (rules : IgnoreRules) (path : String) (isDirectory : Bool) : Bool :=
  let candidate := if isDirectory then path ++ "/" else path
  rules.hasDirectory candidate || (!isDirectory && rules.hasSuffix path) ||
    rules.hasStart candidate || globsIgnore rules.globs candidate

end IgnoreRules

end CodeAtlas.Tree
