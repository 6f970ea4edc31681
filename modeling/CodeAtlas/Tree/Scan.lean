import CodeAtlas.Files.Disk
import CodeAtlas.Index
import CodeAtlas.Settings.Basic
import CodeAtlas.Traced
import CodeAtlas.Tree.Ignore
import CodeAtlas.Tree.Lines

/-!
# Scanning a tree

The files of a repository with one of the wanted extensions that no rule ignores, each with its
number of lines and its digest. Directories that are ignored are not entered.
-/

namespace CodeAtlas.Tree

open CodeAtlas.Text
open CodeAtlas.Files (Entry Visit pathText)

/-- The name of the file with further ignore patterns. -/
def ignoreFileName : String := ".gitignore"

/-- The patterns of the ignore file at the top of a repository, if there is one. -/
def readIgnoreFile (top : Entry) : Except Failure (List Glob) :=
  match (top.child? ignoreFileName).bind (·.content?) with
  | some bytes => readLines (lines (String.ofList (unifyLineEnds (decodeLossy bytes))))
  | none => .ok []

/-- The entry for a file; `none` if it cannot be read. -/
def fileEntry (mode : LineMode) (path : String) (e : Entry) : Option FileEntry :=
  e.content?.map fun bytes =>
    let lines := linesOf bytes
    { path
      kind := String.ofList ((lower (Files.suffix e.name)).toList.dropWhile (· = '.'))
      lineCount := countLines mode lines
      digest := digest lines }

/-- Does a path have one of the extensions, which are in small letters? -/
def hasExtension (extensions : List String) (path : String) : Bool :=
  extensions.any (endsWith (lower path))

/-- What a scan takes from the tree: paths with one of the extensions that no rule ignores. -/
structure Filter where
  rules : IgnoreRules
  extensions : List String
  mode : LineMode

namespace Filter

def keepsDirectory (f : Filter) (path : List String) (name : String) : Bool :=
  !f.rules.ignores (pathText (path ++ [name])) true

def keepsFile (f : Filter) (path : String) : Bool :=
  hasExtension f.extensions path && !f.rules.ignores path false

/-- What is found under one name of a directory. -/
def scanEntry (f : Filter) (directory : List String) (e : Entry) : Traced (List FileEntry) := do
  let path := pathText (directory ++ [e.name])
  if e.isDirectory || !f.keepsFile path then return []
  match fileEntry f.mode path e with
  | some entry => return [entry]
  | none =>
    Traced.note (.skippedFile path .system)
    return []

/-- The files of one directory. -/
def scanVisit (f : Filter) (v : Visit) : Traced (List FileEntry) := do
  return (← v.entry.children.mapM (f.scanEntry v.path)).flatten

end Filter

/-- The filter that settings ask for in a repository. -/
def filterFor (settings : TreeSettings) (top : Entry) : Except Failure Filter := do
  let globs ← if settings.useIgnoreFile then readIgnoreFile top else pure []
  return ⟨IgnoreRules.ofEntries settings.ignore globs, settings.extensions.map lower,
    LineMode.ofText settings.lineMode⟩

/-- The entries of a repository's files in order. -/
def scan (settings : TreeSettings) (top : Entry) : Traced (List FileEntry) := do
  let f ← Traced.ofExcept (filterFor settings top)
  let found ← (top.walk f.keepsDirectory []).mapM f.scanVisit
  let entries := sortBy FileEntry.order found.flatten
  Traced.note (.treeFiles entries.length)
  return entries

end CodeAtlas.Tree
