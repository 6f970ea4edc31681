import CodeAtlas.Text.Split

/-!
# Directory trees

An `Entry` is what a directory holds under one name: a file, a directory or a link to nothing.
`Entry.walk` visits the directories of a tree from the top, in the order of their names.
-/

namespace CodeAtlas.Files

inductive Entry where
  | file (name : String) (content : List UInt8)
  | directory (name : String) (children : List Entry)
  | broken (name : String)
  deriving Inhabited

namespace Entry

def name : Entry → String
  | file n _ => n
  | directory n _ => n
  | broken n => n

def children : Entry → List Entry
  | directory _ cs => cs
  | _ => []

def isDirectory : Entry → Bool
  | directory _ _ => true
  | _ => false

def isFile : Entry → Bool
  | file _ _ => true
  | _ => false

/-- A link to nothing has a name but does not exist. -/
def exists? : Entry → Bool
  | broken _ => false
  | _ => true

/-- The bytes of a file. -/
def content? : Entry → Option (List UInt8)
  | file _ bytes => some bytes
  | _ => none

/-- What the directory holds under a name. -/
def child? (e : Entry) (n : String) : Option Entry := e.children.find? (·.name = n)

/-- What lies below the entry along some names. -/
def descend? : Entry → List String → Option Entry
  | e, [] => some e
  | e, n :: rest => (e.child? n).bind (descend? · rest)

/-- The children in the order of their names. -/
def sortedChildren (e : Entry) : List Entry := e.children.mergeSort fun a b => a.name ≤ b.name

/-- Replaces what the directory holds under the new entry's name, or adds it. -/
def put (e : Entry) (new : Entry) : Entry :=
  match e with
  | directory n cs =>
    if cs.any (·.name = new.name) then
      directory n (cs.map fun c => if c.name = new.name then new else c)
    else directory n (cs ++ [new])
  | other => other

/-- Puts an entry into the directory that lies along some names. -/
def putAt : Entry → List String → Entry → Entry
  | e, [], new => e.put new
  | e, n :: rest, new =>
    match e.child? n with
    | some c => e.put (c.putAt rest new)
    | none => e

end Entry

/-! ## Walking a tree -/

/-- A directory met on a walk: the names that lead to it from the top, and the directory. -/
structure Visit where
  path : List String
  entry : Entry
  deriving Inhabited

mutual

/-- The directories of a tree, each before what it holds, brothers in the order of their names;
a directory for whose parent's path and name `keep` fails is left out with all it holds. -/
def Entry.walk (keep : List String → String → Bool) (path : List String) : Entry → List Visit
  | .file _ _ => []
  | .broken _ => []
  | .directory n cs =>
    ⟨path, .directory n cs⟩ ::
      ((Entry.walks keep path cs).mergeSort fun a b => a.1 ≤ b.1).flatMap (·.2)

/-- The walks of the directories among some entries, each with its name. -/
def Entry.walks (keep : List String → String → Bool) (path : List String) :
    List Entry → List (String × List Visit)
  | [] => []
  | e :: rest =>
    let others := Entry.walks keep path rest
    if e.isDirectory && keep path e.name then
      (e.name, e.walk keep (path ++ [e.name])) :: others
    else others

end

/-- A relative path as text. -/
def pathText (parts : List String) : String := Text.join "/" parts

end CodeAtlas.Files
