import CodeAtlas.Files.Path
import CodeAtlas.Files.Entry

/-!
# The state of the disk

A `Disk` is a tree of directories with a working directory. Reading answers `none` where the
system would report an error; the two writing operations answer `none` and leave the disk alone.
-/

namespace CodeAtlas.Files

structure Disk where
  /-- The root directory. -/
  top : Entry
  /-- The names that lead from the root to the working directory. -/
  cwd : List String
  deriving Inhabited

namespace Disk

/-! ## Finding -/

/-- Follows names downwards from the first entry of a non-empty stack whose rest are the
directories above it. Double dots lead back up, and nothing lies below a file. -/
def follow : List Entry → List String → Option (List Entry)
  | stack, [] => some stack
  | [], _ :: _ => none
  | e :: above, n :: rest =>
    if !e.isDirectory then none
    else if n = ".." then follow (if above.isEmpty then [e] else above) rest
    else
      match e.child? n with
      | some c => follow (c :: e :: above) rest
      | none => none

/-- The names from the root that a path stands for. -/
def fullParts (d : Disk) (p : Path) : List String := if p.isAbsolute then p.parts else d.cwd ++ p.parts

/-- The entry at a path, below the directories that hold it. -/
def locate (d : Disk) (p : Path) : Option (List Entry) := follow [d.top] (d.fullParts p)

/-- The entry at a path. -/
def entry? (d : Disk) (p : Path) : Option Entry := (d.locate p).bind (·.head?)

def isFile (d : Disk) (p : Path) : Bool := (d.entry? p).any (·.isFile)

def isDirectory (d : Disk) (p : Path) : Bool := (d.entry? p).any (·.isDirectory)

def exists? (d : Disk) (p : Path) : Bool := (d.entry? p).any (·.exists?)

/-- The bytes of the file at a path. -/
def read (d : Disk) (p : Path) : Option (List UInt8) := (d.entry? p).bind (·.content?)

/-- Double dots taken out of a list of names from the root. -/
def collapse (parts : List String) : List String :=
  (parts.foldl (fun done n => if n = ".." then done.tail else n :: done) []).reverse

/-- The absolute path that a path stands for. -/
def resolve (d : Disk) (p : Path) : Path := ⟨"/", collapse (d.fullParts p)⟩

/-! ## Writing -/

/-- The names from the root to the directory at a path. -/
def directoryNames? (d : Disk) (p : Path) : Option (List String) :=
  match d.locate p with
  | some (e :: above) => if e.isDirectory then some ((e :: above).reverse.map (·.name)).tail else none
  | _ => none

/-- What an attempt to make one directory comes to. -/
inductive Making where
  | made (d : Disk)
  | parentMissing
  | refused

/-- Does a path fail for want of an entry, and not because a file is used as a directory? -/
def lacksEntry (d : Disk) (p : Path) : Bool :=
  let parts := d.fullParts p
  match ((List.range (parts.length + 1)).filterMap fun n => follow [d.top] (parts.take n)).getLast? with
  | some (e :: _) => e.isDirectory || !e.exists?
  | _ => true

/-- Makes the directory at a path whose parent is there. -/
def makeDirectory (d : Disk) (p : Path) : Making :=
  if (d.entry? p).isSome then .refused
  else
    match d.directoryNames? p.parent with
    | some names => .made { d with top := d.top.putAt names (.directory p.name []) }
    | none => if d.lacksEntry p.parent then .parentMissing else .refused

/-- Makes the directory at a path and those above it as far as they are missing. The number bounds
how many levels are made. -/
def makeDirectories : Nat → Disk → Path → Option Disk
  | 0, _, _ => none
  | fuel + 1, d, p =>
    match d.makeDirectory p with
    | .made d' => some d'
    | .refused => if d.isDirectory p then some d else none
    | .parentMissing => do
      let d' ← makeDirectories fuel d p.parent
      match d'.makeDirectory p with
      | .made d'' => some d''
      | _ => if d'.isDirectory p then some d' else none

/-- Makes a directory with all that are missing above it. -/
def ensureDirectory (d : Disk) (p : Path) : Option Disk := makeDirectories (p.parts.length + 1) d p

/-- Puts an entry at an absolute path, with the directories above it. -/
def put (d : Disk) (p : Path) (e : Entry) : Disk :=
  if p.parts.isEmpty then { d with top := e }
  else
    let d := (d.ensureDirectory p.parent).getD d
    { d with top := d.top.putAt p.parent.parts e }

/-- Writes a file into a directory that is there. -/
def write (d : Disk) (p : Path) (content : List UInt8) : Option Disk :=
  match d.entry? p with
  | some (.file _ _) | none =>
    if p.parts.isEmpty || p.name = ".." then none
    else
      (d.directoryNames? p.parent).map fun names =>
        { d with top := d.top.putAt names (.file p.name content) }
  | some _ => none

end Disk

end CodeAtlas.Files
