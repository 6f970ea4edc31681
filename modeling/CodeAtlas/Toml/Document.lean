import CodeAtlas.Toml.Scalar
import CodeAtlas.Text.Utf8

/-!
# Documents

A document is read statement by statement into a table. Beside the table stand the keys that may not
be opened as tables again and those whose content is final.
-/

namespace CodeAtlas.Toml

open CodeAtlas.Text

/-! ## Keys -/

def isBareKeyChar (c : Char) : Bool := c.isAlphanum || c = '-' || c = '_'

/-- One part of a key. -/
def readKeyPart (cs : List Char) : Except Fault (String × List Char) :=
  match cs with
  | '"' :: rest => readBasicLine rest
  | '\'' :: rest => readLiteralLine rest
  | c :: _ =>
    if isBareKeyChar c then
      .ok (String.ofList (cs.takeWhile isBareKeyChar), cs.dropWhile isBareKeyChar)
    else refuse
  | [] => refuse

/-- A key, and what follows it and the blanks behind it. The number bounds its parts. -/
def readKey : Nat → List Char → Except Fault (Key × List Char)
  | 0, _ => refuse
  | fuel + 1, cs => do
    let (part, rest) ← readKeyPart cs
    match skipSpaces rest with
    | '.' :: after =>
      let (parts, rest) ← readKey fuel (skipSpaces after)
      return (part :: parts, rest)
    | rest => return ([part], rest)

/-- A key and the equals sign behind it. -/
def readKeyMark (cs : List Char) : Except Fault (Key × List Char) := do
  match ← readKey (cs.length + 1) cs with
  | (key, '=' :: rest) => return (key, skipSpaces rest)
  | _ => refuse

/-! ## Arrays and inline tables -/

/-- Skips blanks, line ends and comments. The number bounds the comments. -/
def skipFiller : Nat → List Char → Except Fault (List Char)
  | 0, cs => .ok cs
  | fuel + 1, cs =>
    match cs.dropWhile fun c => isSpace c || c = '\n' with
    | '#' :: rest => do skipFiller fuel (← skipComment ('#' :: rest))
    | rest => .ok rest

/-- An inline table that is being read: what it holds, and the keys whose content is final. -/
structure Inline where
  table : Table
  frozen : List Key

/-- Does the key lead through one whose content is final? -/
def isFrozen (frozen : List Key) (key : Key) : Bool :=
  !key.isEmpty && frozen.any (·.isPrefixOf key)

/-- Puts a value into an inline table. -/
def Inline.insert (t : Inline) (key : Key) (v : Value) : Except Fault Inline :=
  if isFrozen t.frozen key then refuse
  else
    match update false (insertNew (key.getLast?.getD "") v) key.dropLast t.table with
    | some table => .ok ⟨table, if v.isContainer then key :: t.frozen else t.frozen⟩
    | none => refuse

mutual

/-- Any value. The number bounds the steps of the descent. -/
def readValue : Nat → List Char → Except Fault (Value × List Char)
  | 0, _ => refuse
  | fuel + 1, cs =>
    match cs with
    | '[' :: rest => do readItems fuel [] (← skipFiller rest.length rest)
    | '\x7b' :: rest =>
      match skipSpaces rest with
      | '\x7d' :: after => .ok (.table [], after)
      | rest => readMembers fuel ⟨[], []⟩ rest
    | _ => readScalar cs

/-- The items of an array up to its end; those read are latest first. -/
def readItems : Nat → List Value → List Char → Except Fault (Value × List Char)
  | 0, _, _ => refuse
  | fuel + 1, items, cs =>
    match cs with
    | ']' :: rest => .ok (.array items.reverse, rest)
    | _ => do
      let (v, rest) ← readValue fuel cs
      match ← skipFiller rest.length rest with
      | ']' :: after => return (.array (v :: items).reverse, after)
      | ',' :: after => readItems fuel (v :: items) (← skipFiller after.length after)
      | _ => refuse

/-- The members of an inline table up to its end. -/
def readMembers : Nat → Inline → List Char → Except Fault (Value × List Char)
  | 0, _, _ => refuse
  | fuel + 1, t, cs => do
    let (key, rest) ← readKeyMark cs
    let (v, rest) ← readValue fuel rest
    let t ← t.insert key v
    match skipSpaces rest with
    | '\x7d' :: after => return (.table t.table, after)
    | ',' :: after => readMembers fuel t (skipSpaces after)
    | _ => refuse

end

/-! ## Statements -/

/-- A document that is being read. -/
structure Document where
  table : Table
  /-- The key of the table that statements are for. -/
  header : Key
  /-- The keys that may not be opened as tables again. -/
  explicit : List Key
  /-- Such keys that take effect with the next table. -/
  pending : List Key
  /-- The keys whose content is final. -/
  frozen : List Key

namespace Document

/-- Makes the pending keys effective. -/
def settle (d : Document) : Document :=
  { d with explicit := d.pending ++ d.explicit, pending := [] }

/-- Opens the table of a key. -/
def openTable (d : Document) (key : Key) : Except Fault Document :=
  if d.explicit.contains key || isFrozen d.frozen key then refuse
  else
    match update true some key d.table with
    | some table => .ok { d with table, header := key, explicit := key :: d.explicit }
    | none => refuse

/-- Opens a new table in the list of tables of a key. What was said of keys below it is void. -/
def openListed (d : Document) (key : Key) : Except Fault Document :=
  if isFrozen d.frozen key then refuse
  else
    match update true (appendTable (key.getLast?.getD "")) key.dropLast d.table with
    | some table =>
      .ok { d with
        table
        header := key
        explicit := key :: d.explicit.filter fun k => !key.isPrefixOf k
        frozen := d.frozen.filter fun k => !key.isPrefixOf k }
    | none => refuse

/-- The proper beginnings of a key, the shortest first. -/
def beginnings (key : Key) : List Key := (List.range (key.length - 1)).map fun i => key.take (i + 1)

/-- Gives a key its value in the table that statements are for. -/
def assign (d : Document) (key : Key) (v : Value) : Except Fault Document :=
  let inner := (beginnings key).map (d.header ++ ·)
  let parent := d.header ++ key.dropLast
  if inner.any d.explicit.contains || isFrozen d.frozen parent then refuse
  else
    match update true (insertNew (key.getLast?.getD "") v) parent d.table with
    | some table =>
      .ok { d with
        table
        pending := inner ++ d.pending
        frozen := if v.isContainer then (d.header ++ key) :: d.frozen else d.frozen }
    | none => refuse

/-- Reads the statement at the beginning of a line. -/
def statement (d : Document) (cs : List Char) : Except Fault (Document × List Char) := do
  match cs with
  | '[' :: '[' :: rest =>
    let (key, rest) ← readKey (rest.length + 1) (skipSpaces rest)
    let d ← d.settle.openListed key
    match rest with
    | ']' :: ']' :: after => return (d, skipSpaces after)
    | _ => refuse
  | '[' :: rest =>
    let (key, rest) ← readKey (rest.length + 1) (skipSpaces rest)
    let d ← d.settle.openTable key
    match rest with
    | ']' :: after => return (d, skipSpaces after)
    | _ => refuse
  | '#' :: _ => return (d, cs)
  | _ =>
    let (key, rest) ← readKeyMark cs
    let (v, rest) ← readValue (2 * rest.length + 2) rest
    return (← d.assign key v, skipSpaces rest)

/-- Reads the lines of a document. The number bounds them. -/
def lines : Nat → Document → List Char → Except Fault Document
  | 0, d, _ => .ok d
  | fuel + 1, d, cs =>
    match skipSpaces cs with
    | [] => .ok d
    | '\n' :: rest => lines fuel d rest
    | rest => do
      let (d, rest) ← d.statement rest
      match ← skipComment rest with
      | [] => return d
      | '\n' :: after => lines fuel d after
      | _ => refuse

end Document

/-- Every line end of two characters as one. -/
def joinLineEnds : List Char → List Char
  | [] => []
  | '\r' :: '\n' :: rest => '\n' :: joinLineEnds rest
  | c :: rest => c :: joinLineEnds rest

/-- Reads the text of a document. -/
def readDocument (text : List Char) : Except Fault Table := do
  let cs := joinLineEnds text
  return (← Document.lines (cs.length + 1) ⟨[], [], [], [], []⟩ cs).table

/-- Reads the bytes of a document. -/
def readBytes (bytes : List UInt8) : Except Fault Table :=
  match decode? bytes with
  | some text => readDocument text
  | none => .error .notText

end CodeAtlas.Toml
