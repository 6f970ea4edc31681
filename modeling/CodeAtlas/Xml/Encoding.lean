import CodeAtlas.Text.Case
import CodeAtlas.Text.Split
import CodeAtlas.Text.Utf8

/-!
# Encodings of XML documents

A document is UTF-16 if its byte order mark says so. Every other document is read as its declaration
asks, as UTF-8 if it asks nothing.
-/

namespace CodeAtlas.Xml

open CodeAtlas.Text

/-! ## Declarations -/

def isSpace (c : Char) : Bool := c = ' ' || c = '\t' || c = '\n' || c = '\r'

def skipSpaces (cs : List Char) : List Char := cs.dropWhile isSpace

/-- A text between quotes, and what follows it. -/
def quotedText : List Char → Option (List Char × List Char)
  | q :: rest =>
    if q = '"' || q = '\'' then
      match rest.dropWhile (· != q) with
      | _ :: after => some (rest.takeWhile (· != q), after)
      | [] => none
    else none
  | [] => none

/-- What stands behind an expected text. -/
def behind (expected : String) (cs : List Char) : Option (List Char) :=
  if expected.toList.isPrefixOf cs then some (cs.drop expected.length) else none

/-- A part of the declaration with its value. -/
def declared (key : String) (cs : List Char) : Option (List Char × List Char) := do
  if !cs.head?.any isSpace then none
  let cs ← behind key (skipSpaces cs)
  let cs ← behind "=" (skipSpaces cs)
  quotedText (skipSpaces cs)

/-- Can the character stand in the version or the encoding of a document? -/
def isLabelChar (c : Char) : Bool := c.isAlphanum || c = '.' || c = '_' || c = '-'

/-- The encoding that a declaration asks for, and what follows the declaration. -/
def declaration (cs : List Char) : Option (Option (List Char) × List Char) := do
  let cs ← behind "<?xml" cs
  let (version, cs) ← declared "version" cs
  if !version.all isLabelChar then none
  let (encoding, cs) ← match declared "encoding" cs with
    | some (e, after) =>
      if e.head?.any (·.isAlpha) && e.all isLabelChar then some (some e, after) else none
    | none => some (none, cs)
  let cs ← match declared "standalone" cs with
    | some (s, after) => if s = "yes".toList || s = "no".toList then some after else none
    | none => some cs
  return (encoding, ← behind "?>" (skipSpaces cs))

/-- Does a document begin with a declaration? -/
def hasDeclaration (cs : List Char) : Bool :=
  match behind "<?xml" cs with
  | some rest => rest.head?.any isSpace
  | none => false

/-- A document without its declaration. -/
def withoutDeclaration (cs : List Char) : Option (List Char) :=
  if hasDeclaration cs then (declaration cs).map (·.2) else some cs

/-! ## Bytes -/

/-- Pairs of bytes as numbers, the higher byte first. -/
def units : List UInt8 → Option (List Nat)
  | [] => some []
  | [_] => none
  | a :: b :: rest => (units rest).map ((256 * a.toNat + b.toNat) :: ·)

/-- The same with the lower byte first. -/
def swappedUnits : List UInt8 → Option (List Nat)
  | [] => some []
  | [_] => none
  | a :: b :: rest => (swappedUnits rest).map ((256 * b.toNat + a.toNat) :: ·)

/-- The characters of UTF-16 units. -/
def ofUnits : List Nat → Option (List Char)
  | [] => some []
  | n :: rest =>
    if n < 0xD800 || 0xE000 ≤ n then (ofUnits rest).map (Char.ofNat n :: ·)
    else
      match rest with
      | m :: rest =>
        if n < 0xDC00 && 0xDC00 ≤ m && m < 0xE000 then
          (ofUnits rest).map (Char.ofNat (0x10000 + 1024 * (n - 0xD800) + (m - 0xDC00)) :: ·)
        else none
      | [] => none

/-- A document in units of two bytes. It can only declare the same. -/
def ofWide (us : Option (List Nat)) : Option (List Char) := do
  let cs ← us.bind ofUnits
  if !hasDeclaration cs then return cs
  let (encoding, rest) ← declaration cs
  match encoding.map fun e => lower (String.ofList e) with
  | none | some "utf-16" => return rest
  | some _ => none

/-- Bytes as the characters with these numbers. -/
def plainChars (bytes : List UInt8) : List Char := bytes.map fun b => Char.ofNat b.toNat

/-- The characters from number 128 in the code page 1252, zero where it has none. -/
def page1252 : List Nat := [0x20AC, 0, 0x201A, 0x0192, 0x201E, 0x2026, 0x2020, 0x2021, 0x02C6, 0x2030,
  0x0160, 0x2039, 0x0152, 0, 0x017D, 0, 0, 0x2018, 0x2019, 0x201C, 0x201D, 0x2022, 0x2013, 0x2014,
  0x02DC, 0x2122, 0x0161, 0x203A, 0x0153, 0, 0x017E, 0x0178]

/-- The character of a byte in the code page 1252. -/
def pageChar (b : UInt8) : Option Char :=
  match if b < 128 then none else page1252[b.toNat - 128]? with
  | none => some (Char.ofNat b.toNat)
  | some n => if n = 0 then none else some (Char.ofNat n)

/-- Other names of encodings. Of those that stand for UTF-8 only the part of one byte is read. -/
def narrowNames : List String := ["us_ascii", "ascii", "646", "utf_8", "utf8", "utf", "u8"]

def latinNames : List String :=
  ["iso_8859_1", "iso8859_1", "iso_8859_1_1987", "latin_1", "latin1", "latin", "l1", "8859", "cp819"]

def pageNames : List String := ["windows_1252", "cp1252", "1252"]

/-- Bytes in an encoding. -/
def decodeAs (encoding : String) (bytes : List UInt8) : Option (List Char) :=
  let name := replaceChar '-' '_' encoding
  if encoding = "utf-8" then decode? bytes
  else if narrowNames.contains name then
    if bytes.all (· < 128) then some (plainChars bytes) else none
  else if latinNames.contains name then some (plainChars bytes)
  else if pageNames.contains name then bytes.mapM pageChar
  else none

/-- The encoding that a document of bytes declares. -/
def encodingOf (bytes : List UInt8) : Option String :=
  let start := plainChars bytes
  if hasDeclaration start then
    (declaration start).map fun (e, _) => ((e.map fun e => lower (String.ofList e)).getD "utf-8")
  else some "utf-8"

/-- The text of a document behind its declaration. -/
def documentText (bytes : List UInt8) : Option (List Char) :=
  match bytes with
  | 0xFE :: 0xFF :: rest => ofWide (units rest)
  | 0xFF :: 0xFE :: rest => ofWide (swappedUnits rest)
  | _ => do
    let bytes := if bytes.take 3 = [0xEF, 0xBB, 0xBF] then bytes.drop 3 else bytes
    withoutDeclaration (← decodeAs (← encodingOf bytes) bytes)

end CodeAtlas.Xml
