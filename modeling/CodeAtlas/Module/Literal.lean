import CodeAtlas.Module.Escape
import CodeAtlas.Module.Numeral
import CodeAtlas.Module.Token

/-!
# Literals of texts

A literal as it is written: letters that say how it is to be read, quotes, and the characters
between them. A formatted literal is cut into pieces, whose fields are given to a lexer.
-/

namespace CodeAtlas.Module

/-! ## Quotes -/

/-- How a literal is to be read. -/
structure Manner where
  raw : Bool
  bytes : Bool
  formatted : Bool
  /-- The literal is marked as Unicode by a small letter. -/
  marked : Bool
  deriving DecidableEq, Repr

/-- The manner that some letters ask for. -/
def mannerOf (letters : List Char) : Option Manner :=
  let has (a b : Char) : Bool := letters.any fun c => c = a || c = b
  let m : Manner := ⟨has 'r' 'R', has 'b' 'B', has 'f' 'F', letters = ['u']⟩
  match letters with
  | [] => some m
  | [_] => if m.raw || m.bytes || m.formatted || has 'u' 'U' then some m else none
  | [_, _] => if m.raw && (m.bytes || m.formatted) then some m else none
  | _ => none

def isQuote (c : Char) : Bool := c = '"' || c = '\''

/-- The letters and the quote that a literal begins with. -/
def manner? (cs : List Char) : Option (Manner × Char × List Char) :=
  let letters := (cs.take 3).takeWhile (!isQuote ·)
  match cs.drop letters.length with
  | q :: rest => if isQuote q then (mannerOf letters).map fun m => (m, q, rest) else none
  | [] => none

/-- The characters up to the closing quotes, and what follows these. A short literal stays on its
line. -/
def bodyUntil (q : Char) (long : Bool) : List Char → Option (List Char × List Char)
  | [] => none
  | ['\\'] => none
  | '\\' :: c :: rest => (bodyUntil q long rest).map fun (body, r) => ('\\' :: c :: body, r)
  | c :: rest =>
    if c = q && (!long || [q, q].isPrefixOf rest) then some ([], if long then rest.drop 2 else rest)
    else if c = '\n' && !long then none
    else (bodyUntil q long rest).map fun (body, r) => (c :: body, r)

/-- The characters of a literal behind its first quote, and what follows it. -/
def quotedBody (q : Char) (rest : List Char) : Option (List Char × List Char) :=
  if [q, q].isPrefixOf rest then bodyUntil q true (rest.drop 2) else bodyUntil q false rest

/-- How many lines begin inside some characters. -/
def lineCount (cs : List Char) : Nat := cs.countP (· = '\n')

/-! ## Formatted literals -/

/-- What the last characters of a text make of the next one. -/
inductive Awaiting where
  | any
  /-- A backslash stands before it. -/
  | escaped
  /-- The brace before a character's name. -/
  | opening
  /-- A part of a character's name. -/
  | inName
  deriving DecidableEq

/-- What is awaited behind a character that is no brace of a field. -/
def Awaiting.after (raw : Bool) (c : Char) : Awaiting → Awaiting
  | any => if c = '\\' && !raw then escaped else any
  | escaped => if c = 'N' then opening else any
  | opening => if c = '\x7b' then inName else any
  | inName => if c = '\x7d' then any else inName

/-- The characters up to the next field or the end of the pieces, with a doubled brace read as one;
whether the pieces go on behind a doubled brace; and what follows. Doubled braces only stand at the
top level. -/
def literalPart (raw top : Bool) (w : Awaiting) :
    List Char → Option (List Char × Bool × List Char)
  | [] => some ([], false, [])
  | c :: rest =>
    if (c = '\x7b' || c = '\x7d') && (w = .any || w = .escaped) then
      if top && rest.head? = some c then some ([c], true, rest.drop 1)
      else if top && c = '\x7d' then none
      else some ([], false, c :: rest)
    else
      (literalPart raw top (w.after raw c) rest).map fun (part, more, after) =>
        (c :: part, more, after)

/-- Where the scan of a field stands: the quotes that it is in, the brackets that are open, and how
many characters are passed unseen. -/
structure Scanning where
  quotes : Option (Char × Bool)
  brackets : List Char
  unseen : Nat

namespace Scanning

/-- Passes a character inside quotes. -/
def inQuotes (s : Scanning) (q : Char) (long : Bool) (c : Char) (rest : List Char) : Scanning :=
  if c != q then s
  else if !long then { s with quotes := none }
  else if [q, q].isPrefixOf rest then { s with quotes := none, unseen := 2 }
  else s

/-- Passes a quote that opens a text. -/
def openQuotes (s : Scanning) (q : Char) (rest : List Char) : Scanning :=
  if [q, q].isPrefixOf rest then { s with quotes := some (q, true), unseen := 2 }
  else { s with quotes := some (q, false) }

/-- Passes an opening bracket, unless too many are open. -/
def openBracket (s : Scanning) (c : Char) : Option Scanning :=
  if 200 ≤ s.brackets.length then none else some { s with brackets := c :: s.brackets }

/-- Passes a closing bracket if it belongs to the last opening one. -/
def closeBracket (s : Scanning) (c : Char) : Option Scanning :=
  match s.brackets with
  | o :: others => if closing? o = some c then some { s with brackets := others } else none
  | [] => none

/-- What becomes of the next character of a field: the scan fails, ends or goes on. -/
inductive Next where
  | fail
  | stop
  | go (s : Scanning)

def Next.ofOption : Option Scanning → Next
  | some s => .go s
  | none => .fail

/-- Passes the next character of a field. A comparison does not end a field, but a single mark of
these does. -/
def next (s : Scanning) (c : Char) (rest : List Char) : Next :=
  match s.unseen, s.quotes with
  | n + 1, _ => .go { s with unseen := n }
  | 0, some (q, long) => if c = '\\' then .fail else .go (s.inQuotes q long c rest)
  | 0, none =>
    if c = '\\' || c = '#' then .fail
    else if isQuote c then .go (s.openQuotes c rest)
    else if (closing? c).isSome then .ofOption (s.openBracket c)
    else if s.brackets.isEmpty && "!:\x7d=<>".toList.contains c then
      if rest.head? = some '=' && "!=<>".toList.contains c then .go { s with unseen := 1 }
      else if c = '<' || c = '>' then .go s
      else .stop
    else if isClosing c then .ofOption (s.closeBracket c)
    else .go s

end Scanning

/-- The characters of a field's value, up to what ends it. -/
def fieldValue (s : Scanning) : List Char → Option (List Char × List Char)
  | [] => if s.quotes.isSome || !s.brackets.isEmpty then none else some ([], [])
  | c :: rest =>
    match s.next c rest with
    | .fail => none
    | .stop => some ([], c :: rest)
    | .go s' => (fieldValue s' rest).map fun (value, after) => (c :: value, after)

/-- The blanks of this language's own. -/
def isFieldBlank (c : Char) : Bool := c = ' ' || c = '\t' || c = '\n' || c = '\x0c'

/-- Blanks behind an equals sign. -/
def isAnyBlank (c : Char) : Bool := isFieldBlank c || c = '\r' || c = '\x0b'

/-- A field of which all but its format is read: its tokens, its conversion, the text that it shows
before its value, and what follows. -/
structure FieldHead where
  tokens : List Token
  shown : List Char
  conversion : Option Char
  rest : List Char

/-- Reads a field behind its opening brace up to its format. `line` is the line of the brace. -/
def fieldHead (lex : Nat → List Char → Option (List Token)) (line : Nat) (cs : List Char) :
    Option FieldHead := do
  let (value, rest) ← fieldValue ⟨none, [], 0⟩ cs
  if rest.isEmpty || value.all isFieldBlank then none
  let tokens ← lex line ('(' :: value ++ [')'])
  let (shown, rest) :=
    match rest with
    | '=' :: after =>
      let (blanks, after) := after.span isAnyBlank
      (value ++ '=' :: blanks, after)
    | other => ([], other)
  match rest with
  | '!' :: c :: after =>
    if c = 's' || c = 'r' || c = 'a' then some ⟨tokens, shown, some c, after⟩ else none
  | ['!'] => none
  | other => some ⟨tokens, shown, none, other⟩

/-- Characters as a piece. -/
def literalPiece (raw : Bool) (part : List Char) : Option (List Piece) :=
  if part.isEmpty then some []
  else (if raw then some part else unescape part).map fun s => [.literal s]

/-- Cuts a literal into pieces. `level` says how deep in formats the pieces stand; `endLine` is the
line on which the whole literal ends. The first number bounds the length of the text. -/
def pieces (lex : Nat → List Char → Option (List Token)) (raw : Bool) (endLine : Nat) :
    Nat → Nat → List Char → Option (List Piece × List Char)
  | 0, _, _ => none
  | fuel + 1, level, cs => do
    let (part, more, rest) ← literalPart raw (level = 0) .any cs
    let front ← literalPiece raw part
    if more then
      let (others, after) ← pieces lex raw endLine fuel level rest
      return (front ++ others, after)
    else
      match rest with
      | '\x7b' :: inner =>
        if 2 ≤ level then none
        let head ← fieldHead lex (endLine - lineCount rest) inner
        let (spec, after) ←
          match head.rest with
          | ':' :: format =>
            (pieces lex raw endLine fuel (level + 1) format).map fun (ps, r) => (some ps, r)
          | other => some (none, other)
        match after with
        | '\x7d' :: after =>
          let showsValue := !head.shown.isEmpty && spec.isNone && head.conversion.isNone
          let conversion := if showsValue then some 'r' else head.conversion
          let shown := if head.shown.isEmpty then [] else [Piece.literal head.shown]
          let (others, after) ← pieces lex raw endLine fuel level after
          return (front ++ shown ++ .field head.tokens conversion spec :: others, after)
        | _ => none
      | other =>
        if level = 0 || other.head? = some '\x7d' then return (front, other) else none

/-! ## Literals -/

/-- The token for a literal that begins on a line. -/
def literalKind (lex : Nat → List Char → Option (List Token)) (m : Manner) (line : Nat)
    (body : List Char) : Option Kind := do
  if m.bytes then return .bytes (← unescapeBytes m.raw body)
  else if m.formatted then
    let (ps, rest) ← pieces lex m.raw (line + lineCount body) (body.length + 1) 0 body
    if rest.isEmpty then return .formatted ps else none
  else return .text (String.ofList (← if m.raw then some body else unescape body)) m.marked

end CodeAtlas.Module
