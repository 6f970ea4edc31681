import CodeAtlas.Module.Literal
import CodeAtlas.Text.Normal
import CodeAtlas.Text.Word

/-!
# Cutting a module into tokens

Blocks show as tokens of their own where indentation grows and shrinks. Lines that hold nothing but
a comment do not count, nor do line ends inside brackets.
-/

namespace CodeAtlas.Module

/-- Where a lexer stands. -/
structure Cursor where
  line : Nat
  /-- The columns of the open blocks, innermost first: with tabs as stops, and with tabs as blanks. -/
  indents : List (Nat × Nat)
  brackets : List Char
  atStart : Bool

/-- What a lexer found: tokens, where it stands now, and what is left. -/
structure Found where
  tokens : List Token
  cursor : Cursor
  rest : List Char

/-! ## Indentation -/

/-- The blanks at the beginning of a line. A line that is continued has the indentation of its first
part. -/
structure Margin where
  column : Nat
  flatColumn : Nat
  first : Nat
  line : Nat

def isBlankChar (c : Char) : Bool := c = ' ' || c = '\t' || c = '\x0c'

/-- Passes a blank. -/
def Margin.pass (m : Margin) (c : Char) : Margin :=
  if c = ' ' then { m with column := m.column + 1, flatColumn := m.flatColumn + 1 }
  else if c = '\t' then
    { m with column := (m.column / 8 + 1) * 8, flatColumn := m.flatColumn + 1 }
  else { m with column := 0, flatColumn := 0 }

/-- Passes the beginning of a line up to its first visible character. -/
def Margin.read (m : Margin) : List Char → Option (Margin × List Char)
  | '\\' :: '\n' :: [] => none
  | '\\' :: '\n' :: rest =>
    Margin.read { m with first := if m.first = 0 then m.column else m.first, line := m.line + 1 } rest
  | '\\' :: _ => none
  | c :: rest => if isBlankChar c then (m.pass c).read rest else some (m, c :: rest)
  | [] => some (m, [])

/-- The two columns of a margin. -/
def Margin.columns (m : Margin) : Nat × Nat :=
  if m.first = 0 then (m.column, m.flatColumn) else (m.first, m.first)

/-- Closes blocks until one of the given column is innermost, and counts them. -/
def closeBlocks (column : Nat) : List (Nat × Nat) → Nat × List (Nat × Nat)
  | [] => (0, [])
  | (c, f) :: others =>
    if column < c then let (n, left) := closeBlocks column others; (n + 1, left)
    else (0, (c, f) :: others)

/-- The tokens for the blocks that a line with the given columns opens or closes, and the blocks that
are open then. Both columns have to agree on how the line relates to the open blocks. -/
def arrange (columns : Nat × Nat) (indents : List (Nat × Nat)) :
    Option (List Kind × List (Nat × Nat)) :=
  let (column, flatColumn) := columns
  let (top, flatTop) := indents.head?.getD (0, 0)
  if column = top then if flatColumn = flatTop then some ([], indents) else none
  else if top < column then
    if 99 ≤ indents.length || flatColumn ≤ flatTop then none
    else some ([.indent], (column, flatColumn) :: indents)
  else
    let (closed, left) := closeBlocks column indents
    if left.head?.getD (0, 0) = (column, flatColumn) then
      some (List.replicate closed .dedent, left)
    else none

/-- Passes the beginning of a line. -/
def startLine (s : Cursor) (cs : List Char) : Option Found := do
  let (m, rest) ← Margin.read ⟨0, 0, 0, s.line⟩ cs
  let s := { s with line := m.line }
  match rest.dropWhile fun c => rest.head? = some '#' && c != '\n' with
  | '\n' :: after => return ⟨[], { s with line := s.line + 1 }, after⟩
  | _ =>
    if s.brackets.isEmpty then
      let (kinds, indents) ← arrange m.columns s.indents
      return ⟨kinds.map (.mk · s.line), { s with indents, atStart := false }, rest⟩
    else return ⟨[], { s with atStart := false }, rest⟩

/-! ## Tokens -/

/-- The word at the beginning of a text. Words with characters beyond ASCII are never reserved, and
stand for their normal forms. -/
def word? (cs : List Char) : Option (Kind × List Char) :=
  let (word, rest) := cs.span continuesWord
  if word.all (·.toNat < 128) then some (wordKind (String.ofList word), rest)
  else
    match word with
    | c :: others =>
      if Text.isWordStart c && others.all Text.isWordPart then
        some (.name (Text.normal (String.ofList word)), rest)
      else none
    | [] => none

/-- The operator or bracket at the beginning of a text. -/
def operator? (s : Cursor) (cs : List Char) : Option (String × Cursor × List Char) :=
  match longOps.find? fun o => o.toList.isPrefixOf cs, cs with
  | some o, _ => some (o, s, cs.drop o.length)
  | none, c :: rest =>
    let name := String.ofList [c]
    if (closing? c).isSome then
      if 200 ≤ s.brackets.length then none
      else some (name, { s with brackets := c :: s.brackets }, rest)
    else if isClosing c then
      match s.brackets with
      | o :: others =>
        if closing? o = some c then some (name, { s with brackets := others }, rest) else none
      | [] => none
    else if shortOps.contains c then some (name, s, rest)
    else none
  | none, [] => none

/-- Does a number begin here? -/
def beginsNumber : List Char → Bool
  | '.' :: d :: _ => isAsciiDigit d
  | c :: _ => isAsciiDigit c
  | [] => false

/-- The token at the beginning of a text. `embedded` cuts the fields of formatted literals. -/
def token? (embedded : Nat → List Char → Option (List Token)) (s : Cursor) (cs : List Char) :
    Option Found := do
  match manner? cs with
  | some (m, q, rest) =>
    let (body, rest) ← quotedBody q rest
    let kind ← literalKind embedded m s.line body
    return ⟨[.mk kind s.line], { s with line := s.line + lineCount body }, rest⟩
  | none =>
    if cs.head?.any beginsWord then
      let (kind, rest) ← word? cs
      return ⟨[.mk kind s.line], s, rest⟩
    else if beginsNumber cs then
      let (value, rest) ← readNumber cs
      return ⟨[.mk (.number value) s.line], s, rest⟩
    else
      let (op, s', rest) ← operator? s cs
      return ⟨[.mk (.op op) s.line], s', rest⟩

/-- Passes what stands next on a line. -/
def onLine (embedded : Nat → List Char → Option (List Token)) (s : Cursor) (cs : List Char) :
    Option Found :=
  match cs with
  | '#' :: _ => some ⟨[], s, cs.dropWhile (· != '\n')⟩
  | '\n' :: rest =>
    let next := { s with line := s.line + 1, atStart := true }
    some ⟨if s.brackets.isEmpty then [.mk .newline s.line] else [], next, rest⟩
  | '\\' :: '\n' :: rest =>
    if rest.isEmpty then none else some ⟨[], { s with line := s.line + 1 }, rest⟩
  | '\\' :: _ => none
  | c :: rest => if isBlankChar c then some ⟨[], s, rest⟩ else token? embedded s cs
  | [] => none

/-! ## Texts -/

/-- The tokens of a text, behind those in `done`, latest first. The number bounds how many steps are
made. -/
def tokensFrom (embedded : Nat → List Char → Option (List Token)) :
    Nat → Cursor → List Char → List Token → Option (List Token)
  | 0, _, _, _ => none
  | fuel + 1, s, cs, done =>
    match if s.atStart then startLine s cs else onLine embedded s cs with
    | some found => tokensFrom embedded fuel found.cursor found.rest (found.tokens.reverse ++ done)
    | none =>
      if cs.isEmpty && s.brackets.isEmpty && !s.atStart then
        some (.mk .finish s.line :: done).reverse
      else none

/-- The text with a line end behind its last line. -/
def endLastLine (cs : List Char) : List Char := if cs.getLast? = some '\n' then cs else cs ++ ['\n']

/-- The tokens of a text whose first line has the given number. Formatted literals stand in each
other only up to a depth. -/
def tokensAt : Nat → Nat → List Char → Option (List Token)
  | 0, _, _ => none
  | depth + 1, line, cs =>
    let cs := endLastLine cs
    if cs.contains '\x00' then none
    else tokensFrom (tokensAt depth) (2 * cs.length + 2) ⟨line, [], [], true⟩ cs []

/-- Formatted literals that stand in each other need quotes of their own, of which there are four;
deeper ones are refused anyway. -/
def maxDepth : Nat := 6

/-- The tokens of a module. -/
def tokens (cs : List Char) : Option (List Token) := tokensAt maxDepth 1 cs

end CodeAtlas.Module
