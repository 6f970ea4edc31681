import CodeAtlas.Regex.Syntax
import CodeAtlas.Text.Numeral
import CodeAtlas.Text.Word

/-!
# Reading regular expressions

A pattern is read from left to right by recursive descent. Each step of the descent takes at least
one character or goes one level down, so twice the length of the pattern bounds the steps.
-/

namespace CodeAtlas.Regex

open CodeAtlas.Text

/-- Why a pattern is refused. -/
inductive Fault where
  | malformed
  /-- A repetition count is too large. -/
  | overflow
  /-- The pattern asks for two character repertoires at once. -/
  | repertoires
  deriving DecidableEq, Repr

/-- What is read as one piece: a character, or one after a backslash. -/
inductive Piece where
  | plain (c : Char)
  | escaped (c : Char)
  deriving DecidableEq, Repr

/-- Where the reading of a pattern stands. -/
structure Reading where
  rest : List Char
  /-- Modes that are set for the whole pattern. -/
  mode : Mode
  /-- Is the full repertoire asked for? -/
  unicode : Bool
  /-- The widths of the groups by number; that of a group that is open is missing. -/
  groups : List (Option Width)
  names : List (String × Nat)
  /-- Inside a look-behind, how many groups there were before it. -/
  behind : Option Nat
  /-- The groups on which conditionals depend. -/
  conditions : List Nat

abbrev Reader := StateT Reading (Except Fault)

namespace Reader

def refuse {α : Type} : Reader α := throw Fault.malformed

/-! ## Pieces -/

/-- Takes the next piece. -/
def next : Reader (Option Piece) := do
  let s ← get
  match s.rest with
  | [] => return none
  | ['\\'] => refuse
  | '\\' :: c :: rest =>
    set { s with rest }
    return some (.escaped c)
  | c :: rest =>
    set { s with rest }
    return some (.plain c)

/-- Looks at the next character without taking it. -/
def peek : Reader (Option Char) := do
  match (← get).rest with
  | [] => return none
  | c :: _ => return if c = '\\' then none else some c

/-- Takes the next character if it is `c`. -/
def accept (c : Char) : Reader Bool := do
  let s ← get
  match s.rest with
  | x :: rest =>
    if x = c then
      set { s with rest }
      return true
    else return false
  | [] => return false

/-- Takes the next character, which must be `c`. -/
def expect (c : Char) : Reader PUnit := do
  if !(← accept c) then refuse

/-- Takes up to `n` characters of a class. -/
def takeUpTo (n : Nat) (p : Char → Bool) : Reader (List Char) := do
  let s ← get
  let taken := (s.rest.take n).takeWhile p
  set { s with rest := s.rest.drop taken.length }
  return taken

/-- Takes all characters of a class. -/
def takeAll (p : Char → Bool) : Reader (List Char) := do
  takeUpTo (← get).rest.length p

/-- The pieces before the first plain `c`, and what follows it. -/
def untilChar (c : Char) : List Char → Option (List Char × List Char)
  | [] => none
  | '\\' :: x :: rest => (untilChar c rest).map fun (a, b) => ('\\' :: x :: a, b)
  | x :: rest => if x = c then some ([], rest) else (untilChar c rest).map fun (a, b) => (x :: a, b)

/-- Takes a non-empty name and the character that ends it. -/
def nameUntil (c : Char) : Reader (List Char) := do
  let s ← get
  match untilChar c s.rest with
  | some (name, rest) =>
    if name.isEmpty then refuse
    set { s with rest }
    return name
  | none => refuse

/-! ## Escapes -/

def isAsciiDigit (c : Char) : Bool := '0' ≤ c && c ≤ '9'

def isOctal (c : Char) : Bool := '0' ≤ c && c ≤ '7'

def isHex (c : Char) : Bool := (hexDigit? c).isSome

def isAsciiLetter (c : Char) : Bool := ('a' ≤ c && c ≤ 'z') || ('A' ≤ c && c ≤ 'Z')

/-- The value of digits in a base up to 16. -/
def valueOf (base : Nat) (cs : List Char) : Nat :=
  cs.foldl (fun n c => base * n + (hexDigit? c).getD 0) 0

/-- The characters that a letter after a backslash stands for. -/
def controlCode? : Char → Option Nat
  | 'a' => some 7
  | 'b' => some 8
  | 'f' => some 12
  | 'n' => some 10
  | 'r' => some 13
  | 't' => some 9
  | 'v' => some 11
  | '\\' => some 92
  | _ => none

def category? : Char → Option Item
  | 'd' => some (.category false .digit)
  | 'D' => some (.category true .digit)
  | 's' => some (.category false .space)
  | 'S' => some (.category true .space)
  | 'w' => some (.category false .word)
  | 'W' => some (.category true .word)
  | _ => none

/-- Exactly `n` hexadecimal digits. -/
def hexCode (n : Nat) : Reader Nat := do
  let digits ← takeUpTo n isHex
  if digits.length < n then refuse
  let code := valueOf 16 digits
  if 0x10FFFF < code then refuse
  return code

/-- A numeric or literal escape that means the same inside and outside of sets. -/
def commonEscape (c : Char) : Reader Nat := do
  if c = 'x' then hexCode 2
  else if c = 'u' then hexCode 4
  else if c = 'U' then hexCode 8
  else if isAsciiLetter c || isAsciiDigit c then refuse
  else return c.toNat

/-- An escape inside a set. -/
def setEscape (c : Char) : Reader Item := do
  match controlCode? c, category? c with
  | some n, _ => return .code n
  | none, some item => return item
  | none, none =>
    if isOctal c then
      let code := valueOf 8 (c :: (← takeUpTo 2 isOctal))
      if 0o377 < code then refuse
      return .code code
    else return .code (← commonEscape c)

def anchor? : Char → Option Anchor
  | 'A' => some .textStart
  | 'b' => some .boundary
  | 'B' => some .noBoundary
  | 'Z' => some .textEnd
  | _ => none

/-! ## Groups -/

/-- Is the group with this number closed? -/
def isClosed (s : Reading) (index : Nat) : Bool := (s.groups.getD index none).isSome

/-- Inside a look-behind only groups that were closed before it can be referred to. -/
def checkBehind (index : Nat) : Reader PUnit := do
  let s ← get
  match s.behind with
  | none => pure ()
  | some before => if !isClosed s index || before ≤ index then refuse

/-- A reference to a group by number. -/
def reference (mode : Mode) (index : Nat) : Reader Node := do
  let s ← get
  if s.groups.length ≤ index || !isClosed s index then refuse
  checkBehind index
  return .backref mode index

/-- An escape outside of sets. -/
def escape (mode : Mode) (c : Char) : Reader Node := do
  match anchor? c, category? c, controlCode? c with
  | some a, _, _ => return .anchor mode a
  | none, some item, _ => return .set mode false [item]
  | none, none, some n => return .literal mode n
  | none, none, none =>
    if c = '0' then return .literal mode (valueOf 8 (← takeUpTo 2 isOctal))
    else if isAsciiDigit c then
      match ← takeUpTo 1 isAsciiDigit with
      | [d] =>
        if isOctal c && isOctal d then
          match ← takeUpTo 1 isOctal with
          | [e] =>
            let code := valueOf 8 [c, d, e]
            if 0o377 < code then refuse
            return .literal mode code
          | _ => reference mode (valueOf 10 [c, d])
        else reference mode (valueOf 10 [c, d])
      | _ => reference mode (valueOf 10 [c])
    else return .literal mode (← commonEscape c)

/-- Is the text a name? -/
def isName (cs : List Char) : Bool :=
  match cs with
  | [] => false
  | c :: rest => isWordStart c && rest.all isWordPart

/-- Opens a group; the answer is its number. -/
def openGroup (name : Option String) : Reader Nat := do
  let s ← get
  let index := s.groups.length
  match name with
  | none => set { s with groups := s.groups ++ [none] }
  | some n =>
    if (s.names.lookup n).isSome then refuse
    set { s with groups := s.groups ++ [none], names := (n, index) :: s.names }
  return index

/-- The widths of the groups that are closed. -/
def widths (s : Reading) : List Width := s.groups.map (·.getD ⟨0, 0⟩)

def closeGroup (index : Nat) (body : Node) : Reader PUnit :=
  modify fun s => { s with groups := s.groups.set index (some (body.width (widths s))) }

/-! ## Sets -/

/-- An element of a set that begins with a given piece. -/
def setPiece : Piece → Reader Item
  | .plain c => return .code c.toNat
  | .escaped c => setEscape c

/-- The elements of a set up to its closing bracket, latest first. -/
def setItems : Nat → List Item → Reader (List Item)
  | 0, _ => refuse
  | fuel + 1, items => do
    match ← next with
    | none => refuse
    | some piece =>
      if piece = .plain ']' && !items.isEmpty then return items
      let item ← setPiece piece
      if ← accept '-' then
        match ← next with
        | none => refuse
        | some (.plain ']') => return .code 45 :: item :: items
        | some limit =>
          match item, ← setPiece limit with
          | .code low, .code high =>
            if high < low then refuse
            setItems fuel (.range low high :: items)
          | _, _ => refuse
      else setItems fuel (item :: items)

/-- A set, after its opening bracket. -/
def charSet (mode : Mode) : Reader Node := do
  let negated ← accept '^'
  let items ← setItems ((← get).rest.length + 1) []
  return .set mode negated items.reverse

/-! ## Repetitions -/

/-- The largest count that is too large. -/
def maxRepeat : Nat := Nat.pow 2 32 - 1

/-- A count in decimal digits, unless it is missing. -/
def count? (digits : List Char) : Reader (Option Nat) := do
  if digits.isEmpty then return none
  let n := valueOf 10 digits
  if maxRepeat ≤ n then throw Fault.overflow
  return some n

/-- The bounds after an opening brace; `none` if the brace stands for itself. -/
def bounds : Reader (Option (Nat × Option Nat)) := do
  let start ← get
  if (← peek) = some '\x7d' then return none
  let low ← takeAll isAsciiDigit
  let comma ← accept ','
  let high ← if comma then takeAll isAsciiDigit else pure low
  if !(← accept '\x7d') then
    set start
    return none
  let min ← count? low
  let max ← count? high
  match min, max with
  | some a, some b => if b < a then refuse
  | _, _ => pure ()
  return some (min.getD 0, max)

/-- The mark after a count that says how the count is chosen. -/
def greed : Reader Greed := do
  if ← accept '?' then return .lazy
  if ← accept '+' then return .possessive
  return .greedy

/-- Repeats the latest part of a sequence. -/
def repeatLast (min : Nat) (max : Option Nat) : List Node → Reader (List Node)
  | [] => refuse
  | .anchor .. :: _ | .repeated .. :: _ => refuse
  | part :: parts => do
    return .repeated (← greed) min max part :: parts

/-! ## Modes -/

/-- Flags as written: modes, and the full repertoire. -/
structure Flags where
  mode : Mode
  unicode : Bool
  /-- A flag that has no effect but is known. -/
  template : Bool
  deriving DecidableEq

def Flags.none : Flags := ⟨Mode.plain, false, false⟩

def Flags.add (f : Flags) (c : Char) : Option Flags :=
  match c with
  | 'i' => some { f with mode.ignoreCase := true }
  | 'm' => some { f with mode.multiline := true }
  | 's' => some { f with mode.dotAll := true }
  | 'x' => some { f with mode.verbose := true }
  | 'a' => if f.unicode then Option.none else some { f with mode.ascii := true }
  | 'u' => if f.mode.ascii then Option.none else some { f with unicode := true }
  | 't' => some { f with template := true }
  | _ => Option.none

/-- Flags up to one of the given ending characters. -/
def flagsUntil (allowed : Char → Bool) (endings : List Char) :
    Nat → Flags → Char → Reader (Flags × Char)
  | 0, _, _ => refuse
  | fuel + 1, f, c => do
    if !allowed c then refuse
    match f.add c with
    | Option.none => refuse
    | some f =>
      match ← next with
      | some (.plain d) =>
        if endings.contains d then return (f, d) else flagsUntil allowed endings fuel f d
      | _ => refuse

/-- The mode inside a group with flags. -/
def innerMode (mode : Mode) (added removed : Flags) : Mode :=
  let base := if added.mode.ascii || added.unicode then { mode with ascii := false } else mode
  Mode.without (Mode.or base added.mode) removed.mode

/-- Reads flags that begin with `c`. The answer is `none` after flags for the whole pattern, which
are then set, and else the flags for a group, whose colon has been taken. -/
def flags (c : Char) : Reader (Option (Flags × Flags)) := do
  let fuel := (← get).rest.length + 1
  let (added, ending) ←
    if c = '-' then pure (Flags.none, '-')
    else flagsUntil (fun _ => true) [')', '-', ':'] fuel Flags.none c
  if ending = ')' then
    modify fun s =>
      { s with mode := Mode.or s.mode added.mode, unicode := s.unicode || added.unicode }
    return none
  if added.template then refuse
  let removed ←
    if ending = '-' then
      match ← next with
      | some (.plain d) => do
        let (f, _) ← flagsUntil (fun c => c != 'a' && c != 'u') [':'] fuel Flags.none d
        pure f
      | _ => refuse
    else pure Flags.none
  if removed.template then refuse
  if Mode.and added.mode removed.mode != Mode.plain then refuse
  return some (added, removed)

/-! ## Descent -/

/-- Parts, latest first, as one tree. -/
def sequenceOf (parts : List Node) : Node :=
  parts.foldl (fun later part => if later matches .empty then part else .cat part later) .empty

/-- Skips the rest of a line that is a comment. -/
def skipComment : Reader PUnit :=
  modify fun s => { s with rest := ((untilChar '\n' s.rest).map (·.2)).getD [] }

def isPatternBlank (c : Char) : Bool := c.toNat = 32 || (9 ≤ c.toNat && c.toNat ≤ 13)

/-- What a conditional depends on: the number of a group. -/
def condition : Reader Nat := do
  let name ← nameUntil ')'
  let index ←
    if isName name then
      match (← get).names.lookup (String.ofList name) with
      | some i => pure i
      | none => refuse
    else
      match readInt (String.ofList name) with
      | some n =>
        if n ≤ 0 || (Nat.pow 2 31 : Int) ≤ n then refuse
        modify fun s => { s with conditions := n.toNat :: s.conditions }
        pure n.toNat
      | none => refuse
  checkBehind index
  return index

mutual

/-- Alternatives up to a closing parenthesis or the end. -/
def alternatives : Nat → Option Mode → Reader Node
  | 0, _ => refuse
  | fuel + 1, scope => do
    let first := sequenceOf (← sequence fuel scope scope.isNone [])
    if ← accept '|' then return .alt first (← moreAlternatives fuel scope) else return first

/-- The alternatives after the first. -/
def moreAlternatives : Nat → Option Mode → Reader Node
  | 0, _ => refuse
  | fuel + 1, scope => do
    let first := sequenceOf (← sequence fuel scope false [])
    if ← accept '|' then return .alt first (← moreAlternatives fuel scope) else return first

/-- Parts up to a bar, a closing parenthesis or the end, latest first. Flags for the whole pattern
may stand only at its `start`. Without a scope, those flags are the mode. -/
def sequence : Nat → Option Mode → Bool → List Node → Reader (List Node)
  | 0, _, _, _ => refuse
  | fuel + 1, scope, start, parts => do
    let mode := scope.getD (← get).mode
    let stop ← peek
    if stop = some '|' || stop = some ')' then return parts
    match ← next with
    | none => return parts
    | some (.escaped c) =>
      sequence fuel scope start ((← escape mode c) :: parts)
    | some (.plain c) =>
      if mode.verbose && isPatternBlank c then sequence fuel scope start parts
      else if mode.verbose && c = '#' then
        skipComment
        sequence fuel scope start parts
      else if c = '[' then sequence fuel scope start ((← charSet mode) :: parts)
      else if c = '?' then sequence fuel scope start (← repeatLast 0 (some 1) parts)
      else if c = '*' then sequence fuel scope start (← repeatLast 0 none parts)
      else if c = '+' then sequence fuel scope start (← repeatLast 1 none parts)
      else if c = '\x7b' then
        match ← bounds with
        | some (min, max) => sequence fuel scope start (← repeatLast min max parts)
        | none => sequence fuel scope start (.literal mode c.toNat :: parts)
      else if c = '.' then sequence fuel scope start (.any mode :: parts)
      else if c = '^' then sequence fuel scope start (.anchor mode .lineStart :: parts)
      else if c = '$' then sequence fuel scope start (.anchor mode .lineEnd :: parts)
      else if c = '(' then
        match ← group fuel mode (start && parts.isEmpty) with
        | some part => sequence fuel scope start (part :: parts)
        | none => sequence fuel scope start parts
      else sequence fuel scope start (.literal mode c.toNat :: parts)

/-- A group, after its opening parenthesis; `none` for what leaves no trace. -/
def group : Nat → Mode → Bool → Reader (Option Node)
  | 0, _, _ => refuse
  | fuel + 1, mode, start => do
    if !(← accept '?') then return some (← capture fuel mode none)
    match ← next with
    | some (.plain 'P') =>
      if ← accept '<' then
        let name ← nameUntil '>'
        if !isName name then refuse
        return some (← capture fuel mode (some (String.ofList name)))
      expect '='
      let name ← nameUntil ')'
      if !isName name then refuse
      match (← get).names.lookup (String.ofList name) with
      | some i => return some (← reference mode i)
      | none => refuse
    | some (.plain ':') => return some (.group none (← closed fuel mode))
    | some (.plain '>') => return some (.atomic (← closed fuel mode))
    | some (.plain '#') =>
      match untilChar ')' (← get).rest with
      | some (_, rest) =>
        modify fun s => { s with rest }
        return none
      | none => refuse
    | some (.plain '=') => return some (.look false none (← closed fuel mode))
    | some (.plain '!') => return some (.look true none (← closed fuel mode))
    | some (.plain '<') =>
      let negative ← if ← accept '=' then pure false else
        expect '!'
        pure true
      let before := (← get).behind
      modify fun s => { s with behind := some (before.getD s.groups.length) }
      let body ← alternatives fuel (some mode)
      modify fun s => { s with behind := before }
      expect ')'
      return some (.look negative (some 0) body)
    | some (.plain '(') =>
      let index ← condition
      let yes := sequenceOf (← sequence fuel (some mode) false [])
      let no ← if ← accept '|' then pure (sequenceOf (← sequence fuel (some mode) false []))
        else pure .empty
      expect ')'
      return some (.branch index yes no)
    | some (.plain c) =>
      match ← flags c with
      | none => if start then return none else refuse
      | some (added, removed) => return some (.group none (← closed fuel (innerMode mode added removed)))
    | _ => refuse

/-- The content of a group and its closing parenthesis. -/
def closed : Nat → Mode → Reader Node
  | 0, _ => refuse
  | fuel + 1, mode => do
    let body ← alternatives fuel (some mode)
    expect ')'
    return body

/-- The content of a numbered group and its closing parenthesis. -/
def capture : Nat → Mode → Option String → Reader Node
  | 0, _, _ => refuse
  | fuel + 1, mode, name => do
    let index ← openGroup name
    let body ← closed fuel mode
    closeGroup index body
    return .group (some index) body

end

end Reader

/-! ## Whole patterns -/

/-- Gives every look-behind the number of characters it goes back, which must be fixed. -/
def Node.fixLooks (groups : List Width) : Node → Except Fault Node
  | group i body => do return group i (← body.fixLooks groups)
  | cat a b => do return cat (← a.fixLooks groups) (← b.fixLooks groups)
  | alt a b => do return alt (← a.fixLooks groups) (← b.fixLooks groups)
  | repeated g min max body => do return repeated g min max (← body.fixLooks groups)
  | atomic body => do return atomic (← body.fixLooks groups)
  | branch i yes no => do return branch i (← yes.fixLooks groups) (← no.fixLooks groups)
  | look negative none body => do return look negative none (← body.fixLooks groups)
  | look negative (some _) body => do
    let w := body.width groups
    if w.low = w.high then return look negative (some w.low) (← body.fixLooks groups)
    else throw .malformed
  | other => return other

/-- Does the text end in a backslash with nothing to escape? -/
def endsOpen : List Char → Bool
  | [] => false
  | ['\\'] => true
  | '\\' :: _ :: rest => endsOpen rest
  | _ :: rest => endsOpen rest

/-- Reads a pattern. -/
def read (pattern : String) : Except Fault Node := do
  let rest := pattern.toList
  if endsOpen rest then throw .malformed
  let start : Reading := ⟨rest, Mode.plain, false, [none], [], none, []⟩
  let (node, s) ← (Reader.alternatives (4 * rest.length + 4) none).run start
  if s.mode.ascii && s.unicode then throw .repertoires
  if !s.rest.isEmpty then throw .malformed
  if s.conditions.any (s.groups.length ≤ ·) then throw .malformed
  node.fixLooks (Reader.widths s)

end CodeAtlas.Regex
