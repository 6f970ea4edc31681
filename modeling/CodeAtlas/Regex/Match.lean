import CodeAtlas.Regex.Syntax

/-!
# Matching

A tree is matched by backtracking: `Node.run` goes on with a continuation, and the first way that
satisfies it wins. A repetition goes round again only where it has moved on, so the characters that
are left bound its rounds.
-/

namespace CodeAtlas.Regex

open CodeAtlas.Text

/-- A place in a text and what the groups have taken. -/
structure Place where
  /-- What stands before the place, nearest first. -/
  before : List Char
  after : List Char
  position : Nat
  groups : List (Nat × List Char)

namespace Place

/-- Moves over one character. -/
def advance (p : Place) : Place :=
  match p.after with
  | [] => p
  | c :: rest => { p with before := c :: p.before, after := rest, position := p.position + 1 }

/-- Moves over `n` characters. -/
def advanceBy : Nat → Place → Place
  | 0, p => p
  | n + 1, p => advanceBy n p.advance

/-- Moves back over `n` characters. -/
def retreat (n : Nat) (p : Place) : Option Place :=
  if p.before.length < n then none
  else
    some { p with
      before := p.before.drop n
      after := (p.before.take n).reverse ++ p.after
      position := p.position - n }

/-- The characters from `start` up to this place. -/
def since (p start : Place) : List Char := (p.before.take (p.position - start.position)).reverse

end Place

/-! ## Single characters -/

def Category.holds (mode : Mode) (c : Char) : Category → Bool
  | .digit => if mode.ascii then '0' ≤ c && c ≤ '9' else isDigit c
  | .space => if mode.ascii then c = ' ' || (9 ≤ c.toNat && c.toNat ≤ 13) else isBlank c
  | .word => if mode.ascii then c.isAlphanum || c = '_' else isAlnum c || c = '_'

/-- Is one of some code points in the element? -/
def Item.holds (mode : Mode) (c : Char) (codes : List Nat) : Item → Bool
  | code n => codes.contains n
  | range low high => codes.any fun n => low ≤ n && n ≤ high
  | category negated k => k.holds mode c != negated

/-- The small form of a character under a mode. -/
def folded (mode : Mode) (c : Char) : Char := if mode.ascii then c.toLower else foldChar c

/-- The characters that a mode takes for `c`. -/
def alike (mode : Mode) (c : Char) : List Char :=
  if !mode.ignoreCase then [c]
  else if mode.ascii then [c.toLower, c.toUpper]
  else
    let small := foldChar c
    (small :: siblings small).flatMap fun x =>
      unfoldings x ++ (if x = 'i' then ['\u0130'] else [])

/-- Does a set of characters hold `c`? -/
def setHolds (mode : Mode) (negated : Bool) (items : List Item) (c : Char) : Bool :=
  let codes := (alike mode c).map (·.toNat)
  let c := if mode.ignoreCase then folded mode c else c
  items.any (·.holds mode c codes) != negated

/-- Is `c` part of a word? -/
def isWordAt (mode : Mode) : Option Char → Bool
  | some c => Category.word.holds mode c
  | none => false

/-- Does an anchor hold at a place? -/
def Anchor.holds (mode : Mode) (p : Place) : Anchor → Bool
  | .textStart => p.before.isEmpty
  | .textEnd => p.after.isEmpty
  | .lineStart => p.before.isEmpty || (mode.multiline && p.before.head? = some '\n')
  | .lineEnd =>
    p.after.isEmpty || p.after = ['\n'] || (mode.multiline && p.after.head? = some '\n')
  | .boundary => isWordAt mode p.before.head? != isWordAt mode p.after.head?
  | .noBoundary =>
    !(p.before.isEmpty && p.after.isEmpty) &&
      isWordAt mode p.before.head? == isWordAt mode p.after.head?

/-- Does `part` stand at the beginning of a text, under a mode? -/
def beginsWith (mode : Mode) : List Char → List Char → Bool
  | [], _ => true
  | _ :: _, [] => false
  | x :: part, c :: cs =>
    (if mode.ignoreCase then folded mode x == folded mode c else x == c) && beginsWith mode part cs

/-! ## Repetition -/

/-- A way to go on: the place reached at the end, if there is one. -/
abbrev Goal := Place → Option Place

/-- Rounds of a repetition, as many as possible first. `last` is where the latest round beyond the
least count began; no round begins there again. -/
def rounds (body : Goal → Goal) (min : Nat) (max : Option Nat) (goal : Goal) :
    Nat → Nat → Option Nat → Goal
  | 0, _, _, _ => none
  | fuel + 1, count, last, p =>
    if count < min then body (rounds body min max goal fuel (count + 1) last) p
    else if max.all (count < ·) && last != some p.position then
      match body (rounds body min max goal fuel (count + 1) (some p.position)) p with
      | some found => some found
      | none => goal p
    else goal p

/-- Rounds of a repetition, as few as possible first. -/
def lazyRounds (body : Goal → Goal) (min : Nat) (max : Option Nat) (goal : Goal) :
    Nat → Nat → Option Nat → Goal
  | 0, _, _, _ => none
  | fuel + 1, count, last, p =>
    if count < min then body (lazyRounds body min max goal fuel (count + 1) last) p
    else
      match goal p with
      | some found => some found
      | none =>
        if max.all (count < ·) && last != some p.position then
          body (lazyRounds body min max goal fuel (count + 1) (some p.position)) p
        else none

/-! ## Trees -/

/-- Goes on after one character for which `holds`. -/
def oneChar (holds : Char → Bool) (goal : Goal) (p : Place) : Option Place :=
  match p.after with
  | c :: _ => if holds c then goal p.advance else none
  | [] => none

/-- Matches a tree at a place and goes on from where it ends. -/
def Node.run : Node → Goal → Goal
  | empty, goal, p => goal p
  | literal mode n, goal, p => oneChar (fun c => ((alike mode c).map (·.toNat)).contains n) goal p
  | any mode, goal, p => oneChar (fun c => mode.dotAll || c != '\n') goal p
  | set mode negated items, goal, p => oneChar (setHolds mode negated items) goal p
  | anchor mode a, goal, p => if a.holds mode p then goal p else none
  | group none body, goal, p => body.run goal p
  | group (some i) body, goal, p =>
    body.run (fun q => goal { q with groups := (i, q.since p) :: q.groups }) p
  | cat a b, goal, p => a.run (b.run goal) p
  | alt a b, goal, p =>
    match a.run goal p with
    | some found => some found
    | none => b.run goal p
  | repeated .greedy min max body, goal, p =>
    rounds body.run min max goal (min + p.after.length + 2) 0 none p
  | repeated .lazy min max body, goal, p =>
    lazyRounds body.run min max goal (min + p.after.length + 2) 0 none p
  | repeated .possessive min max body, goal, p =>
    (rounds body.run min max some (min + p.after.length + 2) 0 none p).bind goal
  | atomic body, goal, p => (body.run some p).bind goal
  | backref mode i, goal, p =>
    match p.groups.lookup i with
    | some part => if beginsWith mode part p.after then goal (p.advanceBy part.length) else none
    | none => none
  | look negative back body, goal, p =>
    let found := (p.retreat (back.getD 0)).bind (body.run some)
    match negative, found with
    | false, some q => goal { p with groups := q.groups }
    | false, none => none
    | true, some _ => none
    | true, none => goal p
  | branch i yes no, goal, p =>
    if (p.groups.lookup i).isSome then yes.run goal p else no.run goal p

/-- Where a match begins and where it ends. -/
structure Span where
  start : Place
  finish : Place

/-- Looks for a match at a place or behind it. The number bounds how far. -/
def searchFrom (node : Node) : Nat → Place → Option Span
  | 0, p => (node.run some p).map (⟨p, ·⟩)
  | n + 1, p =>
    match node.run some p with
    | some q => some ⟨p, q⟩
    | none => searchFrom node n p.advance

/-- The beginning of a text. -/
def Place.ofText (text : String) : Place := ⟨[], text.toList, 0, []⟩

/-- The first match in a text. -/
def Node.find? (node : Node) (text : String) : Option Span :=
  searchFrom node text.length (.ofText text)

/-- Does the tree match somewhere in the text? -/
def Node.search (node : Node) (text : String) : Bool := (node.find? text).isSome

/-- The matches from a place on, none of which begins before the end of the one before. The number
bounds them. -/
def findAllFrom (node : Node) : Nat → Place → List Span
  | 0, _ => []
  | fuel + 1, p =>
    match searchFrom node p.after.length p with
    | some m =>
      let next := { m.finish with groups := [] }
      m :: findAllFrom node fuel
        (if m.finish.position = m.start.position then next.advance else next)
    | none => []

/-- The matches in a text from left to right. -/
def Node.findAll (node : Node) (text : String) : List Span :=
  findAllFrom node (text.length + 1) (.ofText text)

/-- What a group took in a match. -/
def Span.taken (m : Span) (group : Nat) : String :=
  String.ofList ((m.finish.groups.lookup group).getD [])

end CodeAtlas.Regex
