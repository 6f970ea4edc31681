import CodeAtlas.Text.Alnum
import CodeAtlas.Text.Blank
import CodeAtlas.Text.Numeral

/-!
# Regular expressions

The syntax trees of regular expressions with groups, look-around, back references, conditionals and
three kinds of repetition. Every part that depends on modes carries them.
-/

namespace CodeAtlas.Regex

/-- The modes under which a part of an expression is read. -/
structure Mode where
  ignoreCase : Bool
  multiline : Bool
  dotAll : Bool
  ascii : Bool
  verbose : Bool
  deriving DecidableEq, Repr, Inhabited

def Mode.plain : Mode := ⟨false, false, false, false, false⟩

def Mode.or (a b : Mode) : Mode :=
  ⟨a.ignoreCase || b.ignoreCase, a.multiline || b.multiline, a.dotAll || b.dotAll,
    a.ascii || b.ascii, a.verbose || b.verbose⟩

def Mode.and (a b : Mode) : Mode :=
  ⟨a.ignoreCase && b.ignoreCase, a.multiline && b.multiline, a.dotAll && b.dotAll,
    a.ascii && b.ascii, a.verbose && b.verbose⟩

def Mode.without (a b : Mode) : Mode :=
  ⟨a.ignoreCase && !b.ignoreCase, a.multiline && !b.multiline, a.dotAll && !b.dotAll,
    a.ascii && !b.ascii, a.verbose && !b.verbose⟩

inductive Category where
  | digit
  | space
  | word
  deriving DecidableEq, Repr

/-- An element of a set of characters. -/
inductive Item where
  | code (n : Nat)
  | range (low high : Nat)
  | category (negated : Bool) (c : Category)
  deriving DecidableEq, Repr

inductive Anchor where
  | lineStart
  | lineEnd
  | textStart
  | textEnd
  | boundary
  | noBoundary
  deriving DecidableEq, Repr

/-- How a repetition chooses its count: as high as possible, as low as possible, or as high as
possible without going back. -/
inductive Greed where
  | greedy
  | lazy
  | possessive
  deriving DecidableEq, Repr

inductive Node where
  | empty
  | literal (mode : Mode) (code : Nat)
  | any (mode : Mode)
  | set (mode : Mode) (negated : Bool) (items : List Item)
  | anchor (mode : Mode) (a : Anchor)
  | group (index : Option Nat) (body : Node)
  | cat (first second : Node)
  | alt (first second : Node)
  | repeated (greed : Greed) (min : Nat) (max : Option Nat) (body : Node)
  | atomic (body : Node)
  | backref (mode : Mode) (index : Nat)
  /-- Looks ahead, or back by a number of characters. -/
  | look (negative : Bool) (back : Option Nat) (body : Node)
  | branch (index : Nat) (yes no : Node)
  deriving Repr, Inhabited

/-! ## Widths -/

/-- The least and the greatest number of characters that something can match. -/
structure Width where
  low : Nat
  high : Nat
  deriving DecidableEq, Repr, Inhabited

/-- Widths are not told apart from here on. -/
def Width.limit : Nat := Nat.pow 2 64

def Width.cut (w : Width) : Width := ⟨min w.low limit, min w.high limit⟩

def Width.add (a b : Width) : Width := ⟨a.low + b.low, a.high + b.high⟩

def Width.either (a b : Width) : Width := ⟨min a.low b.low, max a.high b.high⟩

def Width.times (w : Width) (min : Nat) : Option Nat → Width
  | some max => ⟨w.low * min, w.high * max⟩
  | none => ⟨w.low * min, if w.high = 0 then 0 else limit⟩

/-- The width of a tree, given those of the numbered groups. -/
def Node.width (groups : List Width) : Node → Width
  | empty | anchor .. | look .. => ⟨0, 0⟩
  | literal .. | any _ | set .. => ⟨1, 1⟩
  | group _ body | atomic body => (body.width groups).cut
  | cat a b => ((a.width groups).add (b.width groups)).cut
  | alt a b => ((a.width groups).either (b.width groups)).cut
  | repeated _ min max body => ((body.width groups).times min max).cut
  | backref _ i => groups.getD i ⟨0, 0⟩
  | branch _ yes no => ((yes.width groups).either (no.width groups)).cut

end CodeAtlas.Regex
