import CodeAtlas.Failure
import CodeAtlas.Regex.Match
import CodeAtlas.Regex.Reader
import CodeAtlas.Text.Split

/-!
# Ignore files

The lines of an ignore file are patterns for paths, and the last one that matches a path decides
about it. A pattern is a sequence of segments between slashes, in which `**` stands for any number
of directories; it is matched as a regular expression.
-/

namespace CodeAtlas.Tree

open CodeAtlas.Text
open CodeAtlas.Regex (Node Mode Item)

/-- A pattern that means something. -/
structure Glob where
  /-- Does a match take the path out again? -/
  negated : Bool
  node : Node

/-! ## Parts of expressions -/

def slash : Node := .literal Mode.plain '/'.toNat

def notSlash : Node := .set Mode.plain true [.code '/'.toNat]

/-- Any number of repetitions. -/
def atLeast (min : Nat) (node : Node) : Node := .repeated .greedy min none node

def optionally (node : Node) : Node := .repeated .greedy 0 (some 1) node

def atStart : Node := .anchor Mode.plain .lineStart

/-- A slash or the end of the path. -/
def segmentEnd : Node := .alt slash (.anchor Mode.plain .lineEnd)

/-- A path that is not empty. -/
def anything : Node := .any Mode.plain

/-! ## Segments -/

/-- What comes of reading a part of a pattern: an expression, nothing, or a refusal. -/
inductive Part where
  | node (n : Node)
  | meaningless
  | refused (f : Failure)

/-- The content of a class, and what stands behind it. A bracket at the beginning belongs to it. -/
def cutClass (cs : List Char) : Option (List Char × List Char) :=
  match cs with
  | ']' :: rest => (cutFirstChars ']' rest).map fun (a, b) => (']' :: a, b)
  | _ => cutFirstChars ']' cs

/-- The expression for a class of characters. A backslash stands for itself. -/
def readClass (negated : Bool) (content : List Char) : Part :=
  let escaped := content.flatMap fun c => if c = '\\' then ['\\', '\\'] else [c]
  let text := '[' :: (if negated then ['^'] else []) ++ escaped ++ [']']
  match Regex.read (String.ofList text) with
  | .ok n => .node n
  | .error _ => .refused .regex

def Part.andThen : Part → Part → Part
  | node a, node b => node (.cat a b)
  | node _, other => other
  | other, _ => other

/-- The expression for the characters of a segment. The number bounds its parts. -/
def readSegment : Nat → List Char → Part
  | 0, _ | _, [] => .node .empty
  | _ + 1, ['\\'] => .refused .ignoreLine
  | fuel + 1, '\\' :: c :: rest =>
    (Part.node (.literal Mode.plain c.toNat)).andThen (readSegment fuel rest)
  | fuel + 1, '*' :: rest => (Part.node (atLeast 0 notSlash)).andThen (readSegment fuel rest)
  | fuel + 1, '?' :: rest => (Part.node notSlash).andThen (readSegment fuel rest)
  | fuel + 1, '[' :: rest =>
    let negated := rest.head? = some '!' || rest.head? = some '^'
    match cutClass (if negated then rest.tail else rest) with
    | some (content, after) => (readClass negated content).andThen (readSegment fuel after)
    | none => .meaningless
  | fuel + 1, c :: rest =>
    (Part.node (.literal Mode.plain c.toNat)).andThen (readSegment fuel rest)

/-- The expression for a segment that is not `**`. -/
def segmentNode (s : String) : Part :=
  if s = "*" then .node (atLeast 1 notSlash) else readSegment s.length s.toList

/-- The expression for segments; `first` holds at the beginning of a pattern, and `joined` where a
slash has to come before the next name. -/
def segmentsNode (first joined : Bool) : List String → Part
  | [] => .node .empty
  | "**" :: rest =>
    if rest.isEmpty then .node slash
    else if first then
      (Part.node (optionally (.cat (atLeast 1 anything) slash))).andThen
        (segmentsNode false false rest)
    else
      (Part.node (optionally (.cat slash (atLeast 1 anything)))).andThen
        (segmentsNode false true rest)
  | s :: rest =>
    let lead := Part.node (if joined then slash else .empty)
    let tail := if rest.isEmpty then Part.node segmentEnd else segmentsNode false true rest
    lead.andThen ((segmentNode s).andThen tail)

/-! ## Lines -/

/-- One of every run of `**`. -/
def collapseStars : List String → List String
  | "**" :: "**" :: rest => collapseStars ("**" :: rest)
  | s :: rest => s :: collapseStars rest
  | [] => []

/-- Anchors segments: those that begin with an empty one stand where they are, and a single name is
looked for in every directory. -/
def anchorSegments : List String → List String
  | "" :: rest => rest
  | [s] => ["**", s]
  | [s, ""] => ["**", s, ""]
  | segments => segments

/-- A pattern for a directory ends in an empty segment and takes everything in it. -/
def openDirectory (segments : List String) : List String :=
  if segments.getLast? = some "" then segments.dropLast ++ ["**"] else segments

/-- The expression for a pattern. -/
def patternNode (pattern : String) : Part :=
  let raw := splitAt '/' pattern
  let isDirectory := raw.getLast? = some ""
  let segments := anchorSegments raw
  if segments.isEmpty then .refused .ignoreLine
  else
    match collapseStars (openDirectory segments) with
    | ["**"] => .node (if isDirectory then slash else anything)
    | ["**", "*"] => .node anything
    | ["**", "*", "**"] => .node slash
    | segments => (Part.node atStart).andThen (segmentsNode true false segments)

/-- A line without the blanks at its end, unless the last of them is escaped. -/
def trimLine (line : String) : String := if endsWith line "\\ " then line else stripEnd line

/-- The pattern on a line; `none` for a line without meaning. -/
def readLine (line : String) : Except Failure (Option Glob) :=
  let pattern := trimLine line
  if pattern = "" || startsWith pattern "#" || pattern = "/" then .ok none
  else
    let negated := startsWith pattern "!"
    match patternNode (if negated then dropChars 1 pattern else pattern) with
    | .node n => .ok (some ⟨negated, n⟩)
    | .meaningless => .ok none
    | .refused f => .error f

/-- The patterns of some lines. -/
def readLines (lines : List String) : Except Failure (List Glob) := do
  return (← lines.mapM readLine).filterMap fun g => g

/-! ## Matching -/

/-- A path without a slash, or a dot and a slash, at its beginning. -/
def trimPath (path : String) : String :=
  if startsWith path "/" then dropChars 1 path
  else if startsWith path "./" then dropChars 2 path
  else path

/-- Do the patterns ignore a path? The last one that matches decides. -/
def globsIgnore (globs : List Glob) (path : String) : Bool :=
  let path := trimPath path
  match globs.reverse.find? (·.node.search path) with
  | some g => !g.negated
  | none => false

end CodeAtlas.Tree
