import CodeAtlas.Text.NormalTable

/-!
# The compatibility normal form

`normal` decomposes every character fully, puts marks in the order of their combining classes and
composes what can be composed. Two spellings of an identifier are the same name when their normal
forms agree.
-/

namespace CodeAtlas.Text

/-! ## Decomposition -/

/-- The parts of a Hangul syllable, by its index among the syllables. -/
def hangulParts (index : Nat) : List Char :=
  let lead := Char.ofNat (0x1100 + index / 588)
  let vowel := Char.ofNat (0x1161 + index % 588 / 28)
  let tail := index % 28
  if tail = 0 then [lead, vowel] else [lead, vowel, Char.ofNat (0x11A7 + tail)]

/-- The full compatibility decomposition of a character. -/
def decompose (c : Char) : List Char :=
  let n := c.toNat
  if n < 0xA0 then [c]
  else if 0xAC00 ≤ n && n ≤ 0xD7A3 then hangulParts (n - 0xAC00)
  else
    match longDecompositions.lookup n with
    | some image => image.map Char.ofNat
    | none => [(shifted? decompositionShifts c).getD c]

/-! ## Order of marks -/

/-- The combining class of a character; zero for a character that starts a cluster. -/
def combiningClass (c : Char) : Nat :=
  if c.toNat < 0x300 then 0
  else ((combiningRuns.find? (·.has c.toNat)).map (·.image)).getD 0

/-- Inserts a mark behind the marks of a class not above its own; the list holds the latest mark
first. -/
def insertMark (c : Char) : List Char → List Char
  | [] => [c]
  | x :: rest =>
    if combiningClass c < combiningClass x then x :: insertMark c rest else c :: x :: rest

/-- Sorts the marks of every cluster stably by class; the result is latest first. -/
def orderMarks (cs : List Char) : List Char :=
  cs.foldl (fun done c => if combiningClass c = 0 then c :: done else insertMark c done) []

/-! ## Composition -/

/-- Looks a pair up in a table of triples. -/
def lookupPair (a b : Nat) : List Nat → Option Nat
  | x :: y :: z :: rest => if x = a && y = b then some z else lookupPair a b rest
  | _ => none

/-- The composite of two characters. -/
def composePair (a b : Char) : Option Char :=
  let m := a.toNat
  let n := b.toNat
  if 0x1100 ≤ m && m < 0x1113 && 0x1161 ≤ n && n < 0x1176 then
    some (Char.ofNat (0xAC00 + ((m - 0x1100) * 21 + (n - 0x1161)) * 28))
  else if 0xAC00 ≤ m && m ≤ 0xD7A3 && (m - 0xAC00) % 28 == 0 && 0x11A7 < n && n < 0x11C3 then
    some (Char.ofNat (m + (n - 0x11A7)))
  else (lookupPair m n compositionTable).map Char.ofNat

/-- Where the composition of a text stands: what is finished, the starter that may still take
marks, and the marks it did not take, latest first each. -/
structure Composing where
  done : List Char
  starter : Option Char
  marks : List Char

def Composing.flush (s : Composing) : List Char := s.marks ++ s.starter.toList ++ s.done

/-- Takes the next character: it joins the starter unless a mark of its own class or above stands
between them. -/
def Composing.take (s : Composing) (c : Char) : Composing :=
  let open? := match s.marks with
    | [] => true
    | m :: _ => combiningClass m < combiningClass c
  match if open? then s.starter.bind (composePair · c) else none with
  | some both => ⟨s.done, some both, s.marks⟩
  | none =>
    if combiningClass c = 0 then ⟨s.flush, some c, []⟩
    else if s.starter.isNone then ⟨c :: s.done, none, []⟩
    else ⟨s.done, s.starter, c :: s.marks⟩

/-- The compatibility normal form of a text. -/
def normal (s : String) : String :=
  let decomposed := (orderMarks (s.toList.flatMap decompose)).reverse
  String.ofList ((decomposed.foldl Composing.take ⟨[], none, []⟩).flush).reverse

end CodeAtlas.Text
