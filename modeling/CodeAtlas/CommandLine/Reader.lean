import CodeAtlas.CommandLine.Option

/-!
# Reading command lines

A command line is read in two steps. Each word is an operand, an option or a separator, after which
all words are operands; a long option may be cut short as long as it fits one name only. Then options
take the operands that follow them, the first operand left over is the program's own, and what is left
after that is not recognized.

An option may have a value in its own word: after an equals sign, or right after a single letter. A
single letter that takes nothing may be followed by further letters.
-/

namespace CodeAtlas.CommandLine

variable {α : Type}

/-! ## Words -/

/-- A value in the word of its option. -/
structure Attached where
  afterEquals : Bool
  text : List Char
  deriving DecidableEq, Repr

/-- An option as a word names it. -/
structure Use (α : Type) where
  spec : OptionSpec α
  name : String
  attached : Option Attached

/-- What a word of a command line is. -/
inductive Word (α : Type) where
  | operand (text : String)
  | option (use : Use α)
  | unknown (text : String)
  /-- All words after this one are operands. -/
  | separator

/-- The word that makes all others operands. -/
def separatorText : String := "--"

/-- Is the text a number below zero, whole or decimal? -/
def isNegative (cs : List Char) : Bool :=
  match cs with
  | '-' :: rest =>
    let rest := if rest.getLast? = some '\n' then rest.dropLast else rest
    match rest.dropWhile Text.isDigit with
    | [] => !rest.isEmpty
    | '.' :: fraction => !fraction.isEmpty && fraction.all Text.isDigit
    | _ => false
  | _ => false

namespace Form

/-- An option whose full name stands before an equals sign. -/
def assigned? (form : Form α) (w : String) : Option (Use α) :=
  (Text.cutFirst '=' w).bind fun (name, value) =>
    (form.find? name).map fun o => ⟨o, name, some ⟨true, value.toList⟩⟩

/-- The options that a word with two dashes may stand for. -/
def longUses (form : Form α) (w : String) : List (Use α) :=
  let (start, attached) : String × Option Attached :=
    match Text.cutFirst '=' w with
    | some (start, value) => (start, some ⟨true, value.toList⟩)
    | none => (w, none)
  (form.named.filter fun p => Text.startsWith p.1 start).map fun p => ⟨p.2, p.1, attached⟩

/-- The options that a word with one dash may stand for. -/
def shortUses (form : Form α) (w : String) : List (Use α) :=
  let letter := String.ofList (w.toList.take 2)
  form.named.filterMap fun p =>
    if p.1 = letter then some ⟨p.2, p.1, some ⟨false, w.toList.drop 2⟩⟩
    else if Text.startsWith p.1 w then some ⟨p.2, p.1, none⟩
    else none

/-- A word that starts with a dash and is no option's name. -/
def abbreviated (form : Form α) (w : String) : Except Fault (Word α) :=
  match if Text.startsWith w "--" then form.longUses w else form.shortUses w with
  | [use] => .ok (.option use)
  | [] => .ok (if isNegative w.toList || w.toList.contains ' ' then .operand w else .unknown w)
  | uses => .error (.ambiguous w (uses.map (·.name)))

/-- What a word is if no separator stands before it. -/
def word (form : Form α) (w : String) : Except Fault (Word α) :=
  if !Text.startsWith w "-" || w = "-" then .ok (.operand w)
  else
    match form.find? w with
    | some o => .ok (.option ⟨o, w, none⟩)
    | none =>
      match form.assigned? w with
      | some use => .ok (.option use)
      | none => form.abbreviated w

/-- What the words of a command line are. -/
def words (form : Form α) : List String → Except Fault (List (Word α))
  | [] => .ok []
  | w :: rest =>
    if w = separatorText then .ok (.separator :: rest.map .operand)
    else do
      let first ← form.word w
      let others ← words form rest
      return first :: others

end Form

/-! ## Options in one word -/

/-- The options that one word names. -/
structure Cluster (α : Type) where
  /-- Options with the texts that the word itself gives them. -/
  given : List (OptionSpec α × List String)
  /-- The last option if it takes the words that follow. -/
  waiting : Option (OptionSpec α)
  /-- What is left of the word behind its options. -/
  unknown : List String

/-- An option before others in the same word. -/
def Cluster.after (o : OptionSpec α) (c : Cluster α) : Cluster α :=
  { c with given := (o, []) :: c.given }

/-- Is the name a single letter behind a dash? -/
def isLetter (name : String) : Bool := !Text.startsWith name "--"

/-- The options in a word, from one with an attached text on. -/
def Form.cluster (form : Form α) (o : OptionSpec α) (letter afterEquals : Bool) :
    List Char → Except Fault (Cluster α)
  | [] =>
    if o.effect.takes = .nothing then .error (.valueIgnored o.label "")
    else .ok ⟨[(o, [""])], none, []⟩
  | c :: rest =>
    let text := String.ofList (c :: rest)
    if o.effect.takes != .nothing then .ok ⟨[(o, [text])], none, []⟩
    else if !letter || afterEquals || c = '-' then .error (.valueIgnored o.label text)
    else
      match form.find? (String.ofList ['-', c]) with
      | none => .ok ⟨[(o, [])], none, ["-" ++ text]⟩
      | some next =>
        match rest with
        | [] => .ok (.after o ⟨[], some next, []⟩)
        | '=' :: value => (form.cluster next true true value).map (.after o)
        | d :: more => (form.cluster next true false (d :: more)).map (.after o)

/-- The options in a word. -/
def Use.cluster (form : Form α) (use : Use α) : Except Fault (Cluster α) :=
  match use.attached with
  | none => .ok ⟨[], some use.spec, []⟩
  | some a => form.cluster use.spec (isLetter use.name) a.afterEquals a.text

/-! ## Values -/

/-- The operands at the start of some words. -/
def leadingOperands : List (Word α) → List String
  | .operand w :: rest => w :: leadingOperands rest
  | _ => []

/-- The texts that an option takes from the words that follow it. -/
def OptionSpec.following (o : OptionSpec α) (ws : List (Word α)) : Except Fault (List String) :=
  let texts := leadingOperands ws
  match o.effect.takes with
  | .nothing => .ok []
  | .one => if texts.isEmpty then .error o.missing else .ok (texts.take 1)
  | .several => if texts.isEmpty then .error o.missing else .ok texts

/-- The texts that a word takes from those that follow it. -/
def Cluster.following (c : Cluster α) (ws : List (Word α)) : Except Fault (List String) :=
  match c.waiting with
  | some o => o.following ws
  | none => .ok []

/-- Every option of a word with the texts that it takes, the last one with those that follow. -/
def Cluster.supplied (c : Cluster α) (texts : List String) : List (OptionSpec α × List String) :=
  c.given ++ (c.waiting.map (·, texts)).toList

/-! ## Requests -/

/-- What has been read so far. -/
structure Progress (α : Type) where
  request : α
  hasOperand : Bool
  /-- The words that are not recognized. -/
  others : List String

namespace Progress

def leave (p : Progress α) (words : List String) : Progress α :=
  { p with others := p.others ++ words }

def takeOperand (form : Form α) (p : Progress α) (w : String) : Progress α :=
  { p with request := form.operand w p.request, hasOperand := true }

/-- Does what some options ask for, in order. -/
def perform (p : Progress α) : List (OptionSpec α × List String) → Except Ending (Progress α)
  | [] => .ok p
  | (o, texts) :: rest => do
    let request ← o.perform texts p.request
    perform { p with request } rest

end Progress

/-- The words behind an operand, without a separator that follows it directly. -/
def skipSeparator : List (Word α) → List (Word α)
  | .separator :: rest => rest
  | ws => ws

theorem length_skipSeparator_le (ws : List (Word α)) : (skipSeparator ws).length ≤ ws.length := by
  unfold skipSeparator
  split <;> simp

/-- Reads words in order. -/
def Progress.read (form : Form α) (p : Progress α) (ws : List (Word α)) :
    Except Ending (Progress α) :=
  match ws with
  | [] => .ok p
  | .unknown w :: rest => read form (p.leave [w]) rest
  | .operand w :: rest =>
    if p.hasOperand then read form (p.leave [w]) rest
    else read form (p.takeOperand form w) (skipSeparator rest)
  | .separator :: .operand w :: rest =>
    if p.hasOperand then read form (p.leave [separatorText, w]) rest
    else read form (p.takeOperand form w) rest
  | .separator :: rest => read form (p.leave [separatorText]) rest
  | .option use :: rest => do
    let cluster ← (use.cluster form).mapError .refused
    let texts ← (cluster.following rest).mapError .refused
    let p ← (p.leave cluster.unknown).perform (cluster.supplied texts)
    read form p (rest.drop texts.length)
termination_by ws.length
decreasing_by
  all_goals simp
  all_goals have := length_skipSeparator_le rest; omega

/-- The request of a command line, starting from one that asks for nothing. -/
def Form.read (form : Form α) (start : α) (args : List String) : Except Ending α := do
  let words ← (form.words args).mapError .refused
  let p ← Progress.read form ⟨start, false, []⟩ words
  if !p.hasOperand then throw (.refused (.operandMissing form.operandName))
  if !p.others.isEmpty then throw (.refused (.unrecognized p.others))
  return p.request

end CodeAtlas.CommandLine
