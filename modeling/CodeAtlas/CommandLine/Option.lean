import CodeAtlas.Text.Numeral
import CodeAtlas.Text.Quoted
import CodeAtlas.Text.Split

/-!
# Options

What an option of a command line is called, what it takes and what it does, and the faults for which
a command line is refused.
-/

namespace CodeAtlas.CommandLine

variable {α : Type}

/-! ## Faults -/

/-- Why a command line is refused. Options appear under all their names. -/
inductive Fault where
  /-- A word abbreviates several options. -/
  | ambiguous (word : String) (names : List String)
  | valueMissing (option : String)
  | valuesMissing (option : String)
  /-- An option that takes nothing is given a text. -/
  | valueIgnored (option text : String)
  | notNumber (option text : String)
  | notChoice (option text : String) (choices : List String)
  | operandMissing (name : String)
  | unrecognized (words : List String)
  deriving DecidableEq, Repr

/-- The beginning of what is said of one option. -/
def about (option : String) : String := "argument " ++ option ++ ": "

def Fault.message : Fault → String
  | ambiguous w names => "ambiguous option: " ++ w ++ " could match " ++ Text.join ", " names
  | valueMissing o => about o ++ "expected one argument"
  | valuesMissing o => about o ++ "expected at least one argument"
  | valueIgnored o t => about o ++ "ignored explicit argument " ++ Text.quoted t
  | notNumber o t => about o ++ "invalid int value: " ++ Text.quoted t
  | notChoice o t choices =>
    about o ++ "invalid choice: " ++ Text.quoted t ++ " (choose from " ++
      Text.join ", " (choices.map Text.quoted) ++ ")"
  | operandMissing n => "the following arguments are required: " ++ n
  | unrecognized ws => "unrecognized arguments: " ++ Text.join " " ws

/-- A question that an option asks in place of a request. -/
inductive Question where
  | usage
  | version
  deriving DecidableEq, Repr

/-- How reading a command line ends without a request. -/
inductive Ending where
  | refused (fault : Fault)
  | asked (question : Question)
  deriving DecidableEq, Repr

/-! ## Options -/

/-- What an option takes and what it does to a request. -/
inductive Effect (α : Type) where
  /-- Takes nothing. -/
  | flag (set : α → α)
  /-- Takes a text. -/
  | text (set : String → α → α)
  /-- Takes a whole number. -/
  | number (set : Int → α → α)
  /-- Takes one of some texts. -/
  | choice (choices : List String) (set : String → α → α)
  /-- Takes texts, at least one. -/
  | texts (set : List String → α → α)
  /-- Takes nothing and ends the reading. -/
  | ask (question : Question)

/-- How many texts an option takes. -/
inductive Takes where
  | nothing
  | one
  | several
  deriving DecidableEq, Repr

def Effect.takes : Effect α → Takes
  | flag _ | ask _ => .nothing
  | text _ | number _ | choice _ _ => .one
  | texts _ => .several

structure OptionSpec (α : Type) where
  names : List String
  effect : Effect α

namespace OptionSpec

/-- The option under all its names. -/
def label (o : OptionSpec α) : String := Text.join "/" o.names

/-- Does with a request what the option asks for, given the texts that it takes. -/
def perform (o : OptionSpec α) (texts : List String) (a : α) : Except Ending α :=
  let given := texts.headD ""
  match o.effect with
  | .flag set => .ok (set a)
  | .text set => .ok (set given a)
  | .number set =>
    match Text.readInt given with
    | some n => .ok (set n a)
    | none => .error (.refused (.notNumber o.label given))
  | .choice choices set =>
    if choices.contains given then .ok (set given a)
    else .error (.refused (.notChoice o.label given choices))
  | .texts set => .ok (set texts a)
  | .ask question => .error (.asked question)

/-- What is wrong if no text follows. -/
def missing (o : OptionSpec α) : Fault :=
  match o.effect with
  | .texts _ => .valuesMissing o.label
  | _ => .valueMissing o.label

end OptionSpec

/-- What the command lines of a program look like: options, and one operand that has to be there. -/
structure Form (α : Type) where
  options : List (OptionSpec α)
  operandName : String
  operand : String → α → α

/-- The option of some name. -/
def Form.find? (form : Form α) (name : String) : Option (OptionSpec α) :=
  form.options.find? (·.names.contains name)

/-- All names, each with its option. -/
def Form.named (form : Form α) : List (String × OptionSpec α) :=
  form.options.flatMap fun o => o.names.map (·, o)

end CodeAtlas.CommandLine
