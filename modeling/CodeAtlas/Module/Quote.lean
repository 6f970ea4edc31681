import CodeAtlas.Text.Quoted
import CodeAtlas.Text.Split

/-!
# Quotes of printed literals

How a text is put into quotes where backslashes are to be avoided, or must not occur at all. Of the
four kinds of quotes the first is taken that the text leaves free.
-/

namespace CodeAtlas.Module

open CodeAtlas.Text (escapeChar quoted occursIn)

abbrev Quotes := List Char

def longQuotes : List Quotes := [['"', '"', '"'], ['\'', '\'', '\'']]

def allQuotes : List Quotes := [['\''], ['"']] ++ longQuotes

/-- A character as a literal shows it; line feeds and tabs may stay as they are. -/
def showChar (escapeBlanks : Bool) (c : Char) : List Char :=
  if !escapeBlanks && (c = '\n' || c = '\t') then [c] else escapeChar '\\' c

/-- The characters between the quotes of the text's usual form. -/
def usualBody (cs : List Char) : List Char :=
  ((quoted (String.ofList cs)).toList.drop 1).dropLast

/-- The quotes that some escaped characters leave free. -/
def freeQuotes (quotes : List Quotes) (escaped : List Char) : List Quotes :=
  (if escaped.contains '\n' then quotes.filter longQuotes.contains else quotes).filter
    fun q => !occursIn q escaped

/-- Quotes that do not begin with the given character, then the others. -/
def preferOther (c : Option Char) (quotes : List Quotes) : List Quotes :=
  quotes.filter (·.head? != c) ++ quotes.filter (·.head? = c)

/-- The characters to be written between quotes, and the quotes that they allow. Without such
quotes the usual form decides. -/
def quoteBody (quotes : List Quotes) (escapeBlanks : Bool) (cs : List Char) :
    List Char × List Quotes :=
  let escaped := cs.flatMap (showChar escapeBlanks)
  match freeQuotes quotes escaped with
  | [] =>
    let own := (Text.quoteFor cs)
    (usualBody cs, [(quotes.find? (·.contains own)).getD [own]])
  | free =>
    let sorted := preferOther escaped.getLast? free
    match escaped.getLast?, sorted.head?.bind (·.head?) with
    | some last, some q =>
      if last = q then (escaped.dropLast ++ ['\\', last], sorted) else (escaped, sorted)
    | _, _ => (escaped, free)

/-- Characters between quotes. -/
def inQuotes (q : Quotes) (body : List Char) : List Char := q ++ body ++ q

/-- A text in quotes with as few backslashes as possible. -/
def quoteAvoiding (cs : List Char) : List Char :=
  let (body, quotes) := quoteBody allQuotes false cs
  inQuotes (quotes.head?.getD []) body

/-- The parts of a formatted text between quotes that suit all of them; the flag tells a part's plain
characters from a field. `none` if no quotes suit. -/
def quoteParts (quotes : List Quotes) : List (List Char × Bool) → Option (List Char × List Quotes)
  | [] => some ([], quotes)
  | (cs, isPlain) :: rest =>
    let (body, left) := quoteBody quotes isPlain cs
    if left.any quotes.contains then
      (quoteParts left rest).map fun (others, final) => (body ++ others, final)
    else none

/-- A formatted text in quotes. -/
def quoteFormatted (parts : List (List Char × Bool)) : List Char :=
  match quoteParts allQuotes parts with
  | some (body, quotes) => inQuotes (quotes.head?.getD []) body
  | none =>
    let body := parts.flatMap fun p => (usualBody ('"' :: p.1)).drop 1
    inQuotes ['\'', '\'', '\''] body

/-! ## Bytes -/

/-- A byte inside the given quotes. -/
def showByte (q : Char) (b : UInt8) : List Char :=
  let n := b.toNat
  let c := Char.ofNat n
  if c = q || c = '\\' then ['\\', c]
  else if c = '\n' then ['\\', 'n']
  else if c = '\r' then ['\\', 'r']
  else if c = '\t' then ['\\', 't']
  else if 0x20 ≤ n && n < 0x7F then [c]
  else ['\\', 'x'] ++ Text.hexPadded 2 n

/-- Bytes as a literal. -/
def quoteBytes (bs : List UInt8) : List Char :=
  let q := Text.quoteFor (bs.map fun b => Char.ofNat b.toNat)
  'b' :: q :: bs.flatMap (showByte q) ++ [q]

end CodeAtlas.Module
