import CodeAtlas.Proofs.Text.Search
import CodeAtlas.Proofs.Text.Utf8
import CodeAtlas.Tree.Scan
import Mathlib.Data.List.Chain

/-!
# Ways to write the same lines

The same lines can be written with different line ends, with or without a mark of the byte order, and
with or without an end of the last line. Reading a file undoes all of that.

* `linesRead`: the lines of a file are those that have been written, and what is known of two files is
  the same if their lines are.
-/

namespace CodeAtlas.Tree

open CodeAtlas.Text
open CodeAtlas.Files (Entry)

/-! ## Files as written -/

/-- What ends a line: a line feed, a carriage return, or the two together. -/
inductive LineEnd where
  | feed
  | carriage
  | both
  deriving DecidableEq, Repr

def LineEnd.chars : LineEnd → List Char
  | feed => ['\n']
  | carriage => ['\r']
  | both => ['\r', '\n']

/-- There is no line end in the text. -/
def IsLine (s : String) : Prop := '\r' ∉ s.toList ∧ '\n' ∉ s.toList

instance (s : String) : Decidable (IsLine s) := inferInstanceAs (Decidable (_ ∧ _))

/-- The characters of some lines with their ends, and of what stands behind them. -/
def endedChars (ended : List (String × LineEnd)) (last : String) : List Char :=
  ended.flatMap (fun l => l.1.toList ++ l.2.chars) ++ last.toList

/-- A way to write a file. -/
structure Writing where
  /-- Does it begin with a mark of the byte order? -/
  marked : Bool
  /-- The lines that have an end. -/
  ended : List (String × LineEnd)
  /-- The last line if it has no end, and nothing otherwise. -/
  last : String

namespace Writing

/-- The lines that are written. -/
def lines (w : Writing) : List String := w.ended.map (·.1) ++ if w.last = "" then [] else [w.last]

def chars (w : Writing) : List Char :=
  (if w.marked then ['\ufeff'] else []) ++ endedChars w.ended w.last

def bytes (w : Writing) : List UInt8 := encodeChars w.chars

/-- The ends are told apart, and so is a mark from the lines. -/
structure Proper (w : Writing) : Prop where
  lines : ∀ l ∈ w.lines, IsLine l
  /-- The line feed of an empty line would be part of the end before it. -/
  apart : w.ended.IsChain fun l next => l.2 = .carriage → next ≠ ("", .feed)
  /-- Without a mark the first line does not begin like one. -/
  unmarked : w.marked = false → ∀ l ∈ w.lines.head?, l.toList.head? ≠ some '\ufeff'

end Writing

/-! ## Line ends -/

theorem unifyLineEnds_append {cs : List Char} (h : '\r' ∉ cs) (rest : List Char) :
    unifyLineEnds (cs ++ rest) = cs ++ unifyLineEnds rest := by
  induction cs with
  | nil => rfl
  | cons c cs ih =>
    obtain ⟨hc, hcs⟩ := List.ne_and_not_mem_of_not_mem_cons h
    rw [List.cons_append, unifyLineEnds, ih hcs, if_neg hc.symm, List.cons_append]
    rintro _ rfl
    exact absurd rfl hc

/-- Every line end is read as a line feed, unless a line feed follows a carriage return. -/
theorem unifyLineEnds_chars {e : LineEnd} {rest : List Char}
    (h : e = .carriage → rest.head? ≠ some '\n') :
    unifyLineEnds (e.chars ++ rest) = '\n' :: unifyLineEnds rest := by
  cases e with
  | feed => rfl
  | both => rfl
  | carriage =>
    cases rest with
    | nil => rfl
    | cons c rest =>
      have hc : c ≠ '\n' := fun hEq => h rfl (by rw [hEq, List.head?_cons])
      rw [LineEnd.chars, List.singleton_append, unifyLineEnds, if_pos rfl]
      rintro _ - hEq
      exact hc (List.cons.inj hEq).1

/-- A line feed comes first only where an empty line ends with it. -/
theorem head?_endedChars_ne {ended : List (String × LineEnd)} {last : String}
    (hLines : ∀ l ∈ ended, IsLine l.1) (hLast : IsLine last)
    (h : ∀ l ∈ ended.head?, l ≠ ("", .feed)) : (endedChars ended last).head? ≠ some '\n' := by
  intro hHead
  cases ended with
  | nil => exact hLast.2 (List.mem_of_mem_head? hHead)
  | cons l ended =>
    obtain ⟨s, e⟩ := l
    have hLine := (hLines _ List.mem_cons_self).2
    rw [endedChars, List.flatMap_cons, List.append_assoc, List.append_assoc] at hHead
    cases hChars : s.toList with
    | cons c cs =>
      rw [hChars, List.cons_append, List.head?_cons, Option.some.injEq] at hHead
      exact hLine (by rw [hChars, hHead]; exact List.mem_cons_self)
    | nil =>
      obtain rfl : s = "" := String.toList_eq_nil_iff.mp hChars
      cases e with
      | feed => exact h _ rfl rfl
      | _ => cases hHead

/-- The parts between line ends are the lines, and what stands behind the last end. -/
theorem splitChars_endedChars {ended : List (String × LineEnd)} {last : String}
    (hLines : ∀ l ∈ ended, IsLine l.1) (hLast : IsLine last)
    (hApart : ended.IsChain fun l next => l.2 = .carriage → next ≠ ("", .feed)) :
    splitChars '\n' (unifyLineEnds (endedChars ended last)) =
      ended.map (·.1.toList) ++ [last.toList] := by
  induction ended with
  | nil =>
    have hChars : endedChars [] last = last.toList ++ [] := (List.append_nil _).symm
    rw [hChars, unifyLineEnds_append hLast.1, unifyLineEnds, List.append_nil,
      splitChars_of_not_mem hLast.2]
    rfl
  | cons l ended ih =>
    obtain ⟨hLine, hEnded⟩ := List.forall_mem_cons.mp hLines
    have hChars : endedChars (l :: ended) last = l.1.toList ++ (l.2.chars ++ endedChars ended last) := by
      rw [endedChars, endedChars, List.flatMap_cons, List.append_assoc, List.append_assoc]
    have hNext : l.2 = .carriage → (endedChars ended last).head? ≠ some '\n' := fun hEnd =>
      head?_endedChars_ne hEnded hLast fun next hNext => hApart.rel_head? hNext hEnd
    rw [hChars, unifyLineEnds_append hLine.1, unifyLineEnds_chars hNext, splitChars_append hLine.2,
      ih hEnded hApart.tail]
    rfl

/-! ## Reading -/

/-- What stands behind the last end is a line if it is not empty. -/
theorem dropLastEmpty_concat (parts : List (List Char)) (last : List Char) :
    dropLastEmpty (parts ++ [last]) = parts ++ if last = [] then [] else [last] := by
  by_cases hEmpty : last = []
  · rw [dropLastEmpty, List.getLast?_concat, List.dropLast_concat, if_pos (congrArg some hEmpty),
      if_pos hEmpty, List.append_nil]
  · rw [dropLastEmpty, List.getLast?_concat, if_neg fun hEq => hEmpty (Option.some.inj hEq),
      if_neg hEmpty]

namespace Writing

variable {w w' : Writing}

theorem Proper.ended (h : w.Proper) : ∀ l ∈ w.ended, IsLine l.1 := fun _ hl =>
  h.lines _ (List.mem_append_left _ (List.mem_map_of_mem hl))

theorem Proper.last (h : w.Proper) : IsLine w.last := by
  by_cases hEmpty : w.last = ""
  · rw [hEmpty]
    decide
  · refine h.lines _ (List.mem_append_right _ ?_)
    rw [if_neg hEmpty]
    exact List.mem_singleton_self _

/-- Without a mark the file does not begin like one. -/
theorem Proper.head?_ne (h : w.Proper) (hMark : w.marked = false) :
    (endedChars w.ended w.last).head? ≠ some '\ufeff' := by
  have hFirst := h.unmarked hMark
  intro hHead
  rw [Writing.lines] at hFirst
  cases hEnded : w.ended with
  | nil =>
    rw [hEnded] at hHead hFirst
    by_cases hEmpty : w.last = ""
    · rw [hEmpty] at hHead
      cases hHead
    · rw [if_neg hEmpty] at hFirst
      exact hFirst _ rfl hHead
  | cons l ended =>
    rw [hEnded] at hHead hFirst
    rw [endedChars, List.flatMap_cons, List.append_assoc, List.append_assoc] at hHead
    cases hChars : l.1.toList with
    | nil =>
      rw [hChars] at hHead
      cases hEnd : l.2 <;> rw [hEnd] at hHead <;> cases hHead
    | cons c cs =>
      rw [hChars] at hHead
      exact hFirst _ rfl (by rw [hChars]; exact hHead)

theorem Proper.withoutMark_chars (h : w.Proper) : withoutMark w.chars = endedChars w.ended w.last := by
  rw [chars]
  cases hMark : w.marked with
  | true => rfl
  | false =>
    have hHead := h.head?_ne hMark
    rw [if_neg Bool.false_ne_true, List.nil_append]
    cases hChars : endedChars w.ended w.last with
    | nil => rfl
    | cons c cs =>
      rw [hChars, List.head?_cons] at hHead
      rw [withoutMark, if_neg fun hEq => hHead (congrArg some hEq)]

/-- The lines of a file are those that have been written. -/
theorem Proper.linesOf_bytes (h : w.Proper) : linesOf w.bytes = w.lines := by
  have hLast : (if w.last.toList = [] then [] else [w.last.toList]) =
      (if w.last = "" then [] else [w.last]).map String.toList := by
    by_cases hEmpty : w.last = ""
    · rw [if_pos hEmpty, if_pos (String.toList_eq_nil_iff.mpr hEmpty)]
      rfl
    · rw [if_neg hEmpty, if_neg fun hEq => hEmpty (String.toList_eq_nil_iff.mp hEq)]
      rfl
  have hParts : dropLastEmpty (w.ended.map (·.1.toList) ++ [w.last.toList]) =
      w.lines.map String.toList := by
    rw [dropLastEmpty_concat, Writing.lines, List.map_append, List.map_map, hLast]
    rfl
  rw [linesOf, bytes, decodeLossy_encodeChars, h.withoutMark_chars,
    splitChars_endedChars h.ended h.last h.apart, hParts, List.map_map]
  exact (List.map_congr_left fun l _ => String.ofList_toList).trans (List.map_id _)

end Writing

/-! ## Digests -/

theorem lineBytes_eq (ls : List String) :
    lineBytes ls = encodeChars (ls.flatMap fun l => l.toList ++ ['\n']) := by
  have hFeed : encodeChars ['\n'] = [10] := by decide
  rw [encodeChars, List.flatMap_assoc, lineBytes]
  refine List.flatMap_congr fun l _ => ?_
  rw [List.flatMap_append, encode, encodeChars, ← hFeed, encodeChars]

theorem splitChars_flatMap {ls : List String} (h : ∀ l ∈ ls, IsLine l) :
    splitChars '\n' (ls.flatMap fun l => l.toList ++ ['\n']) = ls.map String.toList ++ [[]] := by
  induction ls with
  | nil => rfl
  | cons l ls ih =>
    obtain ⟨hLine, hRest⟩ := List.forall_mem_cons.mp h
    rw [List.flatMap_cons, List.append_assoc, List.singleton_append, splitChars_append hLine.2, ih hRest]
    rfl

/-- The bytes that are digested tell which lines they stand for. -/
theorem lineBytes_inj {ls ls' : List String} (h : ∀ l ∈ ls, IsLine l) (h' : ∀ l ∈ ls', IsLine l) :
    lineBytes ls = lineBytes ls' ↔ ls = ls' := by
  refine ⟨fun hBytes => ?_, fun hEq => by rw [hEq]⟩
  rw [lineBytes_eq, lineBytes_eq] at hBytes
  have hChars := congrArg decodeLossy hBytes
  rw [decodeLossy_encodeChars, decodeLossy_encodeChars] at hChars
  have hParts := congrArg (splitChars '\n') hChars
  rw [splitChars_flatMap h, splitChars_flatMap h'] at hParts
  exact List.map_injective_iff.mpr (fun _ _ => String.toList_injective) (List.append_cancel_right hParts)

/-! ## Files -/

/-- What is known of a file is known of its lines. -/
structure LinesRead (w : Writing) : Prop where
  /-- Its lines are those that have been written. -/
  lines : linesOf w.bytes = w.lines
  /-- Its length and its digest are those of the lines. -/
  entry : ∀ mode path e, e.content? = some w.bytes → ∃ kind,
    fileEntry mode path e = some ⟨path, kind, countLines mode w.lines, digest w.lines⟩
  /-- Any other file has the same length and the same digest if it has the same lines. -/
  same : ∀ w' : Writing, w'.Proper → w'.lines = w.lines → ∀ mode path name,
    fileEntry mode path (.file name w'.bytes) = fileEntry mode path (.file name w.bytes)
  /-- What is digested is the same only then. -/
  digested : ∀ w' : Writing, w'.Proper →
    (lineBytes (linesOf w'.bytes) = lineBytes (linesOf w.bytes) ↔ w'.lines = w.lines)

/-- **Lines of files.** They do not depend on the way in which they are written, and neither does what is
known of a file. -/
theorem linesRead {w : Writing} (h : w.Proper) : LinesRead w where
  lines := h.linesOf_bytes
  entry mode path e hContent := by
    rw [fileEntry, hContent, Option.map_some, h.linesOf_bytes]
    exact ⟨_, rfl⟩
  same w' h' hLines mode path name := by
    have hRead : linesOf w'.bytes = linesOf w.bytes := by
      rw [h'.linesOf_bytes, h.linesOf_bytes, hLines]
    rw [fileEntry, fileEntry, Entry.content?, Entry.content?, Option.map_some, Option.map_some, hRead]
    rfl
  digested w' h' := by
    rw [h'.linesOf_bytes, h.linesOf_bytes]
    exact lineBytes_inj h'.lines h.lines

/-- Four lines, two of them empty, with all line ends and without an end of the last one. -/
def mixedWriting : Writing :=
  ⟨true, [("\ufeffa", .carriage), ("", .both), ("", .feed)], "é"⟩

theorem linesRead_mixed : mixedWriting.Proper ∧ LinesRead mixedWriting := by
  have hProper : mixedWriting.Proper := ⟨by decide +kernel, by decide +kernel, nofun⟩
  exact ⟨hProper, linesRead hProper⟩

end CodeAtlas.Tree
