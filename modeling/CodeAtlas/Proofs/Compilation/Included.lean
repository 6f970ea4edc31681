import CodeAtlas.Proofs.Compilation.Unmixed
import CodeAtlas.Proofs.Compilation.Unnoticed
import CodeAtlas.Proofs.Regex.Run
import CodeAtlas.Proofs.Text.Parts
import CodeAtlas.Proofs.Text.Search
import Mathlib

/-!
# Parts that a build includes

A script is a sequence of statements that include parts of a build by their names. The names of one
statement are separated by commas; they stand between quotation marks, and the pieces of a name
between colons.

* `taken_text`: of each statement the first name is found, in the order of the statements.
* `subprojectsListed`: hence all parts are found just if every statement includes one, and the parts
  that are found and that are directories are the projects.
-/

namespace CodeAtlas.Compilation

open CodeAtlas.Files (Disk Path)
open CodeAtlas.Regex (Place findAllFrom)

/-! ## Scripts -/

inductive Quote where
  | single
  | double
  deriving DecidableEq, Repr

def Quote.mark : Quote → Char
  | single => '\''
  | double => '"'

/-- The quotation marks. -/
def quotes : List Char := ['"', '\'']

/-- The name of a part as it is written. -/
structure PartName where
  quote : Quote
  /-- The number of colons at the beginning. -/
  colons : Nat
  first : List Char
  others : List (List Char)
  deriving DecidableEq, Repr

namespace PartName

/-- The pieces of a name with a character between them. -/
def joined (w : PartName) (c : Char) : List Char := w.first ++ w.others.flatMap (c :: ·)

/-- The quotation mark at the beginning of a name and the colons behind it. -/
def marks (w : PartName) : List Char := w.quote.mark :: List.replicate w.colons ':'

def chars (w : PartName) : List Char := w.marks ++ (w.joined ':' ++ [w.quote.mark])

/-- The directory of a part: its pieces with slashes between them. -/
def directory (w : PartName) : String := String.ofList (w.joined '/')

/-- A name begins with a piece and has no marks and parentheses in its pieces. -/
structure Proper (w : PartName) : Prop where
  first : w.first ≠ []
  pieces : ∀ piece ∈ w.first :: w.others, ∀ c ∈ piece, c ∉ quotes ++ [':', ')']

end PartName

/-- One more name in a statement, with blanks before and behind the comma that separates it. -/
structure Further where
  before : List Char
  behind : List Char
  name : PartName

/-- A statement that includes parts of a build. -/
structure Include where
  /-- The blanks behind the word. -/
  space : List Char
  /-- The blanks at the beginning and at the end of the parentheses, if there are any. -/
  parentheses : Option (List Char × List Char)
  first : PartName
  more : List Further
  /-- What separates the statement from the next one. -/
  ending : List Char

/-- Does a character separate statements? -/
def separates (c : Char) : Bool := Text.isBlank c || c == ';'

def includeWord : List Char := ['i', 'n', 'c', 'l', 'u', 'd', 'e']

def Further.chars (f : Further) : List Char := f.before ++ ',' :: (f.behind ++ f.name.chars)

namespace Include

def opening (s : Include) : List Char :=
  match s.parentheses with
  | some (blanks, _) => '(' :: blanks
  | none => []

def closing (s : Include) : List Char :=
  match s.parentheses with
  | some (_, blanks) => blanks ++ [')']
  | none => []

/-- A statement up to the end of its first name. -/
def head (s : Include) : List Char := includeWord ++ (s.space ++ (s.opening ++ s.first.chars))

/-- A statement from the end of its first name on. -/
def rest (s : Include) : List Char := s.more.flatMap Further.chars ++ (s.closing ++ s.ending)

def chars (s : Include) : List Char := s.head ++ s.rest

/-- The names in a statement. -/
def names (s : Include) : List PartName := s.first :: s.more.map (·.name)

/-- There is nothing but blanks around the names, and the names are proper. -/
structure Proper (s : Include) : Prop where
  space : ∀ c ∈ s.space, Text.isBlank c = true
  parentheses : ∀ x ∈ s.parentheses, ∀ c ∈ x.1 ++ x.2, Text.isBlank c = true
  commas : ∀ f ∈ s.more, ∀ c ∈ f.before ++ f.behind, Text.isBlank c = true
  ending : ∀ c ∈ s.ending, separates c = true
  names : ∀ w ∈ s.names, w.Proper

end Include

/-- A text that is a sequence of statements. -/
structure Script where
  /-- What stands before the first statement. -/
  start : List Char
  statements : List Include

namespace Script

def chars (t : Script) : List Char := t.start ++ t.statements.flatMap Include.chars

def text (t : Script) : String := String.ofList t.chars

/-- All names in a script. -/
def names (t : Script) : List PartName := t.statements.flatMap Include.names

/-- The first name of each statement. -/
def firsts (t : Script) : List PartName := t.statements.map (·.first)

structure Proper (t : Script) : Prop where
  start : ∀ c ∈ t.start, separates c = true
  statements : ∀ s ∈ t.statements, s.Proper

/-- The word that begins a statement is in no name behind the first one of a statement. -/
def Unnested (t : Script) : Prop :=
  ∀ s ∈ t.statements, ∀ f ∈ s.more, ¬ includeWord <:+: f.name.joined ':'

end Script

/-! ## Names -/

namespace PartName

variable {w : PartName}

theorem mem_joined {c x : Char} (h : x ∈ w.joined c) :
    x = c ∨ ∃ piece ∈ w.first :: w.others, x ∈ piece := by
  rcases List.mem_append.mp h with hFirst | hOthers
  · exact .inr ⟨_, List.mem_cons_self, hFirst⟩
  · obtain ⟨piece, hPiece, hx⟩ := List.mem_flatMap.mp hOthers
    exact (List.mem_cons.mp hx).imp_right fun hx => ⟨piece, List.mem_cons_of_mem _ hPiece, hx⟩

theorem joined_ne_nil (h : w.Proper) (c : Char) : w.joined c ≠ [] :=
  fun hNil => h.first (List.append_eq_nil_iff.mp hNil).1

theorem head?_joined (h : w.Proper) {c x : Char} (hx : x ∈ (w.joined c).head?) :
    x ∉ quotes ++ [':', ')'] := by
  obtain ⟨y, ys, hFirst⟩ := List.exists_cons_of_ne_nil h.first
  rw [joined, hFirst] at hx
  obtain rfl : y = x := Option.some.inj hx
  exact h.pieces _ List.mem_cons_self _ (hFirst ▸ List.mem_cons_self)

theorem contains_marks (w : PartName) : ∀ c ∈ w.marks, (quotes ++ [':']).contains c = true := by
  rw [marks, List.forall_mem_cons]
  refine ⟨by cases w.quote <;> rfl, fun c hc => ?_⟩
  rw [List.eq_of_mem_replicate hc]
  rfl

/-- The marks in front of a name end where its first piece begins. -/
theorem head?_joined_append (h : w.Proper) (rest : List Char) :
    ∀ c ∈ (w.joined ':' ++ rest).head?, (quotes ++ [':']).contains c = false := by
  intro c hc
  rw [List.head?_append_of_ne_nil _ (joined_ne_nil h ':')] at hc
  have hNot := head?_joined h hc
  simp only [quotes, List.mem_append, List.mem_cons, not_or] at hNot
  simp [quotes, hNot]

/-- Nothing in a name ends it. -/
theorem not_ends_joined (h : w.Proper) :
    ∀ c ∈ w.joined ':', (!(quotes ++ [')']).contains c) = true := by
  intro c hc
  rcases mem_joined hc with rfl | ⟨piece, hPiece, hc⟩
  · rfl
  · have hNot := h.pieces piece hPiece c hc
    simp only [quotes, List.mem_append, List.mem_cons, not_or] at hNot
    simp [quotes, hNot]

/-- The pieces of a name come back with slashes between them. -/
theorem partDirectory_joined (h : w.Proper) :
    partDirectory (String.ofList (w.joined ':')) = w.directory := by
  have hPiece : ∀ piece ∈ w.first :: w.others,
      piece.map (fun c => if c = ':' then '/' else c) = piece := by
    intro piece hMem
    refine (List.map_congr_left fun c hc => ?_).trans (List.map_id piece)
    exact if_neg fun hColon => h.pieces piece hMem c hc (by simp [hColon])
  have hDrop : (w.joined ':').dropWhile (· = ':') = w.joined ':' :=
    Text.dropWhile_eq_self fun c hc => decide_eq_false fun hColon => head?_joined h hc (by simp [hColon])
  obtain ⟨hFirst, hOthers⟩ := List.forall_mem_cons.mp hPiece
  have hMap : (w.joined ':').map (fun c => if c = ':' then '/' else c) = w.joined '/' := by
    rw [joined, joined, List.map_append, hFirst, List.map_flatMap]
    refine congrArg _ (List.flatMap_congr fun piece hMem => ?_)
    rw [List.map_cons, hOthers piece hMem]
    rfl
  rw [partDirectory, Text.replaceChar, String.toList_ofList, String.toList_ofList, hDrop, hMap,
    directory]

end PartName

/-! ## The pattern -/

section Pattern

/-- Any number of blanks. -/
def blanks : Regex.Node := .repeated .greedy 0 none (.set .plain false [.category false .space])

/-- One of some characters. -/
def oneOf (cs : List Char) : Regex.Node := .set .plain false (cs.map fun c => .code c.toNat)

/-- A character that is none of some. -/
def noneOf (cs : List Char) : Regex.Node := .set .plain true (cs.map fun c => .code c.toNat)

/-- A character that may be missing. -/
def optionally (c : Char) : Regex.Node := .repeated .greedy 0 (some 1) (.literal .plain c.toNat)

/-- What takes the name of a part, from what stands behind the word on. -/
def namePart : Regex.Node :=
  .cat (.repeated .greedy 1 none (oneOf (quotes ++ [':']))) <|
    .cat (.group (some 1) (.repeated .greedy 1 none (noneOf (quotes ++ [')'])))) <|
    .cat (oneOf quotes) <| .cat blanks (optionally ')')

def includeNode : Regex.Node :=
  .spelled includeWord <| .cat blanks <| .cat (optionally '(') <| .cat blanks namePart

theorem read_includePattern : Regex.read includePattern = .ok includeNode := by decide +kernel

/-! ### What its parts take -/

variable {before rest : List Char} {gs : List (Nat × List Char)} {node : Regex.Node} {q : Place}

theorem takesOne_blank :
    (Regex.Node.set .plain false [.category false .space]).TakesOne Text.isBlank := by
  rw [← funext Regex.setHolds_space]
  exact Regex.takesOne_set _ _ _

theorem takesOne_oneOf (cs : List Char) : (oneOf cs).TakesOne cs.contains := by
  have hClass : Regex.setHolds .plain false (cs.map fun c => .code c.toNat) = cs.contains :=
    funext fun c => (Regex.setHolds_codes false cs c).trans (Bool.bne_false _)
  rw [← hClass]
  exact Regex.takesOne_set _ _ _

theorem takesOne_noneOf (cs : List Char) : (noneOf cs).TakesOne fun c => !cs.contains c := by
  have hClass : Regex.setHolds .plain true (cs.map fun c => .code c.toNat) = fun c => !cs.contains c :=
    funext fun c => (Regex.setHolds_codes true cs c).trans (Bool.bne_true _)
  rw [← hClass]
  exact Regex.takesOne_set _ _ _

theorem leads_blanks {xs : List Char} (h : ∀ c ∈ xs, Text.isBlank c = true)
    (hRest : ∀ c ∈ rest.head?, Text.isBlank c = false) :
    blanks.Leads (.between before (xs ++ rest) gs) (.between (xs.reverse ++ before) rest gs) :=
  Regex.leads_all takesOne_blank h (Nat.zero_le _) hRest

theorem isBlank_mark (quote : Quote) : Text.isBlank quote.mark = false := by
  cases quote <;> decide

/-- The parenthesis in front of a name and the blanks around it are passed. -/
theorem leads_opening {s : Include} (h : s.Proper) {quote : Quote} (hNode : node.Leads
      (.between (s.opening.reverse ++ (s.space.reverse ++ before)) (quote.mark :: rest) gs) q) :
    (Regex.Node.cat blanks (.cat (optionally '(') (.cat blanks node))).Leads
      (.between before (s.space ++ (s.opening ++ quote.mark :: rest)) gs) q := by
  have hMark : ∀ c ∈ (quote.mark :: rest).head?, Text.isBlank c = false := by simp [isBlank_mark]
  have hTaken := Regex.takesOne_literal '('
  unfold Include.opening at hNode ⊢
  cases hParens : s.parentheses with
  | none =>
    rw [hParens] at hNode
    have hOpen : ∀ c ∈ (quote.mark :: rest).head?, (c == '(') = false := by
      cases quote <;> simp [Quote.mark]
    have hNone : ∀ c ∈ ([] : List Char), (c == '(') = true := List.forall_mem_nil _
    exact (leads_blanks h.space hMark).cat
      ((Regex.leads_repeated hTaken hNone (Nat.zero_le _) (by simp) (.inr hOpen)).cat
        ((leads_blanks (List.forall_mem_nil _) hMark).cat hNode))
  | some x =>
    obtain ⟨behind, ahead⟩ := x
    rw [hParens] at hNode
    have hBehind : ∀ c ∈ behind, Text.isBlank c = true :=
      fun c hc => h.parentheses _ hParens c (List.mem_append_left ahead hc)
    have hSpace : ∀ c ∈ ('(' :: (behind ++ quote.mark :: rest)).head?, Text.isBlank c = false :=
      fun c hc => Option.some.inj hc ▸ (by decide)
    have hOne : ∀ c ∈ ['('], (c == '(') = true := List.forall_mem_singleton.mpr rfl
    have hNode' : node.Leads (.between (behind.reverse ++ (['('].reverse ++ (s.space.reverse ++ before)))
        (quote.mark :: rest) gs) q := by simpa using hNode
    exact (leads_blanks h.space hSpace).cat
      ((Regex.leads_repeated hTaken hOne (Nat.zero_le _) (by simp) (.inl rfl)).cat
        ((leads_blanks hBehind hMark).cat hNode'))

/-- A tree takes a name in a text, and of what follows the text nothing but blanks and parentheses. -/
def TakesName (node : Regex.Node) (cs name : List Char) : Prop :=
  ∀ before rest, ∃ xs ys behind, rest = xs ++ ys ∧ (∀ c ∈ xs, Text.isBlank c = true ∨ c = ')') ∧
    before.length < behind.length ∧
    node.Leads (.between before (cs ++ rest) []) (.between behind ys [(1, name)])

theorem takesName_namePart {w : PartName} (h : w.Proper) :
    TakesName namePart w.chars (w.joined ':') := by
  intro before rest
  have hEnd : ∀ c ∈ (w.quote.mark :: rest).head?, (!(quotes ++ [')']).contains c) = false := by
    cases w.quote <;> simp [Quote.mark, quotes]
  have hMark : quotes.contains w.quote.mark = true := by
    cases w.quote <;> rfl
  -- behind the name stands anything, of which blanks and a parenthesis are passed
  obtain ⟨xs, zs, rfl, hxs, hBlanks⟩ := Regex.exists_leads_all takesOne_blank
    (w.quote.mark :: ((w.joined ':').reverse ++ (w.marks.reverse ++ before))) rest
    [(1, w.joined ':')]
  obtain ⟨zs, ys, rfl, hzs, hParens⟩ := Regex.exists_leads_optional (Regex.takesOne_literal ')')
    (xs.reverse ++ w.quote.mark :: ((w.joined ':').reverse ++ (w.marks.reverse ++ before))) zs
    [(1, w.joined ':')]
  have hSome : 1 ≤ w.marks.length := Nat.le_add_left 1 _
  have hLength : 1 ≤ (w.joined ':').length := List.length_pos_of_ne_nil (PartName.joined_ne_nil h ':')
  have hChars : w.chars ++ (xs ++ (zs ++ ys)) =
      w.marks ++ (w.joined ':' ++ w.quote.mark :: (xs ++ (zs ++ ys))) := by
    simp [PartName.chars]
  rw [hChars]
  refine ⟨xs ++ zs, ys, _, (List.append_assoc _ _ _).symm, ?_, ?_,
    (Regex.leads_all (takesOne_oneOf _) w.contains_marks hSome (PartName.head?_joined_append h _)).cat
      ((Regex.leads_group (Regex.leads_all (takesOne_noneOf _) (PartName.not_ends_joined h) hLength
        hEnd)).cat
        (((takesOne_oneOf _).leads hMark).cat (hBlanks.cat hParens)))⟩
  · intro c hc
    exact (List.mem_append.mp hc).imp (hxs c) fun hc => beq_iff_eq.mp (hzs c hc)
  · simp only [List.length_append, List.length_reverse, List.length_cons]
    omega

/-- A statement is matched from its word to the end of its first name. -/
theorem takesName_includeNode {s : Include} (h : s.Proper) :
    TakesName includeNode s.head (s.first.joined ':') := by
  intro before rest
  obtain ⟨xs, ys, behind, hRest, hxs, hLength, hName⟩ :=
    takesName_namePart (h.names _ List.mem_cons_self)
      (s.opening.reverse ++ (s.space.reverse ++ (includeWord.reverse ++ before))) rest
  have hHead : s.head ++ rest =
      includeWord ++ (s.space ++ (s.opening ++ (s.first.chars ++ rest))) := by
    simp [Include.head]
  refine ⟨xs, ys, behind, hRest, hxs, ?_, ?_⟩
  · simp only [List.length_append, List.length_reverse] at hLength
    omega
  · rw [hHead]
    exact Regex.leads_spelled (leads_opening h hName)

end Pattern

/-! ## Names that are found -/

theorem not_mem_includeWord {c : Char} (h : separates c = true) : c ∉ includeWord := by
  have hWord : includeWord.all (!separates ·) = true := by decide
  intro hc
  have hOther := List.all_eq_true.mp hWord c hc
  rw [h] at hOther
  cases hOther

theorem blank_not_mem_includeWord {c : Char} (h : Text.isBlank c = true) : c ∉ includeWord :=
  not_mem_includeWord (by rw [separates, h, Bool.true_or])

theorem includeWord_ne_nil : includeWord ≠ [] := by decide

theorem mark_not_mem_includeWord (quote : Quote) : quote.mark ∉ includeWord := by
  cases quote <;> decide

/-- The word does not stand in a further name. -/
theorem not_infix_further {f : Further} (hBlank : ∀ c ∈ f.before ++ f.behind, Text.isBlank c = true)
    (hName : ¬ includeWord <:+: f.name.joined ':') {rest : List Char} (hRest : ¬ includeWord <:+: rest) :
    ¬ includeWord <:+: f.chars ++ rest := by
  have hSpace : ∀ c ∈ f.before ++ f.behind, c ∉ includeWord :=
    fun c hc => blank_not_mem_includeWord (hBlank c hc)
  obtain ⟨hBefore, hBehind⟩ := List.forall_mem_append.mp hSpace
  have hMarks : ∀ c ∈ f.name.marks, c ∉ includeWord := by
    rw [PartName.marks, List.forall_mem_cons]
    refine ⟨mark_not_mem_includeWord _, fun c hc => ?_⟩
    rw [List.eq_of_mem_replicate hc]
    decide
  have hChars : f.chars ++ rest = f.before ++ ',' :: (f.behind ++ (f.name.marks ++
      (f.name.joined ':' ++ f.name.quote.mark :: rest))) := by
    simp [Further.chars, PartName.chars]
  rw [hChars, Text.infix_append_iff includeWord_ne_nil hBefore,
    Text.infix_cons_iff includeWord_ne_nil (by decide), Text.infix_append_iff includeWord_ne_nil hBehind,
    Text.infix_append_iff includeWord_ne_nil hMarks]
  exact fun h => (Text.infix_append_cons (mark_not_mem_includeWord _) h).elim hName hRest

/-- The word stands at the beginning of a statement only. -/
theorem not_infix_rest {s : Include} (h : s.Proper)
    (hNames : ∀ f ∈ s.more, ¬ includeWord <:+: f.name.joined ':') : ¬ includeWord <:+: s.rest := by
  have hEnd : ¬ includeWord <:+: s.closing ++ s.ending := by
    have hAll : ∀ c ∈ s.closing ++ s.ending, c ∉ includeWord := by
      rw [List.forall_mem_append]
      refine ⟨?_, fun c hc => not_mem_includeWord (h.ending c hc)⟩
      unfold Include.closing
      cases hParens : s.parentheses with
      | none => exact List.forall_mem_nil _
      | some x =>
        rw [List.forall_mem_append, List.forall_mem_singleton]
        exact ⟨fun c hc => blank_not_mem_includeWord
          (h.parentheses _ hParens c (List.mem_append_right _ hc)), by decide⟩
    rw [← List.append_nil (s.closing ++ s.ending), Text.infix_append_iff includeWord_ne_nil hAll,
      List.infix_nil]
    exact includeWord_ne_nil
  have hMore := h.commas
  rw [Include.rest]
  generalize s.more = more at hMore hNames ⊢
  induction more with
  | nil => exact hEnd
  | cons f more ih =>
    obtain ⟨hBlank, hBlanks⟩ := List.forall_mem_cons.mp hMore
    obtain ⟨hName, hNames⟩ := List.forall_mem_cons.mp hNames
    rw [List.flatMap_cons, List.append_assoc]
    exact not_infix_further hBlank hName (ih hBlanks hNames)

theorem head?_flatMap_chars (ss : List Include) :
    ∀ c ∈ (ss.flatMap Include.chars).head?, c = 'i' := by
  cases ss with
  | nil => exact fun c hc => nomatch hc
  | cons s ss => exact fun c hc => (Option.some.inj hc).symm

/-- The matches in a sequence of statements: one for each of them. -/
theorem taken_findAllFrom {ss : List Include} (hs : ∀ s ∈ ss, s.Proper)
    (hNames : ∀ s ∈ ss, ∀ f ∈ s.more, ¬ includeWord <:+: f.name.joined ':') {gap : List Char}
    (hGap : ¬ includeWord <:+: gap) (before : List Char) {fuel : Nat} (hFuel : ss.length ≤ fuel) :
    (findAllFrom includeNode fuel (.between before (gap ++ ss.flatMap Include.chars) [])).map
      (·.taken 1) = ss.map fun s => String.ofList (s.first.joined ':') := by
  -- `gap` is what the match of the statement before has left of that statement
  induction ss generalizing gap before fuel with
  | nil =>
    have hAbsent : Regex.Absent includeWord gap [] :=
      Regex.absent_of_not_infix hGap fun c hc => nomatch hc
    rw [List.flatMap_nil, List.append_nil, includeNode, Regex.findAllFrom_nil hAbsent includeWord_ne_nil]
    rfl
  | cons s ss ih =>
    obtain ⟨hHere, hs⟩ := List.forall_mem_cons.mp hs
    obtain ⟨hName, hNames⟩ := List.forall_mem_cons.mp hNames
    obtain ⟨fuel, rfl⟩ := Nat.exists_eq_succ_of_ne_zero (Nat.ne_zero_of_lt hFuel)
    obtain ⟨xs, ys, behind, hRest, hxs, hLength, hLeads⟩ :=
      takesName_includeNode hHere (gap.reverse ++ before) (s.rest ++ ss.flatMap Include.chars)
    have hText : (s :: ss).flatMap Include.chars = s.head ++ (s.rest ++ ss.flatMap Include.chars) := by
      rw [List.flatMap_cons, Include.chars, List.append_assoc]
    have hAbsent : Regex.Absent includeWord gap (s.head ++ (s.rest ++ ss.flatMap Include.chars)) :=
      Regex.absent_of_not_infix hGap fun c hc => Option.some.inj hc ▸ (by decide)
    -- what the match passes belongs to the statement, since the next one begins with a letter
    obtain ⟨left, hLeft, rfl⟩ := Text.exists_eq_append_of_append_eq hRest fun c hc hMem => by
      obtain rfl := head?_flatMap_chars ss c hc
      exact (hxs _ hMem).elim (by decide) (by decide)
    have hGap' : ¬ includeWord <:+: left := fun hInfix =>
      not_infix_rest hHere hName (hInfix.trans (hLeft ▸ (List.suffix_append xs left).isInfix))
    have hFind := Regex.findAllFrom_cons hAbsent hLength hLeads fuel
    rw [hText, includeNode, hFind, List.map_cons, List.map_cons, ← includeNode,
      ih hs hNames hGap' behind (Nat.le_of_succ_le_succ hFuel)]
    rfl

/-! ## Parts that are listed -/

namespace Script

variable {t : Script}

theorem length_statements_le (ss : List Include) :
    ss.length ≤ (ss.flatMap Include.chars).length := by
  induction ss with
  | nil => exact Nat.le_refl 0
  | cons s ss ih =>
    have hHead : 1 ≤ s.chars.length := Nat.le_add_left 1 _
    rw [List.flatMap_cons, List.length_append, List.length_cons]
    omega

/-- Of each statement the first name is taken. -/
theorem taken_text (h : t.Proper) (hNames : t.Unnested) :
    takenBy includePattern t.text = t.firsts.map fun w => String.ofList (w.joined ':') := by
  have hStart : ¬ includeWord <:+: t.start := by
    rw [← List.append_nil t.start, Text.infix_append_iff includeWord_ne_nil fun c hc =>
      not_mem_includeWord (h.start c hc), List.infix_nil]
    exact includeWord_ne_nil
  have hLength : t.statements.length ≤ t.text.length + 1 := by
    have hStatements := length_statements_le t.statements
    rw [text, String.length_ofList, chars, List.length_append]
    omega
  have hTaken := taken_findAllFrom h.statements hNames hStart [] hLength
  rw [takenBy, read_includePattern]
  dsimp only
  rw [Regex.Node.findAll, Place.ofText_eq, firsts, List.map_map]
  rw [text, String.toList_ofList]
  exact hTaken

theorem directories_firsts (h : ∀ s ∈ t.statements, s.Proper) :
    (t.firsts.map fun w => String.ofList (w.joined ':')).map partDirectory =
      t.firsts.map (·.directory) := by
  rw [List.map_map]
  refine List.map_congr_left fun w hw => ?_
  obtain ⟨s, hs, rfl⟩ := List.mem_map.mp hw
  exact PartName.partDirectory_joined ((h s hs).names _ List.mem_cons_self)

theorem length_names (t : Script) :
    t.names.length = t.firsts.length + (t.statements.map (·.more.length)).sum := by
  rw [names, firsts, List.length_map]
  induction t.statements with
  | nil => rfl
  | cons s ss ih =>
    rw [List.flatMap_cons, List.length_append, ih, List.map_cons, List.sum_cons, Include.names,
      List.length_cons, List.length_cons, List.length_map]
    omega

/-- The first names are all names just if every statement has one. -/
theorem firsts_eq_names_iff (t : Script) :
    t.firsts.map (·.directory) = t.names.map (·.directory) ↔ ∀ s ∈ t.statements, s.more = [] := by
  constructor
  · intro hSame s hs
    have hLength := congrArg List.length hSame
    rw [List.length_map, List.length_map, length_names] at hLength
    have hSum : (t.statements.map (·.more.length)).sum = 0 := by omega
    have hNone : s.more.length = 0 := List.sum_eq_zero_iff.mp hSum _ (List.mem_map_of_mem hs)
    exact List.length_eq_zero_iff.mp hNone
  · intro hSingle
    have hNames : t.names = t.firsts := by
      rw [names, firsts, ← List.flatMap_pure_eq_map]
      exact List.flatMap_congr fun s hs => by rw [Include.names, hSingle s hs]; rfl
    rw [hNames]

end Script

/-- `text` is what the first of some files holds that can be read. -/
inductive FirstRead (disk : Disk) (root : Path) (text : String) : List String → Prop
  | here {file : String} {files : List String} (hThere : disk.exists? (root.child file) = true)
      (hRead : readText disk (root.child file) = .ok text) : FirstRead disk root text (file :: files)
  | later {file : String} {files : List String} (hNot : disk.exists? (root.child file) = true →
      readText disk (root.child file) = .error .system) (hRest : FirstRead disk root text files) :
      FirstRead disk root text (file :: files)

section Listing

variable {disk : Disk} {root : Path}

theorem result_listedParts {text : String} {files : List String} (h : FirstRead disk root text files) :
    (listedParts disk root files).result = .ok ((takenBy includePattern text).map partDirectory) := by
  induction h with
  | here hThere hRead =>
    rw [listedParts, hThere, hRead]
    rfl
  | @later file files hNot hRest ih =>
    rw [listedParts]
    cases hThere : disk.exists? (root.child file) with
    | false => exact ih
    | true =>
      rw [hNot hThere]
      exact ih

/-- The parts of a build are listed by a script: there is a file that builds it, and no description
with modules. -/
structure ByScript (disk : Disk) (root : Path) : Prop where
  build : (buildFile? disk root).isNone = false
  modules : (pomModules disk root).result = .ok []

/-- The directories of the projects of a build with some parts: those of the parts that are there, and
its own if it has sources or no parts. -/
def projectDirectories (disk : Disk) (root : Path) (names : List PartName) : List Path :=
  let there := (names.map fun w => partPath root w.directory).filter disk.isDirectory
  if there.isEmpty || disk.isDirectory (sourceRoot root) then root :: there else there

theorem partDirectories_eq (disk : Disk) (root : Path) (names : List String) :
    partDirectories disk root (names.map some) =
      .ok ((names.map (partPath root)).filter disk.isDirectory) := by
  induction names with
  | nil => rfl
  | cons name names ih =>
    rw [List.map_cons, partDirectories, ih, List.map_cons, List.filter_cons]
    rfl

section Projects

variable {names : List PartName}

/-- The projects of a build are those of its directories, in the order of their paths. -/
theorem findProjects_iff (h : ByScript disk root)
    (hListed : (listedParts disk root settingsFiles).result = .ok (names.map (·.directory)))
    (ps : List Project) : (findProjects disk root).result = .ok ps ↔
      ∃ found, ((projectDirectories disk root names).mapM (projectAt disk root)).result = .ok found ∧
        ps = sortBy (compareOn (·.path)) found := by
  have hNames : (partNames disk root).result = .ok ((names.map (·.directory)).map some) := by
    rw [partNames]
    refine (Traced.result_bind_of_ok h.modules _).trans ?_
    exact (Traced.result_bind_of_ok hListed _).trans rfl
  have hParts := partDirectories_eq disk root (names.map (·.directory))
  rw [projectDirectories]
  constructor
  · intro hProjects
    rw [findProjects, h.build, if_neg Bool.false_ne_true] at hProjects
    obtain ⟨names', hNames', hProjects⟩ := Traced.ok_of_bind hProjects
    obtain ⟨parts, hParts', hProjects⟩ := Traced.ok_of_bind hProjects
    obtain ⟨found, hFound, hDone⟩ := Traced.ok_of_bind hProjects
    obtain rfl := Except.ok.inj (hNames.symm.trans hNames')
    obtain rfl := Except.ok.inj (hParts.symm.trans hParts')
    rw [List.map_map] at hFound
    exact ⟨found, hFound, (Except.ok.inj hDone).symm⟩
  · rintro ⟨found, hFound, rfl⟩
    refine result_findProjects h.build hNames hParts ?_
    rw [List.map_map]
    exact hFound

theorem perm_directories (h : ByScript disk root)
    (hListed : (listedParts disk root settingsFiles).result = .ok (names.map (·.directory)))
    {ps : List Project} (hProjects : (findProjects disk root).result = .ok ps) :
    (ps.map (·.directory)).Perm (projectDirectories disk root names) := by
  obtain ⟨found, hFound, rfl⟩ := (findProjects_iff h hListed ps).mp hProjects
  have hDirectories : projectDirectories disk root names = found.map (·.directory) := by
    rw [← List.forall₂_eq_eq_eq, List.forall₂_map_right_iff]
    exact (Traced.result_mapM_iff.mp hFound).imp fun _ _ h => (directory_of_projectAt h).symm
  rw [hDirectories]
  exact (sortBy_perm _ found).map _

theorem isOk_findProjects_iff (h : ByScript disk root)
    (hListed : (listedParts disk root settingsFiles).result = .ok (names.map (·.directory))) :
    (findProjects disk root).result.isOk = true ↔
      ∀ d ∈ projectDirectories disk root names, (projectAt disk root d).result.isOk = true := by
  rw [← Traced.isOk_mapM_iff]
  constructor
  · intro hOk
    obtain ⟨ps, hProjects⟩ := exists_of_isOk hOk
    obtain ⟨found, hFound, -⟩ := (findProjects_iff h hListed ps).mp hProjects
    rw [hFound]
    rfl
  · intro hOk
    obtain ⟨found, hFound⟩ := exists_of_isOk hOk
    rw [(findProjects_iff h hListed _).mpr ⟨found, hFound, rfl⟩]
    rfl

/-- A part that is there is among the directories of the projects. -/
theorem part_mem_projectDirectories {w : PartName} (hw : w ∈ names)
    (hThere : disk.isDirectory (partPath root w.directory) = true) :
    partPath root w.directory ∈ projectDirectories disk root names := by
  have hPart : partPath root w.directory ∈
      (names.map fun w => partPath root w.directory).filter disk.isDirectory :=
    List.mem_filter.mpr ⟨List.mem_map.mpr ⟨w, hw, rfl⟩, hThere⟩
  rw [projectDirectories]
  split
  · exact List.mem_cons_of_mem _ hPart
  · exact hPart

end Projects

/-- What a script lists and what becomes of it. -/
structure SubprojectsListed (disk : Disk) (root : Path) (t : Script) : Prop where
  /-- The first part in each statement is listed, in the order of the statements. -/
  firsts : (listedParts disk root settingsFiles).result = .ok (t.firsts.map (·.directory))
  /-- All parts are listed just if every statement includes one. -/
  all_iff : (listedParts disk root settingsFiles).result = .ok (t.names.map (·.directory)) ↔
    ∀ s ∈ t.statements, s.more = []
  /-- The projects have the directories of the listed parts that are there, and maybe that of the
  build. -/
  directories : ByScript disk root → ∀ ps, (findProjects disk root).result = .ok ps →
    (ps.map (·.directory)).Perm (projectDirectories disk root t.firsts)
  /-- They are found if there is a project to each of these directories. -/
  found_iff : ByScript disk root → ((findProjects disk root).result.isOk = true ↔
    ∀ d ∈ projectDirectories disk root t.firsts, (projectAt disk root d).result.isOk = true)
  /-- A part that is listed becomes a project if it is a directory. -/
  subproject : ByScript disk root → ∀ ps, (findProjects disk root).result = .ok ps →
    ∀ w ∈ t.firsts, disk.isDirectory (partPath root w.directory) = true →
      ∃ p ∈ ps, p.directory = partPath root w.directory

theorem result_listedParts_text {t : Script} (h : t.Proper) (hNames : t.Unnested)
    (hRead : FirstRead disk root t.text settingsFiles) :
    (listedParts disk root settingsFiles).result = .ok (t.firsts.map (·.directory)) := by
  rw [result_listedParts hRead, Script.taken_text h hNames, Script.directories_firsts h.statements]

theorem subprojectsListed {t : Script} (h : t.Proper) (hNames : t.Unnested)
    (hRead : FirstRead disk root t.text settingsFiles) : SubprojectsListed disk root t := by
  have hFirsts := result_listedParts_text h hNames hRead
  refine ⟨hFirsts, ?_, fun hBuild ps => perm_directories hBuild hFirsts,
    fun hBuild => isOk_findProjects_iff hBuild hFirsts, ?_⟩
  · rw [hFirsts, Except.ok.injEq]
    exact Script.firsts_eq_names_iff t
  · intro hBuild ps hProjects w hw hThere
    have hMem := part_mem_projectDirectories hw hThere
    exact List.mem_map.mp ((perm_directories hBuild hFirsts hProjects).mem_iff.mpr hMem)

end Listing

/-! ### A build with three parts -/

def includeText : String := "include(\":app:ui\")\ninclude 'core', 'tool'\n"

def toolName : PartName := ⟨.single, 0, ['t', 'o', 'o', 'l'], []⟩

/-- The first statement includes one part, the second one two. -/
def threeParts : Script :=
  ⟨[], [⟨[], some ([], []), ⟨.double, 1, ['a', 'p', 'p'], [['u', 'i']]⟩, [], ['\n']⟩,
    ⟨[' '], none, ⟨.single, 0, ['c', 'o', 'r', 'e'], []⟩, [⟨[], [' '], toolName⟩], ['\n']⟩]⟩

/-- A build that lists three directories as its parts. -/
def threeDisk : Disk :=
  ⟨.directory "" [.directory "repo" [.file "build.gradle" [],
    .file "settings.gradle" (Text.encode includeText), .directory "app" [.directory "ui" []],
    .directory "core" [], .directory "tool" []]], []⟩

theorem proper_threeParts : threeParts.Proper := by
  refine ⟨List.forall_mem_nil _, List.forall_mem_cons.mpr ⟨?_, List.forall_mem_singleton.mpr ?_⟩⟩
  · exact ⟨by simp, by simp, by simp, by simp [separates, Text.isBlank],
      List.forall_mem_singleton.mpr ⟨by simp, by simp [quotes]⟩⟩
  · exact ⟨by simp [Text.isBlank], by simp, by simp [Text.isBlank], by simp [separates, Text.isBlank],
      List.forall_mem_cons.mpr ⟨⟨by simp, by simp [quotes]⟩,
        List.forall_mem_singleton.mpr ⟨by simp [toolName], by simp [quotes, toolName]⟩⟩⟩

theorem unnested_threeParts : threeParts.Unnested := by
  refine List.forall_mem_cons.mpr ⟨List.forall_mem_nil _, List.forall_mem_singleton.mpr
    (List.forall_mem_singleton.mpr fun hInfix => ?_)⟩
  exact absurd hInfix.length_le (by decide)

theorem firstRead_threeDisk : FirstRead threeDisk repo threeParts.text settingsFiles := by
  have hText : readText threeDisk (repo.child "settings.gradle") = .ok includeText := by cbv
  refine .later (fun hThere => ?_) (.here (by decide +kernel) hText)
  exact absurd hThere (by decide +kernel)

theorem subprojectsListed_threeParts : threeParts.Proper ∧ threeParts.Unnested ∧
    FirstRead threeDisk repo threeParts.text settingsFiles ∧
    SubprojectsListed threeDisk repo threeParts :=
  ⟨proper_threeParts, unnested_threeParts, firstRead_threeDisk,
    subprojectsListed proper_threeParts unnested_threeParts firstRead_threeDisk⟩

/-- A part that is not the first in its statement is no project. -/
theorem not_found_tool : toolName ∈ threeParts.names ∧
    threeDisk.isDirectory (partPath repo toolName.directory) = true ∧
    (listedParts threeDisk repo settingsFiles).result ≠ .ok (threeParts.names.map (·.directory)) ∧
    ∃ ps, (findProjects threeDisk repo).result = .ok ps ∧
      ∀ p ∈ ps, p.directory ≠ partPath repo toolName.directory := by
  have hFirsts := result_listedParts_text proper_threeParts unnested_threeParts firstRead_threeDisk
  have hBuild : ByScript threeDisk repo := ⟨rfl, by cbv⟩
  have hDirectories : projectDirectories threeDisk repo threeParts.firsts =
      [⟨"/", ["repo", "app", "ui"]⟩, ⟨"/", ["repo", "core"]⟩] := by decide +kernel
  have hOk : (findProjects threeDisk repo).result.isOk = true := by
    rw [isOk_findProjects_iff hBuild hFirsts, hDirectories]
    exact List.forall_mem_cons.mpr ⟨by decide +kernel,
      List.forall_mem_singleton.mpr (by decide +kernel)⟩
  obtain ⟨ps, hProjects⟩ := exists_of_isOk hOk
  refine ⟨by simp [threeParts, Script.names, Include.names], by decide +kernel, ?_, ps, hProjects, ?_⟩
  · rw [hFirsts]
    decide +kernel
  · intro p hp hTool
    have hMem := (perm_directories hBuild hFirsts hProjects).mem_iff.mp (List.mem_map_of_mem hp)
    rw [hTool, hDirectories] at hMem
    exact absurd hMem (by decide +kernel)

end CodeAtlas.Compilation
