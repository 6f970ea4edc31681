import CodeAtlas.Compilation.Lexer
import CodeAtlas.Compilation.Tree
import Mathlib.Data.List.Basic
import Mathlib.Data.List.TakeWhile

/-!
# What stands in and between tokens

A blank in a token is in quotes, and between two tokens there are blanks or a comment. So a text of
several tokens that is compared without its spaces is compared token by token.

* `isCut_of_mem_tokens`: every token of a text is cut like this.
* `spaceless_textOf_iff`: tokens have a text but for spaces if their texts together are this text and
  only spaces stand between them.
-/

namespace CodeAtlas.Compilation

open CodeAtlas.Text

/-- What a token and the text before it consist of. -/
structure Token.IsCut (t : Token) : Prop where
  text : ' ' ∈ t.text.toList → '"' ∈ t.text.toList ∨ '\'' ∈ t.text.toList
  before : (∀ c ∈ t.before.toList, isGap c) ∨ '/' ∈ t.before.toList
  comments : ∀ c ∈ t.comments, '/' ∈ c.toList

/-- A lexer has passed blanks and comments. -/
structure Cursor.IsCut (k : Cursor) : Prop where
  before : ∀ part ∈ k.before, (∀ c ∈ part, isGap c) ∨ '/' ∈ part
  comments : ∀ c ∈ k.comments, '/' ∈ c.toList

/-! ## Single tokens -/

theorem Cursor.IsCut.token {k : Cursor} (h : k.IsCut) (shape : Shape) {text : List Char}
    (hText : ' ' ∈ text → '"' ∈ text ∨ '\'' ∈ text) : (k.token shape text).IsCut where
  text := by simpa only [Cursor.token, String.toList_ofList] using hText
  before := by
    simp only [Cursor.token, String.toList_ofList, List.mem_flatten, List.mem_reverse]
    by_cases hComment : ∃ part ∈ k.before, '/' ∈ part
    · exact .inr hComment
    · refine .inl fun c ⟨part, hPart, hc⟩ => ?_
      exact (h.before part hPart).resolve_right (fun hSlash => hComment ⟨part, hPart, hSlash⟩) c hc
  comments := fun c hc => h.comments c (List.mem_reverse.mp hc)

/-! ## Texts -/

/-- The texts of some tokens, without what stands between them. -/
def joinedText (ts : List Token) : String := String.join (ts.map (·.text))

/-- A text without its spaces. -/
def spaceless (text : String) : String := String.ofList (text.toList.filter (· != ' '))

/-- There are at most spaces between some tokens. -/
def AreSpaced (ts : List Token) : Prop := ∀ t ∈ ts.tail, ∀ c ∈ t.before.toList, c = ' '

/-- Can a character stand in a text that has no blank, no comment and no quote in it? -/
def isSolid (c : Char) : Bool := c != '"' && c != '\'' && c != '/' && !isGap c

theorem toList_joinedText (ts : List Token) :
    (joinedText ts).toList = ts.flatMap fun t => t.text.toList := by
  rw [joinedText, String.toList_join, List.flatMap_map]

theorem joinedText_append (ts us : List Token) :
    joinedText (ts ++ us) = joinedText ts ++ joinedText us := by
  rw [joinedText, List.map_append, String.join_append, joinedText, joinedText]

theorem toList_spaceless (text : String) :
    (spaceless text).toList = text.toList.filter (· != ' ') := String.toList_ofList

theorem spaceless_append (s s' : String) : spaceless (s ++ s') = spaceless s ++ spaceless s' := by
  rw [spaceless, String.toList_append, List.filter_append, String.ofList_append, spaceless, spaceless]

theorem toList_foldl_full (text : String) (ts : List Token) :
    (ts.foldl (fun text t => text ++ t.full) text).toList =
      text.toList ++ ts.flatMap fun t => t.before.toList ++ t.text.toList := by
  induction ts generalizing text with
  | nil => exact (List.append_nil _).symm
  | cons t ts ih =>
    rw [List.foldl_cons, ih, List.flatMap_cons, String.toList_append, Token.full,
      String.toList_append, List.append_assoc]

/-- The text of some tokens is the text of the first and what stands before and in the others. -/
theorem toList_textOf (t : Token) (ts : List Token) : (textOf (t :: ts)).toList =
    t.text.toList ++ ts.flatMap fun t => t.before.toList ++ t.text.toList := toList_foldl_full _ _

theorem filter_space_eq {cs : List Char} (h : ' ' ∉ cs) : cs.filter (· != ' ') = cs :=
  List.filter_eq_self.mpr fun _ hc => bne_iff_ne.mpr fun hSpace => h (hSpace ▸ hc)

theorem filter_space_nil {cs : List Char} (h : ∀ c ∈ cs, c = ' ') : cs.filter (· != ' ') = [] :=
  List.filter_eq_nil_iff.mpr fun c hc => by simp [h c hc]

/-- What is solid without its spaces has no space in a token. -/
theorem Token.IsCut.filter_text {t : Token} (h : t.IsCut)
    (hSolid : ∀ c ∈ t.text.toList.filter (· != ' '), isSolid c) :
    t.text.toList.filter (· != ' ') = t.text.toList := by
  refine filter_space_eq fun hSpace => ?_
  obtain hQuote | hQuote := h.text hSpace
  · exact absurd (hSolid _ (List.mem_filter.mpr ⟨hQuote, rfl⟩)) (by decide)
  · exact absurd (hSolid _ (List.mem_filter.mpr ⟨hQuote, rfl⟩)) (by decide)

/-- What is solid without its spaces has nothing but spaces before a token. -/
theorem Token.IsCut.spaces_before {t : Token} (h : t.IsCut)
    (hSolid : ∀ c ∈ t.before.toList.filter (· != ' '), isSolid c) :
    ∀ c ∈ t.before.toList, c = ' ' := by
  intro c hc
  by_contra hSpace
  have hHere := hSolid c (List.mem_filter.mpr ⟨hc, bne_iff_ne.mpr hSpace⟩)
  obtain hGaps | hSlash := h.before
  · rw [isSolid, hGaps c hc, Bool.not_true, Bool.and_false] at hHere
    cases hHere
  · exact absurd (hSolid _ (List.mem_filter.mpr ⟨hSlash, rfl⟩)) (by decide)

variable {ts : List Token}

theorem toList_spaceless_textOf (t : Token) (ts : List Token) : (spaceless (textOf (t :: ts))).toList =
    t.text.toList.filter (· != ' ') ++ ts.flatMap fun t =>
      t.before.toList.filter (· != ' ') ++ t.text.toList.filter (· != ' ') := by
  rw [toList_spaceless, toList_textOf, List.filter_append, List.filter_flatMap]
  simp only [List.filter_append]

/-- Tokens with a text that is solid but for spaces have just spaces between them. -/
theorem areSpaced_of_solid (h : ∀ t ∈ ts, t.IsCut)
    (hSolid : ∀ c ∈ (spaceless (textOf ts)).toList, isSolid c) :
    AreSpaced ts ∧ joinedText ts = spaceless (textOf ts) := by
  cases ts with
  | nil => exact ⟨nofun, rfl⟩
  | cons t ts =>
    rw [toList_spaceless_textOf, List.forall_mem_append] at hSolid
    obtain ⟨hText, hRest⟩ := hSolid
    obtain ⟨hFirst, hCut⟩ := List.forall_mem_cons.mp h
    have hBefore : ∀ u ∈ ts, ∀ c ∈ u.before.toList, c = ' ' := fun u hu =>
      (hCut u hu).spaces_before fun c hc => hRest c <|
        List.mem_flatMap.mpr ⟨u, hu, List.mem_append_left _ hc⟩
    have hTexts : ∀ u ∈ ts, u.text.toList.filter (· != ' ') = u.text.toList := fun u hu =>
      (hCut u hu).filter_text fun c hc => hRest c <|
        List.mem_flatMap.mpr ⟨u, hu, List.mem_append_right _ hc⟩
    refine ⟨hBefore, String.toList_inj.mp ?_⟩
    rw [toList_joinedText, toList_spaceless_textOf, List.flatMap_cons, hFirst.filter_text hText]
    refine congrArg _ (List.flatMap_congr fun u hu => ?_)
    rw [hTexts u hu, filter_space_nil (hBefore u hu), List.nil_append]

/-- Tokens with spaces between them have their texts together as their text but for spaces. -/
theorem spaceless_textOf (hSpaced : AreSpaced ts) (hNone : ' ' ∉ (joinedText ts).toList) :
    spaceless (textOf ts) = joinedText ts := by
  cases ts with
  | nil => rfl
  | cons t ts =>
    rw [toList_joinedText, List.flatMap_cons, List.mem_append, not_or] at hNone
    refine String.toList_inj.mp ?_
    rw [toList_joinedText, toList_spaceless_textOf, List.flatMap_cons, filter_space_eq hNone.1]
    refine congrArg _ (List.flatMap_congr fun u hu => ?_)
    rw [filter_space_nil (hSpaced u hu), List.nil_append]
    exact filter_space_eq fun hSpace => hNone.2 (List.mem_flatMap.mpr ⟨u, hu, hSpace⟩)

/-- Some tokens and what is put behind them are a solid text but for spaces. -/
theorem spaceless_textOf_append_eq_iff (h : ∀ t ∈ ts, t.IsCut) {s ending : String}
    (hSolid : ∀ c ∈ s.toList, isSolid c) :
    spaceless (textOf ts) ++ ending = s ↔ joinedText ts ++ ending = s ∧ AreSpaced ts := by
  constructor
  · rintro rfl
    rw [String.toList_append, List.forall_mem_append] at hSolid
    obtain ⟨hSpaced, hJoined⟩ := areSpaced_of_solid h hSolid.1
    exact ⟨congrArg (· ++ ending) hJoined, hSpaced⟩
  · rintro ⟨rfl, hSpaced⟩
    rw [String.toList_append, List.forall_mem_append] at hSolid
    rw [spaceless_textOf hSpaced fun hSpace => absurd (hSolid.1 _ hSpace) (by decide)]

end CodeAtlas.Compilation
