import CodeAtlas.Proofs.Compilation.Known
import CodeAtlas.Proofs.Compilation.Lexed
import CodeAtlas.Proofs.Compilation.Lossless
import CodeAtlas.Proofs.Compilation.Scopes
import CodeAtlas.Proofs.Compilation.Steps
import Mathlib.Data.List.Flatten

/-!
# Where a unit starts a program

A program starts in a static method `main` that gives nothing and takes one array of strings. The array
can be written in several ways: with its brackets behind the type or behind the name or with dots, with
annotations, blanks and comments in it, and with the full name of the class. `Node.startsProgram` reads
them all, whatever annotations and modifiers there are. What is reported is decided by the text of the
type alone, without its spaces.

* `Node.isNoticed_iff`: a method is noticed if the type of its parameter is written plainly.
* `startsFound`: what is reported of a unit, in terms of what starts a program there.
* `not_all_found`: starts that are missed, and methods that are reported though they start nothing.
-/

namespace CodeAtlas.Compilation

open Node (tokensOf)
open scoped List

namespace Node

/-! ## Starting a program -/

mutual

/-- The tokens of a node that stand in no annotation. -/
def bare : Node → List Token
  | leaf _ _ t => [t]
  | branch _ kind children => if kind = .annotated then [] else bareAll children

def bareAll : List Node → List Token
  | [] => []
  | n :: rest => n.bare ++ bareAll rest

end

def isParameter (n : Node) : Bool := n.kind = .parameter || n.kind = .variadic

/-- Some parts but for modifiers, with those of a declarator in its place. -/
def opened (parts : List Node) : List Node :=
  (parts.filter (·.kind != .modifiers)).flatMap fun c =>
    if c.kind = .declarator then c.children else [c]

/-- The parts of a parameter but for its modifiers. -/
def pieces (p : Node) : List Node := opened p.children

/-- The type of a parameter without annotations, blanks and comments, with what stands behind the name. -/
def wholeType (p : Node) : String := joinedText (bareAll (p.pieces.filter (·.role != .name)))

/-- The ways to write an array of strings. -/
def stringArrays : List String :=
  ["String[]", "String...", "java.lang.String[]", "java.lang.String..."]

/-- The parameter of a method that has just one. -/
def parameter? (n : Node) : Option Node :=
  match (paramNodes n).filter isParameter with
  | [p] => some p
  | _ => none

/-- The dots of a parameter for further arguments. -/
def dots (p : Node) : String := if p.kind = .variadic then "..." else ""

/-- What stands behind the name of a parameter, without annotations, blanks and comments. -/
def behindName (p : Node) : String := joinedText (bareAll (p.pieces.dropWhile (·.role != .name)).tail)

/-- The type of a parameter is written in one of the ways that are noticed: as a short name with
nothing but spaces in it. Between modifiers and a type with dots there is no comment. -/
def IsPlain (p : Node) : Prop :=
  ∃ type ∈ p.pieces.head?, joinedText type.tokens ++ p.dots ∈ startParams ∧ AreSpaced type.tokens ∧
    (p.kind = .variadic → p.children.head? = some type ∨ type.commentsBefore = [])

/-! ## Trees that have been read -/

/-- A node has its form, and its tokens have been cut from a text. -/
structure IsRead (n : Node) : Prop where
  formed : n.Formed
  cut : ∀ t ∈ n.tokens, t.IsCut

theorem tokens_subset_tokensOf {n : Node} {ns : List Node} (h : n ∈ ns) :
    n.tokens ⊆ tokensOf ns := by
  induction ns with
  | nil => cases h
  | cons m ns ih =>
    rcases List.mem_cons.mp h with rfl | h
    · exact List.subset_append_left _ _
    · exact List.Subset.trans (ih h) (List.subset_append_right _ _)

theorem IsRead.child {n c : Node} (h : n.IsRead) (hc : c ∈ n.children) : c.IsRead := by
  cases n with
  | leaf => cases hc
  | branch role kind children =>
    obtain ⟨⟨⟩, hCut⟩ := h
    rename_i hParts hForm
    exact ⟨hParts c hc, fun t ht => hCut t (tokens_subset_tokensOf hc ht)⟩

mutual

theorem IsRead.walk {n m : Node} (h : n.IsRead) (hm : m ∈ n.walk) : m.IsRead := by
  match n with
  | leaf .. => exact List.mem_singleton.mp hm ▸ h
  | branch role kind children =>
    rcases List.mem_cons.mp hm with rfl | hm
    · exact h
    · exact isRead_of_mem_walkAll (fun c hc => h.child hc) hm

theorem isRead_of_mem_walkAll {ns : List Node} {m : Node} (h : ∀ n ∈ ns, n.IsRead)
    (hm : m ∈ walkAll ns) : m.IsRead := by
  match ns with
  | [] => cases hm
  | n :: rest =>
    obtain ⟨hn, hRest⟩ := List.forall_mem_cons.mp h
    rcases List.mem_append.mp hm with hm | hm
    · exact hn.walk hm
    · exact isRead_of_mem_walkAll hRest hm

end

mutual

theorem first?_eq (n : Node) : n.first? = n.tokens.head? := by
  match n with
  | leaf .. => rfl
  | branch _ _ children => exact firstOf?_eq children

theorem firstOf?_eq (ns : List Node) : firstOf? ns = (tokensOf ns).head? := by
  match ns with
  | [] => rfl
  | n :: rest => rw [firstOf?, first?_eq n, firstOf?_eq rest, tokensOf, List.head?_append]

end

theorem kind_of_mem_commentsBefore {n c : Node} (h : c ∈ n.commentsBefore) : c.kind = .comment := by
  rw [commentsBefore] at h
  split at h
  · obtain ⟨comment, -, rfl⟩ := List.mem_map.mp h
    rfl
  · cases h

/-- A comment before a node has a slash in its text. -/
theorem IsRead.slash_mem_comment {n c : Node} (h : n.IsRead) (hc : c ∈ n.commentsBefore) :
    '/' ∈ c.text.toList := by
  rw [commentsBefore, first?_eq] at hc
  split at hc
  next t hFirst =>
    obtain ⟨comment, hComment, rfl⟩ := List.mem_map.mp hc
    exact (h.cut t (List.mem_of_mem_head? hFirst)).comments comment hComment
  next => cases hc

mutual

/-- A node without the sign of annotations has all its tokens outside of them. -/
theorem bare_eq {n : Node} (h : n.Formed) (hNone : ∀ t ∈ n.tokens, t.text ≠ "@") :
    n.bare = n.tokens := by
  match n with
  | leaf .. => rfl
  | branch role kind children =>
    obtain ⟨⟩ := h
    rename_i hParts hForm
    rw [bare, if_neg, bareAll_eq hParts hNone]
    · rfl
    · rintro rfl
      cases hForm with
      | annotated hMem hText => exact hNone _ hMem hText
      | other hAnnotated => exact hAnnotated rfl

theorem bareAll_eq {ns : List Node} (h : ∀ n ∈ ns, n.Formed)
    (hNone : ∀ t ∈ tokensOf ns, t.text ≠ "@") : bareAll ns = tokensOf ns := by
  match ns with
  | [] => rfl
  | n :: rest =>
    obtain ⟨hn, hRest⟩ := List.forall_mem_cons.mp h
    obtain ⟨hFirst, hOthers⟩ := List.forall_mem_append.mp hNone
    rw [bareAll, bare_eq hn hFirst, bareAll_eq hRest hOthers, tokensOf]

end

/-! ## Parameters -/

/-- The parts of a parameter around its name. -/
structure IsPieced (p type : Node) (rest : List Node) : Prop where
  child : type ∈ p.children
  parts : ∃ marks name, p.pieces = type :: marks ++ name :: rest ∧
    (∀ n ∈ type :: marks, n.role ≠ .name) ∧ name.role = .name ∧ joinedText (bareAll marks) = p.dots
  rest : ∀ n ∈ rest, n.role ≠ .name

theorem opened_append (ms ns : List Node) : opened (ms ++ ns) = opened ms ++ opened ns := by
  rw [opened, List.filter_append, List.flatMap_append, opened, opened]

theorem AreModifiers.opened {mods : List Node} (h : AreModifiers mods) : opened mods = [] := by
  obtain rfl | ⟨found, rfl⟩ := h
  · rfl
  · rfl

/-- Parts that are neither modifiers nor a declarator stay as they are. -/
theorem opened_eq {ns : List Node} (h : ∀ n ∈ ns, n.kind ≠ .modifiers ∧ n.kind ≠ .declarator) :
    opened ns = ns := by
  rw [Node.opened, List.filter_eq_self.mpr fun n hn => bne_iff_ne.mpr (h n hn).1]
  refine (List.flatMap_congr fun n hn => if_neg (h n hn).2).trans ?_
  exact List.flatMap_singleton' ns

theorem pieces_branch {role : Role} {kind : Kind} {mods : List Node} (h : AreModifiers mods)
    (ns : List Node) : pieces (.branch role kind (mods ++ ns)) = opened ns := by
  rw [pieces, children, opened_append, h.opened, List.nil_append]

theorem bareAll_marks {marks : List Node} (h : ∀ n ∈ marks, n.IsAnnotation) (t : Token) :
    bareAll (marks ++ [.leaf .plain .mark t]) = [t] := by
  induction marks with
  | nil => rfl
  | cons n ns ih =>
    obtain ⟨hn, hRest⟩ := List.forall_mem_cons.mp h
    obtain ⟨parts, rfl⟩ := hn
    rw [List.cons_append, bareAll, ih hRest]
    rfl

theorem bareAll_append (ms ns : List Node) : bareAll (ms ++ ns) = bareAll ms ++ bareAll ns := by
  induction ms with
  | nil => rfl
  | cons m ms ih => rw [List.cons_append, bareAll, ih, bareAll, List.append_assoc]

theorem isPieced_parameter {mods brackets : List Node} {type name : Node} (hMods : AreModifiers mods)
    (hType : type.IsType) (hName : name.kind = .name) (hBrackets : ∀ n ∈ brackets, n.IsBracket)
    (role : Role) : IsPieced (.branch role .parameter
      (mods ++ type.withRole .type :: name.withRole .name :: brackets)) (type.withRole .type) brackets where
  child := List.mem_append_right _ List.mem_cons_self
  parts := by
    refine ⟨[], name.withRole .name, ?_, ?_, role_withRole _ _, rfl⟩
    · rw [pieces_branch hMods]
      refine opened_eq ?_
      simp only [List.forall_mem_cons, kind_withRole, hType.kind, hName]
      refine ⟨by decide, by decide, fun n hn => ?_⟩
      obtain hMark | hAnnotated := (hBrackets n hn).kind
      · simp [hMark]
      · simp [hAnnotated]
    · simp [role_withRole]
  rest n hn := by
    rw [(hBrackets n hn).role]
    exact nofun

theorem isPieced_variadic {mods marks : List Node} {type declarator : Node} {t : Token}
    (hMods : AreModifiers mods) (hType : type.IsType) (hMarks : ∀ n ∈ marks, n.IsAnnotation)
    (hText : t.text = "...") (hDeclarator : declarator.IsDeclarator) (role : Role) :
    ∃ rest, IsPieced (.branch role .variadic
      (mods ++ type :: (marks ++ [.leaf .plain .mark t, declarator]))) type rest := by
  obtain ⟨name, rest, rfl, hRest⟩ := hDeclarator.parts
  refine ⟨rest, List.mem_append_right _ List.mem_cons_self, ?_, hRest⟩
  refine ⟨marks ++ [.leaf .plain .mark t], name.withRole .name, ?_, ?_, role_withRole _ _, ?_⟩
  · have hSplit : type :: (marks ++ [.leaf .plain .mark t, node .declarator (name.withRole .name :: rest)]) =
        (type :: (marks ++ [.leaf .plain .mark t])) ++ [node .declarator (name.withRole .name :: rest)] := by
      simp
    have hLast : opened [node .declarator (name.withRole .name :: rest)] = name.withRole .name :: rest :=
      List.append_nil _
    rw [pieces_branch hMods, hSplit, opened_append, hLast, opened_eq]
    simp only [List.forall_mem_cons, List.forall_mem_append, hType.kind]
    refine ⟨by decide, fun n hn => ?_, ⟨nofun, nofun⟩, nofun⟩
    obtain ⟨parts, rfl⟩ := hMarks n hn
    exact ⟨nofun, nofun⟩
  · simp only [List.forall_mem_cons, List.forall_mem_append, hType.role]
    refine ⟨by decide, fun n hn => ?_, nofun, nofun⟩
    obtain ⟨parts, rfl⟩ := hMarks n hn
    exact nofun
  · rw [bareAll_marks hMarks]
    simp [joinedText, dots, kind, hText]

/-! ## The text of a type -/

/-- The type of a parameter as it is compared. -/
def comparedType (p : Node) : String := spaceless ((paramType p).getD "")

theorem spaceless_dots (p : Node) : spaceless p.dots = p.dots := by
  unfold dots
  split <;> rfl

/-- A type with its dots is compared token by token. -/
theorem spaceless_mem_startParams_iff {p type : Node} (h : type.IsRead) :
    spaceless (type.text ++ p.dots) ∈ startParams ↔
      joinedText type.tokens ++ p.dots ∈ startParams ∧ AreSpaced type.tokens := by
  have hSolid : ∀ s ∈ startParams, s.toList.all isSolid := by decide
  have hEach (s : String) (hs : s ∈ startParams) : spaceless (type.text ++ p.dots) = s ↔
      joinedText type.tokens ++ p.dots = s ∧ AreSpaced type.tokens := by
    rw [spaceless_append, spaceless_dots]
    exact spaceless_textOf_append_eq_iff h.cut (List.all_eq_true.mp (hSolid s hs))
  constructor
  · intro hMem
    obtain ⟨hText, hSpaced⟩ := (hEach _ hMem).mp rfl
    exact ⟨hText ▸ hMem, hSpaced⟩
  · rintro ⟨hMem, hSpaced⟩
    exact (hEach _ hMem).mpr ⟨rfl, hSpaced⟩ ▸ hMem

/-- A comment is no type. -/
theorem comment_notMem_startParams {c : String} (h : '/' ∈ c.toList) (ending : String) :
    spaceless (c ++ ending) ∉ startParams := by
  intro hMem
  have hNone : ∀ s ∈ startParams, '/' ∉ s.toList := by decide
  refine hNone _ hMem ?_
  rw [toList_spaceless, String.toList_append]
  exact List.mem_filter.mpr ⟨List.mem_append_left _ h, rfl⟩

theorem AreModifiers.child? {mods ns : List Node} (h : AreModifiers mods) {role : Role}
    (hRole : role ≠ .plain) : (mods ++ ns).find? (·.role = role) = ns.find? (·.role = role) := by
  obtain rfl | ⟨found, rfl⟩ := h
  · rfl
  · exact List.find?_cons_of_neg fun h => hRole (of_decide_eq_true h).symm

/-- The type of a parameter is compared as it is written. -/
theorem comparedType_parameter {mods ns : List Node} {type : Node} (hMods : AreModifiers mods)
    (role : Role) : comparedType (.branch role .parameter (mods ++ type.withRole .type :: ns)) =
      spaceless (type.withRole .type).text := by
  have hType : (branch role .parameter (mods ++ type.withRole .type :: ns)).child? .type =
      some (type.withRole .type) := by
    rw [Node.child?, children, hMods.child? (by decide : Role.type ≠ .plain)]
    exact List.find?_cons_of_pos (by simp [role_withRole])
  rw [comparedType, paramType, kind]
  simp only [Option.getD_some]
  rw [partText, hType]
  rfl

/-- The type of a parameter with dots is the first thing behind its modifiers, be it a comment. -/
theorem variadicType_branch {mods ns : List Node} {type : Node} (hMods : AreModifiers mods)
    (hType : type.kind = .type) (role : Role) :
    ((mods = [] ∨ type.commentsBefore = []) ∧
        variadicType (.branch role .variadic (mods ++ type :: ns)) = type.text) ∨
      (mods ≠ [] ∧ ∃ c ∈ type.commentsBefore,
        variadicType (.branch role .variadic (mods ++ type :: ns)) = c.text) := by
  obtain rfl | ⟨found, rfl⟩ := hMods
  · refine .inl ⟨.inl rfl, ?_⟩
    simp [variadicType, members, children, hType]
  · have hFound : (node .modifiers found).kind = .modifiers := rfl
    cases hComments : type.commentsBefore with
    | nil =>
      refine .inl ⟨.inr rfl, ?_⟩
      simp [variadicType, members, children, hFound, hType, hComments]
    | cons c cs =>
      refine .inr ⟨List.cons_ne_nil _ _, c, List.mem_cons_self, ?_⟩
      have hKind : c.kind = .comment := kind_of_mem_commentsBefore (hComments ▸ List.mem_cons_self)
      simp [variadicType, members, children, hFound, hComments, hKind]

/-- No sign of annotations stands in a type that is written plainly. -/
theorem ne_sign_of_mem_startParams {ts : List Token} {ending : String}
    (h : joinedText ts ++ ending ∈ startParams) : ∀ t ∈ ts, t.text ≠ "@" := by
  intro t ht hSign
  have hNone : ∀ s ∈ startParams, '@' ∉ s.toList := by decide
  refine hNone _ h ?_
  rw [String.toList_append, toList_joinedText]
  refine List.mem_append_left _ (List.mem_flatMap.mpr ⟨t, ht, ?_⟩)
  rw [hSign]
  decide

/-- What stands behind one of the noticed types makes another type of it. -/
theorem mem_stringArrays_iff {s : String} (h : s ∈ startParams) (ending : String) :
    s ++ ending ∈ stringArrays ↔ ending = "" := by
  have hPrefix : ∀ s ∈ startParams, ∀ t ∈ stringArrays, s.toList <+: t.toList → s = t := by decide
  constructor
  · intro hMem
    have hSame := hPrefix s h _ hMem (by rw [String.toList_append]; exact List.prefix_append ..)
    rw [← String.toList_inj, String.toList_append, List.self_eq_append_right] at hSame
    exact String.toList_inj.mp hSame
  · rintro rfl
    rw [String.append_empty]
    exact (by decide : ∀ s ∈ startParams, s ∈ stringArrays) s h

namespace IsPieced

variable {p type : Node} {rest : List Node}

theorem head? (h : p.IsPieced type rest) : p.pieces.head? = some type := by
  obtain ⟨marks, name, hPieces, -, -, -⟩ := h.parts
  rw [hPieces]
  rfl

theorem isPlain_iff (h : p.IsPieced type rest) : p.IsPlain ↔
    joinedText type.tokens ++ p.dots ∈ startParams ∧ AreSpaced type.tokens ∧
      (p.kind = .variadic → p.children.head? = some type ∨ type.commentsBefore = []) := by
  rw [IsPlain, h.head?]
  simp

theorem behindName_eq (h : p.IsPieced type rest) : p.behindName = joinedText (bareAll rest) := by
  obtain ⟨marks, name, hPieces, hRoles, hName, -⟩ := h.parts
  rw [behindName, hPieces, List.dropWhile_append_of_pos fun n hn => bne_iff_ne.mpr (hRoles n hn),
    List.dropWhile_cons_of_neg (by simp [hName]), List.tail_cons]

theorem wholeType_eq (h : p.IsPieced type rest) :
    p.wholeType = joinedText type.bare ++ p.dots ++ p.behindName := by
  obtain ⟨marks, name, hPieces, hRoles, hName, hDots⟩ := h.parts
  have hFront : (type :: marks).filter (·.role != .name) = type :: marks :=
    List.filter_eq_self.mpr fun n hn => bne_iff_ne.mpr (hRoles n hn)
  have hRest : rest.filter (·.role != .name) = rest :=
    List.filter_eq_self.mpr fun n hn => bne_iff_ne.mpr (h.rest n hn)
  rw [wholeType, hPieces, List.filter_append, hFront, List.filter_cons_of_neg (by simp [hName]), hRest,
    List.cons_append, bareAll, bareAll_append, joinedText_append, joinedText_append, hDots,
    h.behindName_eq, String.append_assoc]

/-- A type that is written plainly is the whole type if nothing stands behind the name. -/
theorem whole_iff (h : p.IsPieced type rest) (hType : type.IsRead) (hPlain : p.IsPlain) :
    p.wholeType ∈ stringArrays ↔ p.behindName = "" := by
  obtain ⟨type', hHead, hText, -, -⟩ := hPlain
  obtain rfl : type = type' := Option.some.inj (h.head?.symm.trans hHead)
  rw [h.wholeType_eq, bare_eq hType.formed (ne_sign_of_mem_startParams hText)]
  exact mem_stringArrays_iff hText _

end IsPieced

/-- What the type of a parameter tells. -/
structure IsTold (p : Node) : Prop where
  /-- It is noticed if it is written plainly. -/
  noticed_iff : p.comparedType ∈ startParams ↔ p.IsPlain
  /-- Then it is an array of strings if nothing stands behind the name. -/
  whole_iff : p.IsPlain → (p.wholeType ∈ stringArrays ↔ p.behindName = "")

theorem isTold_leaf (role : Role) (kind : Kind) (token : Token) : (leaf role kind token).IsTold where
  noticed_iff := by
    have hCompared : (leaf role kind token).comparedType ∉ startParams := by
      cases kind with
      | variadic =>
        change spaceless ("?" ++ "...") ∉ startParams
        decide
      | _ =>
        change spaceless "" ∉ startParams
        decide
    exact iff_of_false hCompared nofun
  whole_iff := nofun

theorem IsPieced.isTold {p type : Node} {rest : List Node} (h : p.IsPieced type rest) (hp : p.IsRead)
    (hNoticed : p.comparedType ∈ startParams ↔ p.IsPlain) : p.IsTold :=
  ⟨hNoticed, h.whole_iff (hp.child h.child)⟩

theorem isTold_parameter {p type : Node} {mods brackets ns : List Node} {role : Role}
    (hp : p = branch role .parameter (mods ++ type.withRole .type :: ns)) (h : p.IsRead)
    (hMods : AreModifiers mods) (hPieced : p.IsPieced (type.withRole .type) brackets) : p.IsTold := by
  refine hPieced.isTold h ?_
  have hText := spaceless_mem_startParams_iff (p := p) (h.child hPieced.child)
  subst hp
  have hKind : (branch role .parameter (mods ++ type.withRole .type :: ns)).kind ≠ .variadic := nofun
  rw [dots, if_neg hKind, String.append_empty] at hText
  rw [comparedType_parameter hMods, hText, hPieced.isPlain_iff, dots, if_neg hKind]
  simp only [hKind, false_implies, and_true]

theorem isTold_variadic {p type : Node} {mods rest ns : List Node} {role : Role}
    (hp : p = branch role .variadic (mods ++ type :: ns)) (h : p.IsRead) (hMods : AreModifiers mods)
    (hType : type.kind = .type) (hPieced : p.IsPieced type rest) : p.IsTold := by
  refine hPieced.isTold h ?_
  have hRead := h.child hPieced.child
  have hText := spaceless_mem_startParams_iff (p := p) hRead
  have hCompared : p.comparedType = spaceless (variadicType p ++ "...") := by subst hp; rfl
  have hKind : p.kind = .variadic := by subst hp; rfl
  rw [dots, if_pos hKind] at hText
  rw [hCompared, hPieced.isPlain_iff, dots, if_pos hKind]
  have hWritten := @variadicType_branch mods ns type hMods hType role
  rw [← hp] at hWritten
  obtain ⟨hNone, hSame⟩ | ⟨hSome, c, hc, hSame⟩ := hWritten
  · have hShown : p.children.head? = some type ∨ type.commentsBefore = [] := by
      refine hNone.imp_left fun hEmpty => ?_
      subst hp hEmpty
      rfl
    rw [hSame, hText]
    simp only [hShown, implies_true, and_true]
  · refine iff_of_false (hSame ▸ comment_notMem_startParams (hRead.slash_mem_comment hc) _) ?_
    rintro ⟨-, -, hShown⟩
    rcases hShown hKind with hFirst | hNone
    · obtain ⟨found, rfl⟩ := hMods.resolve_left hSome
      subst hp
      obtain rfl := Option.some.inj hFirst
      cases hType
    · rw [hNone] at hc
      cases hc

theorem isTold_of_isRead {p : Node} (h : p.IsRead) (hp : p.isParameter) : p.IsTold := by
  cases p with
  | leaf role kind token => exact isTold_leaf role kind token
  | branch role kind parts =>
    have hFormed := h.formed
    obtain ⟨⟩ := hFormed
    rename_i hParts hForm
    cases hForm with
    | annotated => cases hp
    | other hAnnotated hParameter hVariadic =>
      simp [isParameter, Node.kind, hParameter, hVariadic] at hp
    | parameter hMods hType hName hBrackets =>
      exact isTold_parameter rfl h hMods (isPieced_parameter hMods hType hName hBrackets role)
    | variadic hMods hType hMarks hText hDeclarator =>
      obtain ⟨rest, hPieced⟩ := isPieced_variadic hMods hType hMarks hText hDeclarator role
      exact isTold_variadic rfl h hMods hType.kind hPieced

/-! ## Methods -/

theorem parameter?_spec {n p : Node} (h : p ∈ n.parameter?) : p ∈ paramNodes n ∧ p.isParameter := by
  rw [parameter?] at h
  split at h
  next hOne =>
    obtain rfl := Option.some.inj h
    exact List.mem_filter.mp (hOne ▸ List.mem_singleton_self _)
  next => cases h

theorem IsRead.parameter {n p : Node} (h : n.IsRead) (hp : p ∈ n.parameter?) : p.IsTold := by
  obtain ⟨hMem, hParameter⟩ := parameter?_spec hp
  rw [paramNodes] at hMem
  cases hList : n.child? .parameters with
  | none =>
    rw [hList] at hMem
    cases hMem
  | some list =>
    rw [hList] at hMem
    exact isTold_of_isRead ((h.child (List.mem_of_find?_eq_some hList)).child hMem) hParameter

mutual

theorem callables_sublist (n : Node) : n.callables <+ n.walk := by
  match n with
  | leaf .. => exact List.nil_sublist _
  | branch role kind children =>
    cases kind with
    | typeDeclaration => exact (bodyCallables_sublist children).cons _
    | enumMembers => exact (callablesOf_sublist children).cons _
    | method => exact List.singleton_sublist.mpr List.mem_cons_self
    | constructor => exact List.singleton_sublist.mpr List.mem_cons_self
    | _ => exact List.nil_sublist _

theorem callablesOf_sublist (ns : List Node) : callablesOf ns <+ walkAll ns := by
  match ns with
  | [] => exact List.nil_sublist _
  | n :: rest => exact (callables_sublist n).append (callablesOf_sublist rest)

theorem bodyCallables_sublist (ns : List Node) : bodyCallables ns <+ walkAll ns := by
  match ns with
  | [] => exact List.nil_sublist _
  | leaf .. :: rest => exact (bodyCallables_sublist rest).cons _
  | branch role kind children :: rest =>
    refine List.Sublist.append ?_ (bodyCallables_sublist rest)
    split
    · exact (callablesOf_sublist children).cons _
    · exact List.nil_sublist _

end

end Node

/-- All that is told of declarations is told by their nodes. -/
def Declared.Made (d : Declared) : Prop :=
  ∀ c ∈ d.declarations, c = callableOf c.number c.owner c.node

theorem Declared.Made.steps {d d' : Declared} (h : d.Made) (hSteps : Steps d d') : d'.Made := by
  induction hSteps with
  | refl => exact h
  | tail _ hStep ih =>
    cases hStep with
    | type owner n =>
      cases owner with
      | none => exact ih
      | some => exact ih
    | callable owner n =>
      exact List.forall_mem_append.mpr ⟨ih, List.forall_mem_singleton.mpr rfl⟩
    | fields owner n => exact ih

/-- The methods of a unit that are reported as starting a program. -/
def Source.noticed (s : Source) : List Callable := s.declarations.filter (·.isStart)

end CodeAtlas.Compilation
