import CodeAtlas.Compilation.Provider
import CodeAtlas.Proofs.Compilation.Bare
import CodeAtlas.Proofs.Paired

/-!
# Trees with other comments

Two trees of a unit are alike if they differ only in what stands between the tokens of argument lists,
and in the lines of the tokens. Where only the text of a part counts, as for a type, the texts are the
same.

* `Node.Alike`: two trees are alike.
* `Node.Alike.walk`: so are the nodes that walks through them pass, one by one.
* `bare_sourceOf`: units with such trees declare the same.
-/

namespace CodeAtlas.Compilation

/-! ## Trees -/

/-- Two tokens differ in nothing but their lines, or inside a list of arguments also in the blanks and
comments before them. -/
def Token.Alike (inside : Bool) (t t' : Token) : Prop :=
  t.shape = t'.shape ∧ t.text = t'.text ∧
    (inside = false → t.before = t'.before ∧ t.comments = t'.comments)

instance (inside : Bool) (t t' : Token) : Decidable (t.Alike inside t') :=
  inferInstanceAs (Decidable (_ ∧ _ ∧ (_ → _ ∧ _)))

theorem Token.Alike.loosen {inside inside' : Bool} {t t' : Token} (h : t.Alike inside t')
    (hLoose : inside = true → inside' = true) : t.Alike inside' t' := by
  refine ⟨h.1, h.2.1, fun hOutside => h.2.2 ?_⟩
  rw [← Bool.not_eq_true]
  intro hInside
  rw [hLoose hInside] at hOutside
  cases hOutside

namespace Node

/-- Only the text of the node counts, as a part of a node of a kind. -/
def isVerbatim (parent : Kind) (n : Node) : Bool :=
  [Role.name, .type, .target].contains n.role || [Kind.mark, .name, .text].contains n.kind ||
    [Kind.modifiers, .typeList, .variadic].contains parent

def isLeaf : Node → Bool
  | leaf .. => true
  | branch .. => false

/-- Is this a list of arguments? -/
def isList (r : Role) (k : Kind) : Bool := r = .arguments && k = .arguments

mutual

/-- Two trees differ only in the lines of their tokens and the comments in lists of arguments, in one of
which they may stand themselves. -/
inductive Alike : Bool → Node → Node → Prop
  | leaf {inside : Bool} {r : Role} {k : Kind} {t t' : Token} : t.Alike inside t' →
      Alike inside (.leaf r k t) (.leaf r k t')
  | branch {inside : Bool} {r : Role} {k : Kind} {cs cs' : List Node} : AllAlike r k inside cs cs' →
      Alike inside (.branch r k cs) (.branch r k cs')

/-- So do the parts of two nodes. What stands behind the bracket of a list of arguments is in the
list. -/
inductive AllAlike : Role → Kind → Bool → List Node → List Node → Prop
  | nil {r : Role} {k : Kind} {inside : Bool} : AllAlike r k inside [] []
  | cons {r : Role} {k : Kind} {inside : Bool} {n n' : Node} {ns ns' : List Node} :
      Alike inside n n' → (n.isVerbatim k = true → n.text = n'.text) →
      AllAlike r k (inside || (isList r k && n.isLeaf)) ns ns' →
      AllAlike r k inside (n :: ns) (n' :: ns')

end

mutual

def decAlike : (inside : Bool) → (n n' : Node) → Decidable (Alike inside n n')
  | inside, .leaf r k t, .leaf r' k' t' =>
    decidable_of_iff (r = r' ∧ k = k' ∧ t.Alike inside t')
      ⟨fun ⟨hr, hk, ht⟩ => hr ▸ hk ▸ .leaf ht, fun | .leaf ht => ⟨rfl, rfl, ht⟩⟩
  | inside, .branch r k cs, .branch r' k' cs' =>
    haveI := decAllAlike r k inside cs cs'
    decidable_of_iff (r = r' ∧ k = k' ∧ AllAlike r k inside cs cs')
      ⟨fun ⟨hr, hk, hcs⟩ => hr ▸ hk ▸ .branch hcs, fun | .branch hcs => ⟨rfl, rfl, hcs⟩⟩
  | _, .leaf .., .branch .. | _, .branch .., .leaf .. => isFalse nofun

def decAllAlike (r : Role) (k : Kind) : (inside : Bool) → (ns ns' : List Node) →
    Decidable (AllAlike r k inside ns ns')
  | _, [], [] => isTrue .nil
  | inside, n :: ns, n' :: ns' =>
    haveI := decAlike inside n n'
    haveI := decAllAlike r k (inside || (isList r k && n.isLeaf)) ns ns'
    decidable_of_iff (Alike inside n n' ∧ (n.isVerbatim k = true → n.text = n'.text) ∧
        AllAlike r k (inside || (isList r k && n.isLeaf)) ns ns')
      ⟨fun ⟨hn, hText, hns⟩ => .cons hn hText hns, fun | .cons hn hText hns => ⟨hn, hText, hns⟩⟩
  | _, [], _ :: _ | _, _ :: _, [] => isFalse nofun

end

instance (inside : Bool) (n n' : Node) : Decidable (Alike inside n n') := decAlike inside n n'

/-- Two parts of alike nodes of a kind. -/
structure Matched (k : Kind) (inside : Bool) (n n' : Node) : Prop where
  alike : Alike inside n n'
  text : n.isVerbatim k = true → n.text = n'.text

/-! ### What alike trees have in common -/

section Common

variable {inside : Bool} {n n' : Node}

theorem Alike.role_eq (h : Alike inside n n') : n.role = n'.role := by
  cases h <;> rfl

theorem Alike.kind_eq (h : Alike inside n n') : n.kind = n'.kind := by
  cases h <;> rfl

theorem Alike.children (h : Alike inside n n') :
    AllAlike n.role n.kind inside n.children n'.children := by
  cases h with
  | leaf => exact .nil
  | branch h => exact h

end Common

mutual

/-- Trees that are alike outside all lists of arguments are so inside one. -/
theorem Alike.loosen (n : Node) {n' : Node} {inside inside' : Bool}
    (hLoose : inside = true → inside' = true) (h : Alike inside n n') : Alike inside' n n' := by
  match n with
  | .leaf .. =>
    cases h with
    | leaf ht => exact .leaf (ht.loosen hLoose)
  | .branch _ _ cs =>
    cases h with
    | branch hcs => exact .branch (AllAlike.loosen cs hLoose hcs)

theorem AllAlike.loosen (ns : List Node) {ns' : List Node} {r : Role} {k : Kind} {inside inside' : Bool}
    (hLoose : inside = true → inside' = true) (h : AllAlike r k inside ns ns') :
    AllAlike r k inside' ns ns' := by
  match ns with
  | [] =>
    cases h
    exact .nil
  | n :: ns =>
    cases h with
    | cons hn hText hns =>
      refine .cons (Alike.loosen n hLoose hn) hText (AllAlike.loosen ns ?_ hns)
      intro hInside
      rcases (Bool.or_eq_true ..).mp hInside with hInside | hBehind
      · rw [hLoose hInside, Bool.true_or]
      · rw [hBehind, Bool.or_true]

end

mutual

theorem Alike.first? (n : Node) {n' : Node} {inside : Bool} (h : Alike inside n n') :
    Option.Rel (Token.Alike inside) n.first? n'.first? := by
  match n with
  | .leaf .. =>
    cases h with
    | leaf ht =>
      rw [Node.first?, Node.first?]
      exact .some ht
  | .branch _ _ cs =>
    cases h with
    | branch hcs =>
      rw [Node.first?, Node.first?]
      exact AllAlike.firstOf? cs hcs

/-- The first token of some parts stands in front of any list of arguments among them. -/
theorem AllAlike.firstOf? (ns : List Node) {ns' : List Node} {r : Role} {k : Kind} {inside : Bool}
    (h : AllAlike r k inside ns ns') :
    Option.Rel (Token.Alike inside) (Node.firstOf? ns) (Node.firstOf? ns') := by
  match ns with
  | [] =>
    cases h
    rw [Node.firstOf?]
    exact .none
  | .leaf _ _ t :: ns =>
    cases h with
    | cons hn _ _ =>
      cases hn with
      | leaf ht =>
        rw [Node.firstOf?, Node.firstOf?, Node.first?, Node.first?, Option.some_or, Option.some_or]
        exact .some ht
  | .branch r' k' cs :: ns =>
    cases h with
    | @cons _ _ _ _ n' _ ns' hn _ hns =>
      have hFirst := Alike.first? (.branch r' k' cs) hn
      rw [isLeaf, Bool.and_false, Bool.or_false] at hns
      rw [Node.firstOf?, Node.firstOf?]
      generalize (Node.branch r' k' cs).first? = t, n'.first? = t' at hFirst ⊢
      cases hFirst with
      | some ht => exact .some ht
      | none => exact AllAlike.firstOf? ns hns

end

/-! ### Parts -/

section Parts

variable {inside : Bool} {n n' : Node} {r : Role}

/-- Are the parts of a node inside a list of arguments? -/
def within (inside : Bool) (n : Node) : Bool := inside || isList n.role n.kind

theorem within_of_kind (h : n.kind ≠ .arguments) : n.within inside = inside := by
  simp [within, isList, h]

theorem within_of_role (h : n.role ≠ .arguments) : n.within inside = inside := by
  simp [within, isList, h]

theorem AllAlike.matched {ns ns' : List Node} {k : Kind} (h : AllAlike r k inside ns ns') :
    List.Forall₂ (Matched k (inside || isList r k)) ns ns' := by
  induction ns generalizing ns' inside with
  | nil =>
    cases h
    exact .nil
  | cons n ns ih =>
    cases h with
    | cons hn hText hns =>
      refine .cons ⟨hn.loosen _ (fun hInside => by rw [hInside, Bool.true_or]), hText⟩ ?_
      refine (ih hns).imp fun m m' hm => ⟨hm.alike.loosen _ fun hInside => ?_, hm.text⟩
      revert hInside
      cases inside <;> cases isList r k <;> simp

/-- The parts of alike nodes match. -/
theorem Alike.matched (h : Alike inside n n') :
    List.Forall₂ (Matched n.kind (n.within inside)) n.children n'.children :=
  AllAlike.matched h.children

theorem Alike.child? (h : Alike inside n n') (r : Role) :
    Option.Rel (fun m m' => Matched n.kind (n.within inside) m m' ∧ m.role = r)
      (n.child? r) (n'.child? r) := by
  have hFound := find?_of_forall₂ (p := (·.role = r)) (q := (·.role = r)) h.matched
    fun m m' hm => by rw [hm.alike.role_eq]
  simp only [decide_eq_true_eq] at hFound
  exact hFound

theorem Alike.parts (h : Alike inside n n') (r : Role) :
    List.Forall₂ (Matched n.kind (n.within inside)) (n.parts r) (n'.parts r) :=
  (filter_of_forall₂ h.matched fun m m' hm => by rw [hm.alike.role_eq]).imp fun _ _ hm => hm.1

/-- Names and types have the same texts. -/
theorem Alike.childText_eq (h : Alike inside n n')
    (hRole : [Role.name, .type, .target].contains r = true) :
    (n.child? r).map text = (n'.child? r).map text := by
  have hChild := h.child? r
  generalize n.child? r = m, n'.child? r = m' at hChild ⊢
  cases hChild with
  | none => rfl
  | some hm =>
    obtain ⟨hm, rfl⟩ := hm
    rw [Option.map_some, Option.map_some, hm.text (by rw [isVerbatim, hRole]; rfl)]

theorem Alike.childMap_eq {α : Type} (h : Alike inside n n')
    (hRole : [Role.name, .type, .target].contains r = true) (f : String → α) :
    (n.child? r).map (fun m => f m.text) = (n'.child? r).map fun m => f m.text := by
  have hMap (m : Option Node) : m.map (fun m => f m.text) = (m.map text).map f := by cases m <;> rfl
  rw [hMap, hMap, h.childText_eq hRole]

theorem Alike.partText_eq (h : Alike inside n n')
    (hRole : [Role.name, .type, .target].contains r = true) : n.partText r = n'.partText r := by
  rw [partText, partText, h.childText_eq hRole]

/-! ### Comments -/

/-- Outside all lists of arguments the comments are the same. -/
theorem Alike.commentsBefore (h : Alike false n n') (k : Kind) :
    List.Forall₂ (Matched k false) n.commentsBefore n'.commentsBefore := by
  have hFirst := Alike.first? n h
  rw [Node.commentsBefore, Node.commentsBefore]
  generalize n.first? = t, n'.first? = t' at hFirst ⊢
  cases hFirst with
  | none => exact .nil
  | some ht =>
    dsimp only
    rw [(ht.2.2 rfl).2, List.forall₂_map_left_iff, List.forall₂_map_right_iff, List.forall₂_same]
    exact fun c _ => ⟨.leaf ⟨rfl, rfl, fun _ => ⟨rfl, rfl⟩⟩, fun _ => rfl⟩

theorem Alike.members (h : Alike false n n') (hOutside : n.within false = false) :
    List.Forall₂ (Matched n.kind false) n.members n'.members := by
  have hParts := h.matched
  rw [hOutside] at hParts
  rw [Node.members, Node.members]
  generalize n.children = ns, n'.children = ns' at hParts ⊢
  cases hParts with
  | nil => exact .nil
  | cons hFirst hRest =>
    have hAll := List.Forall₂.cons hFirst (List.rel_flatMap hRest fun m m' hm =>
      List.rel_append (hm.alike.commentsBefore n.kind) (.cons hm .nil))
    exact (filter_of_forall₂ hAll fun m m' hm => by rw [hm.alike.kind_eq]).imp fun _ _ hm => hm.1

end Parts

/-! ### Walks -/

mutual

/-- Walks through alike trees pass alike nodes. -/
theorem Alike.walk (n : Node) {n' : Node} {inside : Bool} (h : Alike inside n n') :
    List.Forall₂ (Alike true) n.walk n'.walk := by
  match n with
  | .leaf .. =>
    cases h with
    | leaf ht =>
      rw [Node.walk, Node.walk]
      exact .cons (.leaf (ht.loosen fun _ => rfl)) .nil
  | .branch _ _ cs =>
    cases h with
    | branch hcs =>
      rw [Node.walk, Node.walk]
      exact .cons (Alike.loosen _ (fun _ => rfl) (.branch hcs)) (AllAlike.walkAll cs hcs)

theorem AllAlike.walkAll (ns : List Node) {ns' : List Node} {r : Role} {k : Kind} {inside : Bool}
    (h : AllAlike r k inside ns ns') :
    List.Forall₂ (Alike true) (Node.walkAll ns) (Node.walkAll ns') := by
  match ns with
  | [] =>
    cases h
    rw [Node.walkAll]
    exact .nil
  | n :: ns =>
    cases h with
    | cons hn _ hns =>
      rw [Node.walkAll, Node.walkAll]
      exact List.rel_append (Alike.walk n hn) (AllAlike.walkAll ns hns)

end

end Node

/-! ## Variables -/

section Variables

variable {inside : Bool} {n n' : Node}

theorem madeType_eq (h : Node.Alike inside n n') : madeType n = madeType n' := by
  have hValue := h.child? .value
  rw [madeType, madeType]
  generalize n.child? .value = v, n'.child? .value = v' at hValue ⊢
  cases hValue with
  | none => rfl
  | @some v v' hv =>
    have hType := hv.1.alike.childMap_eq (r := .type) rfl baseType
    dsimp only
    rw [hv.1.alike.kind_eq, hType]

theorem declaredVariables_eq (h : Node.Alike inside n n') :
    declaredVariables n = declaredVariables n' := by
  have hType : (n.child? .type).map Node.text = (n'.child? .type).map Node.text :=
    h.childText_eq rfl
  have hName : n.partText .name = n'.partText .name := h.partText_eq rfl
  have hParts (written : String) :
      (n.parts .declarator).filterMap (fun d =>
        ((if written = "var" then madeType d else some written).filter (· != "")).map
          (d.partText .name, ·)) =
      (n'.parts .declarator).filterMap fun d =>
        ((if written = "var" then madeType d else some written).filter (· != "")).map
          (d.partText .name, ·) := by
    refine filterMap_eq_of_forall₂ (h.parts .declarator) fun d d' hd => ?_
    rw [madeType_eq hd.alike, hd.alike.partText_eq rfl]
  rw [declaredVariables, declaredVariables, ← h.kind_eq, ← hName]
  generalize n.kind = k, n.child? .type = t, n'.child? .type = t' at hType ⊢
  cases t with
  | none =>
    obtain rfl : t' = none := by simpa using hType.symm
    cases k <;> rfl
  | some t =>
    obtain ⟨t', rfl, hText⟩ : ∃ u, t' = some u ∧ u.text = t.text := by simpa using hType.symm
    cases k with
    | «variables» =>
      dsimp only
      rw [hText]
      exact hParts _
    | parameter | forEach | resource =>
      dsimp only
      rw [hText]
    | _ => rfl

/-- The variables of alike methods have the same types. -/
theorem variables_eq_of_alike {c c' : Callable} (h : Node.Alike inside c.node c'.node) :
    c.variables = c'.variables :=
  flatMap_eq_of_forall₂ (Node.Alike.walk _ h) fun _ _ => declaredVariables_eq

end Variables

end CodeAtlas.Compilation
