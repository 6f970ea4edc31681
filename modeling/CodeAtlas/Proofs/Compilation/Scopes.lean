import CodeAtlas.Compilation.Indexing
import CodeAtlas.Compilation.Resolve

/-!
# Scopes of variables

`Node.scopes` goes through a tree with the variables that are in scope at each node, the innermost
first. A variable is in scope in its own value and in all that stands behind it in the same block or
loop, a parameter in the body behind it, the variable of a loop over elements in the body of the loop, a
resource up to the end of the block that uses it, and a failure in the block of its clause. The fields of
a type inside a method are in scope in all of its body, but what it inherits is not considered, and
neither are the variables of patterns.

* `fst_scopes`: every node has its scope.
* `mem_declared_of_scopes`: what is in scope is declared in the tree.
-/

namespace CodeAtlas.Compilation

/-! ## Declarations of variables -/

/-- How a variable is declared. -/
inductive Form where
  | parameter
  /-- A parameter for further arguments. -/
  | variadic
  /-- A parameter without a type. -/
  | bare
  | variable
  | forEach
  | resource
  /-- A failure. -/
  | caught
  /-- A field of a type inside a method. -/
  | field
  deriving DecidableEq, Repr

structure Binding where
  form : Form
  name : String
  /-- The types that it is declared with. -/
  written : List String
  /-- The type of the new object that it begins with. -/
  made : Option String
  deriving DecidableEq, Repr

namespace Binding

/-- The type that the declaration gives the variable: the one that is written, or that of the new object
if none is. -/
def type (b : Binding) : Option String :=
  match b.written with
  | [written] =>
    (if baseType written = "var" then b.made else some (baseType written)).filter (· != "")
  | _ => none

end Binding

namespace Node

def isWord (n : Node) (word : String) : Bool := n.kind = .mark && n.text = word

/-- Variables of one type. -/
def variablesOf (type : Option Node) (declarators : List Node) : List Binding :=
  match type with
  | some type => declarators.map fun d => ⟨.variable, d.partText .name, [type.text], madeType d⟩
  | none => []

/-- The failure of a clause, behind its first word. -/
def caught (clause : List Node) : List Binding :=
  if clause.any (·.isWord ")") then
    let head := clause.takeWhile (!·.isWord ")")
    match head.find? (·.kind = .name) with
    | some name => [⟨.caught, name.text, (head.filter (·.kind = .type)).map (·.text), none⟩]
    | none => []
  else []

/-- The failures of all clauses. -/
def allCaught : List Node → List Binding
  | [] => []
  | n :: rest => (if n.isWord "catch" then caught rest else []) ++ allCaught rest

/-- The names before an arrow. -/
def namesBefore (children : List Node) : List Binding :=
  match children with
  | [ps, arrow, _] =>
    if arrow.isWord "->" then
      (if ps.kind = .name then [ps] else ps.children.filter (·.kind = .name)).map fun n =>
        ⟨.bare, n.text, [], none⟩
    else []
  | _ => []

/-- The fields that a member of a type declares. -/
def fieldsIn (n : Node) : List Binding :=
  if n.kind = .fields || n.kind = .other then
    (n.parts .declarator).map fun d => ⟨.field, d.partText .name, [n.partText .type], none⟩
  else []

/-- A variable of a form with its type. -/
def variableIn (n : Node) (form : Form) : List Binding :=
  match n.child? .type with
  | some type => [⟨form, n.partText .name, [type.text], none⟩]
  | none => []

/-- What a node declares itself. -/
def bindings (n : Node) : List Binding :=
  match n.kind with
  | .variables => variablesOf (n.child? .type) (n.parts .declarator)
  | .parameter => n.variableIn .parameter
  | .forEach => n.variableIn .forEach
  | .resource => n.variableIn .resource
  | .variadic =>
    (n.children.filter (·.kind = .declarator)).map fun d =>
      ⟨.variadic, d.partText .name, [variadicType n], none⟩
  | _ => namesBefore n.children ++ allCaught n.children ++ n.fieldsIn

/-- All that is declared in a tree, in the order of the text. -/
def declared (n : Node) : List Binding := n.walk.flatMap bindings

/-! ## Scopes -/

/-- What a node declares for those behind it. -/
def declaredBehind (n : Node) : List Binding :=
  match n.kind with
  | .variables | .resource => n.bindings
  | _ => (n.children.filter fun p => p.kind = .parameter || p.kind = .variadic).flatMap bindings

/-- What some nodes leave in scope behind them. The clauses behind a block begin anew. -/
def behind (scope : List Binding) : List Node → List Binding
  | [] => scope
  | n :: rest =>
    if n.isWord "catch" then behind (caught rest) rest
    else if n.isWord "finally" then behind [] rest
    else behind (n.declaredBehind.reverse ++ scope) rest

/-- What a node brings into scope at one of its parts, behind some others. -/
def visible (n : Node) (before : List Node) (part : Node) : List Binding :=
  match n.kind with
  | .forEach => if part.role = .body then n.bindings else []
  | .resource | .parameter | .variadic => n.bindings
  | .variables =>
    (variablesOf (n.child? .type) ((before ++ [part]).filter (·.role = .declarator))).reverse
  | _ =>
    (if before.length = 2 then namesBefore n.children else []) ++ behind [] before ++
      n.children.flatMap fieldsIn

mutual

/-- A node and all below it, each with what is in scope there. -/
def scopes (scope : List Binding) : Node → List (Node × List Binding)
  | leaf role kind token => [(leaf role kind token, scope)]
  | branch role kind children =>
    (branch role kind children, scope) :: scopesOf scope (branch role kind children) [] children

/-- The parts of a node that stand behind some others. -/
def scopesOf (scope : List Binding) (n : Node) (before : List Node) :
    List Node → List (Node × List Binding)
  | [] => []
  | part :: rest =>
    part.scopes (n.visible before part ++ scope) ++ scopesOf scope n (before ++ [part]) rest

end

mutual

/-- Every node of a tree has its scope. -/
theorem fst_scopes (scope : List Binding) (n : Node) : (n.scopes scope).map (·.1) = n.walk := by
  match n with
  | leaf .. => rfl
  | branch role kind children =>
    rw [scopes, walk, List.map_cons, fst_scopesOf]

theorem fst_scopesOf (scope : List Binding) (n : Node) (before parts : List Node) :
    (scopesOf scope n before parts).map (·.1) = walkAll parts := by
  match parts with
  | [] => rfl
  | part :: rest => rw [scopesOf, walkAll, List.map_append, fst_scopes, fst_scopesOf]

end

theorem exists_scope {n m : Node} (h : m ∈ n.walk) (scope : List Binding) :
    ∃ inner, (m, inner) ∈ n.scopes scope := by
  rw [← fst_scopes scope] at h
  obtain ⟨⟨m, inner⟩, hMem, rfl⟩ := List.mem_map.mp h
  exact ⟨inner, hMem⟩

/-! ## What is in scope is declared -/

theorem walkAll_eq (ns : List Node) : walkAll ns = ns.flatMap walk := by
  induction ns with
  | nil => rfl
  | cons n ns ih => rw [walkAll, ih, List.flatMap_cons]

variable {n part : Node} {before after clause : List Node} {b : Binding}

theorem walk_eq (n : Node) : n.walk = n :: n.children.flatMap walk := by
  cases n with
  | leaf => rfl
  | branch role kind children => rw [walk, walkAll_eq]; rfl

theorem mem_walk_self (n : Node) : n ∈ n.walk := walk_eq n ▸ List.mem_cons_self

mutual

theorem mem_walk_of_child {n m c : Node} (hm : m ∈ n.walk) (hc : c ∈ m.children) : c ∈ n.walk := by
  match n with
  | leaf .. =>
    rw [List.mem_singleton.mp hm] at hc
    cases hc
  | branch role kind children =>
    rcases List.mem_cons.mp hm with rfl | hm
    · refine List.mem_cons_of_mem _ ?_
      rw [walkAll_eq]
      exact List.mem_flatMap.mpr ⟨c, hc, mem_walk_self c⟩
    · exact List.mem_cons_of_mem _ (mem_walkAll_of_child hm hc)

theorem mem_walkAll_of_child {ns : List Node} {m c : Node} (hm : m ∈ walkAll ns)
    (hc : c ∈ m.children) : c ∈ walkAll ns := by
  match ns with
  | [] => cases hm
  | n :: rest =>
    rcases List.mem_append.mp hm with hm | hm
    · exact List.mem_append_left _ (mem_walk_of_child hm hc)
    · exact List.mem_append_right _ (mem_walkAll_of_child hm hc)

end

/-- What stands below a part of a tree stands in the tree. -/
theorem walk_subset {c : Node} (hc : c ∈ n.children) : c.walk ⊆ n.walk := by
  intro m hm
  rw [walk_eq]
  exact List.mem_cons_of_mem _ (List.mem_flatMap.mpr ⟨c, hc, hm⟩)

theorem mem_declared : b ∈ n.declared ↔ b ∈ n.bindings ∨ ∃ c ∈ n.children, b ∈ c.declared := by
  rw [declared, walk_eq, List.flatMap_cons, List.mem_append]
  simp only [declared, List.flatMap_assoc, List.mem_flatMap]

theorem takeWhile_append_of_any {α : Type} {p : α → Bool} {xs : List α} (h : xs.any p = true)
    (ys : List α) : (xs ++ ys).takeWhile (!p ·) = xs.takeWhile (!p ·) := by
  induction xs with
  | nil => cases h
  | cons x xs ih =>
    rw [List.cons_append, List.takeWhile_cons, List.takeWhile_cons]
    cases hp : p x with
    | true => rfl
    | false =>
      rw [List.any_cons, hp, Bool.false_or] at h
      rw [ih h]

/-- What stands behind a clause makes no difference to its failure. -/
theorem caught_append (h : b ∈ caught clause) (after : List Node) : b ∈ caught (clause ++ after) := by
  rw [caught] at h
  split at h
  · rename_i hClosed
    rw [caught, List.any_append, hClosed, Bool.true_or, if_pos rfl, takeWhile_append_of_any hClosed]
    exact h
  · cases h

theorem mem_behind {scope : List Binding} (h : b ∈ behind scope before) (after : List Node) :
    b ∈ scope ∨ b ∈ allCaught (before ++ after) ∨ ∃ m ∈ before, b ∈ m.declaredBehind := by
  induction before generalizing scope with
  | nil => exact .inl h
  | cons m before ih =>
    rw [behind] at h
    rw [List.cons_append, allCaught, List.mem_append]
    have hRest : b ∈ allCaught (before ++ after) ∨ (∃ m ∈ before, b ∈ m.declaredBehind) →
        (b ∈ (if m.isWord "catch" then caught (before ++ after) else []) ∨
          b ∈ allCaught (before ++ after)) ∨ ∃ m' ∈ m :: before, b ∈ m'.declaredBehind := by
      rintro (hCaught | ⟨m', hm', hb⟩)
      · exact .inl (.inr hCaught)
      · exact .inr ⟨m', List.mem_cons_of_mem _ hm', hb⟩
    split at h
    · rename_i hCatch
      rcases ih h with hScope | hOther
      · exact .inr (.inl (.inl (by rw [if_pos hCatch]; exact caught_append hScope after)))
      · exact .inr (hRest hOther)
    · split at h
      · rcases ih h with hNone | hOther
        · cases hNone
        · exact .inr (hRest hOther)
      · rcases ih h with hScope | hOther
        · rcases List.mem_append.mp hScope with hHere | hScope
          · exact .inr (.inr ⟨m, List.mem_cons_self, List.mem_reverse.mp hHere⟩)
          · exact .inl hScope
        · exact .inr (hRest hOther)

theorem mem_declared_of_child {c : Node} (hc : c ∈ n.children) (h : b ∈ c.bindings) :
    b ∈ n.declared :=
  mem_declared.mpr (.inr ⟨c, hc, mem_declared.mpr (.inl h)⟩)

theorem mem_declared_of_behind {m : Node} (hm : m ∈ n.children) (h : b ∈ m.declaredBehind) :
    b ∈ n.declared := by
  rw [declaredBehind] at h
  split at h
  · exact mem_declared_of_child hm h
  · exact mem_declared_of_child hm h
  · obtain ⟨p, hp, hb⟩ := List.mem_flatMap.mp h
    exact mem_declared.mpr (.inr ⟨m, hm, mem_declared_of_child ((List.mem_filter.mp hp).1) hb⟩)

theorem bindings_of_fieldsIn (h : b ∈ n.fieldsIn) : b ∈ n.bindings := by
  have hFields := h
  rw [fieldsIn] at h
  split at h
  · rename_i hKind
    have hKind : n.kind = .fields ∨ n.kind = .other := by simpa using hKind
    rw [bindings]
    rcases hKind with hKind | hKind <;>
      (rw [hKind]; exact List.mem_append_right _ hFields)
  · cases h

theorem variablesOf_subset {type : Option Node} {ds es : List Node} (h : ds ⊆ es)
    (hb : b ∈ variablesOf type ds) : b ∈ variablesOf type es := by
  cases type with
  | none => cases hb
  | some type => exact List.map_subset _ h hb

/-- What a node brings into scope is declared by it, or by one of its parts, or by a part of such. -/
theorem mem_declared_of_visible (hParts : n.children = before ++ part :: after)
    (h : b ∈ n.visible before part) : b ∈ n.declared := by
  have hBefore : ∀ m ∈ before, m ∈ n.children := fun m hm => hParts ▸ List.mem_append_left _ hm
  have hOwn : b ∈ n.bindings → b ∈ n.declared := fun hb => mem_declared.mpr (.inl hb)
  rw [visible] at h
  split at h
  · split at h
    · exact hOwn h
    · cases h
  · exact hOwn h
  · exact hOwn h
  · exact hOwn h
  · rename_i hKind
    have hSome : (before ++ [part]).filter (·.role = .declarator) ⊆ n.parts .declarator := by
      intro d hd
      obtain ⟨hMem, hRole⟩ := List.mem_filter.mp hd
      refine List.mem_filter.mpr ⟨?_, hRole⟩
      rw [hParts, List.append_cons]
      exact List.mem_append_left _ hMem
    refine hOwn ?_
    rw [bindings, hKind]
    exact variablesOf_subset hSome (List.mem_reverse.mp h)
  · have hDefault : n.bindings = namesBefore n.children ++ allCaught n.children ++ n.fieldsIn := by
      rw [bindings]
      split <;> first | rfl | contradiction
    rcases List.mem_append.mp h with h | h
    · rcases List.mem_append.mp h with h | h
      · split at h
        · exact hOwn (hDefault ▸ List.mem_append_left _ (List.mem_append_left _ h))
        · cases h
      · rcases mem_behind h (part :: after) with hNone | hCaught | ⟨m, hm, hb⟩
        · cases hNone
        · rw [← hParts] at hCaught
          exact hOwn (hDefault ▸ List.mem_append_left _ (List.mem_append_right _ hCaught))
        · exact mem_declared_of_behind (hBefore m hm) hb
    · obtain ⟨m, hm, hb⟩ := List.mem_flatMap.mp h
      exact mem_declared_of_child hm (bindings_of_fieldsIn hb)

mutual

/-- What is in scope at a node of a tree has been in scope before, or is declared in the tree. -/
theorem mem_declared_of_scopes {scope : List Binding} {n m : Node} {inner : List Binding}
    (h : (m, inner) ∈ n.scopes scope) (hb : b ∈ inner) : b ∈ scope ∨ b ∈ n.declared := by
  match n with
  | leaf .. =>
    obtain ⟨-, rfl⟩ := Prod.mk.inj (List.mem_singleton.mp h)
    exact .inl hb
  | branch role kind children =>
    rcases List.mem_cons.mp h with hSelf | h
    · obtain ⟨-, rfl⟩ := Prod.mk.inj hSelf
      exact .inl hb
    · exact mem_declared_of_scopesOf rfl h hb

theorem mem_declared_of_scopesOf {scope : List Binding} {n m : Node} {before parts : List Node}
    {inner : List Binding} (hParts : n.children = before ++ parts)
    (h : (m, inner) ∈ scopesOf scope n before parts) (hb : b ∈ inner) :
    b ∈ scope ∨ b ∈ n.declared := by
  match parts with
  | [] => cases h
  | part :: rest =>
    rcases List.mem_append.mp h with h | h
    · rcases mem_declared_of_scopes h hb with hOuter | hInner
      · rcases List.mem_append.mp hOuter with hVisible | hScope
        · exact .inr (mem_declared_of_visible hParts hVisible)
        · exact .inl hScope
      · have hPart : part ∈ n.children := hParts ▸ List.mem_append_right _ List.mem_cons_self
        exact .inr (mem_declared.mpr (.inr ⟨part, hPart, hInner⟩))
    · exact mem_declared_of_scopesOf (by rw [hParts, List.append_assoc]; rfl) h hb

end

end Node

end CodeAtlas.Compilation
