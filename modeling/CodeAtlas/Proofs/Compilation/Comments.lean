import CodeAtlas.Proofs.Compilation.AlikeUnits

/-!
# Comments in lists of arguments

Comments are not part of a program, but one that stands directly in a list of arguments is counted as an
argument. A call then refers to another overload, or to a method with another number of parameters, and
the name that is looked up in the environment is missed behind such a comment. Nothing else changes with
the comments in lists of arguments.

* `commentsPassed`: what such comments change, and what they do not.
* `not_unchanged_commented`: a comment changes a number of arguments, a target and a lookup.
-/

namespace CodeAtlas.Compilation

/-! ## Numbers of arguments -/

namespace Node

/-- The arguments of a call. -/
def argumentNodes (n : Node) : List Node :=
  ((n.child? .arguments).map fun list => list.children.filter (·.kind != .mark)).getD []

/-- The comments that stand directly in the list of arguments of a call. -/
def listedComments (n : Node) : List Node :=
  ((n.child? .arguments).map fun list => list.children.tail.flatMap commentsBefore).getD []

/-- The list of arguments of a call begins with a comment. -/
def BeginsWithComment (n : Node) : Prop :=
  ∃ list ∈ n.child? .arguments, ∃ c ∈ list.members.head?, c.kind = .comment

variable {n n' : Node} {inside : Bool}

theorem kind_of_commentsBefore {c : Node} (h : c ∈ n.commentsBefore) : c.kind = .comment := by
  rw [commentsBefore] at h
  split at h
  · obtain ⟨text, -, rfl⟩ := List.mem_map.mp h
    rfl
  · cases h

/-- The comments before a node are no marks. -/
theorem filter_commentsBefore (n : Node) :
    n.commentsBefore.filter (·.kind != .mark) = n.commentsBefore :=
  List.filter_eq_self.mpr fun c hc => by rw [kind_of_commentsBefore hc]; rfl

/-- A comment among the arguments of a call counts as one. -/
theorem argCount_eq (n : Node) : n.argCount = n.argumentNodes.length + n.listedComments.length := by
  rw [argCount, argumentNodes, listedComments]
  cases n.child? .arguments with
  | none => rfl
  | some list =>
    rw [Option.map_some, Option.map_some, Option.map_some, Option.getD_some, Option.getD_some,
      Option.getD_some, members]
    cases list.children with
    | nil => rfl
    | cons c rest =>
      have hRest : ((rest.flatMap fun d => d.commentsBefore ++ [d]).filter (·.kind != .mark)).length =
          (rest.filter (·.kind != .mark)).length + (rest.flatMap commentsBefore).length := by
        induction rest with
        | nil => rfl
        | cons d rest ih =>
          rw [List.flatMap_cons, List.flatMap_cons, List.filter_append, List.filter_append,
            filter_commentsBefore, List.filter_cons, List.filter_cons]
          simp only [List.length_append, ih]
          cases d.kind != .mark <;> simp <;> omega
      dsimp only
      rw [List.filter_cons, List.filter_cons, List.tail_cons]
      split
      · simp only [List.length_cons, hRest]
        omega
      · simp only [hRest]

/-- The arguments of two calls correspond, and where they are texts they are the same. -/
theorem Alike.argumentNodes (h : Alike inside n n') :
    List.Forall₂ (fun a a' => a.kind = a'.kind ∧ (a.kind = .text → a.text = a'.text))
      n.argumentNodes n'.argumentNodes := by
  have hList := h.child? .arguments
  rw [Node.argumentNodes, Node.argumentNodes]
  generalize n.child? .arguments = m, n'.child? .arguments = m' at hList ⊢
  cases hList with
  | none => exact .nil
  | some hm =>
    refine (filter_of_forall₂ hm.1.alike.matched fun _ _ ha => by rw [ha.alike.kind_eq]).imp
      fun a a' ha => ⟨ha.1.alike.kind_eq, fun hKind => ha.1.text ?_⟩
    simp [isVerbatim, hKind]

theorem Alike.argCount_eq_iff (h : Alike inside n n') :
    n.argCount = n'.argCount ↔ n.listedComments.length = n'.listedComments.length := by
  have hSame := h.argumentNodes.length_eq
  rw [argCount_eq, argCount_eq]
  omega

end Node

/-! ## Targets -/

/-- What two calls are made on has the same text, if it is a part of something else. -/
def SameReceiver (n n' : Node) : Prop :=
  ∀ m ∈ n.child? .receiver, ∀ m' ∈ n'.child? .receiver, m.kind = .access → m.text = m'.text

section Targets

variable {table table' : Table} {t t' : TypeRef} {n n' : Node} {inside : Bool}

theorem findType_of_bare (hTable : table.bare = table'.bare) (ht : t.bare = t'.bare) (text : String) :
    (findType table t text).map Found.bare = (findType table' t' text).map Found.bare := by
  rw [← findType_bare table, ← findType_bare table', hTable, ht]

theorem fieldType_of_bare (hTable : table.bare = table'.bare) (ht : t.bare = t'.bare)
    (name : String) : fieldType table t name = fieldType table' t' name := by
  rw [← fieldType_bare table, ← fieldType_bare table', hTable, ht]

theorem enclosingMethod_of_bare (hTable : table.bare = table'.bare) (ht : t.bare = t'.bare)
    (name : String) (k : Nat) : (enclosingMethod table t name k).map Target.bare =
      (enclosingMethod table' t' name k).map Target.bare := by
  rw [← enclosingMethod_bare table, ← enclosingMethod_bare table', hTable, ht]

theorem constructorOf_of_bare (ht : t.bare = t'.bare) (k : Nat) :
    (constructorOf t k).bare = (constructorOf t' k).bare := by
  rw [← constructorOf_bare t, ← constructorOf_bare t', ht]

/-- A method of what a name stands for. -/
theorem methodAt_of_bare (hTable : table.bare = table'.bare) {f f' : Option Found}
    (hf : f.map Found.bare = f'.map Found.bare) (name : String) (k : Nat) :
    (f.bind (methodAt table name k)).map Target.bare =
      (f'.bind (methodAt table' name k)).map Target.bare := by
  have hBare (table : Table) (f : Option Found) : (f.bind (methodAt table name k)).map Target.bare =
      (f.map Found.bare).bind fun g => (methodAt table.bare name k g).map Target.bare := by
    cases f with
    | none => rfl
    | some f => exact (methodAt_bare table name k f).symm
  rw [hBare, hBare, hf, hTable]

theorem constructorAt_of_bare {f f' : Option Found} (hf : f.map Found.bare = f'.map Found.bare)
    (k : Nat) : (f.map (constructorAt k)).map Target.bare =
      (f'.map (constructorAt k)).map Target.bare := by
  have hBare (f : Option Found) : (f.map (constructorAt k)).map Target.bare =
      (f.map Found.bare).map fun g => (constructorAt k g).bare := by
    cases f with
    | none => rfl
    | some f => exact congrArg some (constructorAt_bare k f).symm
  rw [hBare, hBare, hf]

/-- Two methods of units with other comments. -/
structure Caller.Alike (c c' : Caller) : Prop where
  source : c.source.bare = c'.source.bare
  callable : c.callable.Alike c'.callable

variable {c c' : Caller}

theorem Caller.Alike.type?_eq (h : c.Alike c') :
    c.type?.map TypeRef.bare = c'.type?.map TypeRef.bare := by
  have hBare (c : Caller) : c.type?.map TypeRef.bare =
      (c.source.bare.type? c.callable.bare.owner).map (TypeRef.mk c.source.bare) := by
    rw [type?, Source.type?_bare, Option.map_map, Option.map_map]
    rfl
  rw [hBare, hBare, h.source, h.callable.bare]

theorem nameType_of_alike (hTable : table.bare = table'.bare) (hc : c.Alike c')
    (ht : t.bare = t'.bare) (name : String) :
    (c.nameType table t name).map Found.bare = (c'.nameType table' t' name).map Found.bare := by
  have hImports : c.source.imports = c'.source.imports := by
    simpa only [Source.bare] using congrArg Source.imports hc.source
  rw [Caller.nameType, Caller.nameType, variables_eq_of_alike hc.callable.node, fieldType_of_bare hTable ht,
    hImports]
  split
  · exact findType_of_bare hTable ht _
  · split
    · exact findType_of_bare hTable ht _
    · rfl

theorem accessType_of_alike (hTable : table.bare = table'.bare) (ht : t.bare = t'.bare)
    (hn : Node.Alike inside n n') (hText : n.text = n'.text) :
    (Caller.accessType table t n).map Found.bare = (Caller.accessType table' t' n').map Found.bare := by
  have hObject := hn.child? .receiver
  have hName : n.partText .name = n'.partText .name := hn.partText_eq rfl
  have hField (f : Option String) : (f.bind (findType table t)).map Found.bare =
      (f.bind (findType table' t')).map Found.bare := by
    rw [Option.map_bind, Option.map_bind]
    exact congrArg _ (funext (findType_of_bare hTable ht))
  rw [Caller.accessType, Caller.accessType, hName, hText]
  generalize n.child? .receiver = m, n'.child? .receiver = m' at hObject ⊢
  cases hObject with
  | none => rfl
  | some hm =>
    dsimp only
    rw [hm.1.alike.kind_eq, fieldType_of_bare hTable ht]
    split
    · exact hField _
    · split
      · rw [Option.map_some, Option.map_some, ← named_bare, ← named_bare, hTable]
      · rfl

theorem receiverType_of_alike (hTable : table.bare = table'.bare) (hc : c.Alike c')
    (ht : t.bare = t'.bare) {k : Kind} (hn : Node.Matched k inside n n')
    (hText : n.kind = .access → n.text = n'.text) :
    (c.receiverType table t n).map Found.bare = (c'.receiverType table' t' n').map Found.bare := by
  rw [Caller.receiverType, Caller.receiverType, ← hn.alike.kind_eq]
  split
  · rw [hn.text (by simp [Node.isVerbatim, ‹n.kind = _›])]
    exact nameType_of_alike hTable hc ht _
  · exact accessType_of_alike hTable ht hn.alike (hText ‹_›)
  · rw [hn.alike.partText_eq rfl]
    exact findType_of_bare hTable ht _
  · rfl

theorem resolveCall_of_alike (hTable : table.bare = table'.bare) (hc : c.Alike c')
    (ht : t.bare = t'.bare) (hn : Node.Alike inside n n') (hCount : n.argCount = n'.argCount)
    (hReceiver : SameReceiver n n') :
    (c.resolveCall table t n).map Target.bare = (c'.resolveCall table' t' n').map Target.bare := by
  have hPart := hn.child? .receiver
  have hName : n.partText .name = n'.partText .name := hn.partText_eq rfl
  have hSuper : t.decl.superclass = t'.decl.superclass := by
    simpa only [TypeRef.bare, TypeDecl.bare] using congrArg (fun u => u.decl.superclass) ht
  have hText : ∀ m m', n.child? .receiver = some m → n'.child? .receiver = some m' →
      m.kind = .access → m.text = m'.text := fun m m' hm hm' => hReceiver m hm m' hm'
  rw [Caller.resolveCall, Caller.resolveCall, hName, hCount]
  generalize n.child? .receiver = m, n'.child? .receiver = m' at hPart hText ⊢
  cases hPart with
  | none => exact enclosingMethod_of_bare hTable ht _ _
  | @some m m' hm =>
    dsimp only
    rw [← hm.1.alike.kind_eq]
    split
    · exact enclosingMethod_of_bare hTable ht _ _
    · refine methodAt_of_bare hTable ?_ _ _
      rw [hSuper, Option.map_bind, Option.map_bind]
      exact congrArg _ (funext (findType_of_bare hTable ht))
    · exact methodAt_of_bare hTable
        (receiverType_of_alike hTable hc ht hm.1 (hText m m' rfl rfl)) _ _

theorem resolveConstructorCall_of_alike (hTable : table.bare = table'.bare) (ht : t.bare = t'.bare)
    (hn : Node.Alike inside n n') (hCount : n.argCount = n'.argCount) :
    (Caller.resolveConstructorCall table t n).map Target.bare =
      (Caller.resolveConstructorCall table' t' n').map Target.bare := by
  have hTarget := hn.childMap_eq (r := .target) rfl fun text => decide (text = "this")
  have hAny (m : Option Node) : m.any (·.text = "this") =
      (m.map fun m => decide (m.text = "this")).getD false := by cases m <;> rfl
  have hSuper : t.decl.superclass = t'.decl.superclass := by
    simpa only [TypeRef.bare, TypeDecl.bare] using congrArg (fun u => u.decl.superclass) ht
  rw [Caller.resolveConstructorCall, Caller.resolveConstructorCall, hAny, hAny, hTarget, hCount]
  split
  · rw [Option.map_some, Option.map_some, constructorOf_of_bare ht]
  · refine constructorAt_of_bare ?_ _
    rw [hSuper, Option.map_bind, Option.map_bind]
    exact congrArg _ (funext (findType_of_bare hTable ht))

/-- Calls with the same number of arguments refer to the same, if what they are made on has the same
text. -/
theorem resolve_of_alike (hTable : table.bare = table'.bare) (hc : c.Alike c')
    (hn : Node.Alike inside n n') (hCount : n.argCount = n'.argCount)
    (hReceiver : SameReceiver n n') :
    (c.resolve table n).map Target.bare = (c'.resolve table' n').map Target.bare := by
  have hType := hc.type?_eq
  rw [Caller.resolve, Caller.resolve]
  generalize c.type? = t, c'.type? = t' at hType ⊢
  cases t with
  | none =>
    obtain rfl : t' = none := by simpa using hType.symm
    rfl
  | some t =>
    obtain ⟨t', rfl, ht⟩ : ∃ u, t' = some u ∧ u.bare = t.bare := by simpa using hType.symm
    rw [Option.bind_some, Option.bind_some, ← hn.kind_eq]
    split
    · rw [hn.partText_eq rfl, hCount]
      exact constructorAt_of_bare (findType_of_bare hTable ht.symm _) _
    · exact resolveConstructorCall_of_alike hTable ht.symm hn hCount
    · exact resolveCall_of_alike hTable hc ht.symm hn hCount hReceiver

/-- The calls of two methods correspond. -/
theorem alike_calls {m m' : Callable} (h : m.Alike m') :
    List.Forall₂ (Node.Alike true) m.calls m'.calls := by
  have hBody := h.node.child? .body
  rw [Callable.calls, Callable.calls]
  generalize m.node.child? .body = b, m'.node.child? .body = b' at hBody ⊢
  cases hBody with
  | none => exact .nil
  | some hb =>
    refine (filter_of_forall₂ (Node.Alike.walk _ hb.1.alike) fun x y hxy => ?_).imp fun _ _ hx => hx.1
    rw [Node.isCall, Node.isCall, hxy.kind_eq]

end Targets

/-! ## Lookups -/

section Lookups

variable {n n' : Node} {inside : Bool}

/-- The first part of a list of arguments is the first argument, unless it is a comment. -/
theorem head?_members (list : Node) (hNot : ∀ c ∈ list.members.head?, c.kind ≠ .comment) :
    list.members.head? = (list.children.filter (·.kind != .mark)).head? := by
  rw [Node.members] at hNot ⊢
  generalize list.children = parts at hNot ⊢
  cases parts with
  | nil => rfl
  | cons c rest =>
    dsimp only at hNot ⊢
    rw [List.filter_cons] at hNot
    rw [List.filter_cons, List.filter_cons]
    split
    · rfl
    · rw [if_neg ‹_›] at hNot
      induction rest with
      | nil => rfl
      | cons d rest ih =>
        rw [List.flatMap_cons, List.filter_append, List.filter_append, Node.filter_commentsBefore]
          at hNot ⊢
        cases hBefore : d.commentsBefore with
        | cons c' cs =>
          -- a comment before the first argument is the first part
          have hKind := Node.kind_of_commentsBefore (hBefore ▸ List.mem_cons_self)
          rw [hBefore] at hNot
          exact absurd hKind (hNot c' rfl)
        | nil =>
          rw [hBefore, List.nil_append, List.filter_cons] at hNot
          rw [List.nil_append, List.filter_cons, List.filter_cons]
          split
          · rfl
          · rw [if_neg ‹_›] at hNot
            exact ih hNot

/-- Neither list of arguments begins with a comment, and either both or none of two calls are made on
the type that holds the environment. -/
structure SameKey (n n' : Node) : Prop where
  left : ¬ n.BeginsWithComment
  right : ¬ n'.BeginsWithComment
  receiver : systemNames.contains (n.partText .receiver) = systemNames.contains (n'.partText .receiver)

/-- What the first part of a list of arguments names. -/
def keyOf (key : Node) : Option String := if key.kind = .text then filledText key.text else none

theorem lookedUp_eq (n : Node) : n.lookedUp =
    if n.kind = .call && systemNames.contains (n.partText .receiver) &&
        n.partText .name = "getenv" then
      ((n.child? .arguments).bind (·.members.head?)).bind keyOf
    else none := by
  rw [Node.lookedUp]
  cases n.child? .arguments with
  | none => rfl
  | some list =>
    rw [Option.map_some, Option.getD_some, Option.bind_some]
    cases list.members <;> rfl

/-- Nothing is found behind a comment at the beginning of a list of arguments. -/
theorem lookedUp_of_begins (h : n.BeginsWithComment) : n.lookedUp = none := by
  obtain ⟨list, hList, c, hc, hKind⟩ := h
  have hKey : keyOf c = none := by
    rw [keyOf, hKind]
    rfl
  rw [lookedUp_eq, hList, Option.bind_some, hc, Option.bind_some, hKey, ite_self]

theorem firstPart_eq (h : ¬ n.BeginsWithComment) :
    (n.child? .arguments).bind (·.members.head?) = n.argumentNodes.head? := by
  rw [Node.argumentNodes]
  cases hList : n.child? .arguments with
  | none => rfl
  | some list =>
    rw [Option.bind_some, Option.map_some, Option.getD_some]
    exact head?_members list fun c hc hKind => h ⟨list, hList, c, hc, hKind⟩

/-- What is looked up is the same otherwise. -/
theorem lookedUp_of_alike (h : Node.Alike inside n n') (hSame : SameKey n n') :
    n.lookedUp = n'.lookedUp := by
  have hName : n.partText .name = n'.partText .name := h.partText_eq rfl
  have hKey : n.argumentNodes.head?.bind keyOf = n'.argumentNodes.head?.bind keyOf := by
    have hAll := h.argumentNodes
    generalize n.argumentNodes = as, n'.argumentNodes = as' at hAll ⊢
    cases hAll with
    | nil => rfl
    | @cons a a' _ _ ha =>
      rw [List.head?_cons, List.head?_cons, Option.bind_some, Option.bind_some, keyOf, keyOf, ← ha.1]
      split
      · rw [ha.2 ‹_›]
      · rfl
  rw [lookedUp_eq, lookedUp_eq, firstPart_eq hSame.left, firstPart_eq hSame.right, hKey, h.kind_eq,
    hSame.receiver, hName]

end Lookups

/-! ## Units -/

/-- Two units read from trees that differ in nothing but comments in lists of arguments. -/
inductive Source.Alike : Source → Source → Prop
  | of (number : Nat) (path : String) {tree tree' : Node} (h : Node.Alike false tree tree')
      (hKind : tree.kind ≠ .arguments) :
      Alike (sourceOf number path tree) (sourceOf number path tree')

/-- A relation holds of all calls that correspond in some units. -/
def OnCalls (r : Caller → Caller → Node → Node → Prop) : List Source → List Source → Prop :=
  List.Forall₂ fun s s' => List.Forall₂
    (fun m m' => List.Forall₂ (r ⟨s, m⟩ ⟨s', m'⟩) m.calls m'.calls) s.declarations s'.declarations

/-- A relation holds of all nodes that correspond in some units. -/
def OnNodes (r : Node → Node → Prop) : List Source → List Source → Prop :=
  List.Forall₂ fun s s' => List.Forall₂ r s.tree.walk s'.tree.walk

/-- Neither the numbers of arguments, nor the targets of calls, nor what is looked up in the environment
is different. -/
structure Unchanged (sources sources' : List Source) : Prop where
  calls : OnCalls (fun c c' n n' => n.argCount = n'.argCount ∧
    (c.resolve (Table.ofSources sources) n).map Target.bare =
      (c'.resolve (Table.ofSources sources') n').map Target.bare) sources sources'
  lookups : sources.map (·.envLookups) = sources'.map (·.envLookups)

/-- What comments in lists of arguments change about a call. -/
structure CallKept (table table' : Table) (c c' : Caller) (n n' : Node) : Prop where
  /-- Each comment that stands directly in a list of arguments counts as an argument. -/
  left : n.argCount = n.argumentNodes.length + n.listedComments.length
  right : n'.argCount = n.argumentNodes.length + n'.listedComments.length
  /-- With the same number of arguments the target is the same, unless there are comments in the text of
  what the call is made on. -/
  target : n.argCount = n'.argCount → SameReceiver n n' →
    (c.resolve table n).map Target.bare = (c'.resolve table' n').map Target.bare

/-- What comments in lists of arguments change about a lookup. -/
structure LookupKept (n n' : Node) : Prop where
  /-- Nothing is found behind a comment at the beginning of the list of arguments. -/
  missed : n'.BeginsWithComment → n'.lookedUp = none
  same : SameKey n n' → n.lookedUp = n'.lookedUp

/-- What comments in lists of arguments change. -/
structure CommentsPassed (sources sources' : List Source) : Prop where
  /-- The same is declared, at other places. -/
  declared : sources.map Source.bare = sources'.map Source.bare
  calls : OnCalls (CallKept (Table.ofSources sources) (Table.ofSources sources')) sources sources'
  lookups : OnNodes LookupKept sources sources'
  /-- Nothing changes if no comment stands directly in a list of arguments, or in the text of what a call
  is made on. -/
  unchanged : OnCalls (fun _ _ n n' => n.listedComments.length = n'.listedComments.length ∧
    SameReceiver n n') sources sources' → OnNodes SameKey sources sources' → Unchanged sources sources'

theorem Source.Alike.bare_eq {s s' : Source} (h : s.Alike s') : s.bare = s'.bare := by
  cases h with
  | of number path h hKind => exact (alike_sourceOf number path h hKind).1

theorem Source.Alike.declarations {s s' : Source} (h : s.Alike s') :
    List.Forall₂ Callable.Alike s.declarations s'.declarations := by
  cases h with
  | of number path h hKind => exact (alike_sourceOf number path h hKind).2

theorem Source.Alike.walk {s s' : Source} (h : s.Alike s') :
    List.Forall₂ (Node.Alike true) s.tree.walk s'.tree.walk := by
  cases h with
  | of _ _ h _ => exact Node.Alike.walk _ h

section Units

variable {sources sources' : List Source}

theorem ofSources_of_alike (h : List.Forall₂ Source.Alike sources sources') :
    (Table.ofSources sources).bare = (Table.ofSources sources').bare := by
  rw [← Table.ofSources_bare, ← Table.ofSources_bare, map_eq_of_forall₂ h fun _ _ hs => hs.bare_eq]

/-- What holds of calls of alike methods holds of all calls that correspond. -/
theorem onCalls_of_alike (h : List.Forall₂ Source.Alike sources sources')
    {r : Caller → Caller → Node → Node → Prop}
    (hCall : ∀ c c' n n', c.Alike c' → Node.Alike true n n' → r c c' n n') :
    OnCalls r sources sources' :=
  h.imp fun s s' hs => hs.declarations.imp fun m m' hm => (alike_calls hm).imp fun n n' hn =>
    hCall ⟨s, m⟩ ⟨s', m'⟩ n n' ⟨hs.bare_eq, hm⟩ hn

theorem OnCalls.mp {p q r : Caller → Caller → Node → Node → Prop} (hp : OnCalls p sources sources')
    (hq : OnCalls q sources sources') (h : ∀ c c' n n', p c c' n n' → q c c' n n' → r c c' n n') :
    OnCalls r sources sources' :=
  List.Forall₂.mp (fun s s' => List.Forall₂.mp fun m m' => List.Forall₂.mp fun n n' =>
    h ⟨s, m⟩ ⟨s', m'⟩ n n') hp hq

/-- **Comments in lists of arguments.** Those that stand directly in a list count as arguments, and hide
the name of a lookup behind them. Others change nothing. -/
theorem commentsPassed (h : List.Forall₂ Source.Alike sources sources') :
    CommentsPassed sources sources' := by
  have hTable := ofSources_of_alike h
  have hCalls : OnCalls (CallKept (Table.ofSources sources) (Table.ofSources sources'))
      sources sources' := by
    refine onCalls_of_alike h fun c c' n n' hc hn => ⟨n.argCount_eq, ?_, resolve_of_alike hTable hc hn⟩
    rw [n'.argCount_eq, hn.argumentNodes.length_eq]
  have hLookups : OnNodes LookupKept sources sources' := h.imp fun _ _ hs => hs.walk.imp
    fun _ _ hn => ⟨lookedUp_of_begins, lookedUp_of_alike hn⟩
  refine ⟨map_eq_of_forall₂ h fun _ _ hs => hs.bare_eq, hCalls, hLookups, fun hClean hKeys => ⟨?_, ?_⟩⟩
  · refine hCalls.mp hClean fun c c' n n' hKept ⟨hComments, hReceiver⟩ => ?_
    have hCount : n.argCount = n'.argCount := by rw [hKept.left, hKept.right, hComments]
    exact ⟨hCount, hKept.target hCount hReceiver⟩
  · refine map_eq_of_forall₂ (List.Forall₂.mp (fun _ _ => List.Forall₂.mp fun _ _ => ?_)
      hLookups hKeys) fun s s' hSame => filterMap_eq_of_forall₂ hSame fun n n' hn => hn
    exact LookupKept.same

/-! ### A comment behind an argument and one before it -/

/-- Two calls, the first with something behind its argument and the second with something before it. -/
def unitsWith (behind before : String) : List Source := readUnits [("A.java",
  "class A \x7b void m(int x) \x7b\x7d void m(int x, int y) \x7b\x7d void f() \x7b m(1" ++ behind ++
  "); System.getenv(" ++ before ++ "\"K\"); \x7d \x7d")]

def plainUnits : List Source := unitsWith "" ""

def commentedUnits : List Source := unitsWith " /* one */" "/* the */ "

theorem alike_commented : List.Forall₂ Source.Alike plainUnits commentedUnits :=
  .cons (.of 0 "A.java" (by decide +kernel) (by decide +kernel)) .nil

theorem commentsPassed_commented : List.Forall₂ Source.Alike plainUnits commentedUnits ∧
    CommentsPassed plainUnits commentedUnits :=
  ⟨alike_commented, commentsPassed alike_commented⟩

/-- Something about all calls of some units. -/
def valuesOnCalls {α : Type} (f : Caller → Node → α) (sources : List Source) : List (List (List α)) :=
  sources.map fun s => s.declarations.map fun m => m.calls.map (f ⟨s, m⟩)

theorem OnCalls.values_eq {α : Type} {f g : Caller → Node → α}
    (h : OnCalls (fun c c' n n' => f c n = g c' n') sources sources') :
    valuesOnCalls f sources = valuesOnCalls g sources' :=
  map_eq_of_forall₂ h fun _ _ hs => map_eq_of_forall₂ hs fun _ _ hm => map_eq_of_forall₂ hm fun _ _ hn => hn

/-- How many parameters the target of a call has. -/
def targetArity (sources : List Source) (c : Caller) (n : Node) : Option Int :=
  (c.resolve (Table.ofSources sources) n).map (·.arity)

/-- With the comments the first call has two arguments instead of one and refers to the other overload,
and the second call looks nothing up. -/
theorem not_unchanged_commented : List.Forall₂ Source.Alike plainUnits commentedUnits ∧
    ¬ OnCalls (fun _ _ n n' => n.argCount = n'.argCount) plainUnits commentedUnits ∧
    ¬ OnCalls (fun c c' n n' => (c.resolve (Table.ofSources plainUnits) n).map Target.bare =
      (c'.resolve (Table.ofSources commentedUnits) n').map Target.bare) plainUnits commentedUnits ∧
    plainUnits.map (·.envLookups) ≠ commentedUnits.map (·.envLookups) ∧
    ¬ Unchanged plainUnits commentedUnits := by
  have hDiffer : valuesOnCalls (fun _ n => n.argCount) plainUnits ≠
        valuesOnCalls (fun _ n => n.argCount) commentedUnits ∧
      valuesOnCalls (targetArity plainUnits) plainUnits ≠
        valuesOnCalls (targetArity commentedUnits) commentedUnits ∧
      plainUnits.map (·.envLookups) ≠ commentedUnits.map (·.envLookups) := by
    decide +kernel
  obtain ⟨hCount, hArity, hLookups⟩ := hDiffer
  refine ⟨alike_commented, fun h => hCount h.values_eq, fun h => hArity (OnCalls.values_eq ?_), hLookups,
    fun h => hLookups h.lookups⟩
  refine h.mp h fun c c' n n' hSame _ => ?_
  have hArity := congrArg (Option.map fun m : Target => m.arity) hSame
  rwa [Option.map_map, Option.map_map] at hArity

end Units

end CodeAtlas.Compilation
