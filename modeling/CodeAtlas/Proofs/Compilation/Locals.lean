import CodeAtlas.Proofs.Compilation.Fields
import CodeAtlas.Proofs.Compilation.Scopes

/-!
# Receivers that are variables

A method has one table of variables for all of its blocks, in which the first declaration of a name
counts. It gives a receiver the type of the variable that is in scope if all declarations of the name in
the method agree.

* `receiver_typedByFirst`: how a receiver is typed that is a name.
* `not_typedByScope`: a variable of another block may take the place of the one in scope, and of a field.
-/

namespace CodeAtlas.Compilation

/-! ## The table of variables -/

namespace Binding

/-- The type that the table of a method takes from a declaration. -/
def read (b : Binding) : Option String :=
  match b.form, b.written with
  | .variable, _ => b.type
  | .parameter, [written] | .forEach, [written] | .resource, [written] => some (baseType written)
  | _, _ => none

/-- A declaration of a local variable or of a parameter without a type, or one with a written type. -/
def isPlain (b : Binding) : Bool :=
  match b.form, b.written with
  | .variable, _ | .bare, [] => true
  | .parameter, [written] | .forEach, [written] | .resource, [written] =>
    baseType written != "var" && baseType written != ""
  | _, _ => false

theorem type_of_written {b : Binding} {written : String} (hOne : b.written = [written])
    (hVar : baseType written ≠ "var") (hSome : baseType written ≠ "") :
    b.type = some (baseType written) := by
  rw [type, hOne]
  dsimp only
  rw [if_neg hVar, Option.filter_some, if_pos (bne_iff_ne.mpr hSome)]

theorem read_of_isPlain {b : Binding} (h : b.isPlain = true) : b.read = b.type := by
  have hWritten {written : String}
      (hForm : b.form = .parameter ∨ b.form = .forEach ∨ b.form = .resource)
      (hOne : b.written = [written])
      (hPlain : (baseType written != "var" && baseType written != "") = true) :
      b.read = b.type := by
    obtain ⟨hVar, hSome⟩ := Bool.and_eq_true_iff.mp hPlain
    rw [type_of_written hOne (bne_iff_ne.mp hVar) (bne_iff_ne.mp hSome)]
    unfold read
    rcases hForm with hForm | hForm | hForm <;> rw [hForm, hOne]
  unfold isPlain at h
  split at h
  · rename_i hForm
    unfold read
    rw [hForm]
  · rename_i hForm hNone
    unfold read type
    rw [hForm, hNone]
  · rename_i hForm hOne
    exact hWritten (.inl hForm) hOne h
  · rename_i hForm hOne
    exact hWritten (.inr (.inl hForm)) hOne h
  · rename_i hForm hOne
    exact hWritten (.inr (.inr hForm)) hOne h
  · cases h

/-- The entry of the table for a declaration. -/
def entry (b : Binding) : Option (String × String) := b.read.map (b.name, ·)

end Binding

namespace Node

theorem entry_of_fieldsIn {n : Node} {b : Binding} (h : b ∈ n.fieldsIn) : b.entry = none := by
  rw [fieldsIn] at h
  split at h
  · obtain ⟨d, -, rfl⟩ := List.mem_map.mp h
    rfl
  · cases h

theorem entry_of_namesBefore {ns : List Node} {b : Binding} (h : b ∈ namesBefore ns) :
    b.entry = none := by
  unfold namesBefore at h
  split at h
  · split at h
    · obtain ⟨n, -, rfl⟩ := List.mem_map.mp h
      rfl
    · cases h
  · cases h

theorem entry_of_allCaught {ns : List Node} {b : Binding} (h : b ∈ allCaught ns) :
    b.entry = none := by
  induction ns with
  | nil => cases h
  | cons n ns ih =>
    rcases List.mem_append.mp h with h | h
    · split at h
      · rw [caught] at h
        split at h
        · dsimp only at h
          split at h
          · rw [List.mem_singleton.mp h]
            rfl
          · cases h
        · cases h
      · cases h
    · exact ih h

theorem entries_variableIn (n : Node) {form : Form}
    (h : form = .parameter ∨ form = .forEach ∨ form = .resource) :
    (n.variableIn form).filterMap Binding.entry =
      match n.child? .type with
      | some type => [(n.partText .name, baseType type.text)]
      | none => [] := by
  rw [variableIn]
  cases n.child? .type with
  | none => rfl
  | some type => rcases h with rfl | rfl | rfl <;> rfl

theorem entry_variable (name written : String) (made : Option String) :
    Binding.entry ⟨.variable, name, [written], made⟩ =
      ((if baseType written = "var" then made else some (baseType written)).filter (· != "")).map
        (name, ·) := rfl

theorem entries_variablesOf (type : Node) (ds : List Node) :
    (variablesOf (some type) ds).filterMap Binding.entry = ds.filterMap fun d =>
      ((if baseType type.text = "var" then madeType d else some (baseType type.text)).filter
        (· != "")).map (d.partText .name, ·) := by
  rw [variablesOf, List.filterMap_map]
  refine List.filterMap_congr fun d _ => ?_
  rw [Function.comp_apply, entry_variable]

/-- The table takes from every node what the node declares with a type of its own. -/
theorem entries_bindings (n : Node) : n.bindings.filterMap Binding.entry = declaredVariables n := by
  have hDefault : (namesBefore n.children ++ allCaught n.children ++ n.fieldsIn).filterMap
      Binding.entry = [] := by
    refine List.filterMap_eq_nil_iff.mpr fun b hb => ?_
    rcases List.mem_append.mp hb with hb | hb
    · rcases List.mem_append.mp hb with hb | hb
      · exact entry_of_namesBefore hb
      · exact entry_of_allCaught hb
    · exact entry_of_fieldsIn hb
  unfold bindings declaredVariables
  cases hKind : n.kind with
  | «variables» =>
    cases n.child? .type with
    | none => rfl
    | some type => exact entries_variablesOf type _
  | parameter => rw [entries_variableIn n (.inl rfl)]; cases n.child? .type <;> rfl
  | forEach => rw [entries_variableIn n (.inr (.inl rfl))]; cases n.child? .type <;> rfl
  | resource => rw [entries_variableIn n (.inr (.inr rfl))]; cases n.child? .type <;> rfl
  | variadic =>
    refine List.filterMap_eq_nil_iff.mpr fun b hb => ?_
    obtain ⟨d, -, rfl⟩ := List.mem_map.mp hb
    rfl
  | _ => exact hDefault

end Node

/-- The table has the declarations of a method in the order of the text. -/
theorem variables_eq (c : Callable) : c.variables = c.node.declared.filterMap Binding.entry := by
  rw [Callable.variables, Node.declared, List.filterMap_flatMap]
  exact congrArg (List.flatMap · _) (funext fun n => (Node.entries_bindings n).symm)

theorem lookup_entries (bs : List Binding) (name : String) :
    (bs.filterMap Binding.entry).lookup name =
      (bs.filter (·.name = name)).findSome? Binding.read := by
  induction bs with
  | nil => rfl
  | cons b bs ih =>
    rw [List.filterMap_cons, List.filter_cons, Binding.entry]
    cases hRead : b.read with
    | none =>
      rw [Option.map_none, ih]
      split
      · rw [List.findSome?_cons, hRead]
      · rfl
    | some type =>
      rw [Option.map_some]
      dsimp only
      rw [List.lookup_cons]
      by_cases hName : b.name = name
      · rw [if_pos (decide_eq_true hName), List.findSome?_cons, hRead, hName, beq_self_eq_true]
      · have hOther : (name == b.name) = false := beq_eq_false_iff_ne.mpr (Ne.symm hName)
        rw [if_neg (by simpa using hName), hOther, ih]

/-! ## Receivers -/

/-- The declarations of a name in a method, in the order of the text. -/
def Callable.declarationsOf (c : Callable) (name : String) : List Binding :=
  c.node.declared.filter (·.name = name)

/-- All declarations of a name are of local variables or of parameters without a type, or of other
variables with a written type. -/
def Callable.PlainName (c : Callable) (name : String) : Prop :=
  ∀ b ∈ c.declarationsOf name, b.isPlain = true

variable {table : Table} {c : Caller} {t : TypeRef} {receiver n : Node} {scope : List Binding}

theorem lookup_variables {c : Callable} {name : String} (hPlain : c.PlainName name) :
    c.variables.lookup name = (c.declarationsOf name).findSome? Binding.type := by
  have hRead : ∀ bs : List Binding, (∀ b ∈ bs, b.isPlain = true) →
      bs.findSome? Binding.read = bs.findSome? Binding.type := by
    intro bs hAll
    induction bs with
    | nil => rfl
    | cons b bs ih =>
      obtain ⟨hFirst, hRest⟩ := List.forall_mem_cons.mp hAll
      rw [List.findSome?_cons, List.findSome?_cons, Binding.read_of_isPlain hFirst, ih hRest]
  rw [variables_eq, lookup_entries]
  exact hRead _ hPlain

/-- The declaration of a name that is in scope. -/
def inScope (scope : List Binding) (name : String) : Option Binding := scope.find? (·.name = name)

/-- The receiver has the type that its name is declared with in scope; if no variable is, that of the
field. -/
structure TypedByScope (table : Table) (c : Caller) (t : TypeRef) (receiver : Node)
    (scope : List Binding) : Prop where
  ofVariable : ∀ b, inScope scope receiver.text = some b → b.form ≠ .field →
    c.receiverType table t receiver = b.type.bind (findType table t)
  ofField : inScope scope receiver.text = none → ∀ text, fieldType table t receiver.text = some text →
    c.receiverType table t receiver = findType table t text

/-- How a receiver is typed that is a name. -/
structure TypedByFirst (table : Table) (c : Caller) (t : TypeRef) (receiver : Node)
    (scope : List Binding) : Prop where
  /-- The declaration that is in scope stands in the method. -/
  declared : ∀ b, inScope scope receiver.text = some b →
    b ∈ c.callable.declarationsOf receiver.text
  /-- The first declaration of the name in the method that has a type gives it to the receiver. -/
  first : ∀ text, (c.callable.declarationsOf receiver.text).findSome? Binding.type = some text →
    c.receiverType table t receiver = findType table t text
  /-- That is the type of the variable in scope if all declarations of the name that have a type have the
  same. -/
  alike : ∀ b text, inScope scope receiver.text = some b → b.type = some text →
    (∀ b' ∈ c.callable.declarationsOf receiver.text, ∀ text', b'.type = some text' → text' = text) →
    c.receiverType table t receiver = findType table t text
  /-- If no declaration of the name has a type, then the receiver has that of the field, -/
  field : (∀ b ∈ c.callable.declarationsOf receiver.text, b.type = none) →
    ∀ text, fieldType table t receiver.text = some text →
      c.receiverType table t receiver = findType table t text
  /-- and none if there is no field and no type of the name. -/
  untyped : (∀ b ∈ c.callable.declarationsOf receiver.text, b.type = none) →
    fieldType table t receiver.text = none → Text.startsUpper receiver.text = false →
    Assoc.hasKey receiver.text c.source.imports = false → c.receiverType table t receiver = none
  /-- Hence the receiver is typed by what is in scope if one declaration of the name is and all of them
  have the same type, or if there are none. -/
  ofScope : ((∃ text, ∀ b ∈ c.callable.declarationsOf receiver.text, b.type = some text) ∧
      (inScope scope receiver.text).isSome = true) ∨
    c.callable.declarationsOf receiver.text = [] → TypedByScope table c t receiver scope

theorem receiverType_of_first {text : String} (hName : receiver.kind = .name)
    (hFirst : c.callable.variables.lookup receiver.text = some text) :
    c.receiverType table t receiver = findType table t text := by
  rw [Caller.receiverType, hName]
  dsimp only
  rw [Caller.nameType, hFirst, Option.some_or]

theorem receiverType_of_field {text : String} (hName : receiver.kind = .name)
    (hNone : c.callable.variables.lookup receiver.text = none)
    (hField : fieldType table t receiver.text = some text) :
    c.receiverType table t receiver = findType table t text := by
  rw [Caller.receiverType, hName]
  dsimp only
  rw [Caller.nameType, hNone, Option.none_or, hField]

theorem receiverType_of_none (hName : receiver.kind = .name)
    (hNone : c.callable.variables.lookup receiver.text = none)
    (hField : fieldType table t receiver.text = none)
    (hUpper : Text.startsUpper receiver.text = false)
    (hImport : Assoc.hasKey receiver.text c.source.imports = false) :
    c.receiverType table t receiver = none := by
  rw [Caller.receiverType, hName]
  dsimp only
  rw [Caller.nameType, hNone, Option.none_or, hField, hUpper, hImport]
  rfl

theorem typedByFirst (table : Table) (t : TypeRef) (hName : receiver.kind = .name)
    (hPlain : c.callable.PlainName receiver.text)
    (hScope : (receiver, scope) ∈ c.callable.node.scopes []) :
    TypedByFirst table c t receiver scope := by
  have hDeclared : ∀ b, inScope scope receiver.text = some b →
      b ∈ c.callable.declarationsOf receiver.text := by
    intro b hb
    have hMem := List.mem_of_find?_eq_some hb
    have hSame := List.find?_some (p := fun b : Binding => decide (b.name = receiver.text)) hb
    refine List.mem_filter.mpr ⟨?_, hSame⟩
    exact (Node.mem_declared_of_scopes hScope hMem).resolve_left List.not_mem_nil
  have hFirst : ∀ text, (c.callable.declarationsOf receiver.text).findSome? Binding.type = some text →
      c.receiverType table t receiver = findType table t text := fun text hText =>
    receiverType_of_first hName ((lookup_variables hPlain).trans hText)
  have hNone : (∀ b ∈ c.callable.declarationsOf receiver.text, b.type = none) →
      c.callable.variables.lookup receiver.text = none := fun h =>
    (lookup_variables hPlain).trans (List.findSome?_eq_none_iff.mpr h)
  have hAlike : ∀ b text, b ∈ c.callable.declarationsOf receiver.text → b.type = some text →
      (∀ b' ∈ c.callable.declarationsOf receiver.text, ∀ text', b'.type = some text' →
        text' = text) → c.receiverType table t receiver = findType table t text := by
    intro b text hb hType hAll
    have hSome : ((c.callable.declarationsOf receiver.text).findSome? Binding.type).isSome = true :=
      List.findSome?_isSome_iff.mpr ⟨b, hb, by rw [hType]; rfl⟩
    obtain ⟨text', hText'⟩ := Option.isSome_iff_exists.mp hSome
    obtain ⟨b', hb', hType'⟩ := List.exists_of_findSome?_eq_some hText'
    rw [hFirst text' hText', hAll b' hb' text' hType']
  have hField : (∀ b ∈ c.callable.declarationsOf receiver.text, b.type = none) →
      ∀ text, fieldType table t receiver.text = some text →
        c.receiverType table t receiver = findType table t text := fun h text hText =>
    receiverType_of_field hName (hNone h) hText
  refine ⟨hDeclared, hFirst, fun b text hb => hAlike b text (hDeclared b hb), hField,
    fun h => receiverType_of_none hName (hNone h), ?_⟩
  · rintro (⟨⟨text, hAll⟩, hIn⟩ | hEmpty)
    · refine ⟨fun b hb _ => ?_, fun hOut => by rw [hOut] at hIn; cases hIn⟩
      have hType := hAll b (hDeclared b hb)
      rw [hType, Option.bind_some]
      refine hAlike b text (hDeclared b hb) hType fun b' hb' text' hType' => ?_
      exact Option.some.inj (hType'.symm.trans (hAll b' hb'))
    · refine ⟨fun b hb _ => ?_, fun _ => hField fun b hb => ?_⟩
      · rw [hEmpty] at hDeclared
        exact absurd (hDeclared b hb) List.not_mem_nil
      · rw [hEmpty] at hb
        cases hb

/-- **Variables as receivers.** The first declaration of a name in a method that has a type counts for
all receivers with the name. -/
theorem receiver_typedByFirst (table : Table) (t : TypeRef) (hCall : n ∈ c.callable.calls)
    (hReceiver : n.child? .receiver = some receiver) (hName : receiver.kind = .name)
    (hPlain : c.callable.PlainName receiver.text) :
    (∃ scope, (receiver, scope) ∈ c.callable.node.scopes []) ∧
      ∀ scope, (receiver, scope) ∈ c.callable.node.scopes [] →
        TypedByFirst table c t receiver scope := by
  refine ⟨?_, fun scope => typedByFirst table t hName hPlain⟩
  obtain ⟨body, hBody, hCalls⟩ : ∃ body, c.callable.node.child? .body = some body ∧
      n ∈ body.walk.filter Node.isCall := by
    rw [Callable.calls] at hCall
    cases hBody : c.callable.node.child? .body with
    | none => rw [hBody] at hCall; cases hCall
    | some body => exact ⟨body, rfl, by rwa [hBody] at hCall⟩
  have hNode : n ∈ c.callable.node.walk :=
    Node.walk_subset (List.mem_of_find?_eq_some hBody) (List.mem_filter.mp hCalls).1
  exact Node.exists_scope
    (Node.mem_walk_of_child hNode (List.mem_of_find?_eq_some hReceiver)) []

/-! ### A variable of another block -/

/-- A class with a field, and two methods that have a variable with its name in a block. -/
def scopedUnits : List Source := readUnits [("T.java",
  "class A { void m() {} } class B { void m() {} }
class T {
  B x;
  void f() { { A x = new A(); x.m(); } x.m(); }
  void g() { { A x = new A(); x.m(); } { B x = new B(); x.m(); } }
}")]

theorem exists_mistyped (inner : Option Binding)
    (hInner : inner = none ∨ inner = some ⟨.variable, "x", ["B"], some "B"⟩) :
    ∃ c t n receiver scope, c.type? = some t ∧ n ∈ c.callable.calls ∧
      n.child? .receiver = some receiver ∧ receiver.kind = .name ∧
      c.callable.PlainName receiver.text ∧ (receiver, scope) ∈ c.callable.node.scopes [] ∧
      inScope scope receiver.text = inner ∧
      ¬ TypedByScope (Table.ofSources scopedUnits) c t receiver scope := by
  have hFound : ∃ s ∈ scopedUnits, ∃ m ∈ s.declarations, ∃ t ∈ (Caller.mk s m).type?,
      ∃ n ∈ m.calls, ∃ receiver ∈ n.child? .receiver, ∃ e ∈ m.node.scopes [],
      (e.1 = receiver ∧ receiver.kind = .name ∧ inScope e.2 receiver.text = inner) ∧
      (∀ b ∈ m.declarationsOf receiver.text, b.isPlain = true) ∧
      fieldType (Table.ofSources scopedUnits) t receiver.text = some "B" ∧
      declaredName ((Caller.mk s m).receiverType (Table.ofSources scopedUnits) t receiver) =
        some "A" ∧
      declaredName (findType (Table.ofSources scopedUnits) t "B") = some "B" := by
    rcases hInner with rfl | rfl <;> decide +kernel
  obtain ⟨s, -, m, -, t, ht, n, hn, receiver, hReceiver, ⟨node, scope⟩, hScope,
    ⟨hNode, hName, hIn⟩, hPlain, hField, hTyped, hDeclared⟩ := hFound
  obtain rfl : node = receiver := hNode
  refine ⟨⟨s, m⟩, t, n, node, scope, ht, hn, hReceiver, hName, hPlain, hScope, hIn,
    fun hTypedByScope => ?_⟩
  have hSame : (Caller.mk s m).receiverType (Table.ofSources scopedUnits) t node =
      findType (Table.ofSources scopedUnits) t "B" := by
    rcases hInner with rfl | rfl
    · exact hTypedByScope.ofField hIn "B" hField
    · exact hTypedByScope.ofVariable _ hIn (by decide)
  rw [hSame, hDeclared] at hTyped
  exact absurd hTyped (by decide)

theorem receiver_typedByFirst_scopedUnits : ∃ c t n receiver, c.type? = some t ∧
    n ∈ c.callable.calls ∧ n.child? .receiver = some receiver ∧ receiver.kind = .name ∧
    c.callable.PlainName receiver.text ∧
    ∀ scope, (receiver, scope) ∈ c.callable.node.scopes [] →
      TypedByFirst (Table.ofSources scopedUnits) c t receiver scope := by
  obtain ⟨c, t, n, receiver, -, ht, hCall, hReceiver, hName, hPlain, -⟩ :=
    exists_mistyped none (.inl rfl)
  exact ⟨c, t, n, receiver, ht, hCall, hReceiver, hName, hPlain,
    (receiver_typedByFirst (Table.ofSources scopedUnits) t hCall hReceiver hName hPlain).2⟩

/-- A variable of another block comes before the one that is in scope, and before a field if none is. -/
theorem not_typedByScope :
    (∃ c t n receiver scope b, c.type? = some t ∧ n ∈ c.callable.calls ∧
      n.child? .receiver = some receiver ∧ receiver.kind = .name ∧
      (receiver, scope) ∈ c.callable.node.scopes [] ∧ inScope scope receiver.text = some b ∧
      b.form = .variable ∧ ¬ TypedByScope (Table.ofSources scopedUnits) c t receiver scope) ∧
    ∃ c t n receiver scope, c.type? = some t ∧ n ∈ c.callable.calls ∧
      n.child? .receiver = some receiver ∧ receiver.kind = .name ∧
      (receiver, scope) ∈ c.callable.node.scopes [] ∧ inScope scope receiver.text = none ∧
      ¬ TypedByScope (Table.ofSources scopedUnits) c t receiver scope := by
  constructor
  · obtain ⟨c, t, n, receiver, scope, ht, hCall, hReceiver, hName, -, hScope, hIn, hNot⟩ :=
      exists_mistyped _ (.inr rfl)
    exact ⟨c, t, n, receiver, scope, _, ht, hCall, hReceiver, hName, hScope, hIn, rfl, hNot⟩
  · obtain ⟨c, t, n, receiver, scope, ht, hCall, hReceiver, hName, -, hScope, hIn, hNot⟩ :=
      exists_mistyped none (.inl rfl)
    exact ⟨c, t, n, receiver, scope, ht, hCall, hReceiver, hName, hScope, hIn, hNot⟩

end CodeAtlas.Compilation
