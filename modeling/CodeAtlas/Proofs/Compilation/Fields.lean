import CodeAtlas.Proofs.Compilation.Hierarchy

/-!
# Receivers that are fields

A method that is called on a field is looked up in the type that the field is declared with. The text of
that type is taken from the type that has the field, but it is looked up from the type around the call.

* `fieldReceiver`: how a receiver is typed that is a field, and when this is the type that the text has
  where the field is declared.
* `not_typedAtHome_inherited`: it is not for a field that is inherited from another package.
-/

namespace CodeAtlas.Compilation

variable {table : Table} {sources : List Source} {t u : TypeRef} {name text field : String}

/-! ## Where the name of a type is looked up -/

/-- What a name stands for in the types around a place and in its unit. -/
def nearby (t : TypeRef) (name : String) : Option TypeRef :=
  (scopedType t name).or ((t.source.types.lookup name).bind t.sibling?)

/-- What a name stands for elsewhere: among the imports of a unit and in its package. -/
def beyond (table : Table) (s : Source) (name : String) : Found :=
  match s.imports.lookup name with
  | some fullName => named table fullName
  | none =>
    match (table.types.lookup (s.inPackage name)).or (wildcardType table s name) with
    | some t => .declared t
    | none => .outside name

theorem findSimple_eq (table : Table) (t : TypeRef) (name : String) : findSimple table t name =
    match nearby t name with
    | some u => .declared u
    | none => beyond table t.source name := rfl

/-- Names that are not declared nearby stand for the same in two units. -/
structure SameSurroundings (s s' : Source) (name : String) : Prop where
  imports : s.imports.lookup name = s'.imports.lookup name
  package : s.package = s'.package
  wildcards : s.wildcards = s'.wildcards

theorem SameSurroundings.refl (s : Source) (name : String) : SameSurroundings s s name :=
  ⟨rfl, rfl, rfl⟩

theorem SameSurroundings.beyond_eq {s s' : Source} (h : SameSurroundings s s' name) (table : Table) :
    beyond table s name = beyond table s' name := by
  have hPackage : s.inPackage name = s'.inPackage name := by
    rw [Source.inPackage, Source.inPackage, h.package]
  rw [beyond, beyond, h.imports, hPackage, wildcardType, wildcardType, h.wildcards]

theorem findSimple_congr (hNearby : nearby t name = nearby u name)
    (hBeyond : SameSurroundings t.source u.source name) (table : Table) :
    findSimple table t name = findSimple table u name := by
  rw [findSimple_eq, findSimple_eq, hNearby, hBeyond.beyond_eq]

/-- The name by which the text of a type is looked up: all of it, or what stands before the first
dot. -/
def headName (text : String) : String :=
  match Text.cutFirst '.' (elementType text) with
  | none => elementType text
  | some (head, _) => elementType head

/-- What the text of a type stands for depends on what that name stands for. -/
theorem findType_congr
    (h : findSimple table t (headName text) = findSimple table u (headName text)) :
    findType table t text = findType table u text := by
  unfold headName at h
  simp only [findType]
  rcases Option.eq_none_or_eq_some (Text.cutFirst '.' (elementType text)) with
    hCut | ⟨⟨head, rest⟩, hCut⟩
  · rw [hCut] at h
    simp only [hCut, h]
  · rw [hCut] at h
    simp only [hCut, h]

/-- A full name stands for the same everywhere. -/
theorem findType_of_fullName (hDot : (Text.cutFirst '.' (elementType text)).isSome = true)
    (hNamed : table.types.lookup (elementType text) = some u) (hText : text ≠ "") (t : TypeRef) :
    findType table t text = some (.declared u) := by
  obtain ⟨⟨head, rest⟩, hCut⟩ := Option.isSome_iff_exists.mp hDot
  simp only [findType, if_neg hText, hCut, hNamed]

/-! ## Fields -/

/-- The type that has a field, and the text of the type that it is declared with. -/
def fieldHome (table : Table) (t : TypeRef) (field : String) : Option (TypeRef × String) :=
  t.around.findSome? fun u => (hierarchy table u).findSome? fun d =>
    (d.decl.fields.lookup field).map (d, ·)

theorem fieldType_eq (table : Table) (t : TypeRef) (field : String) :
    fieldType table t field = (fieldHome table t field).map (·.2) := by
  simp only [fieldType, fieldHome, List.map_findSome?, Function.comp_def, Option.map_map,
    Option.map_id_fun', id]

theorem lookup_of_fieldHome {d : TypeRef} (h : fieldHome table t field = some (d, text)) :
    d.decl.fields.lookup field = some text ∧ ∃ u ∈ t.around, d ∈ hierarchy table u := by
  obtain ⟨u, hu, hFound⟩ := List.exists_of_findSome?_eq_some h
  obtain ⟨d', hd', hField⟩ := List.exists_of_findSome?_eq_some hFound
  obtain ⟨text', hText, hEq⟩ := Option.map_eq_some_iff.mp hField
  obtain ⟨rfl, rfl⟩ := Prod.mk.inj hEq
  exact ⟨hText, u, hu, hd'⟩

theorem fieldHome_eq_none : fieldHome table t field = none ↔
    ∀ u ∈ t.around, ∀ d ∈ hierarchy table u, d.decl.fields.lookup field = none := by
  simp only [fieldHome, List.findSome?_eq_none_iff, Option.map_eq_none_iff]

/-- A field of the type itself comes before all others of its name. -/
theorem fieldHome_of_own (h : t.decl.fields.lookup field = some text) :
    fieldHome table t field = some (t, text) := by
  obtain ⟨rest, hHierarchy⟩ := exists_hierarchy table t
  obtain ⟨others, hAround⟩ := exists_around t
  rw [fieldHome, hAround, List.findSome?_cons, hHierarchy, List.findSome?_cons, h]
  rfl

/-- A name stands for the same inside a type as around it if nothing in between has the name. -/
theorem scopedType_of_encloses (hOrder : InOrder sources) (ht : t.Known sources) {d : TypeRef}
    (h : Encloses t d) (hFree : ∀ u, Encloses t u → ¬ Encloses d u →
      u.decl.name ≠ name ∧ u.nested? name = none) :
    t.source = d.source ∧ scopedType t name = scopedType d name := by
  induction h using Relation.ReflTransGen.head_induction_on with
  | refl => exact ⟨rfl, rfl⟩
  | @head t v hOuter hRest ih =>
    obtain ⟨hKnown, hLess⟩ := number_lt_of_outer hOrder ht hOuter
    have hNot : ¬ Encloses d t := by
      intro hBack
      have hBelow := (Encloses.known hOrder hBack (Encloses.known hOrder hRest hKnown).1).2
      have hAbove := (Encloses.known hOrder hRest hKnown).2
      omega
    obtain ⟨hName, hNested⟩ := hFree t .refl hNot
    obtain ⟨hSame, hScoped⟩ := ih hKnown fun u hu hNotAround => hFree u (.head hOuter hu) hNotAround
    refine ⟨(source_of_outer hOuter).trans hSame, ?_⟩
    rw [← hScoped, scopedType, around_of_outer hOrder ht hOuter, List.findSome?_cons,
      if_neg hName, hNested]
    rfl

/-! ## Receivers -/

/-- A method is called on a field: on its name, if no variable of the method has it, or on the field of
the object itself. -/
inductive IsField (c : Caller) : Node → String → Prop
  | name {receiver : Node} : receiver.kind = .name →
      c.callable.variables.lookup receiver.text = none → IsField c receiver receiver.text
  | own {receiver object : Node} : receiver.kind = .access →
      receiver.child? .receiver = some object → object.kind = .thisWord →
      IsField c receiver (receiver.partText .name)

/-- The receiver has the type that some text has in a type. -/
def TypedAt (table : Table) (c : Caller) (t : TypeRef) (receiver : Node) (d : TypeRef)
    (text : String) : Prop :=
  c.receiverType table t receiver = findType table d text

theorem typedAt_caller {c : Caller} {receiver : Node} {d : TypeRef} (h : IsField c receiver field)
    (hHome : fieldHome table t field = some (d, text)) : TypedAt table c t receiver t text := by
  have hField : fieldType table t field = some text := by
    rw [fieldType_eq, hHome, Option.map_some]
  rw [TypedAt, Caller.receiverType]
  cases h with
  | name hKind hLocal =>
    rw [hKind]
    dsimp only
    rw [Caller.nameType, hLocal, hField, Option.none_or]
  | own hKind hObject hThis =>
    rw [hKind]
    dsimp only
    rw [Caller.accessType, hObject]
    dsimp only
    rw [if_pos hThis, hField, Option.bind_some]

/-- How a receiver is typed that is a field. -/
structure FieldTyping (table : Table) (c : Caller) (t : TypeRef) (receiver : Node) (field : String) :
    Prop where
  /-- The field is one of the type around the call, of one around that, or of one that these extend, -/
  home : ∀ d text, fieldHome table t field = some (d, text) →
    d.decl.fields.lookup field = some text ∧ ∃ u, Encloses t u ∧ Inherits table u d
  /-- and found if there is one. -/
  missing : fieldHome table t field = none ↔
    ∀ u, Encloses t u → ∀ d, Inherits table u d → d.decl.fields.lookup field = none
  /-- The receiver has the type that the text of the declaration has around the call. -/
  typed : ∀ d text, fieldHome table t field = some (d, text) → TypedAt table c t receiver t text
  /-- It has the type that the text has where the field is declared just if the two are the same. -/
  home_iff : ∀ d text, fieldHome table t field = some (d, text) →
    (TypedAt table c t receiver d text ↔ findType table t text = findType table d text)
  /-- They are for a field of the type around the call. -/
  own : ∀ text, t.decl.fields.lookup field = some text → TypedAt table c t receiver t text
  /-- They are for a field of a type around that, if no type in between has or holds the name. -/
  around : ∀ d text, fieldHome table t field = some (d, text) → Encloses t d →
    (∀ u, Encloses t u → ¬ Encloses d u →
      u.decl.name ≠ headName text ∧ u.nested? (headName text) = none) →
    TypedAt table c t receiver d text
  /-- They are if the name stands for the same near both types, and for the same elsewhere for both
  units. -/
  alike : ∀ d text, fieldHome table t field = some (d, text) →
    nearby t (headName text) = nearby d (headName text) →
    SameSurroundings t.source d.source (headName text) → TypedAt table c t receiver d text
  /-- They are for the full name of a type. -/
  full : ∀ d text u, fieldHome table t field = some (d, text) →
    (Text.cutFirst '.' (elementType text)).isSome = true →
    table.types.lookup (elementType text) = some u → TypedAt table c t receiver d text

/-- **Fields as receivers.** The type of a field is looked up around the call, whichever type has the
field. -/
theorem fieldReceiver (hOrder : InOrder sources) (ht : t.Known sources) {c : Caller} {receiver : Node}
    (h : IsField c receiver field) :
    FieldTyping (Table.ofSources sources) c t receiver field := by
  have hMem {u d : TypeRef} (hu : Encloses t u) : d ∈ hierarchy (Table.ofSources sources) u ↔
      Inherits (Table.ofSources sources) u d := mem_hierarchy hOrder (hu.known hOrder ht).1
  refine ⟨?_, ?_, fun d text => typedAt_caller h, ?_, ?_, ?_, ?_, ?_⟩
  · intro d text hHome
    obtain ⟨hText, u, hu, hd⟩ := lookup_of_fieldHome hHome
    have hAround := (mem_around hOrder ht).mp hu
    exact ⟨hText, u, hAround, (hMem hAround).mp hd⟩
  · rw [fieldHome_eq_none]
    refine forall_congr' fun u => ?_
    rw [mem_around hOrder ht]
    exact forall_congr' fun hu => forall_congr' fun d => by rw [hMem hu]
  · intro d text hHome
    have hTyped := typedAt_caller h hHome
    rw [TypedAt] at hTyped ⊢
    rw [hTyped]
  · exact fun text hText => typedAt_caller h (fieldHome_of_own hText)
  · intro d text hHome hAround hFree
    obtain ⟨hSource, hScoped⟩ := scopedType_of_encloses hOrder ht hAround hFree
    have hNearby : nearby t (headName text) = nearby d (headName text) := by
      have hSibling : t.sibling? = d.sibling? := by
        funext n
        rw [TypeRef.sibling?, TypeRef.sibling?, hSource]
      rw [nearby, nearby, hScoped, hSource, hSibling]
    rw [TypedAt, ← findType_congr (findSimple_congr hNearby (hSource ▸ .refl _ _) _)]
    exact typedAt_caller h hHome
  · intro d text hHome hNearby hBeyond
    rw [TypedAt, ← findType_congr (findSimple_congr hNearby hBeyond _)]
    exact typedAt_caller h hHome
  · intro d text u hHome hDot hNamed
    have hText : text ≠ "" := by
      rintro rfl
      exact absurd hDot (by decide)
    rw [TypedAt, findType_of_fullName hDot hNamed hText d,
      ← findType_of_fullName hDot hNamed hText t]
    exact typedAt_caller h hHome

/-! ### A field from another package -/

/-- Two packages with a class of the same name. -/
def helperUnits : List Source := readUnits [
  ("a/Base.java", "package a; public class Base { protected Helper h; }"),
  ("a/Helper.java", "package a; public class Helper { public void go() {} }"),
  ("b/Sub.java", "package b; public class Sub extends a.Base { void f() { h.go(); } }"),
  ("b/Helper.java", "package b; public class Helper { public void go() {} }")]

/-- The full name of a declared type. -/
def declaredName (f : Option Found) : Option String := (f.bind (·.declared?)).map (·.fullName)

theorem exists_helper : ∃ c t receiver d, t.Known helperUnits ∧ c.type? = some t ∧
    IsField c receiver "h" ∧ fieldHome (Table.ofSources helperUnits) t "h" = some (d, "Helper") ∧
    declaredName (c.receiverType (Table.ofSources helperUnits) t receiver) = some "b.Helper" ∧
    declaredName (findType (Table.ofSources helperUnits) d "Helper") = some "a.Helper" := by
  have hFound : ∃ s ∈ helperUnits, ∃ m ∈ s.declarations, ∃ t ∈ (Caller.mk s m).type?,
      ∃ n ∈ m.calls, ∃ receiver ∈ n.child? .receiver,
      ∃ x ∈ fieldHome (Table.ofSources helperUnits) t "h",
      (receiver.kind = .name ∧ m.variables.lookup receiver.text = none ∧ receiver.text = "h") ∧
      x.2 = "Helper" ∧
      declaredName ((Caller.mk s m).receiverType (Table.ofSources helperUnits) t receiver) =
        some "b.Helper" ∧
      declaredName (findType (Table.ofSources helperUnits) x.1 "Helper") = some "a.Helper" := by
    decide +kernel
  obtain ⟨s, hs, m, -, t, ht, n, -, receiver, -, ⟨d, text⟩, hHome, ⟨hKind, hLocal, hName⟩, hText,
    hTyped, hDeclared⟩ := hFound
  obtain rfl : text = "Helper" := hText
  have hField : IsField ⟨s, m⟩ receiver "h" := hName ▸ .name hKind hLocal
  exact ⟨⟨s, m⟩, t, receiver, d, known_type? hs ht, ht, hField, hHome, hTyped, hDeclared⟩

theorem fieldReceiver_helperUnits : InOrder helperUnits ∧ ∃ c t receiver, t.Known helperUnits ∧
    IsField c receiver "h" ∧ FieldTyping (Table.ofSources helperUnits) c t receiver "h" := by
  obtain ⟨c, t, receiver, d, hKnown, -, hField, -⟩ := exists_helper
  exact ⟨inOrder_readUnits _, c, t, receiver, hKnown, hField,
    fieldReceiver (inOrder_readUnits _) hKnown hField⟩

/-- A field that is inherited from another package has the type of the same name in the package of the
call. -/
theorem not_typedAtHome_inherited : ∃ c t receiver d, t.Known helperUnits ∧ c.type? = some t ∧
    IsField c receiver "h" ∧ fieldHome (Table.ofSources helperUnits) t "h" = some (d, "Helper") ∧
    ¬ TypedAt (Table.ofSources helperUnits) c t receiver d "Helper" := by
  obtain ⟨c, t, receiver, d, hKnown, hType, hField, hHome, hTyped, hDeclared⟩ := exists_helper
  refine ⟨c, t, receiver, d, hKnown, hType, hField, hHome, fun hSame => ?_⟩
  rw [hSame, hDeclared] at hTyped
  exact absurd hTyped (by decide)

end CodeAtlas.Compilation
