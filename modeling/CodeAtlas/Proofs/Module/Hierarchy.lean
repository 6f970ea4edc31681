import CodeAtlas.Proofs.DepthFirst
import CodeAtlas.Proofs.Module.Signatures

/-!
# The classes above a class

Definitions of a name are looked for in some classes and in all above them. The bound on the steps of
the search is large enough.

* `search_eq`: the search finds the first class of a depth-first search that has the property.
* `searched`: which definitions are found in some classes and above them.
* `isSome_findMethod_projectBases`: one is found above a class just if a class above it has some.
-/

namespace CodeAtlas.Module

/-! ## Classes -/

/-- The classes of the modules. -/
def tableClasses (t : Table) : List ClassRef :=
  t.flatMap fun x => x.2.allClasses.map (ClassRef.mk x.2)

theorem mem_tableClasses {t : Table} {b c : ClassRef} (h : b ∈ projectBases t c) :
    b ∈ tableClasses t := by
  have hTable : ∀ x ∈ t, x.2 ∈ t.map (·.2) := fun x hx => List.mem_map_of_mem hx
  obtain ⟨hSource, n, hn⟩ := known_projectBases hTable h
  obtain ⟨x, hx, hEq⟩ := List.mem_map.mp hSource
  refine List.mem_flatMap.mpr ⟨x, hx, List.mem_map.mpr ⟨b.cls, ?_, by rw [hEq]⟩⟩
  rw [hEq]
  exact List.mem_of_getElem? hn

section Known

variable {l : Library} {a b c : ClassRef} {seen start : List ClassRef}

/-- Classes of known modules are told apart by their numbers. -/
theorem ClassRef.same_iff (h : l.Sound) (ha : a.Known l.sources) (hb : b.Known l.sources) :
    a.same b = true ↔ a = b := by
  simp only [ClassRef.same, Bool.and_eq_true, decide_eq_true_eq]
  refine ⟨fun ⟨hSource, hClass⟩ => ?_, fun hEq => hEq ▸ ⟨rfl, rfl⟩⟩
  obtain ⟨hs, n, hk⟩ := ha
  obtain ⟨hs', n', hk'⟩ := hb
  have hPlace := getElem?_of_map_eq_range h.numbers hs
  rw [hSource, getElem?_of_map_eq_range h.numbers hs'] at hPlace
  have hSources : b.source = a.source := Option.some.inj hPlace
  rw [hSources] at hk'
  have hClasses : a.cls = b.cls := (h.read _ hs).sound.class_ext (List.mem_of_getElem? hk)
    (List.mem_of_getElem? hk') hClass
  cases a
  cases b
  cases hSources
  cases hClasses
  rfl

theorem any_same (h : l.Sound) (hc : c.Known l.sources) (hSeen : ∀ b ∈ seen, b.Known l.sources) :
    seen.any c.same = true ↔ c ∈ seen := by
  apply any_iff_mem
  rintro b (rfl | hb)
  · exact ClassRef.same_iff h hc hc
  · exact ClassRef.same_iff h hc (hSeen b hb)

/-! ## The search -/

/-- The search finds what ends the loop with a stack. -/
theorem bounded_searchFrom (h : l.Sound) (ends : ClassRef → Bool) :
    Bounded (projectBases l.table) ends (ClassRef.Known l.sources) (searchFrom l.table ends)
      (List.find? ends) where
  closed c _ b hb := known_projectBases h.table hb
  empty fuel seen := by cases fuel <;> rfl
  old fuel seen c stack hc hSeen hMem := by
    rw [searchFrom, if_pos ((any_same h hc hSeen).mpr hMem)]
  last fuel seen c stack hc hSeen hNot hit := by
    rw [searchFrom, if_neg fun hOld => hNot ((any_same h hc hSeen).mp hOld), if_pos hit,
      List.find?_cons_of_pos hit]
  new fuel seen c stack found hc hSeen hNot miss hRun := by
    have hMiss := Bool.eq_false_iff.mp miss
    rw [searchFrom, if_neg fun hOld => hNot ((any_same h hc hSeen).mp hOld), if_neg hMiss,
      List.find?_cons_of_neg hMiss, hRun]

theorem exists_traversal (t : Table) (start : List ClassRef) :
    ∃ order, Traversal (projectBases t) start order := by
  have hNext : ∀ c ∈ start ++ tableClasses t, ∀ b ∈ projectBases t c,
      b ∈ start ++ tableClasses t := fun c _ b hb => List.mem_append_right _ (mem_tableClasses hb)
  obtain ⟨order, hOrder⟩ : ∃ order, DepthFirst (projectBases t) [] start order :=
    exists_depthFirst hNext fun c hc => List.mem_append_left _ hc
  exact ⟨order, hOrder.traversal⟩

section Traversal

variable {t : Table} {order : List ClassRef}

/-- All classes above some classes are classes of the modules. -/
theorem mem_of_mem_traversal (h : Traversal (projectBases t) start order) (hc : c ∈ order) :
    c ∈ start ++ tableClasses t := by
  obtain ⟨n, hn, hReach⟩ := (h.mem_iff c).mp hc
  cases hReach with
  | refl => exact List.mem_append_left _ hn
  | tail _ hLast => exact List.mem_append_right _ (mem_tableClasses hLast)

/-- The search has enough steps. -/
theorem length_bases_lt_searchBound (h : Traversal (projectBases t) start order) :
    start.length + (order.flatMap (projectBases t)).length < searchBound t start := by
  have hFew := ((h.depthFirst order).mpr rfl).length_flatMap_le (fun c : ClassRef => c.cls.bases)
    (fun c hc => mem_of_mem_traversal h hc) fun c => List.length_filterMap_le ..
  have hBases : (tableClasses t).flatMap (fun c => c.cls.bases) =
      (t.flatMap fun x => x.2.allClasses).flatMap (·.bases) := by
    simp [tableClasses, List.flatMap_assoc, List.flatMap_map]
  rw [List.flatMap_append, List.length_append, hBases] at hFew
  have hBound : searchBound t start = start.length +
      ((t.flatMap fun x => x.2.allClasses).flatMap (·.bases)).length +
      (start.flatMap (·.cls.bases)).length + 1 := rfl
  omega

/-- The search finds the first class of the traversal that has the property. -/
theorem search_eq (h : l.Sound) (hOrder : Traversal (projectBases l.table) start order)
    (hStart : ∀ c ∈ start, c.Known l.sources) (ends : ClassRef → Bool) :
    search l.table ends start = order.find? ends := by
  have hSome : search l.table ends start = (upTo ends order).find? ends := by
    apply (bounded_searchFrom h ends).run_eq (hOrder.stackLoop ends) hStart (List.forall_mem_nil _)
    have hBound := length_bases_lt_searchBound hOrder
    have hPart : ((upTo ends order).flatMap (projectBases l.table)).length ≤
        (order.flatMap (projectBases l.table)).length :=
      ((upTo_sublist order).flatMap _).length_le
    omega
  rw [hSome, find?_upTo]

end Traversal

/-! ## Definitions -/

/-- Does the class define the name? -/
def ClassRef.declares (name : String) (c : ClassRef) : Bool := !(c.methods name).isEmpty

theorem declares_iff {name : String} : c.declares name = true ↔ c.methods name ≠ [] := by
  rw [ClassRef.declares, Bool.not_eq_true', Bool.eq_false_iff, ne_eq, List.isEmpty_iff]

/-- Definitions of a name are looked for in the order of a traversal. -/
structure Searched (t : Table) (start : List ClassRef) (name : String) (argCount : Nat)
    (order : List ClassRef) : Prop where
  traversal : Traversal (projectBases t) start order
  /-- Whatever is looked for, the first class in this order is found that has it. -/
  search : ∀ ends, search t ends start = order.find? ends
  /-- A definition is one of the first class that has some, where the number of arguments chooses. -/
  found_iff : ∀ s f, findMethod t start name argCount = some (s, f) ↔
    ∃ before c after, order = before ++ c :: after ∧ (∀ b ∈ before, b.methods name = []) ∧
      c.methods name ≠ [] ∧ s = c.source ∧ pick s argCount (c.methods name) = some f
  /-- One is found just if a class in this order has some. -/
  isSome_iff : (findMethod t start name argCount).isSome = true ↔
    ∃ c ∈ order, c.methods name ≠ []

section Definitions

variable {order : List ClassRef} {name : String} {argCount : Nat}

theorem find?_declares_eq_some : order.find? (ClassRef.declares name) = some c ↔
    ∃ before after, order = before ++ c :: after ∧ (∀ b ∈ before, b.methods name = []) ∧
      c.methods name ≠ [] := by
  rw [List.find?_eq_some_iff_append, declares_iff]
  constructor
  · rintro ⟨hSome, before, after, hSplit, hNone⟩
    refine ⟨before, after, hSplit, fun b hb => ?_, hSome⟩
    by_contra hMethods
    simpa [declares_iff.mpr hMethods] using hNone b hb
  · rintro ⟨before, after, hSplit, hNone, hSome⟩
    refine ⟨hSome, before, after, hSplit, fun b hb => ?_⟩
    rw [ClassRef.declares, hNone b hb]
    rfl

theorem findMethod_eq (h : l.Sound) (hOrder : Traversal (projectBases l.table) start order)
    (hStart : ∀ b ∈ start, b.Known l.sources) : findMethod l.table start name argCount =
      (order.find? (ClassRef.declares name)).bind fun c =>
        (pick c.source argCount (c.methods name)).map fun f => (c.source, f) :=
  congrArg (Option.bind · _) (search_eq h hOrder hStart (ClassRef.declares name))

theorem searched (h : l.Sound) (hOrder : Traversal (projectBases l.table) start order)
    (hStart : ∀ b ∈ start, b.Known l.sources) (name : String) (argCount : Nat) :
    Searched l.table start name argCount order where
  traversal := hOrder
  search := search_eq h hOrder hStart
  found_iff s f := by
    rw [findMethod_eq h hOrder hStart, Option.bind_eq_some_iff]
    constructor
    · rintro ⟨c, hFirst, hPick⟩
      obtain ⟨before, after, hSplit, hNone, hSome⟩ := find?_declares_eq_some.mp hFirst
      obtain ⟨g, hg, hPair⟩ := Option.map_eq_some_iff.mp hPick
      obtain ⟨rfl, rfl⟩ := Prod.mk.inj hPair
      exact ⟨before, c, after, hSplit, hNone, hSome, rfl, hg⟩
    · rintro ⟨before, c, after, hSplit, hNone, hSome, rfl, hPick⟩
      refine ⟨c, find?_declares_eq_some.mpr ⟨before, after, hSplit, hNone, hSome⟩, ?_⟩
      rw [hPick]
      rfl
  isSome_iff := by
    rw [findMethod_eq h hOrder hStart, Option.isSome_iff_exists]
    constructor
    · rintro ⟨x, hx⟩
      obtain ⟨c, hFirst, -⟩ := Option.bind_eq_some_iff.mp hx
      exact ⟨c, List.mem_of_find?_eq_some hFirst, declares_iff.mp (List.find?_some hFirst)⟩
    · rintro ⟨c, hc, hMethods⟩
      obtain ⟨d, hFirst⟩ := Option.isSome_iff_exists.mp
        (List.find?_isSome.mpr ⟨c, hc, declares_iff.mpr hMethods⟩)
      obtain ⟨f, hf⟩ := exists_pick (s := d.source)
        (declares_iff.mp (List.find?_some hFirst)) argCount
      refine ⟨(d.source, f), ?_⟩
      rw [hFirst, Option.bind_some, hf]
      rfl

/-- Above a class a definition is found just if a class above it has one. -/
theorem isSome_findMethod_projectBases (h : Searched l.table (projectBases l.table c) name argCount order) :
    (findMethod l.table (projectBases l.table c) name argCount).isSome = true ↔
      ∃ d, Relation.TransGen (fun a b => b ∈ projectBases l.table a) c d ∧ d.methods name ≠ [] := by
  rw [h.isSome_iff]
  refine exists_congr fun d => and_congr_left fun _ => ?_
  rw [h.traversal.mem_iff, Relation.TransGen.head'_iff]

end Definitions

end Known

end CodeAtlas.Module
