import CodeAtlas.Compilation.Provider
import CodeAtlas.Proofs.Compilation.Steps

/-!
# Types of the units that have been read

A type is known if it stands in one of the units. All lookups of types lead from known types to known
ones, and known types are the same just if they have the same numbers.

* `inOrder_ofProjects`: the units of a library have their places as their numbers.
* `known_findType`: what the text of a type stands for in a known type is known.
* `mem_methods`: the methods of a type are those that its unit declares in it.
-/

namespace CodeAtlas.Compilation

/-! ## Units -/

/-- Units as they have been read one after the other. -/
def InOrder (sources : List Source) : Prop :=
  ∀ i s, sources[i]? = some s → ∃ path tree, s = sourceOf i path tree

variable {sources : List Source} {s : Source}

theorem InOrder.sound (h : InOrder sources) (hs : s ∈ sources) : s.declared.Sound := by
  obtain ⟨i, hi⟩ := List.mem_iff_getElem?.mp hs
  obtain ⟨path, tree, rfl⟩ := h i s hi
  exact sound_sourceOf i path tree

/-- No two units have the same number. -/
theorem InOrder.eq_of_number {s' : Source} (h : InOrder sources) (hs : s ∈ sources)
    (hs' : s' ∈ sources) (hNumber : s.number = s'.number) : s = s' := by
  obtain ⟨i, hi⟩ := List.mem_iff_getElem?.mp hs
  obtain ⟨j, hj⟩ := List.mem_iff_getElem?.mp hs'
  obtain ⟨path, tree, rfl⟩ := h i s hi
  obtain ⟨path', tree', rfl⟩ := h j s' hj
  obtain rfl : i = j := hNumber
  exact Option.some.inj (hi.symm.trans hj)

/-- The units of some texts with their paths. -/
def readUnits (files : List (String × String)) : List Source :=
  files.mapIdx fun i f => sourceOf i f.1 (readUnit f.2.toList)

theorem inOrder_readUnits (files : List (String × String)) : InOrder (readUnits files) := by
  intro i s hs
  rw [readUnits, List.getElem?_mapIdx] at hs
  obtain ⟨f, -, rfl⟩ := Option.map_eq_some_iff.mp hs
  exact ⟨_, _, rfl⟩

namespace Library

theorem inOrder_addFile {l : Library} (h : InOrder l.sources) (path : String) (e : Files.Entry) :
    InOrder (l.addFile path e).1.sources := by
  rw [addFile]
  split
  · exact h
  · intro i s hs
    rcases getElem?_concat hs with hOld | ⟨rfl, hNew⟩
    · exact h i s hOld
    · exact ⟨path, _, hNew.symm⟩

theorem inOrder_addFiles {l : Library} (h : InOrder l.sources)
    (files : List (List String × Files.Entry)) : InOrder (l.addFiles files).1.sources := by
  induction files generalizing l with
  | nil => exact h
  | cons x files ih => exact ih (inOrder_addFile h _ x.2)

theorem inOrder_ofProjects (disk : Files.Disk) (root : Files.Path) (projects : List Project) :
    InOrder (ofProjects disk root projects).sources := by
  rw [ofProjects]
  refine List.foldlRecOn projects _ (motive := fun l : Library => InOrder l.sources) nofun ?_
  exact fun l h p _ => inOrder_addFiles h _

end Library

/-! ## Known types -/

namespace TypeRef

/-- A type of one of the units. -/
structure Known (sources : List Source) (t : TypeRef) : Prop where
  source : t.source ∈ sources
  decl : t.decl ∈ t.source.allTypes

variable {t u : TypeRef}

/-- The known types. -/
def allKnown (sources : List Source) : List TypeRef :=
  sources.flatMap fun s => s.allTypes.map (TypeRef.mk s)

theorem mem_allKnown : t ∈ allKnown sources ↔ t.Known sources := by
  simp only [allKnown, List.mem_flatMap, List.mem_map]
  constructor
  · rintro ⟨s, hs, decl, hDecl, rfl⟩
    exact ⟨hs, hDecl⟩
  · exact fun h => ⟨t.source, h.source, t.decl, h.decl, rfl⟩

theorem Known.placed (hOrder : InOrder sources) (h : t.Known sources) :
    t.source.declared.Placed t.decl.number t.decl ∧
      t.source.type? t.decl.number = some t.decl := by
  obtain ⟨i, hi⟩ := List.mem_iff_getElem?.mp h.decl
  have hPlaced := (hOrder.sound h.source).types i t.decl hi
  obtain rfl := hPlaced.number
  exact ⟨hPlaced, hi⟩

/-- Known types with the same numbers are the same. -/
theorem same_iff (hOrder : InOrder sources) (ht : t.Known sources) (hu : u.Known sources) :
    t.same u = true ↔ t = u := by
  constructor
  · intro h
    obtain ⟨hSource, hDecl⟩ : t.source.number = u.source.number ∧ t.decl.number = u.decl.number := by
      simpa [same] using h
    obtain ⟨s, decl⟩ := t
    obtain rfl : s = u.source := hOrder.eq_of_number ht.source hu.source hSource
    have hFound := (ht.placed hOrder).2
    rw [hDecl, (hu.placed hOrder).2] at hFound
    exact congrArg (TypeRef.mk u.source) (Option.some.inj hFound).symm
  · rintro rfl
    simp [same]

theorem Known.sibling (h : t.Known sources) {n : Nat} (hu : t.sibling? n = some u) :
    u.Known sources := by
  obtain ⟨decl, hDecl, rfl⟩ := Option.map_eq_some_iff.mp hu
  exact ⟨h.source, List.mem_of_getElem? hDecl⟩

theorem Known.nested (h : t.Known sources) {name : String} (hu : t.nested? name = some u) :
    u.Known sources := by
  obtain ⟨n, -, hSibling⟩ := Option.bind_eq_some_iff.mp hu
  exact h.sibling hSibling

theorem Known.descend (h : t.Known sources) {names : List String}
    (hu : t.descend? names = some u) : u.Known sources := by
  induction names generalizing t with
  | nil => exact Option.some.inj hu ▸ h
  | cons name names ih =>
    obtain ⟨v, hv, hRest⟩ := Option.bind_eq_some_iff.mp hu
    exact ih (h.nested hv) hRest

theorem Known.aroundWithin (h : t.Known sources) {depth : Nat} (hu : u ∈ t.aroundWithin depth) :
    u.Known sources := by
  induction depth generalizing t with
  | zero => cases hu
  | succ depth ih =>
    rw [TypeRef.aroundWithin] at hu
    rcases List.mem_cons.mp hu with rfl | hu
    · exact h
    · cases hOuter : t.decl.outer.bind t.sibling? with
      | none => rw [hOuter] at hu; cases hu
      | some v =>
        rw [hOuter] at hu
        obtain ⟨n, -, hSibling⟩ := Option.bind_eq_some_iff.mp hOuter
        exact ih (h.sibling hSibling) hu

end TypeRef

theorem known_type? {c : Caller} {t : TypeRef} (hSource : c.source ∈ sources)
    (h : c.type? = some t) : t.Known sources := by
  obtain ⟨decl, hDecl, rfl⟩ := Option.map_eq_some_iff.mp h
  exact ⟨hSource, List.mem_of_getElem? hDecl⟩

/-! ## Lookups -/

open TypeRef (Known)

theorem mem_allTypes_of_typesUnder {depth : Nat} {names : List (String × Nat)} {t : TypeDecl}
    (h : t ∈ s.typesUnder depth names) : t ∈ s.allTypes := by
  induction depth generalizing names with
  | zero => cases h
  | succ depth ih =>
    obtain ⟨⟨name, n⟩, -, ht⟩ := List.mem_flatMap.mp h
    dsimp only at ht
    split at ht
    · rename_i u hu
      rcases List.mem_cons.mp ht with rfl | ht
      · exact List.mem_of_getElem? hu
      · exact ih ht
    · cases ht

variable {t u : TypeRef} {name text : String}

theorem known_lookup (h : (Table.ofSources sources).types.lookup name = some u) :
    u.Known sources := by
  obtain ⟨s, hs, hMem⟩ := List.mem_flatMap.mp (Assoc.mem_of_lookup h)
  obtain ⟨decl, hDecl, hEq⟩ := List.mem_map.mp hMem
  obtain ⟨-, rfl⟩ := Prod.mk.inj hEq
  exact ⟨hs, mem_allTypes_of_typesUnder hDecl⟩

theorem known_scopedType (h : t.Known sources) (hu : scopedType t name = some u) :
    u.Known sources := by
  obtain ⟨v, hv, hFound⟩ := List.exists_of_findSome?_eq_some hu
  have hKnown := h.aroundWithin hv
  split at hFound
  · exact Option.some.inj hFound ▸ hKnown
  · exact hKnown.nested hFound

theorem known_named (hu : named (Table.ofSources sources) name = .declared u) : u.Known sources := by
  rw [named] at hu
  split at hu
  · obtain rfl := Found.declared.inj hu
    exact known_lookup ‹_›
  · cases hu

theorem known_findSimple (h : t.Known sources)
    (hu : findSimple (Table.ofSources sources) t name = .declared u) : u.Known sources := by
  rw [findSimple] at hu
  split at hu
  · rename_i v hv
    obtain rfl := Found.declared.inj hu
    rcases Option.or_eq_some_iff.mp hv with hv | ⟨-, hv⟩
    · exact known_scopedType h hv
    · obtain ⟨n, -, hSibling⟩ := Option.bind_eq_some_iff.mp hv
      exact h.sibling hSibling
  · split at hu
    · exact known_named hu
    · split at hu
      · rename_i v hv
        obtain rfl := Found.declared.inj hu
        rcases Option.or_eq_some_iff.mp hv with hv | ⟨-, hv⟩
        · exact known_lookup hv
        · obtain ⟨w, -, hFound⟩ := List.exists_of_findSome?_eq_some hv
          exact known_lookup hFound
      · cases hu

theorem declared?_eq_some {f : Found} (h : f.declared? = some u) : f = .declared u := by
  cases f with
  | declared t => exact congrArg Found.declared (Option.some.inj h)
  | outside name => cases h

/-- What the text of a type stands for in a known type is known. -/
theorem known_findType (h : t.Known sources)
    (hu : findType (Table.ofSources sources) t text = some (.declared u)) : u.Known sources := by
  rw [findType] at hu
  dsimp only at hu
  split at hu
  · cases hu
  · split at hu
    · exact known_findSimple h (Option.some.inj hu)
    · split at hu
      · obtain rfl := Found.declared.inj (Option.some.inj hu)
        exact known_lookup ‹_›
      · split at hu
        · rename_i v hv
          obtain rfl := Found.declared.inj (Option.some.inj hu)
          obtain ⟨w, hw, hDescend⟩ := Option.bind_eq_some_iff.mp hv
          split at hw
          · cases hw
          · exact (known_findSimple h (declared?_eq_some hw)).descend hDescend
        · cases hu

/-! ## Methods -/

theorem callable?_eq_some (hOrder : InOrder sources) (hs : s ∈ sources) {c : Callable} {j : Nat} :
    s.callable? j = some c ↔ c ∈ s.declarations ∧ c.number = j := by
  have hNumber : ∀ i, s.declarations[i]? = some c → c.number = i := by
    intro i hi
    have hPlaces : (s.declarations.map (·.number))[i]? = (List.range s.declarations.length)[i]? :=
      congrArg (·[i]?) (hOrder.sound hs).numbered
    have hLess := (List.getElem?_eq_some_iff.mp hi).1
    rw [List.getElem?_map, List.getElem?_range hLess, hi] at hPlaces
    exact Option.some.inj hPlaces
  constructor
  · exact fun h => ⟨List.mem_of_getElem? h, hNumber j h⟩
  · rintro ⟨hc, rfl⟩
    obtain ⟨i, hi⟩ := List.mem_iff_getElem?.mp hc
    rw [hNumber i hi]
    exact hi

/-- The methods of a type under a name are those that its unit declares in it. -/
theorem mem_methods (hOrder : InOrder sources) (ht : t.Known sources) {c : Callable} :
    c ∈ t.methods name ↔ c ∈ t.source.declarations ∧ c.owner = t.decl.number ∧ c.name = name ∧
      c.isConstructor = false := by
  have hCallable : ∀ j, t.source.callable? j = some c ↔
      c ∈ t.source.declarations ∧ c.number = j := fun j => callable?_eq_some hOrder ht.source
  simp only [TypeRef.methods, List.mem_filterMap, (ht.placed hOrder).1.methods, Declared.Owns,
    hCallable]
  constructor
  · rintro ⟨j, ⟨c', hc', rfl, hRest⟩, hc, hNumber⟩
    -- no two declarations have the same number
    obtain rfl : c' = c := Option.some.inj
      (((callable?_eq_some hOrder ht.source).mpr ⟨hc', rfl⟩).symm.trans
        ((callable?_eq_some hOrder ht.source).mpr ⟨hc, hNumber⟩))
    exact ⟨hc', hRest⟩
  · rintro ⟨hc, hRest⟩
    exact ⟨c.number, ⟨c, hc, rfl, hRest⟩, hc, rfl⟩

end CodeAtlas.Compilation
