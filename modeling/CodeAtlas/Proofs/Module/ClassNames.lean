import CodeAtlas.Proofs.Module.Signatures
import CodeAtlas.Proofs.Text.Parts

/-!
# Names of classes

A dotted name can lead to a class through imports of imported names. Behind the name a member of the
class is found, and under the full name of the class the same.

* `fullName_of_nestedClass`: the full name of a class says where it stands in its module.
* `Library.indexed_ofProjects`: the modules of a repository are known by their names.
* `findClassWithin_fullName`: however a class is found, its full name leads to it without an import.
* `resolveNameWithin_member`: a member behind a name of a class is a class in it, or else a method.
* `foundClass`: hence it does not matter by which name a class is reached, nor whether a call is made on
  something that is known to be of the class.
-/

namespace CodeAtlas.Module

/-! ## Paths of classes -/

namespace Declared

variable {d : Declared}

/-- The classes under their scopes and names, with their paths. -/
def routes (d : Declared) : List ((Option Nat × String) × String) :=
  d.allClasses.map fun c => ((c.outer, c.name), c.path)

/-- The path of a class is that of the class around it and its name. -/
def Pathed (d : Declared) : Prop := ∀ x ∈ d.routes,
  (x.1.1 = none → x.2 = x.1.2) ∧
  ∀ n, x.1.1 = some n → ∃ y, d.routes[n]? = some y ∧ x.2 = y.2 ++ "." ++ x.1.2

theorem routes_addFunction (d : Declared) (owner : Option Nat) (f : Function) :
    (d.addFunction owner f).routes = d.routes := by
  cases owner with
  | none => rfl
  | some n =>
    simp only [routes, addFunction, modifyClass]
    rw [map_modify_of_eq]
    exact fun _ => rfl

theorem routes_addClass (d : Declared) (outer : Option Nat) (line : Nat) (name : String)
    (bases decorators : List Expr) (body : List Stmt) :
    (d.addClass outer line name bases decorators body).routes = d.routes ++ [((outer, name),
      ((outer.bind (d.allClasses[·]?)).map fun c => c.path ++ ".").getD "" ++ name)] := by
  cases outer with
  | none => exact List.map_append
  | some n =>
    simp only [routes, addClass, modifyClass]
    rw [map_modify_of_eq]
    · exact List.map_append
    · exact fun _ => rfl

theorem preserved_pathed : Preserved Pathed where
  function d owner f hd _ _ _ := by
    rw [Pathed, routes_addFunction]
    exact hd
  cls d outer line name bases decorators body hd hReady := by
    rw [Pathed, routes_addClass]
    -- routes keep their places in front of the new one
    have hPlace : ∀ (new : (Option Nat × String) × String) (n : Nat) y,
        d.routes[n]? = some y → (d.routes ++ [new])[n]? = some y := by
      intro new n y hy
      rw [List.getElem?_append_left (List.getElem?_eq_some_iff.mp hy).1]
      exact hy
    intro x hx
    rcases List.mem_append.mp hx with hx | hx
    · refine ⟨(hd x hx).1, fun n hn => ?_⟩
      obtain ⟨y, hy, hPath⟩ := (hd x hx).2 n hn
      exact ⟨y, hPlace _ n y hy, hPath⟩
    · obtain rfl := List.mem_singleton.mp hx
      refine ⟨?_, ?_⟩
      · rintro rfl
        exact String.empty_append
      · rintro n rfl
        obtain ⟨o, ho⟩ : ∃ o, d.allClasses[n]? = some o :=
          ⟨_, List.getElem?_eq_getElem (hReady n rfl)⟩
        refine ⟨((o.outer, o.name), o.path), hPlace _ n _ ?_, ?_⟩
        · rw [routes, List.getElem?_map, ho]
          rfl
        · simp only [Option.bind_some, ho, Option.map_some, Option.getD_some]

theorem pathed_addAll (body : List Stmt) : Pathed (addAll none empty body) :=
  (addAll_induction preserved_pathed none empty body nofun nofun).1

end Declared

section Paths

variable {s : Source} {k e : Class} {name : String}

theorem Source.Read.pathed (h : s.Read) : s.declared.Pathed := by
  obtain ⟨number, name, path, body, rfl⟩ := h
  exact Declared.pathed_addAll body

/-- A name in a scope leads to a class of this scope and name. -/
theorem Source.Read.of_classScope (hs : s.Read) {outer : Option Nat}
    (h : ((s.declared.classScope outer).lookup name).bind s.class? = some e) :
    e ∈ s.allClasses ∧ e.outer = outer ∧ e.name = name := by
  obtain ⟨n, hn, he⟩ := Option.bind_eq_some_iff.mp h
  rw [hs.nested.lookup_eq] at hn
  have hNamed := Assoc.mem_valuesOf.mp (List.mem_of_getLast? hn)
  obtain ⟨c, hc, hEq⟩ := List.mem_map.mp hNamed
  obtain ⟨hScope, rfl⟩ := Prod.mk.inj hEq
  obtain ⟨hOuter, hName⟩ := Prod.mk.inj hScope
  have hSame : s.class? c.number = some c := hs.sound.getElem?_class hc
  obtain rfl := Option.some.inj (hSame.symm.trans he)
  exact ⟨hc, hOuter, hName⟩

theorem Source.Read.path_of_top (hs : s.Read) (h : (s.classes.lookup name).bind s.class? = some e) :
    e ∈ s.allClasses ∧ e.path = name := by
  have hScope : ((s.declared.classScope none).lookup name).bind s.class? = some e := h
  obtain ⟨he, hOuter, rfl⟩ := hs.of_classScope hScope
  exact ⟨he, (hs.pathed _ (List.mem_map_of_mem he)).1 hOuter⟩

theorem Source.Read.path_of_nested (hs : s.Read) (hk : k ∈ s.allClasses)
    (h : (k.nested.lookup name).bind s.class? = some e) :
    e ∈ s.allClasses ∧ e.path = k.path ++ "." ++ name := by
  have hPlace : s.declared.allClasses[k.number]? = some k := hs.sound.getElem?_class hk
  have hScope : s.declared.classScope (some k.number) = k.nested := by
    rw [Declared.classScope, hPlace]
    rfl
  rw [← hScope] at h
  obtain ⟨he, hOuter, rfl⟩ := hs.of_classScope h
  refine ⟨he, ?_⟩
  obtain ⟨y, hy, hPath⟩ := (hs.pathed _ (List.mem_map_of_mem he)).2 k.number hOuter
  rw [Declared.routes, List.getElem?_map, hPlace] at hy
  obtain rfl := Option.some.inj hy
  exact hPath

end Paths

/-! ## Full names -/

section FullNames

variable {s : Source} {c d : ClassRef}

theorem fullName_of_topClass (hs : s.Read) {name : String} (h : s.topClass? name = some c) :
    c.source = s ∧ c.cls ∈ s.allClasses ∧ c.fullName = s.name ++ "." ++ name := by
  obtain ⟨k, hk, rfl⟩ := Option.map_eq_some_iff.mp h
  obtain ⟨hMem, hPath⟩ := hs.path_of_top hk
  refine ⟨rfl, hMem, ?_⟩
  rw [ClassRef.fullName, Source.className, hPath]

/-- A text with a further part at the head of some parts. -/
theorem join_snoc_cons (front part : String) (rest : List String) :
    Text.join "." ((front ++ "." ++ part) :: rest) = Text.join "." (front :: part :: rest) := by
  rw [Text.join_cons (List.cons_ne_nil part rest)]
  cases rest with
  | nil => rfl
  | cons next rest =>
    rw [Text.join_cons (List.cons_ne_nil next rest), Text.join_cons (List.cons_ne_nil next rest)]
    simp only [String.append_assoc]

theorem fullName_of_nestedClass (hs : c.source.Read) {names : List String}
    (hc : c.cls ∈ c.source.allClasses) (h : nestedClass c names = some d) :
    d.fullName = Text.join "." (c.fullName :: names) := by
  induction names generalizing c with
  | nil =>
    obtain rfl := Option.some.inj h
    exact (String.intercalate_singleton).symm
  | cons name names ih =>
    rw [nestedClass] at h
    split at h
    · rename_i e he
      obtain ⟨hMem, hPath⟩ := hs.path_of_nested hc he
      have hName : ClassRef.fullName ⟨c.source, e⟩ = c.fullName ++ "." ++ name := by
        simp only [ClassRef.fullName, Source.className, hPath, String.append_assoc]
      have hRest := ih (c := ⟨c.source, e⟩) hs hMem h
      rw [hName] at hRest
      exact hRest.trans (join_snoc_cons _ _ _)
    · cases h

end FullNames

/-! ## Modules -/

/-- The modules are those that have been read, under their names. -/
structure Table.Indexed (t : Table) : Prop where
  named : ∀ x ∈ t, x.1 = x.2.name
  read : ∀ x ∈ t, x.2.Read

/-- The package around each module is there too. -/
def Table.HasPackages (t : Table) : Prop :=
  ∀ x ∈ t, '.' ∈ x.1.toList → (t.lookup (Text.beforeLast '.' x.1)).isSome = true

namespace Library

open CodeAtlas.Files (Entry Path)

variable {l : Library}

/-- Modules are under their names. -/
def Named (l : Library) : Prop := ∀ x ∈ l.table, x.1 = x.2.name

theorem Named.addFile (h : l.Named) (f : ModuleFile) : (l.addFile f).1.Named := by
  rw [Library.addFile]
  dsimp only
  split
  · exact h
  · rw [Library.addSource]
    split
    · exact h
    · exact List.forall_mem_append.mpr ⟨h, List.forall_mem_singleton.mpr rfl⟩

theorem Named.addFiles (h : l.Named) (files : List ModuleFile) : (l.addFiles files).1.Named := by
  induction files generalizing l with
  | nil => exact h
  | cons f files ih => exact ih (h.addFile f)

theorem Named.addProjects {root : Path} {top : Entry} (h : l.Named) (ps : List Project) :
    (l.addProjects root top ps).Named := by
  induction ps generalizing l with
  | nil => exact h
  | cons p ps ih =>
    have hOne : (l.addProject p.ref (filesOf root top p)).Named := h.addFiles _
    exact ih hOne

/-- The modules of a repository are under their names. -/
theorem indexed_ofProjects (root : Path) (top : Entry) (ps : List Project) :
    (ofProjects root top ps).table.Indexed where
  named := Named.addProjects (l := empty) nofun ps
  read x hx := (sound_ofProjects ps).read _ ((sound_ofProjects ps).table x hx)

end Library

section Split

variable {t : Table} {s : Source} {q m head : String} {rest parts : List String}

/-- The first parts are the name of the module. -/
theorem exists_of_splitModuleAt {n : Nat} (h : splitModuleAt t parts n = some (s, rest)) :
    ∃ k, t.lookup (Text.join "." (parts.take (k + 1))) = some s ∧ rest = parts.drop (k + 1) := by
  induction n with
  | zero => cases h
  | succ n ih =>
    rw [splitModuleAt] at h
    split at h
    · rename_i hFound
      obtain ⟨rfl, rfl⟩ := Prod.mk.inj (Option.some.inj h)
      exact ⟨n, hFound, rfl⟩
    · exact ih h

/-- A name that leads behind a module consists of the module's name and the parts behind it. -/
theorem eq_join_of_splitModule (ht : t.Indexed) (h : splitModule t q = some (s, head :: rest)) :
    s.Read ∧ q = s.name ++ "." ++ Text.join "." (head :: rest) := by
  obtain ⟨k, hFound, hRest⟩ := exists_of_splitModuleAt h
  have hMem := Assoc.mem_of_lookup hFound
  have hName : Text.join "." ((Text.splitAt '.' q).take (k + 1)) = s.name := ht.named _ hMem
  have hWhole : Text.join "." (Text.splitAt '.' q) = q := Text.join_splitAt '.' q
  have hFront : (Text.splitAt '.' q).take (k + 1) ≠ [] := by
    rw [ne_eq, List.take_eq_nil_iff, not_or]
    refine ⟨Nat.succ_ne_zero k, fun hNil => ?_⟩
    rw [hNil] at hRest
    cases hRest
  refine ⟨ht.read _ hMem, ?_⟩
  rw [← hName, hRest, ← Text.join_append hFront (hRest ▸ List.cons_ne_nil head rest),
    List.take_append_drop, hWhole]

/-- Behind a name that leads behind a module, no module has the name of a member. -/
theorem lookup_member_eq_none (ht : t.HasPackages) (hDot : '.' ∉ m.toList)
    (h : splitModule t q = some (s, head :: rest)) : t.lookup (q ++ "." ++ m) = none := by
  rw [Option.eq_none_iff_forall_ne_some]
  intro other hOther
  have hBefore : Text.beforeLast '.' (q ++ "." ++ m) = q := by
    have hCut : Text.cutLast '.' (q ++ "." ++ m) = some (q, m) := Text.cutLast_append hDot
    rw [Text.beforeLast, hCut]
    rfl
  have hPackage := ht _ (Assoc.mem_of_lookup hOther) (by simp)
  rw [hBefore] at hPackage
  obtain ⟨package, hFound⟩ := Option.isSome_iff_exists.mp hPackage
  rw [splitModule_module hFound] at h
  cases h

/-- The name of a member leads behind the same module as the name in front of it. -/
theorem splitModule_behind (ht : t.HasPackages) (hDot : '.' ∉ m.toList)
    (h : splitModule t q = some (s, head :: rest)) :
    splitModule t (q ++ "." ++ m) = some (s, head :: (rest ++ [m])) := by
  rw [splitModule_concat hDot (lookup_member_eq_none ht hDot h), h]
  rfl

end Split

/-! ## Classes and their members -/

section Members

variable {t : Table} {q m : String} {c : ClassRef} {hops : Nat}

/-- A class stands where its full name says, and no import is needed to find it there. -/
theorem splitModule_fullName (ht : t.Indexed) (h : findClassWithin t hops q = some c) :
    ∃ s head rest k, splitModule t c.fullName = some (s, head :: rest) ∧
      s.topClass? head = some k ∧ nestedClass k rest = some c := by
  fun_induction findClassWithin t hops q with
  | case1 _ q s head rest hSplit k hTop =>
    obtain ⟨hs, hName⟩ := eq_join_of_splitModule ht hSplit
    obtain ⟨hSource, hMem, hFull⟩ := fullName_of_topClass hs hTop
    have hPath := fullName_of_nestedClass (hSource.symm ▸ hs) (hSource.symm ▸ hMem) h
    have hSame : c.fullName = q := by
      rw [hPath, hFull, join_snoc_cons, Text.join_cons (List.cons_ne_nil head rest), hName]
    exact ⟨s, head, rest, k, hSame.symm ▸ hSplit, hTop, h⟩
  | case2 _ _ _ _ _ _ _ _ _ ih => exact ih h
  | case3 => cases h
  | case4 => cases h

theorem findClassWithin_fullName (ht : t.Indexed) (h : findClassWithin t hops q = some c) (hops' : Nat) :
    findClassWithin t hops' c.fullName = some c := by
  obtain ⟨s, head, rest, k, hSplit, hTop, hNested⟩ := splitModule_fullName ht h
  rw [findClassWithin, hSplit]
  dsimp only
  rw [hTop]
  exact hNested

theorem memberOf_concat {k : ClassRef} {names : List String} (h : nestedClass k names = some c)
    (n : Nat) : memberOf t k (names ++ [m]) n =
      match nestedClass c [m] with
      | some d => constructorOf t d n
      | none => methodOf t c m n := by
  rw [memberOf, List.getLast?_concat, List.dropLast_concat]
  cases hInner : nestedClass c [m] with
  | none => simp only [h, hInner]
  | some d => simp only [h, hInner]

/-- Names of members are looked up in a class of the module, or else followed further. -/
theorem resolveNameWithin_of_behind {s : Source} {head : String} {names : List String} (n : Nat)
    (h : splitModule t q = some (s, head :: names)) (hMore : names ≠ []) :
    (∀ k, s.topClass? head = some k → resolveNameWithin t n hops q = memberOf t k names n) ∧
    ∀ i, s.topClass? head = none → s.imports.lookup head = some i →
      resolveNameWithin t n (hops + 1) q =
        resolveNameWithin t n hops (Text.join "." (i.target :: names)) := by
  have hNot : names.isEmpty = false := List.isEmpty_eq_false_iff.mpr hMore
  refine ⟨fun k hTop => ?_, fun i hTop hImport => ?_⟩
  · rw [resolveNameWithin, h]
    simp only [hNot, hTop, if_neg Bool.false_ne_true]
  · rw [resolveNameWithin, h]
    simp only [hNot, hTop, hImport, if_neg Bool.false_ne_true]

/-- Behind a name of a class, a member is a class in it, or else a method, by way of the same imports. -/
theorem resolveNameWithin_member (ht : t.HasPackages) (hDot : '.' ∉ m.toList)
    (h : findClassWithin t hops q = some c) (n : Nat) :
    resolveNameWithin t n hops (q ++ "." ++ m) =
      match nestedClass c [m] with
      | some d => constructorOf t d n
      | none => methodOf t c m n := by
  have hMore (rest : List String) : rest ++ [m] ≠ [] := by simp
  fun_induction findClassWithin t hops q with
  | case1 _ q s head rest hSplit k hTop =>
    have hBehind := splitModule_behind ht hDot hSplit
    exact ((resolveNameWithin_of_behind n hBehind (hMore rest)).1 k hTop).trans (memberOf_concat h n)
  | case2 q s head rest hSplit hTop hops i hImport ih =>
    have hBehind := splitModule_behind ht hDot hSplit
    have hJoin : Text.join "." (i.target :: (rest ++ [m])) =
        Text.join "." (i.target :: rest) ++ "." ++ m :=
      Text.join_append (List.cons_ne_nil i.target rest) (List.cons_ne_nil m [])
    rw [(resolveNameWithin_of_behind n hBehind (hMore rest)).2 i hTop hImport, hJoin]
    exact ih h
  | case3 => cases h
  | case4 => cases h

end Members

/-! ## Calls of members -/

/-- The call is of a member, neither of the class above nor of the object that the function belongs to. -/
structure Caller.CallsMember (k : Caller) (call : Call) (receiver : Expr) (m : String) : Prop where
  func : call.func = .attribute receiver m
  notSuper : receiver.isSuperCall = false
  notSelf : k.isSelf receiver = false

/-- The expression is a dotted name that stands for `q` in the function. -/
structure Caller.Names (k : Caller) (e : Expr) (q : String) : Prop where
  dotted : ∃ d, e.dotted? = some d ∧ k.source.qualify d = q ∧
    (k.qualifyHead false (Text.beforeFirst '.' d)).isSome = true

section Calls

variable {t : Table} {k : Caller} {call : Call} {receiver e : Expr} {s : Source} {q m : String}
  {c : ClassRef}

theorem dottedParts_cases {parts : List String} (h : e.dottedParts = some parts) :
    (∃ id bound, e = .name id bound ∧ parts = [id]) ∨
      ∃ value attr front, e = .attribute value attr ∧ parts = attr :: front := by
  unfold Expr.dottedParts at h
  split at h
  · rename_i id bound
    exact .inl ⟨id, bound, rfl, (Option.some.inj h).symm⟩
  · rename_i value attr
    obtain ⟨front, -, rfl⟩ := Option.map_eq_some_iff.mp h
    exact .inr ⟨value, attr, front, rfl, rfl⟩
  · cases h

theorem dotted?_attribute {d : String} (h : receiver.dotted? = some d) :
    (Expr.attribute receiver m).dotted? = some (d ++ "." ++ m) := by
  obtain ⟨parts, hParts, rfl⟩ := Option.map_eq_some_iff.mp h
  have hSome : parts.reverse ≠ [] := by
    rw [ne_eq, List.reverse_eq_nil_iff]
    obtain ⟨id, -, -, rfl⟩ | ⟨-, attr, front, -, rfl⟩ := dottedParts_cases hParts
    · exact List.cons_ne_nil _ _
    · exact List.cons_ne_nil _ _
  rw [Expr.dotted?, Expr.dottedParts, hParts, Option.map_some, Option.map_some, List.reverse_cons,
    Text.join_append hSome (List.cons_ne_nil _ _)]
  rfl

theorem Caller.qualifyName_of_qualifyHead {head front : String}
    (h : k.qualifyHead false head = some front) : k.source.qualifyName head = some front := by
  rw [Caller.qualifyHead] at h
  split at h
  · cases h
  · split at h
    · rename_i hFound
      exact hFound.trans h
    · cases h

/-- A call on something of a known type is one of this type's member. -/
theorem Caller.resolve_typed {type : String} (h : k.CallsMember call receiver m)
    (hType : k.receiverType t receiver = some type) :
    k.resolve t call = resolveName t (type ++ "." ++ m) call.argCount := by
  rw [Caller.resolve, h.func]
  simp only [h.notSuper, h.notSelf, hType, if_neg Bool.false_ne_true]

/-- A call on a dotted name is one of the member behind what the name stands for. -/
theorem Caller.resolve_named (h : k.CallsMember call receiver m)
    (hType : k.receiverType t receiver = none) (hNames : k.Names receiver q) :
    k.resolve t call = resolveName t (q ++ "." ++ m) call.argCount := by
  obtain ⟨d, hDotted, rfl, hHead⟩ := hNames.dotted
  obtain ⟨front, hFront⟩ := Option.isSome_iff_exists.mp hHead
  have hName := qualifyName_of_qualifyHead hFront
  rw [Caller.resolve, h.func]
  simp only [h.notSuper, h.notSelf, hType, if_neg Bool.false_ne_true]
  rw [Caller.dottedTarget, dotted?_attribute hDotted, Option.bind_some, Source.qualify]
  -- the first part of the whole name is that of the name in front
  cases hFirst : Text.cutFirst '.' d with
  | none =>
    have hCut : Text.cutFirst '.' (d ++ "." ++ m) = some (d, m) :=
      Text.cutFirst_append_of_none hFirst m
    have hWhole : Text.beforeFirst '.' d = d := by
      rw [Text.beforeFirst, hFirst]
      rfl
    rw [hWhole] at hFront hName
    rw [hCut]
    simp only [hFront, hName, Option.getD_some]
  | some x =>
    have hCut : Text.cutFirst '.' (d ++ "." ++ m) = some (x.1, x.2 ++ "." ++ m) :=
      Text.cutFirst_append_of_some hFirst m
    have hPart : Text.beforeFirst '.' d = x.1 := by
      rw [Text.beforeFirst, hFirst]
      rfl
    rw [hPart] at hFront hName
    rw [hCut]
    simp only [hFront, hName, Option.getD_some, String.append_assoc]

end Calls

/-! ## Found classes -/

section Found

variable {t : Table} {q : String} {c : ClassRef}

/-- The type of a dotted name goes by the name alone. -/
theorem typeName_of_dotted {s : Source} {e : Expr} {d : String} (h : e.dotted? = some d) :
    typeName t s e = namedType t s d := by
  have hWhole : typeName t s e = e.dotted?.bind (namedType t s) := by
    obtain ⟨parts, hParts, -⟩ := Option.map_eq_some_iff.mp h
    obtain ⟨id, bound, rfl, -⟩ | ⟨value, attr, -, rfl, -⟩ := dottedParts_cases hParts
    · rfl
    · rfl
  rw [hWhole, h, Option.bind_some]

/-- What holds of a name under which a class is found. -/
structure FoundClass (t : Table) (q : String) (c : ClassRef) : Prop where
  /-- Under its full name the same class is found. -/
  again : findClass t c.fullName = some c
  /-- A member behind the name is a class in it, by its constructor, or else a method. -/
  member : ∀ m n, '.' ∉ m.toList → resolveName t (q ++ "." ++ m) n =
    match nestedClass c [m] with
    | some d => constructorOf t d n
    | none => methodOf t c m n
  /-- What stands for the name as a type is of the class. -/
  typed : ∀ (s : Source) (e : Expr) d, e.dotted? = some d → s.qualify d = q →
    typeName t s e = some c.fullName
  /-- A call on something that is known to be of the class and one on the name refer to the same. -/
  calls : ∀ (k k' : Caller) (call call' : Call) (receiver receiver' : Expr) m, '.' ∉ m.toList →
    k.CallsMember call receiver m → k.receiverType t receiver = some c.fullName →
    k'.CallsMember call' receiver' m → k'.receiverType t receiver' = none → k'.Names receiver' q →
    call.argCount = call'.argCount → k.resolve t call = k'.resolve t call'

/-- **Names of classes.** By whatever name a class is found, its members are the same as behind its full
name. -/
theorem foundClass (ht : t.Indexed) (hPackages : t.HasPackages) (h : findClass t q = some c) :
    FoundClass t q c := by
  have hAgain : findClass t c.fullName = some c := findClassWithin_fullName ht h maxHops
  refine ⟨hAgain, fun m n hDot => resolveNameWithin_member hPackages hDot h n, ?_, ?_⟩
  · rintro s e d hDotted rfl
    rw [typeName_of_dotted hDotted, namedType]
    simp only [h]
  · intro k k' call call' receiver receiver' m hDot hCall hType hCall' hType' hNames hCount
    calc k.resolve t call
        = resolveName t (c.fullName ++ "." ++ m) call.argCount := Caller.resolve_typed hCall hType
      _ = resolveName t (q ++ "." ++ m) call.argCount :=
        (resolveNameWithin_member hPackages hDot hAgain _).trans
          (resolveNameWithin_member hPackages hDot h _).symm
      _ = k'.resolve t call' := by rw [hCount, Caller.resolve_named hCall' hType' hNames]

end Found

/-! ### A class behind two imports -/

def engineImport (source name : String) : Stmt :=
  .importsFrom (some source) [⟨"Engine", some name⟩] 0

def engineTable : Table :=
  [("pkg", sourceOf 0 "pkg" "src/pkg/__init__.py" [engineImport "pkg.api" "Engine"]),
    ("pkg.api", sourceOf 1 "pkg.api" "src/pkg/api.py" [engineImport "pkg.core" "Engine"]),
    ("pkg.core", sourceOf 2 "pkg.core" "src/pkg/core.py" [engineImport "pkg" "Motor",
      .classDef 2 "Engine" [] [] [.classDef 3 "Part" [] [] [.plain []] [],
        .function 4 "start" ⟨[], [⟨"self", none⟩], none, [], [], none, []⟩ [.plain []] [] none] []])]

/-- The class is found behind both imports, although the module that declares it imports it too. -/
theorem foundClass_engineTable : engineTable.Indexed ∧ engineTable.HasPackages ∧
    ∃ c, findClass engineTable "pkg.Engine" = some c ∧ c.fullName = "pkg.core.Engine" ∧
      (nestedClass c ["Part"]).isSome = true ∧ FoundClass engineTable "pkg.Engine" c := by
  have hIndexed : engineTable.Indexed := by
    constructor <;> simp only [engineTable, List.forall_mem_cons]
    · exact ⟨rfl, rfl, rfl, List.forall_mem_nil _⟩
    · exact ⟨⟨_, _, _, _, rfl⟩, ⟨_, _, _, _, rfl⟩, ⟨_, _, _, _, rfl⟩, List.forall_mem_nil _⟩
  have hPackages : engineTable.HasPackages := by
    have hFront : Text.beforeLast '.' "pkg.api" = "pkg" ∧ Text.beforeLast '.' "pkg.core" = "pkg" := by
      decide
    have hTop : '.' ∉ "pkg".toList := by decide
    have hKept : (engineTable.lookup "pkg").isSome = true := rfl
    simp only [Table.HasPackages, engineTable, List.forall_mem_cons]
    refine ⟨fun hDot => absurd hDot hTop, fun _ => ?_, fun _ => ?_, List.forall_mem_nil _⟩
    · rw [hFront.1]
      exact hKept
    · rw [hFront.2]
      exact hKept
  have hFound : (findClass engineTable "pkg.Engine").map (fun c =>
      (c.fullName, (nestedClass c ["Part"]).isSome)) = some ("pkg.core.Engine", true) := by
    cbv
  obtain ⟨c, hClass, hEq⟩ := Option.map_eq_some_iff.mp hFound
  obtain ⟨hName, hPart⟩ := Prod.mk.inj hEq
  exact ⟨hIndexed, hPackages, c, hClass, hName, hPart, foundClass hIndexed hPackages hClass⟩

end CodeAtlas.Module
