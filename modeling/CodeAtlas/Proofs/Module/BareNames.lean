import CodeAtlas.Proofs.Module.Resolved
import CodeAtlas.Proofs.Text.Search

/-!
# Calls of a module's own names

A function that calls a name of its own module by this name alone is answered by way of the module's
dotted name, under which the repository knows the file that was read first.

* `splitModule_concat`, `splitModule_member`: a member is found behind the name in front of it, unless a
  module has the member's dotted name itself.
* `exists_member`: a name that a module defines at its top leads to a function or a constructor of
  the module.
* `bareName_resolves`: the call leads into the file it is made in, if the repository knows this file
  under its module's name and no module has the dotted name that is called.
* `bareName_strays`, `bareName_lost`: otherwise it can lead into another file or nowhere.
-/

namespace CodeAtlas.Module

open CodeAtlas.Files (Entry Path)

/-! ## Names of members -/

section Split

variable {t : Table} {name g : String} {s : Source}

theorem length_splitAt_ne_zero (c : Char) (s : String) : (Text.splitAt c s).length ≠ 0 := by
  rw [Text.splitAt, List.length_map, ne_eq, List.length_eq_zero_iff]
  exact Text.splitChars_ne_nil c s.toList

/-- The name of a module leads to the module and no further. -/
theorem splitModule_module (h : t.lookup name = some s) : splitModule t name = some (s, []) := by
  obtain ⟨n, hn⟩ := Nat.exists_eq_succ_of_ne_zero (length_splitAt_ne_zero '.' name)
  have hJoin : Text.join "." (Text.splitAt '.' name) = name := Text.join_splitAt '.' name
  have hTake : (Text.splitAt '.' name).take (n + 1) = Text.splitAt '.' name :=
    List.take_of_length_le (Nat.le_of_eq hn)
  have hDrop : (Text.splitAt '.' name).drop (n + 1) = [] := List.drop_of_length_le (Nat.le_of_eq hn)
  rw [splitModule, hn, splitModuleAt, hTake, hJoin, h, hDrop]

/-- A further part stays behind what is left of the others. -/
theorem splitModuleAt_concat {parts : List String} {n : Nat} (hn : n ≤ parts.length) :
    splitModuleAt t (parts ++ [g]) n = (splitModuleAt t parts n).map fun x => (x.1, x.2 ++ [g]) := by
  induction n with
  | zero => rfl
  | succ n ih =>
    rw [splitModuleAt, splitModuleAt, List.take_append_of_le_length hn,
      List.drop_append_of_le_length hn, ih (Nat.le_of_succ_le hn)]
    split <;> rfl

/-- The dotted name of a member leads into the same module as the name in front of it, unless it is a
module's name. -/
theorem splitModule_concat (hDot : '.' ∉ g.toList) (hNone : t.lookup (name ++ "." ++ g) = none) :
    splitModule t (name ++ "." ++ g) = (splitModule t name).map fun x => (x.1, x.2 ++ [g]) := by
  have hParts : Text.splitAt '.' (name ++ "." ++ g) = Text.splitAt '.' name ++ [g] :=
    Text.splitAt_concat hDot name
  have hJoin : Text.join "." (Text.splitAt '.' (name ++ "." ++ g)) = name ++ "." ++ g :=
    Text.join_splitAt '.' _
  rw [hParts] at hJoin
  have hTake : (Text.splitAt '.' name ++ [g]).take ((Text.splitAt '.' name).length + 1) =
      Text.splitAt '.' name ++ [g] := List.take_of_length_le (by simp)
  rw [splitModule, hParts, List.length_append, List.length_singleton, splitModuleAt, hTake, hJoin,
    hNone]
  exact splitModuleAt_concat (Nat.le_refl _)

/-- The dotted name of a module's member leads into the module. -/
theorem splitModule_member (hDot : '.' ∉ g.toList) (hModule : t.lookup name = some s)
    (hNone : t.lookup (name ++ "." ++ g) = none) :
    splitModule t (name ++ "." ++ g) = some (s, [g]) := by
  rw [splitModule_concat hDot hNone, splitModule_module hModule]
  rfl

end Split

/-! ## Classes at the top of a module -/

namespace Declared

variable {d : Declared}

/-- Names at the top of a module lead to classes of the name. -/
def Topped (d : Declared) : Prop := ∀ x ∈ d.classes, ∃ c, d.allClasses[x.2]? = some c ∧
  c.name = x.1 ∧ c.outer = none ∧ c.path = x.1 ∧ c.number = x.2

theorem topped_empty : Topped empty := fun x hx => by cases hx

/-- What a change leaves as it is of the names of a class. -/
structure KeepsName (change : Class → Class) : Prop where
  name : ∀ c, (change c).name = c.name
  outer : ∀ c, (change c).outer = c.outer
  path : ∀ c, (change c).path = c.path
  number : ∀ c, (change c).number = c.number

theorem Topped.modifyClass (h : d.Topped) (n : Nat) {change : Class → Class}
    (hChange : KeepsName change) : (d.modifyClass n change).Topped := by
  intro x hx
  obtain ⟨c, hc, hName, hOuter, hPath, hNumber⟩ := h x hx
  have hGet : (d.modifyClass n change).allClasses[x.2]? =
      some (if n = x.2 then change c else c) := by
    rw [Declared.modifyClass, List.getElem?_modify, hc]
    rfl
  refine ⟨_, hGet, ?_⟩
  split
  · rw [hChange.name, hChange.outer, hChange.path, hChange.number]
    exact ⟨hName, hOuter, hPath, hNumber⟩
  · exact ⟨hName, hOuter, hPath, hNumber⟩

theorem preserved_topped : Preserved Topped where
  function d owner f hd hReady hNumber hOwner := by
    cases owner with
    | none => exact hd
    | some n =>
      have hDeclared : Topped { d with declarations := d.declarations ++ [f] } := hd
      exact hDeclared.modifyClass n ⟨fun _ => rfl, fun _ => rfl, fun _ => rfl, fun _ => rfl⟩
  cls d outer line name bases decorators body hd hReady := by
    -- old classes keep their places in front of the new one
    have hOld : ∀ new : Class, Topped { d with allClasses := d.allClasses ++ [new] } := by
      intro new x hx
      obtain ⟨c, hc, hRest⟩ := hd x hx
      refine ⟨c, ?_, hRest⟩
      rw [List.getElem?_append_left (List.getElem?_eq_some_iff.mp hc).1]
      exact hc
    cases outer with
    | none =>
      intro x hx
      obtain rfl | hx := Assoc.mem_of_mem_put hx
      · exact ⟨_, List.getElem?_concat_length, rfl, rfl, String.empty_append, rfl⟩
      · exact hOld _ x hx
    | some n =>
      exact (hOld _).modifyClass n ⟨fun _ => rfl, fun _ => rfl, fun _ => rfl, fun _ => rfl⟩

theorem topped_addAll (body : List Stmt) : Topped (addAll none empty body) :=
  (addAll_induction preserved_topped none empty body topped_empty nofun).1

end Declared

/-! ## Members of a module -/

/-- The module defines the name at its top, as a function or as a class. -/
def Source.Defines (s : Source) (g : String) : Prop :=
  Assoc.hasKey g s.classes = true ∨ Assoc.hasKey g s.functions = true

/-- If the name is that of a data class, the annotations of its fields can be written out. -/
def Source.Writes (s : Source) (g : String) : Prop :=
  ∀ c, s.topClass? g = some c → c.cls.isDataclass = true → c.cls.fieldCount.isOk = true

/-- What the name of a module's own function or class leads to. -/
inductive Member (s : Source) (g : String) : Target → Prop
  /-- A function of the name at the top of the module. -/
  | function {f : Function} (visible : f ∈ s.visible) (top : f.owner = none) (name : f.name = g) :
      Member s g (targetOf s f)
  /-- The constructor that the class of the name declares. -/
  | constructor {c : ClassRef} {f : Function} (cls : s.topClass? g = some c) (visible : f ∈ s.visible)
      (owner : f.owner = some c.cls.number) (name : f.name = initName) : Member s g (targetOf s f)
  /-- The constructor that the class of the name has without declaring it. -/
  | implicit {c : ClassRef} {count : Nat} {inherited : Option (Source × Function)}
      (cls : s.topClass? g = some c) (none : c.methods initName = []) :
      Member s g (implicitConstructor c count inherited)

section Members

variable {s : Source} {g : String} {t : Table}

theorem exists_topClass (hs : s.Read) (h : Assoc.hasKey g s.classes = true) :
    ∃ c, s.topClass? g = some ⟨s, c⟩ ∧ s.class? c.number = some c ∧ c.path = g := by
  have hTopped : s.declared.Topped := by
    obtain ⟨number, name, path, body, rfl⟩ := hs
    exact Declared.topped_addAll body
  obtain ⟨n, hn⟩ := Assoc.exists_lookup h
  obtain ⟨c, hc, -, -, hPath, rfl⟩ := hTopped (g, n) (Assoc.mem_of_lookup hn)
  refine ⟨c, ?_, hc, hPath⟩
  have hClass : s.class? c.number = some c := hc
  rw [Source.topClass?, hn, Option.bind_some, hClass]
  rfl

theorem source_of_topClass {c : ClassRef} (h : s.topClass? g = some c) : c.source = s := by
  obtain ⟨k, -, rfl⟩ := Option.map_eq_some_iff.mp h
  rfl

theorem Member.inSource_file {target : Target} (h : Member s g target) :
    target.inSource = true ∧ target.file = some s.path := by
  cases h with
  | function => exact ⟨rfl, rfl⟩
  | constructor => exact ⟨rfl, rfl⟩
  | implicit hClass =>
    rw [← source_of_topClass hClass]
    exact ⟨rfl, rfl⟩

theorem exists_pick {fs : List Function} (h : fs ≠ []) (argCount : Nat) :
    ∃ f, pick s argCount fs = some f := by
  have hShown : ∀ shown : List Function, shown ≠ [] →
      ∃ f, (shown.find? (·.accepts argCount)).or shown.head? = some f := by
    intro shown hSome
    obtain ⟨f, rest, rfl⟩ := List.exists_cons_of_ne_nil hSome
    cases List.find? (·.accepts argCount) (f :: rest) with
    | none => exact ⟨f, rfl⟩
    | some k => exact ⟨k, rfl⟩
  rw [pick]
  split
  · exact hShown fs h
  · rename_i hNonempty
    exact hShown _ fun hNil => hNonempty (List.isEmpty_iff.mpr hNil)

/-- A name of a function leads to one at the top of the module. -/
theorem exists_function (hs : s.Read) {numbers : List Nat}
    (h : s.functions.lookup g = some numbers) (argCount : Nat) :
    ∃ f, pick s argCount (numbers.filterMap s.function?) = some f ∧
      Member s g (targetOf s f) := by
  have hScope : (g, numbers) ∈ s.declared.scope none := Assoc.mem_of_lookup h
  have hSome : numbers.filterMap s.function? ≠ [] := by
    have hGathered := hScope
    rw [hs.sound.scope_eq, Assoc.gather_eq] at hGathered
    obtain ⟨name, hName, hPair⟩ := List.mem_map.mp hGathered
    obtain ⟨p, hp, rfl⟩ := List.mem_map.mp (mem_firsts.mp hName)
    obtain ⟨f, hf, rfl⟩ := List.mem_map.mp hp
    obtain ⟨hMem, hOwner⟩ := List.mem_filter.mp hf
    have hFound := (hs.sound.mem_scope hScope).mpr
      ⟨hMem, of_decide_eq_true hOwner, congrArg Prod.fst hPair⟩
    exact List.ne_nil_of_mem hFound
  obtain ⟨f, hf⟩ := exists_pick hSome argCount
  obtain ⟨-, hOwner, hName⟩ := (hs.sound.mem_scope hScope).mp (mem_of_pick hf)
  exact ⟨f, hf, .function (mem_visible_of_pick hs hScope hf) hOwner hName⟩

/-- A name of a class leads to its constructor. -/
theorem exists_constructor (hs : s.Read) {c : Class} (hTop : s.topClass? g = some ⟨s, c⟩)
    (hClass : s.class? c.number = some c) (hWrites : s.Writes g) (argCount : Nat) :
    ∃ target, constructorOf t ⟨s, c⟩ argCount = .ok (some target) ∧ Member s g target := by
  rw [constructorOf]
  split
  · rename_i k ks hMethods
    obtain ⟨f, hf⟩ := exists_pick (s := s) (List.cons_ne_nil k ks) argCount
    refine ⟨targetOf s f, ?_, ?_⟩
    · rw [hf]
      rfl
    · rw [← hMethods] at hf
      have hKnown : ClassRef.Known [s] ⟨s, c⟩ := ⟨List.mem_singleton_self s, c.number, hClass⟩
      have hVisible := mem_visible_of_pick_methods (List.forall_mem_singleton.mpr hs) hKnown hf
      cases hFound : c.methods.lookup initName with
      | none => simp [ClassRef.methods, hFound] at hMethods
      | some numbers =>
        have hScope : (initName, numbers) ∈ s.declared.scope (some c.number) := by
          have hClass' : s.declared.allClasses[c.number]? = some c := hClass
          rw [Declared.scope, hClass']
          exact Assoc.mem_of_lookup hFound
        rw [ClassRef.methods, hFound, Option.getD_some] at hf
        obtain ⟨-, hOwner, hName⟩ := (hs.sound.mem_scope hScope).mp (mem_of_pick hf)
        exact .constructor hTop hVisible hOwner hName
  · rename_i hNone
    dsimp only
    by_cases hData : c.isDataclass = true
    · obtain ⟨count, hCount⟩ := exists_of_isOk (hWrites _ hTop hData)
      rw [if_pos hData, hCount]
      exact ⟨_, rfl, .implicit hTop hNone⟩
    · rw [if_neg hData]
      exact ⟨_, rfl, .implicit hTop hNone⟩

/-- A name that a module defines at its top leads to a function or a constructor of the module. -/
theorem exists_member (hs : s.Read) {qualified : String}
    (hSplit : splitModule t qualified = some (s, [g])) (hDefines : s.Defines g)
    (hWrites : s.Writes g) (argCount : Nat) :
    ∃ target, resolveName t qualified argCount = .ok (some target) ∧ Member s g target := by
  rw [resolveName, resolveNameWithin, hSplit]
  dsimp only
  rw [List.isEmpty_nil, if_pos rfl]
  cases hFunctions : s.functions.lookup g with
  | some numbers =>
    obtain ⟨f, hf, hMember⟩ := exists_function hs hFunctions argCount
    refine ⟨_, ?_, hMember⟩
    dsimp only
    rw [hf]
    rfl
  | none =>
    have hClass : Assoc.hasKey g s.classes = true := by
      refine hDefines.resolve_right fun hKey => ?_
      obtain ⟨numbers, hNumbers⟩ := Assoc.exists_lookup hKey
      rw [hFunctions] at hNumbers
      cases hNumbers
    obtain ⟨c, hTop, hClass, -⟩ := exists_topClass hs hClass
    obtain ⟨target, hTarget, hMember⟩ :=
      exists_constructor (t := t) hs hTop hClass hWrites argCount
    refine ⟨target, ?_, hMember⟩
    dsimp only
    rw [hTop]
    exact hTarget

/-- What a module defines follows from its statements. -/
theorem Source.Read.of_body (hs : s.Read) {kept : Source} (hKept : kept.Read)
    (hBody : kept.body = s.body) :
    (s.Defines g → kept.Defines g) ∧ (s.Writes g → kept.Writes g) := by
  obtain ⟨number, name, path, body, rfl⟩ := hs
  obtain ⟨number', name', path', body', rfl⟩ := hKept
  obtain rfl : body' = body := hBody
  refine ⟨id, fun hWrites c hc => ?_⟩
  obtain ⟨k, hk, rfl⟩ := Option.map_eq_some_iff.mp hc
  exact hWrites ⟨sourceOf number name path body', k⟩ (Option.map_eq_some_iff.mpr ⟨k, hk, rfl⟩)

end Members

/-! ## Calls -/

/-- In the function `f` of the module `s` the call names nothing but `g`, which the module defines
and the function does not bind. -/
structure OwnCall (l : Library) (s : Source) (f : Function) (g : String)
    (call : CallSite CallRef) : Prop where
  source : s ∈ l.sources
  function : f ∈ s.declarations
  caller : call.handle.caller = ⟨s.number, f.number⟩
  func : ∃ written, call.handle.call.func = .name g written
  bare : '.' ∉ g.toList
  free : g ∉ f.locals
  defines : s.Defines g

section Calls

variable {l : Library} {s kept : Source} {f : Function} {g : String} {call : CallSite CallRef}

/-- Such a call goes by the dotted name of the module. -/
theorem resolve_ownCall (h : l.Sound) (hCall : OwnCall l s f g call) :
    l.resolve call = resolveName l.table (s.name ++ "." ++ g) call.handle.call.argCount := by
  have hSource : l.sources[s.number]? = some s := getElem?_of_map_eq_range h.numbers hCall.source
  have hFunction : s.function? f.number = some f :=
    (h.read s hCall.source).sound.getElem?_number hCall.function
  have hCaller : l.caller? call.handle.caller = some ⟨s, f⟩ := by
    rw [hCall.caller, Library.caller?, hSource, Option.bind_some, hFunction]
    rfl
  have hLocals : f.locals.contains g = false := by
    simpa using hCall.free
  have hKey : (Assoc.hasKey g s.classes || Assoc.hasKey g s.functions) = true :=
    Bool.or_eq_true_iff.mpr hCall.defines
  have hHead : (Caller.mk s f).qualifyHead true g = some (s.name ++ "." ++ g) := by
    rw [Caller.qualifyHead, hLocals, if_neg Bool.false_ne_true, Source.qualifyName, hKey,
      if_pos rfl]
  obtain ⟨written, hFunc⟩ := hCall.func
  rw [Library.resolve, hCaller]
  dsimp only
  rw [Caller.resolve, hFunc]
  dsimp only
  rw [hHead]

/-- Where a module has the dotted name that is called, the call leads nowhere. -/
theorem resolve_ownCall_of_module (h : l.Sound) (hCall : OwnCall l s f g call) {other : Source}
    (hModule : l.table.lookup (s.name ++ "." ++ g) = some other) : l.resolve call = .ok none := by
  rw [resolve_ownCall h hCall, resolveName, resolveNameWithin, splitModule_module hModule]

/-- Otherwise it leads into the file that is known under the module's name. -/
theorem exists_resolve_ownCall (h : l.Sound) (hCall : OwnCall l s f g call)
    (hKept : l.table.lookup s.name = some kept)
    (hAlone : l.table.lookup (s.name ++ "." ++ g) = none) (hDefines : kept.Defines g)
    (hWrites : kept.Writes g) :
    ∃ target, l.resolve call = .ok (some target) ∧ Member kept g target := by
  have hRead : kept.Read := h.read _ (h.table _ (Assoc.mem_of_lookup hKept))
  rw [resolve_ownCall h hCall]
  exact exists_member hRead (splitModule_member hCall.bare hKept hAlone) hDefines hWrites _

/-- The repository knows the file of the module `s` under the module's name, perhaps as a module of
another project, and no module under the dotted name of the member `g`. -/
structure KnownAs (l : Library) (s kept : Source) (g : String) : Prop where
  lookup : l.table.lookup s.name = some kept
  path : kept.path = s.path
  body : kept.body = s.body
  alone : l.table.lookup (s.name ++ "." ++ g) = none

/-- A call of a module's own name leads to the function or the class that the module defines. -/
theorem bareName_resolves {root : Path} {top : Entry}
    {pr : Provider (Option FunctionRef) CallRef} (h : (provide root top).result = .ok pr)
    (hCall : OwnCall (Library.ofProjects root top (itemsOf pr.projects)) s f g call)
    (hKnown : KnownAs (Library.ofProjects root top (itemsOf pr.projects)) s kept g)
    (hWrites : s.Writes g) :
    ∃ target, pr.resolve call = .ok (some target) ∧ Member kept g target ∧
      target.inSource = true ∧ target.file = some s.path := by
  obtain ⟨ps, -, hDone⟩ := Traced.ok_of_bind h
  obtain rfl := Except.ok.inj hDone
  have hSound : (Library.ofProjects root top ps).Sound := Library.sound_ofProjects ps
  have hRead : s.Read := hSound.read s hCall.source
  have hKept : kept.Read := hSound.read _ (hSound.table _ (Assoc.mem_of_lookup hKnown.lookup))
  obtain ⟨hDefines, hWritten⟩ := hRead.of_body (g := g) hKept hKnown.body
  obtain ⟨target, hTarget, hMember⟩ := exists_resolve_ownCall hSound hCall hKnown.lookup
    hKnown.alone (hDefines hCall.defines) (hWritten hWrites)
  obtain ⟨hIn, hFile⟩ := hMember.inSource_file
  exact ⟨target, hTarget, hMember, hIn, hKnown.path ▸ hFile⟩

end Calls

/-! ### A function that calls itself -/

theorem provide_of_found {root : Path} {top : Entry} {os : List (Option Project)}
    (h : ((top.walk entered []).mapM (projectAt root)).result = .ok os)
    (hSome : (os.filterMap id).isEmpty = false) : (provide root top).result =
      .ok ((Library.ofProjects root top (os.filterMap id)).provider (os.filterMap id)) :=
  Traced.result_bind_of_ok (result_findProjects h hSome) fun projects =>
    (pure ((Library.ofProjects root top projects).provider projects) : Traced _)

/-- The call of itself that the function in the text of `echoFile` makes. -/
def echoCallIn (number : Nat) : CallSite CallRef :=
  ⟨"f", 0, some 2, ⟨⟨number, 0⟩, ⟨2, .name "f" false, [], []⟩⟩⟩

theorem ownCall_echo {l : Library} {number : Nat} {name path : String}
    (h : sourceOf number name path [echoStmt] ∈ l.sources) :
    OwnCall l (sourceOf number name path [echoStmt]) echoFunction "f" (echoCallIn number) where
  source := h
  function := List.mem_singleton_self _
  caller := rfl
  func := ⟨_, rfl⟩
  bare := by decide
  free := by
    have hLocals : echoFunction.locals = [] := by cbv
    rw [hLocals]
    exact List.not_mem_nil
  defines := .inr rfl

theorem writes_echo (number : Nat) (name path g : String) :
    (sourceOf number name path [echoStmt]).Writes g := fun c hc => by
  have hNone : (sourceOf number name path [echoStmt]).topClass? g = none := rfl
  rw [hNone] at hc
  cases hc

theorem bareName_resolves_echo : ∃ pr target, (provide ⟨"", ["repo"]⟩ echoTop).result = .ok pr ∧
    OwnCall (Library.ofProjects ⟨"", ["repo"]⟩ echoTop (itemsOf pr.projects)) echoSource
      echoFunction "f" (echoCallIn 0) ∧
    pr.resolve (echoCallIn 0) = .ok (some target) ∧ Member echoSource "f" target ∧
    target.inSource = true ∧ target.file = some "src/m.py" := by
  have hFound : ((echoTop.walk entered []).mapM (projectAt ⟨"", ["repo"]⟩)).result =
      .ok [some echoProject, none] := by cbv
  have hCall : OwnCall (Library.ofProjects ⟨"", ["repo"]⟩ echoTop [echoProject]) echoSource
      echoFunction "f" (echoCallIn 0) := by
    refine ownCall_echo ?_
    rw [ofProjects_echoTop]
    exact List.mem_singleton_self echoSource
  have hKnown : KnownAs (Library.ofProjects ⟨"", ["repo"]⟩ echoTop [echoProject]) echoSource
      echoSource "f" := by
    rw [ofProjects_echoTop]
    exact ⟨rfl, rfl, rfl, rfl⟩
  have hProvide := provide_of_found hFound rfl
  obtain ⟨target, hTarget⟩ := bareName_resolves hProvide hCall hKnown (writes_echo _ _ _ _)
  exact ⟨_, target, hProvide, hCall, hTarget⟩

/-! ### Two modules of one name -/

def twinSide (name : String) : Entry :=
  .directory name [.file "setup.py" [], .directory "src" [echoFile]]

def twinTop : Entry := .directory "repo" [twinSide "a", twinSide "b"]

def twinProject (name : String) : Project :=
  ⟨name, name ++ "/setup.py", "python", ⟨"", ["repo", name]⟩⟩

def twinSource (number : Nat) (name : String) : Source :=
  sourceOf number "m" (name ++ "/src/m.py") [echoStmt]

theorem filesOf_twinTop (name : String) (h : twinTop.descend? [name] = some (twinSide name)) :
    filesOf ⟨"", ["repo"]⟩ twinTop (twinProject name) =
      [⟨[name, "src", "m.py"], "m", Text.encode "def f():\n f()\n"⟩] := by
  have hPlace : placeOf ⟨"", ["repo"]⟩ (twinProject name) = [name] := rfl
  rw [filesOf_eq, hPlace, h, Option.map_some, Option.getD_some]
  exact modules_echo [name, "src"]

theorem addFile_echo (l : Library) (path : List String) (name : String) :
    l.addFile ⟨path, name, Text.encode "def f():\n f()\n"⟩ =
      (l.addSource (sourceOf l.sources.length name (Files.pathText path) [echoStmt]),
        some (sourceOf l.sources.length name (Files.pathText path) [echoStmt])) := by
  have hRead : Library.readFile ⟨path, name, Text.encode "def f():\n f()\n"⟩ = some [echoStmt] :=
    readFile_echo
  rw [Library.addFile, hRead]

def twinLibrary : Library :=
  Library.ofProjects ⟨"", ["repo"]⟩ twinTop [twinProject "a", twinProject "b"]

theorem twinLibrary_eq : twinLibrary =
    ⟨[twinSource 0 "a", twinSource 1 "b"], [("m", twinSource 0 "a")],
      [((twinProject "a").ref, [twinSource 0 "a"]), ((twinProject "b").ref, [twinSource 1 "b"])],
      [.moduleTwice "m" "a/src/m.py"]⟩ := by
  rw [twinLibrary, Library.ofProjects, List.foldl_cons, List.foldl_cons, List.foldl_nil,
    filesOf_twinTop "a" rfl, filesOf_twinTop "b" rfl]
  simp only [Library.addProject, Library.addFiles, addFile_echo]
  rfl

/-- A function's call of its own name leads into the file of another project, which has a module of
the same name. -/
theorem bareName_strays : ∃ pr s call target, (provide ⟨"", ["repo"]⟩ twinTop).result = .ok pr ∧
    OwnCall (Library.ofProjects ⟨"", ["repo"]⟩ twinTop (itemsOf pr.projects)) s echoFunction "f"
      call ∧
    s.Writes "f" ∧ s.path = "b/src/m.py" ∧ pr.resolve call = .ok (some target) ∧
    target.file = some "a/src/m.py" := by
  have hFound : ((twinTop.walk entered []).mapM (projectAt ⟨"", ["repo"]⟩)).result =
      .ok [none, some (twinProject "a"), none, some (twinProject "b"), none] := by cbv
  have hSound : twinLibrary.Sound := Library.sound_ofProjects _
  have hCall : OwnCall twinLibrary (twinSource 1 "b") echoFunction "f" (echoCallIn 1) := by
    refine ownCall_echo ?_
    rw [twinLibrary_eq]
    exact List.mem_pair.mpr (.inr rfl)
  have hKept : twinLibrary.table.lookup "m" = some (twinSource 0 "a") := by
    rw [twinLibrary_eq]
    rfl
  have hAlone : twinLibrary.table.lookup "m.f" = none := by
    rw [twinLibrary_eq]
    rfl
  obtain ⟨target, hTarget, hMember⟩ := exists_resolve_ownCall hSound hCall hKept hAlone (.inr rfl)
    (writes_echo _ _ _ _)
  exact ⟨_, twinSource 1 "b", echoCallIn 1, target, provide_of_found hFound rfl, hCall,
    writes_echo _ _ _ _, rfl, hTarget, hMember.inSource_file.2⟩

/-! ### A module with the name of a function -/

def memberDirectory : Entry :=
  .directory "pkg" [.file "__init__.py" (Text.encode "def f():\n f()\n"), .file "f.py" []]

def memberTop : Entry :=
  .directory "repo" [.file "setup.py" [], .directory "src" [memberDirectory]]

def memberSource : Source := sourceOf 0 "pkg" "src/pkg/__init__.py" [echoStmt]

theorem filesOf_memberTop : filesOf ⟨"", ["repo"]⟩ memberTop echoProject =
    [⟨["src", "pkg", "__init__.py"], "pkg", Text.encode "def f():\n f()\n"⟩,
      ⟨["src", "pkg", "f.py"], "pkg.f", []⟩] := by
  have hSorted : (Entry.directory "src" [memberDirectory]).sortedChildren = [memberDirectory] :=
    List.mergeSort_singleton _
  have hFiles : filesOf ⟨"", ["repo"]⟩ memberTop echoProject =
      (Entry.directory "src" [memberDirectory]).sortedChildren.flatMap (topModules ["src"]) := rfl
  have hPackage : topModules ["src"] memberDirectory =
      packageModules ["src", "pkg"] "pkg" memberDirectory := rfl
  have hParts : packageParts ["src", "pkg"] "pkg" memberDirectory.children =
      [("__init__.py", [⟨["src", "pkg", "__init__.py"], "pkg", Text.encode "def f():\n f()\n"⟩]),
        ("f.py", [⟨["src", "pkg", "f.py"], "pkg.f", []⟩])] := rfl
  have hModules : packageModules ["src", "pkg"] "pkg" memberDirectory =
      ((packageParts ["src", "pkg"] "pkg" memberDirectory.children).mergeSort
        fun a b => a.1 ≤ b.1).flatMap (·.2) := by
    rw [memberDirectory, packageModules]
    rfl
  rw [hFiles, hSorted, List.flatMap_singleton, hPackage, hModules, hParts,
    List.mergeSort_of_pairwise (by simp)]
  · rfl

def memberLibrary : Library := Library.ofProjects ⟨"", ["repo"]⟩ memberTop [echoProject]

theorem memberLibrary_eq : memberLibrary =
    ⟨[memberSource, sourceOf 1 "pkg.f" "src/pkg/f.py" []],
      [("pkg", memberSource), ("pkg.f", sourceOf 1 "pkg.f" "src/pkg/f.py" [])],
      [(echoProject.ref, [memberSource, sourceOf 1 "pkg.f" "src/pkg/f.py" []])], []⟩ := by
  have hEmpty : Library.readFile ⟨["src", "pkg", "f.py"], "pkg.f", []⟩ = some [] := by cbv
  rw [memberLibrary, Library.ofProjects, List.foldl_cons, List.foldl_nil, filesOf_memberTop]
  simp only [Library.addProject, Library.addFiles, addFile_echo]
  rw [Library.addFile, hEmpty]
  rfl

/-- A function's call of its own name leads nowhere if there is a module of this dotted name. -/
theorem bareName_lost : ∃ pr s call, (provide ⟨"", ["repo"]⟩ memberTop).result = .ok pr ∧
    OwnCall (Library.ofProjects ⟨"", ["repo"]⟩ memberTop (itemsOf pr.projects)) s echoFunction "f"
      call ∧
    s.Writes "f" ∧ s.path = "src/pkg/__init__.py" ∧ pr.resolve call = .ok none := by
  have hFound : ((memberTop.walk entered []).mapM (projectAt ⟨"", ["repo"]⟩)).result =
      .ok [some echoProject, none, none] := by cbv
  have hSound : memberLibrary.Sound := Library.sound_ofProjects _
  have hCall : OwnCall memberLibrary memberSource echoFunction "f" (echoCallIn 0) := by
    refine ownCall_echo ?_
    rw [memberLibrary_eq]
    exact List.mem_pair.mpr (.inl rfl)
  have hModule : memberLibrary.table.lookup "pkg.f" =
      some (sourceOf 1 "pkg.f" "src/pkg/f.py" []) := by
    rw [memberLibrary_eq]
    rfl
  exact ⟨_, memberSource, echoCallIn 0, provide_of_found hFound rfl, hCall, writes_echo _ _ _ _, rfl,
    resolve_ownCall_of_module hSound hCall hModule⟩

end CodeAtlas.Module
