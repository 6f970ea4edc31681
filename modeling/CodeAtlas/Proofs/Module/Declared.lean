import CodeAtlas.Module.Indexing
import CodeAtlas.Proofs.Assoc

/-!
# What a module declares

Functions and classes have their places as numbers. The functions of a scope stand under their names,
and a signature leads to a function of its own scope and name.

* `Declared.add_induction`: what adding a function and adding a class preserve, reading a module
  preserves.
* `Declared.mem_scope`: which functions stand under a name of a scope.
* `Declared.mem_links`: what signatures lead to.
-/

namespace CodeAtlas.Module

/-- What is numbered by its places is found at its number. -/
theorem getElem?_of_map_eq_range {α : Type} {number : α → Nat} {xs : List α}
    (h : xs.map number = List.range xs.length) {a : α} (ha : a ∈ xs) : xs[number a]? = some a := by
  obtain ⟨n, hn⟩ := List.mem_iff_getElem?.mp ha
  have hMap : (xs.map number)[n]? = some (number a) := by
    rw [List.getElem?_map, hn]
    rfl
  rw [h] at hMap
  obtain ⟨hLt, hNumber⟩ := List.getElem?_eq_some_iff.mp hMap
  rwa [← hNumber, List.getElem_range]

namespace Declared

variable {d : Declared} {owner : Option Nat}

/-- The class in which declarations are to stand is there. -/
def Ready (d : Declared) (owner : Option Nat) : Prop := ∀ n, owner = some n → n < d.allClasses.length

theorem Ready.mono {d' : Declared} (h : d.Ready owner)
    (hLength : d.allClasses.length ≤ d'.allClasses.length) : d'.Ready owner :=
  fun n hn => Nat.lt_of_lt_of_le (h n hn) hLength

@[simp] theorem length_addFunction (d : Declared) (owner : Option Nat) (f : Function) :
    (d.addFunction owner f).allClasses.length = d.allClasses.length := by
  cases owner with
  | none => rfl
  | some n => exact List.length_modify ..

@[simp] theorem declarations_addFunction (d : Declared) (owner : Option Nat) (f : Function) :
    (d.addFunction owner f).declarations = d.declarations ++ [f] := by
  cases owner <;> rfl

section AddClass

variable (d : Declared) (outer : Option Nat) (line : Nat) (name : String) (bases decorators : List Expr)
  (body : List Stmt)

@[simp] theorem length_addClass :
    (d.addClass outer line name bases decorators body).allClasses.length =
      d.allClasses.length + 1 := by
  cases outer with
  | none => exact List.length_append
  | some n => exact (List.length_modify ..).trans List.length_append

@[simp] theorem declarations_addClass :
    (d.addClass outer line name bases decorators body).declarations = d.declarations := by
  cases outer <;> rfl

end AddClass

/-! ## Induction over a module -/

/-- Adding a function and adding a class preserve a property. -/
structure Preserved (P : Declared → Prop) : Prop where
  function : ∀ (d : Declared) (owner : Option Nat) (f : Function), P d → d.Ready owner →
    f.number = d.declarations.length → f.owner = owner → P (d.addFunction owner f)
  cls : ∀ (d : Declared) (outer : Option Nat) (line : Nat) (name : String)
    (bases decorators : List Expr) (body : List Stmt), P d → d.Ready outer →
    P (d.addClass outer line name bases decorators body)

variable {P : Declared → Prop}

mutual

theorem add_induction (hP : Preserved P) (owner : Option Nat) (d : Declared) (s : Stmt)
    (hd : P d) (hReady : d.Ready owner) :
    P (add owner d s) ∧ d.allClasses.length ≤ (add owner d s).allClasses.length := by
  match s with
  | .function line name params body decorators result =>
    rw [add]
    exact ⟨hP.function d owner _ hd hReady rfl rfl, Nat.le_of_eq (length_addFunction ..).symm⟩
  | .classDef line name bases keywords body decorators =>
    rw [add]
    have hNew := hP.cls d owner line name bases decorators body hd hReady
    have hLength := length_addClass d owner line name bases decorators body
    obtain ⟨hDone, hGrown⟩ := addAll_induction hP (some d.allClasses.length) _ body hNew (by
      rintro n ⟨⟩
      omega)
    exact ⟨hDone, by omega⟩
  | .branch line test body orElse =>
    rw [add]
    obtain ⟨hBody, hGrown⟩ := addAll_induction hP owner d body hd hReady
    obtain ⟨hElse, hGrown'⟩ := addAll_induction hP owner _ orElse hBody (hReady.mono hGrown)
    exact ⟨hElse, Nat.le_trans hGrown hGrown'⟩
  | .attempt false body handlers orElse final =>
    rw [add]
    obtain ⟨hBody, hGrown⟩ := addAll_induction hP owner d body hd hReady
    obtain ⟨hHandled, hGrown'⟩ := addHandlers_induction hP owner _ handlers hBody (hReady.mono hGrown)
    have hBefore := Nat.le_trans hGrown hGrown'
    obtain ⟨hElse, hGrown''⟩ := addAll_induction hP owner _ orElse hHandled (hReady.mono hBefore)
    exact ⟨hElse, Nat.le_trans hBefore hGrown''⟩
  | .attempt true .. | .imports .. | .importsFrom .. | .assign .. | .annotated .. | .expr ..
  | .loop .. | .managed .. | .select .. | .elsewhere .. | .plain .. => exact ⟨hd, Nat.le_refl _⟩

theorem addAll_induction (hP : Preserved P) (owner : Option Nat) (d : Declared)
    (ss : List Stmt) (hd : P d) (hReady : d.Ready owner) :
    P (addAll owner d ss) ∧ d.allClasses.length ≤ (addAll owner d ss).allClasses.length := by
  match ss with
  | [] =>
    rw [addAll]
    exact ⟨hd, Nat.le_refl _⟩
  | s :: rest =>
    rw [addAll]
    obtain ⟨hHead, hGrown⟩ := add_induction hP owner d s hd hReady
    obtain ⟨hRest, hGrown'⟩ := addAll_induction hP owner _ rest hHead (hReady.mono hGrown)
    exact ⟨hRest, Nat.le_trans hGrown hGrown'⟩

theorem addHandlers_induction (hP : Preserved P) (owner : Option Nat) (d : Declared)
    (hs : List Handler) (hd : P d) (hReady : d.Ready owner) :
    P (addHandlers owner d hs) ∧
      d.allClasses.length ≤ (addHandlers owner d hs).allClasses.length := by
  match hs with
  | [] =>
    rw [addHandlers]
    exact ⟨hd, Nat.le_refl _⟩
  | .mk kind caught body :: rest =>
    rw [addHandlers]
    obtain ⟨hHead, hGrown⟩ := addAll_induction hP owner d body hd hReady
    obtain ⟨hRest, hGrown'⟩ := addHandlers_induction hP owner _ rest hHead (hReady.mono hGrown)
    exact ⟨hRest, Nat.le_trans hGrown hGrown'⟩

end

/-! ## Scopes -/

/-- The functions of a class or of the module under their names. -/
def scope (d : Declared) : Option Nat → List (String × List Nat)
  | none => d.functions
  | some n => ((d.allClasses[n]?).map (·.methods)).getD []

/-- The names of the functions that are declared in a scope, with their numbers. -/
def named (d : Declared) (owner : Option Nat) : List (String × Nat) :=
  (d.declarations.filter (·.owner = owner)).map fun f => (f.name, f.number)

theorem named_addFunction (d : Declared) (owner owner' : Option Nat) (f : Function) :
    (d.addFunction owner f).named owner' =
      if f.owner = owner' then d.named owner' ++ [(f.name, f.number)] else d.named owner' := by
  rw [named, named, declarations_addFunction, List.filter_append]
  by_cases hOwner : f.owner = owner' <;> simp [hOwner]

theorem scope_addFunction (h : d.Ready owner) (f : Function) (owner' : Option Nat) :
    (d.addFunction owner f).scope owner' =
      if owner = owner' then Assoc.push f.name f.number (d.scope owner') else d.scope owner' := by
  cases owner with
  | none => cases owner' <;> rfl
  | some n =>
    cases owner' with
    | none => rfl
    | some k =>
      have hBound : n < d.allClasses.length := h n rfl
      have hClass : d.allClasses[n]? = some d.allClasses[n] := List.getElem?_eq_getElem hBound
      simp only [addFunction, modifyClass, scope, List.getElem?_modify, Option.some.injEq]
      by_cases hSame : n = k
      · subst hSame
        simp [hClass]
      · simp [hSame]

theorem map_modify_of_eq {α β : Type} {g : α → β} {change : α → α} (h : ∀ a, g (change a) = g a)
    (n : Nat) (xs : List α) : (xs.modify n change).map g = xs.map g := by
  refine List.ext_getElem? fun k => ?_
  rw [List.getElem?_map, List.getElem?_map, List.getElem?_modify]
  by_cases hSame : n = k <;> simp [hSame, Function.comp_def, h]

theorem map_methods_addClass (d : Declared) (outer : Option Nat) (line : Nat) (name : String)
    (bases decorators : List Expr) (body : List Stmt) :
    (d.addClass outer line name bases decorators body).allClasses.map (·.methods) =
      d.allClasses.map (·.methods) ++ [[]] := by
  cases outer with
  | none => exact List.map_append
  | some n =>
    simp only [addClass, modifyClass]
    rw [map_modify_of_eq]
    · exact List.map_append
    · exact fun _ => rfl

theorem map_number_addClass (d : Declared) (outer : Option Nat) (line : Nat) (name : String)
    (bases decorators : List Expr) (body : List Stmt) :
    (d.addClass outer line name bases decorators body).allClasses.map (·.number) =
      d.allClasses.map (·.number) ++ [d.allClasses.length] := by
  cases outer with
  | none => exact List.map_append
  | some n =>
    simp only [addClass, modifyClass]
    rw [map_modify_of_eq]
    · exact List.map_append
    · exact fun _ => rfl

theorem map_number_addFunction (d : Declared) (owner : Option Nat) (f : Function) :
    (d.addFunction owner f).allClasses.map (·.number) = d.allClasses.map (·.number) := by
  cases owner with
  | none => rfl
  | some n =>
    simp only [addFunction, modifyClass]
    rw [map_modify_of_eq]
    exact fun _ => rfl

/-- A new class has no methods yet. -/
theorem scope_addClass (d : Declared) (outer : Option Nat) (line : Nat) (name : String)
    (bases decorators : List Expr) (body : List Stmt) (owner : Option Nat) :
    (d.addClass outer line name bases decorators body).scope owner = d.scope owner := by
  cases owner with
  | none => cases outer <;> rfl
  | some k =>
    rw [scope, scope, ← List.getElem?_map, ← List.getElem?_map, map_methods_addClass]
    generalize d.allClasses.map (·.methods) = before
    obtain hOld | rfl | hBeyond := Nat.lt_trichotomy k before.length
    · rw [List.getElem?_append_left hOld]
    · simp
    · rw [List.getElem?_eq_none (by simp; omega), List.getElem?_eq_none (by omega)]

/-- Numbers are places, and the functions of a scope stand under their names. -/
structure Sound (d : Declared) : Prop where
  numbers : d.declarations.map (·.number) = List.range d.declarations.length
  classNumbers : d.allClasses.map (·.number) = List.range d.allClasses.length
  ready : ∀ f ∈ d.declarations, d.Ready f.owner
  scope_eq : ∀ owner, d.scope owner = Assoc.gather (d.named owner)

theorem sound_empty : Sound empty where
  numbers := rfl
  classNumbers := rfl
  ready f hf := by cases hf
  scope_eq owner := by cases owner <;> rfl

theorem preserved_sound : Preserved Sound where
  function d owner f hd hReady hNumber hOwner := by
    refine ⟨?_, ?_, fun g hg => ?_, fun owner' => ?_⟩
    · rw [declarations_addFunction, List.map_append, hd.numbers, List.length_append,
        List.map_singleton, hNumber, List.length_singleton, List.range_succ]
    · rw [map_number_addFunction, hd.classNumbers, length_addFunction]
    · rw [declarations_addFunction] at hg
      have hLength := Nat.le_of_eq (length_addFunction d owner f).symm
      rcases List.mem_append.mp hg with hg | hg
      · exact (hd.ready g hg).mono hLength
      · obtain rfl := List.mem_singleton.mp hg
        rw [hOwner]
        exact hReady.mono hLength
    · rw [scope_addFunction hReady, named_addFunction, hOwner, hd.scope_eq]
      split
      · exact (Assoc.gather_concat _ (f.name, f.number)).symm
      · rfl
  cls d outer line name bases decorators body hd hReady := by
    refine ⟨?_, ?_, fun f hf => ?_, fun owner => ?_⟩
    · rw [declarations_addClass, hd.numbers]
    · rw [map_number_addClass, hd.classNumbers, length_addClass, List.range_succ]
    · rw [declarations_addClass] at hf
      exact (hd.ready f hf).mono (by rw [length_addClass]; omega)
    · rw [scope_addClass, hd.scope_eq, named, named, declarations_addClass]

theorem sound_addAll (body : List Stmt) : Sound (addAll none empty body) :=
  (addAll_induction preserved_sound none empty body sound_empty nofun).1

namespace Sound

variable {f : Function}

theorem getElem?_number (h : d.Sound) (hf : f ∈ d.declarations) :
    d.declarations[f.number]? = some f := getElem?_of_map_eq_range h.numbers hf

/-- The functions that stand under a name of a scope are those declared there under the name. -/
theorem mem_scope (h : d.Sound) {x : String × List Nat} (hx : x ∈ d.scope owner) :
    f ∈ x.2.filterMap (d.declarations[·]?) ↔
      f ∈ d.declarations ∧ f.owner = owner ∧ f.name = x.1 := by
  rw [h.scope_eq, Assoc.gather_eq] at hx
  obtain ⟨name, -, rfl⟩ := List.mem_map.mp hx
  dsimp only
  rw [List.mem_filterMap]
  constructor
  · rintro ⟨n, hn, hf⟩
    obtain ⟨g, hg, hPair⟩ := List.mem_map.mp (Assoc.mem_valuesOf.mp hn)
    obtain ⟨hMem, hOwner⟩ := List.mem_filter.mp hg
    obtain ⟨rfl, rfl⟩ := Prod.mk.inj hPair
    obtain rfl := Option.some.inj ((h.getElem?_number hMem).symm.trans hf)
    exact ⟨hMem, of_decide_eq_true hOwner, rfl⟩
  · rintro ⟨hMem, hOwner, rfl⟩
    refine ⟨f.number, Assoc.mem_valuesOf.mpr (List.mem_map.mpr ⟨f, ?_, rfl⟩), h.getElem?_number hMem⟩
    exact List.mem_filter.mpr ⟨hMem, decide_eq_true hOwner⟩

end Sound

/-! ## Signatures -/

theorem mem_linksOf {numbers : List Nat} {a b : Nat} (h : (a, b) ∈ linksOf d numbers) :
    ∃ stub f, stub ∈ numbers.filterMap (d.declarations[·]?) ∧
      f ∈ numbers.filterMap (d.declarations[·]?) ∧ stub.isStub = true ∧ f.isStub = false ∧
      stub.number = a ∧ f.number = b := by
  rw [linksOf] at h
  split at h
  · rename_i f hLast
    obtain ⟨stub, hStub, hPair⟩ := List.mem_map.mp h
    obtain ⟨rfl, rfl⟩ := Prod.mk.inj hPair
    obtain ⟨hMem, hIs⟩ := List.mem_filter.mp hStub
    obtain ⟨hMem', hNot⟩ := List.mem_filter.mp (List.mem_of_getLast? hLast)
    exact ⟨stub, f, hMem, hMem', hIs, by simpa using hNot, rfl, rfl⟩
  · cases h

/-- A signature leads to a function of its own scope and name that is no signature. -/
theorem Sound.mem_links (h : d.Sound) {a b : Nat} (hLink : (a, b) ∈ d.links) :
    ∃ stub f, stub ∈ d.declarations ∧ f ∈ d.declarations ∧ stub.owner = f.owner ∧
      stub.name = f.name ∧ stub.isStub = true ∧ f.isStub = false ∧ stub.number = a ∧
      f.number = b := by
  obtain ⟨x, hx, hPair⟩ := List.mem_flatMap.mp hLink
  obtain ⟨owner, hScope⟩ : ∃ owner, x ∈ d.scope owner := by
    rcases List.mem_append.mp hx with hx | hx
    · exact ⟨none, hx⟩
    · obtain ⟨c, hc, hx⟩ := List.mem_flatMap.mp hx
      obtain ⟨n, hn⟩ := List.mem_iff_getElem?.mp (List.mem_of_mem_filter hc)
      refine ⟨some n, ?_⟩
      rw [scope, hn]
      exact hx
  obtain ⟨stub, f, hStub, hf, hIs, hNot, ha, hb⟩ := mem_linksOf hPair
  obtain ⟨hStubMem, hStubOwner, hStubName⟩ := (h.mem_scope hScope).mp hStub
  obtain ⟨hMem, hOwner, hName⟩ := (h.mem_scope hScope).mp hf
  exact ⟨stub, f, hStubMem, hMem, hStubOwner.trans hOwner.symm, hStubName.trans hName.symm, hIs,
    hNot, ha, hb⟩

end Declared

/-! ## Modules -/

namespace Source

variable {s : Source}

/-- A module that has been read from its text. -/
def Read (s : Source) : Prop := ∃ number name path body, s = sourceOf number name path body

/-- What a module declares. -/
def declared (s : Source) : Declared := ⟨s.declarations, s.functions, s.allClasses, s.classes⟩

theorem Read.sound (h : s.Read) : s.declared.Sound := by
  obtain ⟨number, name, path, body, rfl⟩ := h
  exact Declared.sound_addAll body

theorem Read.links_eq (h : s.Read) : s.links = s.declared.links := by
  obtain ⟨number, name, path, body, rfl⟩ := h
  rfl

theorem hasStubs_iff {n : Nat} : s.hasStubs n = true ↔ ∃ a, (a, n) ∈ s.links := by
  rw [hasStubs, List.any_eq_true]
  constructor
  · rintro ⟨⟨a, b⟩, hMem, hb⟩
    obtain rfl : b = n := of_decide_eq_true hb
    exact ⟨a, hMem⟩
  · rintro ⟨a, hMem⟩
    exact ⟨(a, n), hMem, decide_eq_true rfl⟩

/-- Where a function has signatures of its own, one of them stands beside it, and that has none. -/
theorem Read.exists_shown (h : s.Read) {owner : Option Nat} {x : String × List Nat}
    (hx : x ∈ s.declared.scope owner) {f : Function} (hf : f ∈ x.2.filterMap s.function?) :
    ∃ g ∈ x.2.filterMap s.function?, s.hasStubs g.number = false := by
  cases hStubs : s.hasStubs f.number with
  | false => exact ⟨f, hf, hStubs⟩
  | true =>
    have hSound := h.sound
    obtain ⟨hMem, hOwner, hName⟩ := (hSound.mem_scope hx).mp hf
    obtain ⟨a, hLink⟩ := hasStubs_iff.mp hStubs
    obtain ⟨stub, g, hStub, hg, hOwner', hName', hIs, -, -, hNumber⟩ :=
      hSound.mem_links (h.links_eq ▸ hLink)
    obtain rfl : g = f := by
      have hSame := hSound.getElem?_number hg
      rw [hNumber, hSound.getElem?_number hMem] at hSame
      exact (Option.some.inj hSame).symm
    refine ⟨stub, (hSound.mem_scope hx).mpr ⟨hStub, hOwner'.trans hOwner, hName'.trans hName⟩, ?_⟩
    -- what a signature leads to is no signature itself
    refine Bool.eq_false_iff.mpr fun hStubs' => ?_
    obtain ⟨b, hLink'⟩ := hasStubs_iff.mp hStubs'
    obtain ⟨-, k, -, hk, -, -, -, hNot, -, hNumber'⟩ := hSound.mem_links (h.links_eq ▸ hLink')
    have hSame := hSound.getElem?_number hk
    rw [hNumber', hSound.getElem?_number hStub] at hSame
    obtain rfl := Option.some.inj hSame
    rw [hIs] at hNot
    cases hNot

end Source

end CodeAtlas.Module
