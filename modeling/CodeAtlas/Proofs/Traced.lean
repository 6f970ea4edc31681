import CodeAtlas.Traced
import Mathlib.Data.List.Forall2

/-!
# Results of traced computations

Traced computations are a lawful monad. Whether one succeeds, and with what, is said by `YieldsIf`.

* `YieldsIf.collect`: a collection succeeds if all its parts do, and then holds the items of
  each in turn.
* `Traced.result_mapM_iff`: a list of computations yields the list of what they yield.
-/

namespace CodeAtlas

variable {α β : Type}

/-- The items of a result, none if it is a failure. -/
def itemsOf : Except Failure (List α) → List α
  | .ok xs => xs
  | .error _ => []

theorem exists_of_isOk {x : Except Failure α} (h : x.isOk = true) : ∃ a, x = .ok a := by
  cases x with
  | ok a => exact ⟨a, rfl⟩
  | error f => cases h

theorem ok_of_bind {ε : Type} {x : Except ε α} {f : α → Except ε β} {b : β}
    (h : x >>= f = .ok b) : ∃ a, x = .ok a ∧ f a = .ok b := by
  cases x with
  | error e => cases h
  | ok a => exact ⟨a, rfl, h⟩

/-- A list of results is one of what they hold. -/
theorem mapM_eq_ok_iff {ε : Type} {f : α → Except ε β} {xs : List α} {ys : List β} :
    xs.mapM f = .ok ys ↔ List.Forall₂ (fun a b => f a = .ok b) xs ys := by
  induction xs generalizing ys with
  | nil =>
    rw [List.mapM_nil, List.forall₂_nil_left_iff]
    exact ⟨fun h => (Except.ok.inj h).symm, fun h => h ▸ rfl⟩
  | cons a xs ih =>
    rw [List.mapM_cons, List.forall₂_cons_left_iff]
    constructor
    · intro h
      obtain ⟨b, hb, hRest⟩ := ok_of_bind h
      obtain ⟨bs, hbs, hDone⟩ := ok_of_bind hRest
      exact ⟨b, bs, hb, ih.mp hbs, (Except.ok.inj hDone).symm⟩
    · rintro ⟨b, bs, hb, hbs, rfl⟩
      rw [hb, ih.mpr hbs]
      rfl

/-! ## The laws of the monad -/

namespace Traced

variable {γ : Type}

theorem bind_ok (x : Traced α) : x.bind ok = x := by
  obtain ⟨result, trace⟩ := x
  cases result with
  | ok a => simp [bind, ok]
  | error f => rfl

theorem ok_bind (a : α) (f : α → Traced β) : (ok a).bind f = f a := by
  simp [bind, ok]

theorem bind_assoc (x : Traced α) (f : α → Traced β) (g : β → Traced γ) :
    (x.bind f).bind g = x.bind fun a => (f a).bind g := by
  unfold bind
  cases x.result with
  | error e => rfl
  | ok a =>
    dsimp only
    cases (f a).result with
    | error e => rfl
    | ok b => simp

instance : LawfulMonad Traced := LawfulMonad.mk' Traced bind_ok ok_bind bind_assoc

/-! ## Successes -/

theorem result_bind_of_ok {x : Traced α} {a : α} (h : x.result = .ok a) (f : α → Traced β) :
    (x >>= f).result = (f a).result := by
  rw [result_bind, h]
  rfl

theorem result_bind_of_error {x : Traced α} {e : Failure} (h : x.result = .error e)
    (f : α → Traced β) : (x >>= f).result = .error e := by
  rw [result_bind, h]
  rfl

theorem isOk_bind {x : Traced α} {f : α → Traced β} (hx : x.result.isOk = true)
    (hf : ∀ a, (f a).result.isOk = true) : (x >>= f).result.isOk = true := by
  obtain ⟨a, ha⟩ := exists_of_isOk hx
  rw [result_bind_of_ok ha]
  exact hf a

theorem ok_of_bind {x : Traced α} {f : α → Traced β} {b : β} (h : (x >>= f).result = .ok b) :
    ∃ a, x.result = .ok a ∧ (f a).result = .ok b := by
  rw [result_bind] at h
  cases hx : x.result with
  | error e =>
    rw [hx] at h
    cases h
  | ok a =>
    rw [hx] at h
    exact ⟨a, rfl, h⟩

/-- What is done afterwards matters for the value in question only. -/
theorem bind_congr_of_ok {x : Traced α} {f g : α → Traced β}
    (h : ∀ a, x.result = .ok a → f a = g a) : x >>= f = x >>= g := by
  show bind x f = bind x g
  unfold bind
  cases hx : x.result with
  | error e => rfl
  | ok a =>
    dsimp only
    rw [h a hx]

theorem mapM_congr {f g : α → Traced β} {xs : List α} (h : ∀ a ∈ xs, f a = g a) :
    xs.mapM f = xs.mapM g := by
  induction xs with
  | nil => rfl
  | cons a xs ih =>
    obtain ⟨ha, hxs⟩ := List.forall_mem_cons.mp h
    rw [List.mapM_cons, List.mapM_cons, ha, ih hxs]

theorem exists_of_mem_mapM {f : α → Traced β} {xs : List α} {ys : List β}
    (h : (xs.mapM f).result = .ok ys) {b : β} (hb : b ∈ ys) : ∃ a ∈ xs, (f a).result = .ok b := by
  induction xs generalizing ys with
  | nil =>
    rw [List.mapM_nil] at h
    obtain rfl := Except.ok.inj h
    cases hb
  | cons a xs ih =>
    rw [List.mapM_cons] at h
    obtain ⟨c, hc, hRest⟩ := ok_of_bind h
    obtain ⟨cs, hcs, hDone⟩ := ok_of_bind hRest
    obtain rfl := Except.ok.inj hDone
    rcases List.mem_cons.mp hb with rfl | hb
    · exact ⟨a, List.mem_cons_self, hc⟩
    · obtain ⟨a', ha', hResult⟩ := ih hcs hb
      exact ⟨a', List.mem_cons_of_mem _ ha', hResult⟩

theorem result_mapM (f : α → Traced β) (xs : List α) :
    (xs.mapM f).result = xs.mapM fun a => (f a).result := by
  induction xs with
  | nil => rfl
  | cons a xs ih =>
    rw [List.mapM_cons, List.mapM_cons, result_bind]
    refine congrArg _ (funext fun b => ?_)
    rw [result_bind, ih]
    rfl

/-- A list of computations succeeds if each of them does, with what they yield. -/
theorem result_mapM_iff {f : α → Traced β} {xs : List α} {ys : List β} :
    (xs.mapM f).result = .ok ys ↔ List.Forall₂ (fun a b => (f a).result = .ok b) xs ys := by
  rw [result_mapM, mapM_eq_ok_iff]

theorem isOk_mapM {f : α → Traced β} {xs : List α} (h : ∀ a ∈ xs, (f a).result.isOk = true) :
    (xs.mapM f).result.isOk = true := by
  induction xs with
  | nil => rfl
  | cons a xs ih =>
    rw [List.mapM_cons]
    refine isOk_bind (h a List.mem_cons_self) fun b => ?_
    exact isOk_bind (ih fun c hc => h c (List.mem_cons_of_mem _ hc)) fun bs => rfl

theorem isOk_mapM_iff {f : α → Traced β} {xs : List α} :
    (xs.mapM f).result.isOk = true ↔ ∀ a ∈ xs, (f a).result.isOk = true := by
  refine ⟨fun h => ?_, isOk_mapM⟩
  obtain ⟨ys, hys⟩ := exists_of_isOk h
  have hEach := result_mapM_iff.mp hys
  clear h hys
  induction hEach with
  | nil => exact List.forall_mem_nil _
  | cons hHead _ ih => exact List.forall_mem_cons.mpr ⟨by rw [hHead]; rfl, ih⟩

/-! ## Collections -/

/-- The items of some computations, one after another. -/
def gather (xs : List (Traced (List α))) : Traced (List α) := do return (← xs.mapM id).flatten

theorem gather_nil : gather ([] : List (Traced (List α))) = pure [] := by
  rw [gather, List.mapM_nil, pure_bind]
  rfl

theorem gather_cons (x : Traced (List α)) (xs : List (Traced (List α))) :
    gather (x :: xs) = do return (← x) ++ (← gather xs) := by
  simp only [gather, List.mapM_cons, id_eq, LawfulMonad.bind_assoc, pure_bind, List.flatten_cons]

theorem gather_map_eq (f : β → Traced (List α)) (xs : List β) :
    gather (xs.map f) = do return (← xs.mapM f).flatten := by
  rw [gather, List.mapM_map]
  rfl

theorem gather_singleton (x : Traced (List α)) : gather [x] = x := by
  simp only [gather_cons, gather_nil, pure_bind, List.append_nil, bind_pure]

theorem gather_append (xs ys : List (Traced (List α))) :
    gather (xs ++ ys) = do return (← gather xs) ++ (← gather ys) := by
  induction xs with
  | nil => simp only [List.nil_append, gather_nil, pure_bind, bind_pure]
  | cons x xs ih =>
    simp only [List.cons_append, gather_cons, ih, LawfulMonad.bind_assoc, pure_bind,
      List.append_assoc]

/-- Computations of which each collects some others collect them all. -/
theorem gather_map {f : β → Traced (List α)} {g : β → List (Traced (List α))} {xs : List β}
    (h : ∀ b ∈ xs, f b = gather (g b)) : gather (xs.map f) = gather (xs.flatMap g) := by
  induction xs with
  | nil => rfl
  | cons b xs ih =>
    obtain ⟨hb, hxs⟩ := List.forall_mem_cons.mp h
    rw [List.map_cons, List.flatMap_cons, gather_cons, gather_append, hb, ih hxs]

theorem gather_toList (f : β → Traced (Option α)) (xs : List β) :
    gather (xs.map fun b => Option.toList <$> f b) = do return (← xs.mapM f).filterMap id := by
  induction xs with
  | nil => simp only [List.map_nil, gather_nil, List.mapM_nil, pure_bind, List.filterMap_nil]
  | cons b xs ih =>
    rw [List.map_cons, gather_cons, ih, List.mapM_cons, map_eq_pure_bind]
    simp only [LawfulMonad.bind_assoc, pure_bind]
    refine bind_congr fun a => bind_congr fun as => ?_
    cases a <;> rfl

end Traced

/-! ## Successes and their conditions -/

/-- A computation that succeeds under a condition, and then with `a`. -/
def YieldsIf (x : Traced α) (cond : Prop) (a : α) : Prop := ∀ v, x.result = .ok v ↔ cond ∧ v = a

theorem yieldsIf_ofExcept (r : Except Failure (List α)) :
    YieldsIf (Traced.ofExcept r) (r.isOk = true) (itemsOf r) := by
  intro v
  cases r with
  | ok xs => simp [Traced.ofExcept, itemsOf, Except.isOk, Except.toBool, eq_comm]
  | error f => simp [Traced.ofExcept, Except.isOk, Except.toBool]

theorem yieldsIf_itemsOf (x : Traced (List α)) :
    YieldsIf x (x.result.isOk = true) (itemsOf x.result) := yieldsIf_ofExcept x.result

namespace YieldsIf

variable {x : Traced α} {C D : Prop} {a : α} {b : β}

theorem isOk_iff (h : YieldsIf x C a) : x.result.isOk = true ↔ C := by
  constructor
  · intro hOk
    obtain ⟨v, hv⟩ := exists_of_isOk hOk
    exact ((h v).mp hv).1
  · intro hC
    rw [(h a).mpr ⟨hC, rfl⟩]
    rfl

theorem congr_cond (h : YieldsIf x C a) (hCD : C ↔ D) : YieldsIf x D a := fun v => by
  rw [h v, hCD]

theorem pure (a : α) : YieldsIf (Pure.pure a) True a := fun v => by
  rw [Traced.result_pure, Except.ok.injEq, true_and, eq_comm]

theorem of_error {f : Failure} (h : x.result = .error f) : YieldsIf x False a := fun v => by
  rw [h]
  simp

theorem bind {f : α → Traced β} (hx : YieldsIf x C a) (hf : YieldsIf (f a) D b) :
    YieldsIf (x >>= f) (C ∧ D) b := by
  intro v
  rw [Traced.result_bind]
  constructor
  · intro h
    cases hu : x.result with
    | error e =>
      rw [hu] at h
      cases h
    | ok u =>
      obtain ⟨hC, rfl⟩ := (hx u).mp hu
      rw [hu] at h
      obtain ⟨hD, hv⟩ := (hf v).mp h
      exact ⟨⟨hC, hD⟩, hv⟩
  · rintro ⟨⟨hC, hD⟩, rfl⟩
    rw [(hx a).mpr ⟨hC, rfl⟩]
    exact (hf v).mpr ⟨hD, rfl⟩

theorem noted (n : Note) (h : YieldsIf x C a) : YieldsIf (do Traced.note n; x) C a := h

theorem map {f : α → Traced β} (hx : YieldsIf x C a) (hf : YieldsIf (f a) True b) :
    YieldsIf (x >>= f) C b :=
  (hx.bind hf).congr_cond (by rw [and_true])

theorem mapM {f : α → Traced β} {xs : List α} {C : α → Prop} {g : α → β}
    (h : ∀ x ∈ xs, YieldsIf (f x) (C x) (g x)) :
    YieldsIf (xs.mapM f) (∀ x ∈ xs, C x) (xs.map g) := by
  induction xs with
  | nil =>
    rw [List.mapM_nil]
    exact (pure []).congr_cond (by simp)
  | cons x xs ih =>
    obtain ⟨hx, hxs⟩ := List.forall_mem_cons.mp h
    rw [List.mapM_cons, List.map_cons]
    refine YieldsIf.congr_cond (hx.bind ?_) List.forall_mem_cons.symm
    exact (ih hxs).map (pure _)

/-- A collection needs all its parts. -/
theorem collect {f : α → Traced (List β)} {xs : List α} {C : α → Prop} {g : α → List β}
    (h : ∀ x ∈ xs, YieldsIf (f x) (C x) (g x)) :
    YieldsIf (do return (← xs.mapM f).flatten) (∀ x ∈ xs, C x) (xs.flatMap g) := by
  rw [List.flatMap_def]
  exact (mapM h).map (pure _)

end YieldsIf

end CodeAtlas
