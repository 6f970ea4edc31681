import CodeAtlas.Assoc
import CodeAtlas.Order
import Mathlib.Data.List.Induction
import Mathlib.Data.List.Nodup

/-!
# Association lists

* `lookup_put_self`, `lookup_put_of_ne`: what is put under a key is found there, and nothing else changes.
* `gather_eq`: gathering puts every key once, in the order in which keys first occur, with its
  values in their order.
-/

namespace CodeAtlas

/-! ## First occurrences -/

section Firsts

variable {α : Type} [BEq α] [LawfulBEq α]

theorem mem_firsts {a : α} {xs : List α} : a ∈ firsts xs ↔ a ∈ xs := List.mem_eraseDups

theorem firsts_concat (xs : List α) (a : α) :
    firsts (xs ++ [a]) = if a ∈ xs then firsts xs else firsts xs ++ [a] := by
  rw [firsts, List.eraseDups_append]
  split
  · simp [List.removeAll, *, firsts]
  · simp [List.removeAll, *, firsts, List.eraseDups_cons]

theorem nodup_firsts (xs : List α) : (firsts xs).Nodup := by
  induction xs using List.reverseRecOn with
  | nil => exact List.nodup_nil
  | append_singleton xs a ih =>
    rw [firsts_concat]
    split
    · exact ih
    · rename_i hNew
      refine List.nodup_append.mpr ⟨ih, List.nodup_singleton a, ?_⟩
      rintro b hb c hc rfl
      obtain rfl := List.mem_singleton.mp hc
      exact hNew (mem_firsts.mp hb)

end Firsts

namespace Assoc

variable {κ α : Type} [BEq κ]

/-! ## Looking up -/

/-- Looking up among other values. -/
theorem lookup_map {β : Type} (f : α → β) (k : κ) (xs : List (κ × α)) :
    (xs.map fun x => (x.1, f x.2)).lookup k = (xs.lookup k).map f := by
  induction xs with
  | nil => rfl
  | cons x xs ih =>
    rw [List.map_cons, List.lookup_cons, List.lookup_cons, ih]
    cases k == x.1 <;> rfl

section Lookup

variable [LawfulBEq κ] {k k' : κ} {a : α} {xs : List (κ × α)}

theorem mem_of_lookup (h : xs.lookup k = some a) : (k, a) ∈ xs := by
  obtain ⟨front, rest, rfl, -⟩ := List.lookup_eq_some_iff.mp h
  exact List.mem_append_right _ List.mem_cons_self

theorem lookup_put_self (k : κ) (a : α) (xs : List (κ × α)) : (put k a xs).lookup k = some a := by
  induction xs with
  | nil => simp [put]
  | cons x xs ih =>
    obtain ⟨k', a'⟩ := x
    rw [put]
    split
    · obtain rfl := eq_of_beq ‹(k' == k) = true›
      exact List.lookup_cons_self
    · rename_i hne
      have hOther : (k == k') = false := beq_eq_false_iff_ne.mpr fun h => hne (by simp [h])
      rw [List.lookup_cons, hOther]
      exact ih

theorem lookup_put_of_ne (h : k' ≠ k) : (put k a xs).lookup k' = xs.lookup k' := by
  have hNew : (k' == k) = false := by simpa using h
  induction xs with
  | nil => simp [put, hNew, List.lookup_cons]
  | cons x xs ih =>
    obtain ⟨k'', a'⟩ := x
    rw [put]
    split
    · obtain rfl := eq_of_beq ‹(k'' == k) = true›
      rw [List.lookup_cons, List.lookup_cons, hNew]
    · rw [List.lookup_cons, List.lookup_cons, ih]

theorem mem_of_mem_put {x : κ × α} (h : x ∈ put k a xs) : x = (k, a) ∨ x ∈ xs := by
  induction xs with
  | nil => exact .inl (List.mem_singleton.mp h)
  | cons y xs ih =>
    obtain ⟨k', a'⟩ := y
    rw [put] at h
    split at h
    · obtain rfl := eq_of_beq ‹(k' == k) = true›
      exact (List.mem_cons.mp h).imp_right (List.mem_cons_of_mem _)
    · obtain rfl | h := List.mem_cons.mp h
      · exact .inr List.mem_cons_self
      · exact (ih h).imp_right (List.mem_cons_of_mem _)

theorem hasKey_iff : hasKey k xs = true ↔ ∃ a, (k, a) ∈ xs := by
  rw [hasKey, List.any_eq_true]
  constructor
  · rintro ⟨⟨k', a⟩, hMem, hk⟩
    obtain rfl := eq_of_beq hk
    exact ⟨a, hMem⟩
  · rintro ⟨a, hMem⟩
    exact ⟨(k, a), hMem, beq_self_eq_true k⟩

/-- A key that has a value leads to one. -/
theorem exists_lookup (h : hasKey k xs = true) : ∃ a, xs.lookup k = some a := by
  obtain ⟨a, hMem⟩ := hasKey_iff.mp h
  cases hLookup : xs.lookup k with
  | some b => exact ⟨b, rfl⟩
  | none =>
    have hNot := List.lookup_eq_none_iff.mp hLookup (k, a) hMem
    simp at hNot

end Lookup

/-! ## Gathering -/

/-- The values that stand under a key, in their order. -/
def valuesOf (k : κ) (pairs : List (κ × α)) : List α := (pairs.filter (·.1 == k)).map (·.2)

theorem valuesOf_flatMap {β : Type} (k : κ) (xs : List β) (f : β → List (κ × α)) :
    valuesOf k (xs.flatMap f) = xs.flatMap fun x => valuesOf k (f x) := by
  rw [valuesOf, List.filter_flatMap, List.map_flatMap]
  rfl

theorem perm_valuesOf {k : κ} {xs ys : List (κ × α)} (h : xs.Perm ys) :
    (valuesOf k xs).Perm (valuesOf k ys) := (h.filter _).map _

theorem valuesOf_append (k : κ) (xs ys : List (κ × α)) :
    valuesOf k (xs ++ ys) = valuesOf k xs ++ valuesOf k ys := by
  simp [valuesOf]

variable [LawfulBEq κ]

theorem mem_valuesOf {k : κ} {a : α} {pairs : List (κ × α)} :
    a ∈ valuesOf k pairs ↔ (k, a) ∈ pairs := by
  rw [valuesOf, List.mem_map]
  constructor
  · rintro ⟨⟨k', a'⟩, hp, rfl⟩
    obtain ⟨hMem, hk⟩ := List.mem_filter.mp hp
    obtain rfl := eq_of_beq hk
    exact hMem
  · exact fun h => ⟨(k, a), List.mem_filter.mpr ⟨h, beq_self_eq_true k⟩, rfl⟩

theorem valuesOf_eq_nil {k : κ} {pairs : List (κ × α)} :
    valuesOf k pairs = [] ↔ k ∉ pairs.map (·.1) := by
  rw [valuesOf, List.map_eq_nil_iff, List.filter_eq_nil_iff, List.mem_map]
  constructor
  · rintro h ⟨p, hp, rfl⟩
    exact h p hp (beq_self_eq_true p.1)
  · intro h p hp hk
    exact h ⟨p, hp, eq_of_beq hk⟩

/-- Pushing under a key that is there appends to its list. -/
theorem push_of_mem {k : κ} (a : α) {ks : List κ} (f : κ → List α) (hNodup : ks.Nodup)
    (hk : k ∈ ks) :
    push k a (ks.map fun k' => (k', f k')) =
      ks.map fun k' => (k', if k' == k then f k' ++ [a] else f k') := by
  induction ks with
  | nil => cases hk
  | cons k' ks ih =>
    obtain ⟨hNot, hNodup⟩ := List.nodup_cons.mp hNodup
    rw [List.map_cons, List.map_cons, push]
    split
    · obtain rfl : k' = k := by simpa using ‹(k' == k) = true›
      refine congrArg _ (List.map_congr_left fun l hl => ?_)
      have hne : ¬ l = k' := fun h => hNot (h ▸ hl)
      simp [hne]
    · rename_i hne
      have hk' : k ∈ ks := by
        rcases List.mem_cons.mp hk with rfl | hk
        · simp at hne
        · exact hk
      rw [ih hNodup hk']

/-- Pushing under a new key puts it last. -/
theorem push_of_not_mem {k : κ} (a : α) {xs : List (κ × List α)} (hk : k ∉ xs.map (·.1)) :
    push k a xs = xs ++ [(k, [a])] := by
  induction xs with
  | nil => rfl
  | cons x xs ih =>
    obtain ⟨k', as⟩ := x
    rw [List.map_cons, List.mem_cons, not_or] at hk
    have hne : (k' == k) = false := by simpa using fun h : k' = k => hk.1 h.symm
    rw [push, hne, ih hk.2]
    rfl

/-- Pushing changes the list under one key only. -/
theorem getD_lookup_push (k l : κ) (a : α) (xs : List (κ × List α)) :
    ((push k a xs).lookup l).getD [] =
      if l == k then (xs.lookup l).getD [] ++ [a] else (xs.lookup l).getD [] := by
  induction xs with
  | nil => cases hl : l == k <;> simp [push, List.lookup_cons, hl]
  | cons x xs ih =>
    obtain ⟨k', as⟩ := x
    rw [push]
    split
    · obtain rfl := eq_of_beq ‹(k' == k) = true›
      cases hl : l == k' <;> simp [List.lookup_cons, hl]
    · rename_i hne
      rw [List.lookup_cons, List.lookup_cons]
      cases hl : l == k' with
      | false => exact ih
      | true =>
        obtain rfl := eq_of_beq hl
        simp [hne]

omit [LawfulBEq κ] in
theorem gather_concat (pairs : List (κ × α)) (p : κ × α) :
    gather (pairs ++ [p]) = push p.1 p.2 (gather pairs) := by
  rw [gather, List.foldl_append]
  rfl

/-- Every key once, in the order in which keys first occur, with its values in their order. -/
theorem gather_eq (pairs : List (κ × α)) :
    gather pairs = (firsts (pairs.map (·.1))).map fun k => (k, valuesOf k pairs) := by
  induction pairs using List.reverseRecOn with
  | nil => rfl
  | append_singleton pairs p ih =>
    obtain ⟨k, a⟩ := p
    have hValues : ∀ l, valuesOf l (pairs ++ [(k, a)]) =
        if l == k then valuesOf l pairs ++ [a] else valuesOf l pairs := by
      intro l
      rw [valuesOf_append]
      by_cases hl : l = k
      · subst hl
        simp [valuesOf]
      · simp [valuesOf, hl, Ne.symm hl]
    rw [gather_concat, ih, List.map_append, List.map_singleton, firsts_concat]
    split
    · rename_i hk
      rw [push_of_mem a _ (nodup_firsts _) (mem_firsts.mpr hk)]
      exact List.map_congr_left fun l _ => by rw [hValues]
    · rename_i hk
      rw [push_of_not_mem a (by simpa using mem_firsts.not.mpr hk), List.map_append]
      congr 1
      · refine List.map_congr_left fun l hl => ?_
        have hne : ¬ l = k := fun h => hk (mem_firsts.mp (h ▸ hl))
        simp [hValues, hne]
      · simp [hValues, valuesOf_eq_nil.mpr hk]

end Assoc

end CodeAtlas
