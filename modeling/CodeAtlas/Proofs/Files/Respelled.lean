import CodeAtlas.Proofs.Files.Prune
import CodeAtlas.Proofs.Order
import CodeAtlas.Proofs.Paired

/-!
# Trees with other contents

`Respelled R e e'` says that two trees differ in nothing but the contents of files, which `R` relates by
the names of the files.

* `rel_child?`, `rel_descend?`: what lies at a place of one tree lies at that place of the other one.
* `forall₂_walk`: walks come by the same directories.
-/

namespace CodeAtlas

open Std

/-- Elements that are related and compare in the same way are sorted in the same way. -/
theorem sortBy_of_forall₂ {α β : Type} {R : α → β → Prop} {cmp : α → α → Ordering}
    {cmp' : β → β → Ordering} {xs : List α} {ys : List β} (h : List.Forall₂ R xs ys)
    (hCmp : ∀ a b, R a b → ∀ a' b', R a' b' → cmp a a' = cmp' b b') :
    List.Forall₂ R (sortBy cmp xs) (sortBy cmp' ys) := by
  let Pair := { p : α × β // R p.1 p.2 }
  obtain ⟨ps, rfl, rfl⟩ : ∃ ps : List Pair, xs = ps.map (·.1.1) ∧ ys = ps.map (·.1.2) := by
    induction h with
    | nil => exact ⟨[], rfl, rfl⟩
    | cons hFirst _ ih =>
      obtain ⟨ps, rfl, rfl⟩ := ih
      exact ⟨⟨(_, _), hFirst⟩ :: ps, rfl, rfl⟩
  let order (p q : Pair) := cmp p.1.1 q.1.1
  have hSort : sortBy cmp (ps.map (·.1.1)) = (sortBy order ps).map (·.1.1) :=
    sortBy_map (fun _ _ => rfl) ps
  have hSort' : sortBy cmp' (ps.map (·.1.2)) = (sortBy order ps).map (·.1.2) :=
    sortBy_map (fun p q => (hCmp _ _ p.2 _ _ q.2).symm) ps
  rw [hSort, hSort', List.forall₂_map_left_iff, List.forall₂_map_right_iff]
  exact List.forall₂_same.mpr fun p _ => p.2

namespace Files.Entry

variable {R : String → List UInt8 → List UInt8 → Prop} {e e' : Entry}

/-- The same tree with other contents of files. -/
inductive Respelled (R : String → List UInt8 → List UInt8 → Prop) : Entry → Entry → Prop
  | file {n : String} {bytes bytes' : List UInt8} :
      R n bytes bytes' → Respelled R (.file n bytes) (.file n bytes')
  | broken (n : String) : Respelled R (.broken n) (.broken n)
  | directory {n : String} {cs cs' : List Entry} :
      List.Forall₂ (Respelled R) cs cs' → Respelled R (.directory n cs) (.directory n cs')

namespace Respelled

theorem imp {S : String → List UInt8 → List UInt8 → Prop} (h : Respelled R e e')
    (hImp : ∀ n bytes bytes', R n bytes bytes' → S n bytes bytes') : Respelled S e e' := by
  induction e using inductionOn generalizing e' with
  | file n bytes => cases h with | file hR => exact .file (hImp _ _ _ hR)
  | broken n => cases h with | broken => exact .broken n
  | directory n cs ih =>
    cases h with
    | directory hAll => exact .directory (forall₂_imp_of_mem hAll fun c hc _ _ hRel => ih c hc hRel)

theorem name_eq (h : Respelled R e e') : e'.name = e.name := by cases h <;> rfl

theorem isDirectory_eq (h : Respelled R e e') : e'.isDirectory = e.isDirectory := by
  cases h <;> rfl

theorem isFile_eq (h : Respelled R e e') : e'.isFile = e.isFile := by cases h <;> rfl

theorem exists?_eq (h : Respelled R e e') : e'.exists? = e.exists? := by cases h <;> rfl

theorem rel_content? (h : Respelled R e e') : Option.Rel (R e.name) e.content? e'.content? := by
  cases h with
  | file hR => exact .some hR
  | broken => exact .none
  | directory => exact .none

theorem children (h : Respelled R e e') : List.Forall₂ (Respelled R) e.children e'.children := by
  cases h with
  | file => exact .nil
  | broken => exact .nil
  | directory hAll => exact hAll

theorem sortedChildren (h : Respelled R e e') :
    List.Forall₂ (Respelled R) e.sortedChildren e'.sortedChildren := by
  rw [Entry.sortedChildren, Entry.sortedChildren, mergeSort_eq_sortBy Entry.name,
    mergeSort_eq_sortBy Entry.name]
  refine sortBy_of_forall₂ h.children fun a b hab a' b' hab' => ?_
  rw [compareOn, compareOn, hab.name_eq, hab'.name_eq]

theorem rel_child? (h : Respelled R e e') (n : String) :
    Option.Rel (fun c c' => Respelled R c c' ∧ c.name = n) (e.child? n) (e'.child? n) := by
  have hFound := find?_of_forall₂ (p := fun c : Entry => decide (c.name = n))
    (q := fun c : Entry => decide (c.name = n)) h.children fun c c' hRel => by rw [hRel.name_eq]
  rw [child?, child?]
  generalize e.children.find? _ = o, e'.children.find? _ = o' at hFound ⊢
  cases hFound with
  | none => exact .none
  | some hRel => exact .some ⟨hRel.1, of_decide_eq_true hRel.2⟩

theorem rel_descend? (h : Respelled R e e') (names : List String) :
    Option.Rel (Respelled R) (e.descend? names) (e'.descend? names) := by
  induction names generalizing e e' with
  | nil => exact .some h
  | cons n names ih => exact rel_bind (h.rel_child? n) fun c c' hRel => ih hRel.1

/-- Walks come by the same directories. -/
theorem forall₂_walk (h : Respelled R e e') (keep : List String → String → Bool)
    (path : List String) :
    List.Forall₂ (fun v v' : Visit => v'.path = v.path ∧ Respelled R v.entry v'.entry)
      (e.walk keep path) (e'.walk keep path) := by
  induction e using inductionOn generalizing e' path with
  | file n bytes =>
    cases h
    rw [walk, walk]
    exact .nil
  | broken n =>
    cases h
    rw [walk]
    exact .nil
  | directory n cs ih =>
    cases h with
    | @directory _ _ cs' hAll =>
      have hOwn := forall₂_imp_of_mem hAll
        (S := fun c c' => (Respelled R c c' ∧ ∀ path, List.Forall₂
          (fun v v' : Visit => v'.path = v.path ∧ Respelled R v.entry v'.entry)
          (c.walk keep path) (c'.walk keep path)))
        fun c hc _ _ hRel => ⟨hRel, fun path => ih c hc hRel path⟩
      have hFiltered := filter_of_forall₂ (p := fun c => c.isDirectory && keep path c.name)
        (q := fun c => c.isDirectory && keep path c.name) hOwn fun c c' hRel => by
          rw [hRel.1.isDirectory_eq, hRel.1.name_eq]
      rw [walk_directory, walk_directory]
      have hSorted := sortBy_of_forall₂ hFiltered fun a b hab a' b' hab' =>
        show compareOn Entry.name a a' = compareOn Entry.name b b' by
          rw [compareOn, compareOn, hab.1.1.name_eq, hab'.1.1.name_eq]
      refine .cons ⟨rfl, .directory hAll⟩ (List.rel_flatMap hSorted fun c c' hRel => ?_)
      rw [hRel.1.1.name_eq]
      exact hRel.1.2 _

end Respelled

end Files.Entry

end CodeAtlas
