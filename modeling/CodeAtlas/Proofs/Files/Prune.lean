import CodeAtlas.Proofs.Files.Place
import CodeAtlas.Proofs.Order

/-!
# Trees without some places

`Entry.prune H e` is the tree `e` without the places that `H` hides. A function of trees that has the
same value for a tree and for what is left of it does not look at hidden places.

* `descend?_prune`: nothing else is missing.
* `flatMap_walk_prune`: a walk collects the same if nothing is collected at hidden places.
-/

namespace CodeAtlas.Files

open Std

namespace Entry

/-- What is hidden below a place. -/
def under (H : List String → Bool) (front : List String) : List String → Bool :=
  fun names => H (front ++ names)

theorem under_under (H : List String → Bool) (front rest : List String) :
    under (under H front) rest = under H (front ++ rest) := by
  funext names
  rw [under, under, under, List.append_assoc]

mutual

/-- The tree without hidden places. -/
def prune (H : List String → Bool) : Entry → Entry
  | .file n bytes => .file n bytes
  | .broken n => .broken n
  | .directory n cs => .directory n (pruneAll H cs)

def pruneAll (H : List String → Bool) : List Entry → List Entry
  | [] => []
  | c :: rest =>
    if H [c.name] then pruneAll H rest else c.prune (under H [c.name]) :: pruneAll H rest

end

variable {H : List String → Bool} {e : Entry}

theorem pruneAll_eq (H : List String → Bool) (cs : List Entry) :
    pruneAll H cs = (cs.filter fun c => !H [c.name]).map fun c => c.prune (under H [c.name]) := by
  induction cs with
  | nil => rw [pruneAll, List.filter_nil, List.map_nil]
  | cons c cs ih =>
    rw [pruneAll, List.filter_cons, ih]
    cases H [c.name] <;> rfl

@[simp] theorem name_prune (H : List String → Bool) (e : Entry) : (e.prune H).name = e.name := by
  cases e <;> rfl

@[simp] theorem label_prune (H : List String → Bool) (e : Entry) : (e.prune H).label = e.label := by
  cases e <;> rfl

/-- Entries are chosen before or after what is hidden below them goes. -/
theorem filter_pruneAll {p : Entry → Bool} {cs : List Entry} (h : ∀ H c, p (prune H c) = p c) :
    (pruneAll H cs).filter p =
      ((cs.filter p).filter fun c => !H [c.name]).map fun c => c.prune (under H [c.name]) := by
  rw [pruneAll_eq, List.filter_map, List.filter_filter, List.filter_filter]
  congr 1
  refine List.filter_congr fun c _ => ?_
  rw [Function.comp_apply, h, Bool.and_comm]

theorem children_prune (H : List String → Bool) (e : Entry) :
    (e.prune H).children =
      (e.children.filter fun c => !H [c.name]).map fun c => c.prune (under H [c.name]) := by
  cases e with
  | file n bytes => rfl
  | broken n => rfl
  | directory n cs => exact pruneAll_eq H cs

theorem child?_prune_of_hidden {n : String} (h : H [n] = true) : (e.prune H).child? n = none := by
  rw [child?, List.find?_eq_none]
  intro c hc hName
  rw [children_prune] at hc
  obtain ⟨x, hx, rfl⟩ := List.mem_map.mp hc
  obtain ⟨-, hVisible⟩ := List.mem_filter.mp hx
  rw [decide_eq_true_eq, name_prune] at hName
  rw [hName, h] at hVisible
  cases hVisible

theorem child?_prune {n : String} (h : H [n] = false) :
    (e.prune H).child? n = (e.child? n).map (prune (under H [n])) := by
  rw [child?, child?, children_prune, List.find?_map, List.find?_filter]
  have hSame : ∀ c : Entry, decide ((!H [c.name]) = true ∧
      ((fun c => decide (c.name = n)) ∘ fun c => c.prune (under H [c.name])) c = true) =
        decide (c.name = n) := by
    intro c
    rw [Function.comp_apply, name_prune]
    by_cases hName : c.name = n
    · simp [hName, h]
    · simp [hName]
  simp only [hSame]
  cases hFind : e.children.find? fun c => decide (c.name = n) with
  | none => rfl
  | some c =>
    obtain rfl : c.name = n := by simpa using List.find?_some hFind
    rfl

/-- No place on the way is hidden, the last one included. -/
def Visible (H : List String → Bool) (names : List String) : Prop :=
  ∀ front, front ≠ [] → front <+: names → H front = false

theorem visible_nil : Visible H [] := fun _ hne hPrefix => absurd (List.prefix_nil.mp hPrefix) hne

theorem visible_cons {n : String} {names : List String} :
    Visible H (n :: names) ↔ H [n] = false ∧ Visible (under H [n]) names := by
  constructor
  · intro h
    refine ⟨h [n] (by simp) (by simp), fun front _ hPrefix => ?_⟩
    exact h (n :: front) (by simp) (List.cons_prefix_cons.mpr ⟨rfl, hPrefix⟩)
  · rintro ⟨hHead, hRest⟩ front hne hPrefix
    cases front with
    | nil => exact absurd rfl hne
    | cons m front =>
      obtain ⟨hName, hTail⟩ := List.cons_prefix_cons.mp hPrefix
      rw [hName]
      by_cases hEmpty : front = []
      · rw [hEmpty]
        exact hHead
      · exact hRest front hEmpty hTail

/-- Nothing is missing at a place that is not hidden, nor on the way to it. -/
theorem descend?_prune {names : List String} (h : Visible H names) :
    (e.prune H).descend? names = (e.descend? names).map (prune (under H names)) := by
  induction names generalizing e H with
  | nil => rfl
  | cons n names ih =>
    obtain ⟨hHead, hRest⟩ := visible_cons.mp h
    rw [descend?, descend?, child?_prune hHead]
    cases e.child? n with
    | none => rfl
    | some c =>
      have hDown := ih (e := c) hRest
      rwa [under_under] at hDown

theorem descend?_prune_of_not_visible {names : List String} (h : ¬ Visible H names) :
    (e.prune H).descend? names = none := by
  induction names generalizing e H with
  | nil => exact absurd visible_nil h
  | cons n names ih =>
    rw [descend?]
    cases hHead : H [n] with
    | true => rw [child?_prune_of_hidden hHead, Option.bind_none]
    | false =>
      rw [child?_prune hHead]
      cases e.child? n with
      | none => rfl
      | some c => exact ih fun hRest => h (visible_cons.mpr ⟨hHead, hRest⟩)

/-! ## What is hidden -/

theorem Visible.below {front names : List String} (h : Visible H (front ++ names)) :
    Visible (under H front) names := fun rest hne hPrefix =>
  h (front ++ rest) (by simp [hne]) ((List.prefix_append_right_inj front).mpr hPrefix)

theorem Visible.above {front names : List String} (h : Visible H (front ++ names)) :
    Visible H front := fun rest hne hPrefix => h rest hne (hPrefix.trans (List.prefix_append _ _))

theorem children_prune_all (e : Entry) : (e.prune fun _ => true).children = [] := by
  rw [children_prune]
  simp

/-- All that is hidden has a property. -/
def HidesOnly (H : List String → Bool) (P : List String → Entry → Prop) (e : Entry) : Prop :=
  ∀ names c, e.Leads names c → ¬ Visible H names → P names c

namespace HidesOnly

variable {P Q : List String → Entry → Prop} {c : Entry}

theorem imp (h : e.HidesOnly H P) (hImp : ∀ names c, e.Leads names c → P names c → Q names c) :
    e.HidesOnly H Q := fun names c hLeads hHidden => hImp names c hLeads (h names c hLeads hHidden)

theorem below {names : List String} (h : e.HidesOnly H P) (hLeads : e.Leads names c) :
    c.HidesOnly (under H names) fun rest x => P (names ++ rest) x := fun _ _ hRest hHidden =>
  h _ _ (hLeads.trans hRest) fun hVisible => hHidden hVisible.below

/-- Below a place that is not visible everything can be hidden. -/
theorem all {names : List String} (h : e.HidesOnly H P) (hLeads : e.Leads names c)
    (hHidden : ¬ Visible H names) :
    c.HidesOnly (fun _ => true) fun rest x => P (names ++ rest) x := fun _ _ hRest _ =>
  h _ _ (hLeads.trans hRest) fun hVisible => hHidden hVisible.above

theorem child?_eq (h : e.HidesOnly H P) {n : String} (hNot : ∀ c, e.child? n = some c → ¬ P [n] c) :
    (e.prune H).child? n = (e.child? n).map (prune (under H [n])) := by
  cases hHead : H [n] with
  | false => exact child?_prune hHead
  | true =>
    cases hChild : e.child? n with
    | none => rw [child?_prune_of_hidden hHead, Option.map_none]
    | some c =>
      refine absurd (h _ _ (leads_of_child? hChild) fun hVisible => ?_) (hNot c hChild)
      rw [(visible_cons.mp hVisible).1] at hHead
      cases hHead

end HidesOnly

section Children

variable {α : Type} {f : Entry → List α}

/-- What is collected from the children of an entry if hidden ones contribute nothing. -/
theorem flatMap_children_prune
    (hSame : ∀ c ∈ e.children, H [c.name] = false → f (c.prune (under H [c.name])) = f c)
    (hHidden : ∀ c ∈ e.children, H [c.name] = true → f c = []) :
    (e.prune H).children.flatMap f = e.children.flatMap f := by
  rw [children_prune]
  exact flatMap_filter_map (fun c hc hVisible => hSame c hc (by simpa using hVisible))
    fun c hc hHides => hHidden c hc (by simpa using hHides)

theorem flatMap_sorted_children_prune
    (hSame : ∀ c ∈ e.children, H [c.name] = false → f (c.prune (under H [c.name])) = f c)
    (hHidden : ∀ c ∈ e.children, H [c.name] = true → f c = []) :
    (sortBy (compareOn Entry.name) (e.prune H).children).flatMap f =
      (sortBy (compareOn Entry.name) e.children).flatMap f := by
  rw [children_prune]
  refine flatMap_sortBy_filter (fun c c' => by rw [compareOn, compareOn, name_prune, name_prune])
    (fun c hc hVisible => hSame c hc (by simpa using hVisible))
    fun c hc hHides => hHidden c hc (by simpa using hHides)

end Children

/-- Two trees are the same apart from places whose entries have a property in either of them. -/
def AlikeUpTo (P : List String → Entry → Prop) (e e' : Entry) : Prop :=
  ∃ H, e'.prune H = e.prune H ∧ e.HidesOnly H P ∧ e'.HidesOnly H P

namespace AlikeUpTo

variable {P Q : List String → Entry → Prop} {e' : Entry}

theorem imp (h : AlikeUpTo P e e') (hImp : ∀ names c, P names c → Q names c) :
    AlikeUpTo Q e e' := by
  obtain ⟨H, hPrune, hHides, hHides'⟩ := h
  exact ⟨H, hPrune, hHides.imp fun names c _ => hImp names c,
    hHides'.imp fun names c _ => hImp names c⟩

/-- What does not depend on the places in question is the same for both. -/
theorem eq {β : Type} {f : Entry → β} (h : AlikeUpTo P e e')
    (hBlind : ∀ H e, HidesOnly H P e → f (e.prune H) = f e) : f e' = f e := by
  obtain ⟨H, hPrune, hHides, hHides'⟩ := h
  rw [← hBlind H e hHides, ← hBlind H e' hHides', hPrune]

end AlikeUpTo

/-! ## Walks -/

variable {keep : List String → String → Bool} {path : List String}

theorem walk_directory (n : String) (cs : List Entry) :
    (directory n cs).walk keep path = ⟨path, .directory n cs⟩ ::
      (sortBy (compareOn Entry.name) (cs.filter fun c => c.isDirectory && keep path c.name)).flatMap
        fun c => c.walk keep (path ++ [c.name]) := by
  have hSort : sortBy (compareOn Prod.fst)
      ((cs.filter fun c => c.isDirectory && keep path c.name).map
        fun c => (c.name, c.walk keep (path ++ [c.name]))) =
      (sortBy (compareOn Entry.name)
        (cs.filter fun c => c.isDirectory && keep path c.name)).map
          fun c => (c.name, c.walk keep (path ++ [c.name])) := sortBy_map (fun _ _ => rfl) _
  rw [walk, walks_eq, mergeSort_eq_sortBy Prod.fst, hSort, List.flatMap_map]

/-- What a walk collects does not depend on hidden places if nothing is collected there. -/
theorem flatMap_walk_prune {α : Type} {g : Visit → List α}
    (hSame : ∀ names d, e.Leads names d → Kept keep path names → Visible H names →
      g ⟨path ++ names, d.prune (under H names)⟩ = g ⟨path ++ names, d⟩)
    (hHidden : ∀ names d, e.Leads names d → Kept keep path names → ¬ Visible H names →
      g ⟨path ++ names, d⟩ = []) :
    ((e.prune H).walk keep path).flatMap g = (e.walk keep path).flatMap g := by
  induction e using inductionOn generalizing H path with
  | file n bytes =>
    rw [prune]
  | broken n =>
    rw [prune]
  | directory n cs ih =>
    have hTop := hSame [] _ (.here _) trivial visible_nil
    rw [List.append_nil] at hTop
    have hPrune : (directory n cs).prune (under H []) = .directory n (pruneAll H cs) := by
      rw [prune]
      rfl
    rw [hPrune] at hTop
    rw [prune, walk_directory, walk_directory, List.flatMap_cons, List.flatMap_cons, hTop,
      filter_pruneAll fun H c => by rw [name_prune, isDirectory_congr (label_prune H c)],
      List.flatMap_assoc, List.flatMap_assoc]
    congr 1
    refine flatMap_sortBy_filter (fun c c' => by rw [compareOn, compareOn, name_prune, name_prune])
      ?_ ?_
    · intro c hc hVisible
      obtain ⟨hMem, hKeep⟩ := List.mem_filter.mp hc
      obtain ⟨-, hKeep⟩ := Bool.and_eq_true_iff.mp hKeep
      have hHead : H [c.name] = false := by simpa using hVisible
      rw [name_prune]
      refine ih c hMem ?_ ?_
      · intro names d hLeads hKept hRest
        have h := hSame (c.name :: names) d (.down hMem hLeads) ⟨hKeep, hKept⟩
          (visible_cons.mpr ⟨hHead, hRest⟩)
        rw [under_under, List.append_assoc]
        exact h
      · intro names d hLeads hKept hRest
        have h := hHidden (c.name :: names) d (.down hMem hLeads) ⟨hKeep, hKept⟩
          fun hAll => hRest (visible_cons.mp hAll).2
        rw [List.append_assoc]
        exact h
    · intro c hc hHides
      obtain ⟨hMem, hKeep⟩ := List.mem_filter.mp hc
      obtain ⟨-, hKeep⟩ := Bool.and_eq_true_iff.mp hKeep
      have hHead : H [c.name] = true := by simpa using hHides
      refine List.flatMap_eq_nil_iff.mpr fun v hv => ?_
      obtain ⟨names, hPath, hLeads, -, hKept⟩ := mem_walk.mp hv
      have h := hHidden (c.name :: names) v.entry (.down hMem hLeads) ⟨hKeep, hKept⟩ fun hAll => by
        rw [(visible_cons.mp hAll).1] at hHead
        cases hHead
      rw [List.append_assoc] at hPath
      have hVisit : v = ⟨path ++ c.name :: names, v.entry⟩ := by
        rw [← List.singleton_append, ← hPath]
      rw [hVisit]
      exact h

/-- What a walk collects from the children of directories, if it depends on single entries. -/
theorem flatMap_walk_children_prune {α : Type} {P : List String → Entry → Prop}
    {look : List String → Entry → List α} (h : e.HidesOnly H P)
    (hSame : ∀ H place c, look place (prune H c) = look place c)
    (hNone : ∀ names c, Kept keep path names → P (names ++ [c.name]) c →
      look (path ++ names) c = []) :
    ((e.prune H).walk keep path).flatMap (fun v => v.entry.children.flatMap (look v.path)) =
      (e.walk keep path).flatMap fun v => v.entry.children.flatMap (look v.path) := by
  refine flatMap_walk_prune ?_ ?_
  · intro names d hLeads hKept _
    refine flatMap_children_prune (fun c _ _ => hSame _ _ c) fun c hc hHead => ?_
    have hHidden : ¬ Visible H (names ++ [c.name]) := fun hVisible => by
      rw [(visible_cons.mp hVisible.below).1] at hHead
      cases hHead
    exact hNone names c hKept (h _ _ (hLeads.trans (leads_of_mem hc)) hHidden)
  · intro names d hLeads hKept hHidden
    refine List.flatMap_eq_nil_iff.mpr fun c hc => hNone names c hKept ?_
    exact h _ _ (hLeads.trans (leads_of_mem hc)) fun hVisible => hHidden hVisible.above

end Entry

end CodeAtlas.Files
