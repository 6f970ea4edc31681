import CodeAtlas.Proofs.Callgraph.Graph
import CodeAtlas.Proofs.Callgraph.Group
import CodeAtlas.Proofs.Json.Layout
import CodeAtlas.Proofs.Order
import CodeAtlas.Proofs.Rearranged
import CodeAtlas.Report
import Mathlib.Data.Multiset.AddSub

/-!
# Rearranged indexes

Every list of an index is written in order, so the order in which it comes makes no difference as
long as elements that the order takes for equal are written alike.

* `map_sortBy_eq`: the written form of one list.
* `render_eq_iff_keysSeparate`: an index is written the same way in all its arrangements exactly if
  the orders separate what is written differently.
-/

namespace CodeAtlas

open Std

variable {α β : Type}

/-! ## One list -/

/-- Elements that an order takes for equal are shown alike. -/
def Separates (order : α → α → Ordering) (sh : α → β) (xs : List α) : Prop :=
  ∀ a ∈ xs, ∀ b ∈ xs, order a b = .eq → sh a = sh b

section OneList

variable {order : α → α → Ordering} [TransCmp order] {sh : α → β} {xs ys : List α}

/-- The first element of a list that is equal to a given one. -/
def representative (order : α → α → Ordering) (xs : List α) (a : α) : α :=
  (xs.find? (order a · == .eq)).getD a

theorem representative_congr {a b : α} (h : order a b = .eq) (ha : a ∈ xs) :
    representative order xs a = representative order xs b := by
  have hSame : (order a · == .eq) = (order b · == .eq) := by
    funext c
    rw [TransCmp.congr_left h]
  have hSelf : order a a = .eq := ReflCmp.compare_self
  have hFound : (xs.find? (order a · == .eq)).isSome = true :=
    List.find?_isSome.mpr ⟨a, ha, by rw [hSelf]; rfl⟩
  obtain ⟨c, hc⟩ := Option.isSome_iff_exists.mp hFound
  rw [representative, representative, ← hSame, hc]
  rfl

theorem representative_spec {a : α} (ha : a ∈ xs) :
    representative order xs a ∈ xs ∧ order a (representative order xs a) = .eq := by
  have hSelf : order a a = .eq := ReflCmp.compare_self
  have hFound : (xs.find? (order a · == .eq)).isSome = true :=
    List.find?_isSome.mpr ⟨a, ha, by rw [hSelf]; rfl⟩
  obtain ⟨c, hc⟩ := Option.isSome_iff_exists.mp hFound
  rw [representative, hc]
  exact ⟨List.mem_of_find?_eq_some hc, by simpa using List.find?_some hc⟩

theorem pairwise_representative {zs : List α}
    (h : ∀ z ∈ zs, order z (representative order xs z) = .eq) :
    ((sortBy order zs).map (representative order xs)).Pairwise
      fun a b => (order a b).isLE = true := by
  have hSorted : ∀ z ∈ sortBy order zs, order z (representative order xs z) = .eq :=
    fun z hz => h z ((sortBy_perm order zs).mem_iff.mp hz)
  refine List.pairwise_map.mpr ((pairwise_sortBy order zs).imp_of_mem ?_)
  intro a b ha hb hle
  rwa [← TransCmp.congr_left (hSorted a ha), ← TransCmp.congr_right (hSorted b hb)]

/-- Rearranged lists are shown alike if their order separates what is shown differently. -/
theorem map_sortBy_eq {R : α → α → Prop} (h : RearrangedBy R xs ys)
    (hOrder : ∀ a b, R a b → order a b = .eq) (hShow : ∀ a ∈ xs, ∀ b, R a b → sh a = sh b)
    (hSeparates : Separates order sh xs) :
    (sortBy order xs).map sh = (sortBy order ys).map sh := by
  -- both lists are sorted lists of the same representatives
  have hRep : ∀ a ∈ xs, ∀ b, R a b → representative order xs a = representative order xs b :=
    fun a ha b hab => representative_congr (hOrder a b hab) ha
  have hLeft : ∀ a ∈ xs, order a (representative order xs a) = .eq ∧
      sh a = sh (representative order xs a) := by
    intro a ha
    obtain ⟨hMem, hEq⟩ : representative order xs a ∈ xs ∧
        order a (representative order xs a) = .eq := representative_spec ha
    exact ⟨hEq, hSeparates a ha _ hMem hEq⟩
  have hRight : ∀ b ∈ ys, order b (representative order xs b) = .eq ∧
      sh b = sh (representative order xs b) := by
    intro b hb
    obtain ⟨a, ha, hab⟩ := h.exists_left hb
    rw [← hRep a ha b hab, ← hShow a ha b hab]
    exact ⟨TransCmp.eq_trans (OrientedCmp.eq_symm (hOrder a b hab)) (hLeft a ha).1, (hLeft a ha).2⟩
  have hPerm : ((sortBy order xs).map (representative order xs)).Perm
      ((sortBy order ys).map (representative order xs)) :=
    ((sortBy_perm order xs).map _).trans ((h.map_perm hRep).trans ((sortBy_perm order ys).map _).symm)
  have hSame : (sortBy order xs).map (representative order xs) =
      (sortBy order ys).map (representative order xs) := by
    refine hPerm.eq_of_pairwise ?_ (pairwise_representative fun a ha => (hLeft a ha).1)
      (pairwise_representative fun b hb => (hRight b hb).1)
    intro u v hu hv huv hvu
    obtain ⟨a, ha, rfl⟩ := List.mem_map.mp hu
    obtain ⟨b, hb, rfl⟩ := List.mem_map.mp (hPerm.mem_iff.mpr hv)
    have haXs := (sortBy_perm order xs).mem_iff.mp ha
    have hbXs := (sortBy_perm order xs).mem_iff.mp hb
    have hEq : order a b = .eq := by
      rw [TransCmp.congr_left (hLeft a haXs).1, TransCmp.congr_right (hLeft b hbXs).1]
      exact OrientedCmp.isLE_antisymm huv hvu
    exact representative_congr hEq haXs
  calc (sortBy order xs).map sh
      = ((sortBy order xs).map (representative order xs)).map sh := by
        rw [List.map_map]
        exact List.map_congr_left fun a ha => (hLeft a ((sortBy_perm order xs).mem_iff.mp ha)).2
    _ = ((sortBy order ys).map (representative order xs)).map sh := by rw [hSame]
    _ = (sortBy order ys).map sh := by
        rw [List.map_map]
        exact List.map_congr_left fun b hb =>
          ((hRight b ((sortBy_perm order ys).mem_iff.mp hb)).2).symm

theorem map_sortBy_eq_of_perm (h : xs.Perm ys) (hSeparates : Separates order sh xs) :
    (sortBy order xs).map sh = (sortBy order ys).map sh := by
  refine map_sortBy_eq (RearrangedBy.of_perm h fun _ => rfl) ?_ ?_ hSeparates
  · rintro a b rfl
    exact ReflCmp.compare_self
  · rintro a - b rfl
    rfl

/-- If rearranging a list never shows, then its order separates what is shown differently. -/
theorem separates_of_map_sortBy_eq (hKeys : ∀ a b, sh a = sh b → order a b = .eq)
    (h : ∀ ys, xs.Perm ys → (sortBy order xs).map sh = (sortBy order ys).map sh) :
    Separates order sh xs := by
  classical
  intro a ha b hb hab
  by_cases hSame : a = b
  · rw [hSame]
  obtain ⟨rest, hRest⟩ : ∃ rest, xs.Perm (a :: b :: rest) := by
    have hb' : b ∈ xs.erase a := (List.mem_erase_of_ne (Ne.symm hSame)).mpr hb
    exact ⟨(xs.erase a).erase b,
      (List.perm_cons_erase ha).trans ((List.perm_cons_erase hb').cons a)⟩
  -- what is shown of the class of `a` starts with the first of its elements
  let shown (v : β) : Bool := ∃ c, sh c = v ∧ order a c = .eq
  have hShown : shown ∘ sh = (order a · == .eq) := by
    funext c
    rw [Bool.eq_iff_iff, Function.comp_apply, decide_eq_true_iff, beq_iff_eq]
    constructor
    · rintro ⟨d, hd, had⟩
      exact TransCmp.eq_trans had (hKeys d c hd)
    · exact fun hac => ⟨c, rfl, hac⟩
  have hClass : ∀ ys, xs.Perm ys → ((sortBy order xs).map sh).filter shown =
      (ys.filter (order a · == .eq)).map sh := by
    intro ys hys
    rw [h ys hys, List.filter_map, hShown, filter_sortBy]
  have hFirst : ∀ c ys, order a c = .eq → xs.Perm (c :: ys) →
      (((sortBy order xs).map sh).filter shown).head? = some (sh c) := by
    intro c ys hac hys
    rw [hClass _ hys, List.filter_cons_of_pos (by simpa using hac)]
    rfl
  have hBoth := (hFirst a _ ReflCmp.compare_self hRest).symm.trans
    (hFirst b _ hab (hRest.trans (.swap b a rest)))
  exact Option.some.inj hBoth

end OneList

theorem sortBy_eq_of_perm [Ord α] [TransOrd α] [LawfulEqOrd α] {xs ys : List α}
    (h : xs.Perm ys) : sortBy compare xs = sortBy compare ys := by
  refine List.Perm.eq_of_pairwise ?_ (pairwise_sortBy compare xs) (pairwise_sortBy compare ys)
    ((sortBy_perm compare xs).trans (h.trans (sortBy_perm compare ys).symm))
  intro a b _ _ hab hba
  exact LawfulEqOrd.eq_of_compare (OrientedCmp.isLE_antisymm hab hba)

theorem sortedSet_eq_of_perm [Ord α] [TransOrd α] [LawfulEqOrd α] [BEq α] {xs ys : List α}
    (h : xs.Perm ys) : sortedSet xs = sortedSet ys := by
  rw [sortedSet, sortedSet, sortBy_eq_of_perm h]

/-! ## Rearranged records -/

/-- A command with its texts in other orders. -/
structure Command.Rearranged (c d : Command) : Prop where
  name : c.name = d.name
  aliases : c.aliases.Perm d.aliases
  options : c.options.Perm d.options
  arguments : c.arguments.Perm d.arguments
  file : c.file = d.file
  line : c.line = d.line

theorem Command.Rearranged.order_eq_eq {c d : Command} (h : c.Rearranged d) :
    c.order d = .eq := by
  show (compare c.name d.name).then ((compare c.file d.file).then (compare c.line d.line)) = .eq
  rw [h.name, h.file, h.line]
  simp

structure ProjectEntrypoints.Rearranged (s t : ProjectEntrypoints) : Prop where
  project : s.project = t.project
  entrypoints : s.entrypoints.Perm t.entrypoints

theorem ProjectEntrypoints.Rearranged.order_eq_eq {s t : ProjectEntrypoints} (h : s.Rearranged t) :
    s.order t = .eq := ProjectRef.order_eq_eq.mpr h.project

structure Callgraph.Rearranged (g h : Callgraph) : Prop where
  root : g.root = h.root
  depth : g.depth = h.depth
  truncated : g.truncated = h.truncated
  edges : g.edges.Perm h.edges

structure ProjectCallgraphs.Rearranged (p q : ProjectCallgraphs) : Prop where
  project : p.project = q.project
  graphs : RearrangedBy Callgraph.Rearranged p.graphs q.graphs

theorem ProjectCallgraphs.Rearranged.order_eq_eq {p q : ProjectCallgraphs} (h : p.Rearranged q) :
    p.order q = .eq := ProjectRef.order_eq_eq.mpr h.project

/-- An index with its lists, and those inside them, in other orders. -/
structure Index.Rearranged (index other : Index) : Prop where
  about : index.about = other.about
  projects : index.projects.Perm other.projects
  tree : Option.Rel List.Perm index.tree other.tree
  entrypoints : Option.Rel (RearrangedBy ProjectEntrypoints.Rearranged) index.entrypoints
    other.entrypoints
  commands : Option.Rel (RearrangedBy Command.Rearranged) index.commands other.commands
  configs : Option.Rel List.Perm index.configs other.configs
  callgraphs : Option.Rel (RearrangedBy ProjectCallgraphs.Rearranged) index.callgraphs
    other.callgraphs

/-- The lists of an index, and those inside them, are kept in orders that separate what is written
differently. -/
structure Index.KeysSeparate (index : Index) : Prop where
  projects : Separates ProjectEntry.order Report.ofProject index.projects
  tree : Separates FileEntry.order Report.ofFile (index.tree.getD [])
  entrypoints : Separates ProjectEntrypoints.order Report.ofEntrypoints (index.entrypoints.getD [])
  entrypointsOf : ∀ s ∈ index.entrypoints.getD [],
    Separates Entrypoint.order Report.ofEntrypoint s.entrypoints
  commands : Separates Command.order Report.ofCommand (index.commands.getD [])
  callgraphs : Separates ProjectCallgraphs.order Report.ofCallgraphs
    ((index.callgraphs.getD []).filter fun p => !p.graphs.isEmpty)
  graphsOf : ∀ p ∈ index.callgraphs.getD [],
    Separates Callgraph.order Report.ofCallgraph p.graphs

/-! ## The written index -/

theorem rel_getD {R : List α → List β → Prop} {xs? : Option (List α)} {ys? : Option (List β)}
    (h : Option.Rel R xs? ys?) (hNil : R [] []) : R (xs?.getD []) (ys?.getD []) := by
  cases h with
  | some h => exact h
  | none => exact hNil

namespace Report

theorem sortedTexts_eq {xs ys : List String} (h : xs.Perm ys) : sortedTexts xs = sortedTexts ys := by
  rw [sortedTexts, sortedTexts, sortBy_eq_of_perm h]

theorem ofCommand_eq {c d : Command} (h : c.Rearranged d) : ofCommand c = ofCommand d := by
  rw [ofCommand, ofCommand, h.name, sortedTexts_eq h.aliases, sortedTexts_eq h.options,
    sortedTexts_eq h.arguments, h.file, h.line]

theorem ofEntrypoints_eq {s t : ProjectEntrypoints} (h : s.Rearranged t)
    (hSeparates : Separates Entrypoint.order ofEntrypoint s.entrypoints) :
    ofEntrypoints s = ofEntrypoints t := by
  rw [ofEntrypoints, ofEntrypoints, h.project, map_sortBy_eq_of_perm h.entrypoints hSeparates]

theorem ofCallgraph_eq {g h : Callgraph} (hgh : g.Rearranged h) : ofCallgraph g = ofCallgraph h := by
  rw [ofCallgraph, ofCallgraph, hgh.root, hgh.depth, hgh.truncated, sortBy_eq_of_perm hgh.edges]

theorem ofCallgraphs_eq {p q : ProjectCallgraphs} (h : p.Rearranged q)
    (hSeparates : Separates Callgraph.order ofCallgraph p.graphs) :
    ofCallgraphs p = ofCallgraphs q := by
  rw [ofCallgraphs, ofCallgraphs, h.project, map_sortBy_eq h.graphs
    (fun a b hab => Callgraph.order_eq_eq.mpr hab.root) (fun a _ b => ofCallgraph_eq) hSeparates]

theorem sectionOf_eq_iff {name : String} {order : α → α → Ordering} {sh : α → Json.Value}
    {xs ys : List α} (hEmpty : xs.isEmpty = ys.isEmpty) :
    sectionOf name order sh xs = sectionOf name order sh ys ↔
      (sortBy order xs).map sh = (sortBy order ys).map sh := by
  cases xs with
  | nil =>
    obtain rfl : ys = [] := List.isEmpty_iff.mp hEmpty.symm
    exact iff_of_true rfl rfl
  | cons x xs =>
    rw [sectionOf, sectionOf, ← hEmpty]
    simp

theorem configSection_eq {xs ys : List String} (h : xs.Perm ys) :
    configSection xs = configSection ys := by
  rw [configSection, configSection, h.isEmpty_eq, sortedSet_eq_of_perm h]

theorem sections_eq {index other : Index} (h : index.Rearranged other)
    (hKeys : index.KeysSeparate) : sections index = sections other := by
  have hTree := rel_getD h.tree .nil
  have hEntrypoints := rel_getD h.entrypoints .nil
  have hCommands := rel_getD h.commands .nil
  have hCallgraphs : RearrangedBy ProjectCallgraphs.Rearranged
      ((index.callgraphs.getD []).filter fun p => !p.graphs.isEmpty)
      ((other.callgraphs.getD []).filter fun p => !p.graphs.isEmpty) :=
    (rel_getD h.callgraphs .nil).filter fun p q hpq => by rw [hpq.graphs.isEmpty_eq]
  have hShownProjects := map_sortBy_eq_of_perm h.projects hKeys.projects
  have hShownTree := map_sortBy_eq_of_perm hTree hKeys.tree
  have hShownEntrypoints := map_sortBy_eq hEntrypoints
    (fun _ _ h => h.order_eq_eq)
    (fun s hs t hst => ofEntrypoints_eq hst (hKeys.entrypointsOf s hs)) hKeys.entrypoints
  have hShownCommands := map_sortBy_eq hCommands
    (fun _ _ h => h.order_eq_eq) (fun c _ d => ofCommand_eq) hKeys.commands
  have hShownCallgraphs := map_sortBy_eq hCallgraphs
    (fun _ _ h => h.order_eq_eq)
    (fun p hp q hpq => ofCallgraphs_eq hpq (hKeys.graphsOf p (List.mem_filter.mp hp).1))
    hKeys.callgraphs
  rw [sections, sections, (sectionOf_eq_iff h.projects.isEmpty_eq).mpr hShownProjects,
    (sectionOf_eq_iff hTree.isEmpty_eq).mpr hShownTree,
    (sectionOf_eq_iff hEntrypoints.isEmpty_eq).mpr hShownEntrypoints,
    (sectionOf_eq_iff hCommands.isEmpty_eq).mpr hShownCommands,
    configSection_eq (rel_getD h.configs .nil),
    (sectionOf_eq_iff hCallgraphs.isEmpty_eq).mpr hShownCallgraphs]

theorem ofIndex_eq_iff {index other : Index} (hAbout : index.about = other.about) :
    ofIndex index = ofIndex other ↔ sections index = sections other := by
  rw [ofIndex, ofIndex, hAbout]
  constructor
  · intro h
    exact (List.cons.inj (Json.Value.object.inj h)).2
  · intro h
    rw [h]

/-- One line says all. -/
theorem sections_eq_of_compact {index other : Index} (hAbout : index.about = other.about)
    (h : index.render true = other.render true) : sections index = sections other := by
  have hText := List.append_cancel_right (String.ofList_injective h)
  exact (ofIndex_eq_iff hAbout).mp (Json.Value.compact_injective hText)

theorem render_eq_iff {index other : Index} (hAbout : index.about = other.about) :
    (∀ compact, index.render compact = other.render compact) ↔
      sections index = sections other := by
  constructor
  · exact fun h => sections_eq_of_compact hAbout (h true)
  · intro h compact
    rw [Index.render, Index.render, (ofIndex_eq_iff hAbout).mpr h]

/-- An element that is replaced by another shows, unless both are shown alike. -/
theorem shown_eq_of_update {order : α → α → Ordering} {sh : α → β} {a b : α} {pre post : List α}
    (h : (sortBy order (pre ++ a :: post)).map sh = (sortBy order (pre ++ b :: post)).map sh) :
    sh a = sh b := by
  have hPerm : ((pre ++ a :: post).map sh).Perm ((pre ++ b :: post).map sh) :=
    ((sortBy_perm order _).map sh).symm.trans (h ▸ (sortBy_perm order _).map sh)
  rw [List.map_append, List.map_append, List.perm_append_left_iff, List.map_cons, List.map_cons]
    at hPerm
  have hCons : sh a ::ₘ (post.map sh : Multiset β) = sh b ::ₘ (post.map sh : Multiset β) :=
    Multiset.coe_eq_coe.mpr hPerm
  exact (Multiset.cons_inj_left _).mp hCons

/-! ### Keys are written -/

theorem order_eq_of_ofProject_eq {a b : ProjectEntry} (h : ofProject a = ofProject b) :
    a.order b = .eq := by
  obtain ⟨hName, hPath, -⟩ : a.name = b.name ∧ a.path = b.path ∧ _ := by
    simpa only [ofProject, List.cons_append, List.nil_append, Json.Value.object.injEq,
      List.cons.injEq, Prod.mk.injEq, Json.Value.text.injEq, true_and] using h
  show (compare a.name b.name).then (compare a.path b.path) = .eq
  rw [hName, hPath]
  simp

theorem order_eq_of_ofFile_eq {a b : FileEntry} (h : ofFile a = ofFile b) : a.order b = .eq := by
  obtain ⟨hPath, -⟩ : a.path = b.path ∧ _ := by simpa [ofFile] using h
  exact FileEntry.order_eq_eq.mpr hPath

theorem order_eq_of_ofEntrypoint_eq {a b : Entrypoint} (h : ofEntrypoint a = ofEntrypoint b) :
    a.order b = .eq := by
  obtain ⟨hFile, hLine, -⟩ : a.file = b.file ∧ a.line = b.line ∧ _ := by
    simpa [ofEntrypoint] using h
  show (compare a.file b.file).then (compare a.line b.line) = .eq
  rw [hFile, hLine]
  simp

theorem order_eq_of_ofCommand_eq {a b : Command} (h : ofCommand a = ofCommand b) :
    a.order b = .eq := by
  obtain ⟨hName, -, -, -, hFile, hLine⟩ : a.name = b.name ∧ _ ∧ _ ∧ _ ∧ a.file = b.file ∧
      a.line = b.line := by
    simpa [ofCommand] using h
  show (compare a.name b.name).then ((compare a.file b.file).then (compare a.line b.line)) = .eq
  rw [hName, hFile, hLine]
  simp

theorem ofRef_injective {q r : ProjectRef} (h : ofRef q = ofRef r) : q = r := by
  cases q
  cases r
  simpa [ofRef] using h

theorem ofEntrypoints_eq_iff {s t : ProjectEntrypoints} :
    ofEntrypoints s = ofEntrypoints t ↔ ofRef s.project = ofRef t.project ∧
      (sortBy Entrypoint.order s.entrypoints).map ofEntrypoint =
        (sortBy Entrypoint.order t.entrypoints).map ofEntrypoint := by
  simp [ofEntrypoints]

theorem order_eq_of_ofCallgraph_eq {g h : Callgraph} (hgh : ofCallgraph g = ofCallgraph h) :
    g.order h = .eq := by
  obtain ⟨hRoot, -⟩ : g.root = h.root ∧ _ := by simpa [ofCallgraph] using hgh
  exact Callgraph.order_eq_eq.mpr hRoot

theorem ofCallgraphs_eq_iff {p q : ProjectCallgraphs} :
    ofCallgraphs p = ofCallgraphs q ↔ ofRef p.project = ofRef q.project ∧
      (sortBy Callgraph.order p.graphs).map ofCallgraph =
        (sortBy Callgraph.order q.graphs).map ofCallgraph := by
  simp [ofCallgraphs]

end Report

/-! ## Arrangements that show -/

theorem rel_refl {R : List α → List α → Prop} (hR : ∀ xs, R xs xs) (xs? : Option (List α)) :
    Option.Rel R xs? xs? := by
  cases xs? with
  | none => exact .none
  | some xs => exact .some (hR xs)

theorem Command.Rearranged.refl (c : Command) : c.Rearranged c :=
  ⟨rfl, .refl _, .refl _, .refl _, rfl, rfl⟩

theorem ProjectEntrypoints.Rearranged.refl (s : ProjectEntrypoints) : s.Rearranged s :=
  ⟨rfl, .refl _⟩

theorem Callgraph.Rearranged.refl (g : Callgraph) : g.Rearranged g := ⟨rfl, rfl, rfl, .refl _⟩

theorem ProjectCallgraphs.Rearranged.refl (p : ProjectCallgraphs) : p.Rearranged p :=
  ⟨rfl, .of_perm (.refl _) Callgraph.Rearranged.refl⟩

theorem Index.Rearranged.refl (index : Index) : index.Rearranged index where
  about := rfl
  projects := .refl _
  tree := rel_refl .refl _
  entrypoints := rel_refl (fun xs => .of_perm (.refl xs) ProjectEntrypoints.Rearranged.refl) _
  commands := rel_refl (fun xs => .of_perm (.refl xs) Command.Rearranged.refl) _
  configs := rel_refl .refl _
  callgraphs := rel_refl (fun xs => .of_perm (.refl xs) ProjectCallgraphs.Rearranged.refl) _

/-- An optional list is separated if the list is. -/
theorem separates_getD {order : α → α → Ordering} {sh : α → β} {xs? : Option (List α)}
    (h : ∀ xs, xs? = some xs → Separates order sh xs) : Separates order sh (xs?.getD []) := by
  cases xs? with
  | none => exact fun a ha => absurd ha List.not_mem_nil
  | some xs => exact h xs rfl

theorem exists_of_mem_getD {xs? : Option (List α)} {a : α} (h : a ∈ xs?.getD []) :
    ∃ pre post, xs? = some (pre ++ a :: post) := by
  cases xs? with
  | none => exact absurd h List.not_mem_nil
  | some xs =>
    obtain ⟨pre, post, rfl⟩ := List.append_of_mem h
    exact ⟨pre, post, rfl⟩

section Shows

variable {index : Index}
  (h : ∀ other, index.Rearranged other → Report.sections index = Report.sections other)

include h

theorem separates_projects : Separates ProjectEntry.order Report.ofProject index.projects := by
  refine separates_of_map_sortBy_eq (fun _ _ => Report.order_eq_of_ofProject_eq) ?_
  intro ys hys
  have hSections := h { index with projects := ys }
    { Index.Rearranged.refl index with projects := hys }
  simp only [Report.sections, List.append_cancel_right_eq] at hSections
  exact (Report.sectionOf_eq_iff hys.isEmpty_eq).mp hSections

theorem separates_tree : Separates FileEntry.order Report.ofFile (index.tree.getD []) := by
  refine separates_getD fun xs hxs => ?_
  refine separates_of_map_sortBy_eq (fun _ _ => Report.order_eq_of_ofFile_eq) ?_
  intro ys hys
  have hSections := h { index with tree := some ys }
    { Index.Rearranged.refl index with tree := hxs ▸ .some hys }
  simp only [Report.sections, List.append_cancel_left_eq, List.append_cancel_right_eq, hxs]
    at hSections
  exact (Report.sectionOf_eq_iff hys.isEmpty_eq).mp hSections

theorem shown_entrypoints {xs ys : List ProjectEntrypoints} (hxs : index.entrypoints = some xs)
    (hys : RearrangedBy ProjectEntrypoints.Rearranged xs ys) :
    (sortBy ProjectEntrypoints.order xs).map Report.ofEntrypoints =
      (sortBy ProjectEntrypoints.order ys).map Report.ofEntrypoints := by
  have hSections := h { index with entrypoints := some ys }
    { Index.Rearranged.refl index with entrypoints := hxs ▸ .some hys }
  simp only [Report.sections, List.append_cancel_left_eq, List.append_cancel_right_eq, hxs]
    at hSections
  exact (Report.sectionOf_eq_iff hys.isEmpty_eq).mp hSections

theorem separates_entrypoints :
    Separates ProjectEntrypoints.order Report.ofEntrypoints (index.entrypoints.getD []) := by
  refine separates_getD fun xs hxs => ?_
  refine separates_of_map_sortBy_eq ?_ fun ys hys => ?_
  · intro s t hst
    exact ProjectRef.order_eq_eq.mpr
      (Report.ofRef_injective (Report.ofEntrypoints_eq_iff.mp hst).1)
  · exact shown_entrypoints h hxs (.of_perm hys ProjectEntrypoints.Rearranged.refl)

theorem separates_entrypointsOf {s : ProjectEntrypoints} (hs : s ∈ index.entrypoints.getD []) :
    Separates Entrypoint.order Report.ofEntrypoint s.entrypoints := by
  obtain ⟨pre, post, hSection⟩ := exists_of_mem_getD hs
  refine separates_of_map_sortBy_eq (fun _ _ => Report.order_eq_of_ofEntrypoint_eq) fun ys hys => ?_
  have hOther : s.Rearranged { s with entrypoints := ys } := ⟨rfl, hys⟩
  have hShown := shown_entrypoints h hSection
    (.update ProjectEntrypoints.Rearranged.refl hOther pre post)
  exact (Report.ofEntrypoints_eq_iff.mp (Report.shown_eq_of_update hShown)).2

theorem separates_commands :
    Separates Command.order Report.ofCommand (index.commands.getD []) := by
  refine separates_getD fun xs hxs => ?_
  refine separates_of_map_sortBy_eq (fun _ _ => Report.order_eq_of_ofCommand_eq) ?_
  intro ys hys
  have hSections := h { index with commands := some ys }
    { Index.Rearranged.refl index with
      commands := hxs ▸ .some (.of_perm hys Command.Rearranged.refl) }
  simp only [Report.sections, List.append_cancel_left_eq, List.append_cancel_right_eq, hxs]
    at hSections
  exact (Report.sectionOf_eq_iff hys.isEmpty_eq).mp hSections

theorem shown_callgraphs {xs ys : List ProjectCallgraphs} (hxs : index.callgraphs = some xs)
    (hys : RearrangedBy ProjectCallgraphs.Rearranged xs ys) :
    (sortBy ProjectCallgraphs.order (xs.filter fun p => !p.graphs.isEmpty)).map
        Report.ofCallgraphs =
      (sortBy ProjectCallgraphs.order (ys.filter fun p => !p.graphs.isEmpty)).map
        Report.ofCallgraphs := by
  have hSections := h { index with callgraphs := some ys }
    { Index.Rearranged.refl index with callgraphs := hxs ▸ .some hys }
  simp only [Report.sections, List.append_cancel_left_eq, hxs] at hSections
  have hFiltered := hys.filter (p := fun p => !p.graphs.isEmpty) (q := fun p => !p.graphs.isEmpty)
    fun p q hpq => by rw [hpq.graphs.isEmpty_eq]
  exact (Report.sectionOf_eq_iff hFiltered.isEmpty_eq).mp hSections

theorem separates_callgraphs :
    Separates ProjectCallgraphs.order Report.ofCallgraphs
      ((index.callgraphs.getD []).filter fun p => !p.graphs.isEmpty) := by
  cases hxs : index.callgraphs with
  | none => exact fun a ha => absurd ha List.not_mem_nil
  | some xs =>
    refine separates_of_map_sortBy_eq ?_ fun ys hys => ?_
    · intro p q hpq
      exact ProjectRef.order_eq_eq.mpr
        (Report.ofRef_injective (Report.ofCallgraphs_eq_iff.mp hpq).1)
    · -- the projects without graphs are put last
      let kept (p : ProjectCallgraphs) := !p.graphs.isEmpty
      have hPerm : xs.Perm (ys ++ xs.filter (!kept ·)) :=
        (List.filter_append_perm kept xs).symm.trans (hys.append_right _)
      have hKept : (ys ++ xs.filter (!kept ·)).filter kept = ys := by
        rw [List.filter_append, List.filter_filter]
        have hAll : ∀ p ∈ ys, kept p = true := fun p hp =>
          (List.mem_filter.mp (hys.mem_iff.mpr hp)).2
        simp [List.filter_eq_self.mpr hAll]
      have hShown := shown_callgraphs h hxs (.of_perm hPerm ProjectCallgraphs.Rearranged.refl)
      rwa [hKept] at hShown

theorem separates_graphsOf {p : ProjectCallgraphs} (hp : p ∈ index.callgraphs.getD []) :
    Separates Callgraph.order Report.ofCallgraph p.graphs := by
  obtain ⟨pre, post, hSection⟩ := exists_of_mem_getD hp
  refine separates_of_map_sortBy_eq (fun _ _ => Report.order_eq_of_ofCallgraph_eq) fun ys hys => ?_
  by_cases hEmpty : p.graphs = []
  · rw [hEmpty] at hys ⊢
    rw [List.nil_perm.mp hys]
  have hOther : p.Rearranged { p with graphs := ys } :=
    ⟨rfl, .of_perm hys Callgraph.Rearranged.refl⟩
  have hShown := shown_callgraphs h hSection
    (.update ProjectCallgraphs.Rearranged.refl hOther pre post)
  have hKept : p.graphs.isEmpty = false := by simpa using hEmpty
  have hKept' : ys.isEmpty = false := hys.isEmpty_eq ▸ hKept
  rw [List.filter_append, List.filter_append, List.filter_cons_of_pos (by simp [hKept]),
    List.filter_cons_of_pos (by simp [hKept'])] at hShown
  exact (Report.ofCallgraphs_eq_iff.mp (Report.shown_eq_of_update hShown)).2

end Shows

/-- **Arrangements of an index.** An index is written the same way in all of them exactly if its
orders separate what is written differently. -/
theorem render_eq_iff_keysSeparate (index : Index) :
    (∀ other, index.Rearranged other → ∀ compact, index.render compact = other.render compact) ↔
      index.KeysSeparate := by
  constructor
  · intro h
    have hSections : ∀ other, index.Rearranged other →
        Report.sections index = Report.sections other :=
      fun other hOther => (Report.render_eq_iff hOther.about).mp (h other hOther)
    exact ⟨separates_projects hSections, separates_tree hSections,
      separates_entrypoints hSections, fun _ => separates_entrypointsOf hSections,
      separates_commands hSections, separates_callgraphs hSections,
      fun _ => separates_graphsOf hSections⟩
  · intro hKeys other hOther
    exact (Report.render_eq_iff hOther.about).mpr (Report.sections_eq hOther hKeys)

/-! ## Two starts in one line -/

/-- Two classes in one line, each with a place where a program starts. -/
def oneLineStarts : ProjectEntrypoints :=
  ⟨⟨"app", "."⟩, [⟨"App.java", 1, some "First", "main"⟩, ⟨"App.java", 1, some "Second", "main"⟩]⟩

def oneLineIndex : Index :=
  ⟨⟨"0.1.0", "1.2", "2023-11-14T22:13:20Z"⟩, [⟨"app", ".", some "java"⟩], none, some [oneLineStarts],
    none, none, none⟩

/-- File and line do not tell the two places apart, so they are written as they come. -/
theorem render_rearranged_ne :
    ¬ ∀ index other : Index, index.Rearranged other →
      ∀ compact, index.render compact = other.render compact := by
  intro h
  have hSections : ∀ other, oneLineIndex.Rearranged other →
      Report.sections oneLineIndex = Report.sections other := fun other hOther =>
    (Report.render_eq_iff hOther.about).mp (h oneLineIndex other hOther)
  have hSeparates : Separates Entrypoint.order Report.ofEntrypoint oneLineStarts.entrypoints :=
    separates_entrypointsOf hSections (List.mem_singleton_self oneLineStarts)
  have hShown := hSeparates _ List.mem_cons_self _
    (List.mem_cons_of_mem _ (List.mem_singleton_self _)) (by decide)
  simp [Report.ofEntrypoint] at hShown

end CodeAtlas
