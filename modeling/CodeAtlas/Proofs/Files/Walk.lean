import CodeAtlas.Files.Entry
import CodeAtlas.Proofs.Rearranged
import CodeAtlas.Proofs.Text.Search
import Mathlib.Data.List.Nodup
import Mathlib.Data.List.Pairwise

/-!
# Walks of directory trees

`Leads e names d` says where the entry `d` lies in the tree `e`, and `Proper e` that names in a
directory are distinct and without slashes, as on a disk.

* `mem_walk`: a walk visits the directories that names lead to, as far as the directories on the way
  are kept.
* `nodup_walked`: in a proper tree it comes by every entry at most once.
* `Relisted.leads_file_iff`: the order in which directories list their names has no influence on
  where files lie.
* `pathText_injective`: a place can be told from its text.
-/

namespace CodeAtlas.Files

namespace Entry

/-- Induction on trees: a directory has a property if all that it holds has it. -/
@[elab_as_elim]
theorem inductionOn {P : Entry → Prop} (e : Entry) (file : ∀ n bytes, P (.file n bytes))
    (broken : ∀ n, P (.broken n)) (directory : ∀ n cs, (∀ c ∈ cs, P c) → P (.directory n cs)) :
    P e := by
  match e with
  | .file n bytes => exact file n bytes
  | .broken n => exact broken n
  | .directory n cs =>
    exact directory n cs fun c _ => inductionOn c file broken directory

/-! ## Places in a tree -/

/-- Names lead from the top of a tree down to an entry. -/
inductive Leads : Entry → List String → Entry → Prop
  | here (e : Entry) : Leads e [] e
  | down {n : String} {cs : List Entry} {c d : Entry} {names : List String} :
      c ∈ cs → Leads c names d → Leads (.directory n cs) (c.name :: names) d

theorem leads_concat {e c : Entry} {names : List String} {n : String} :
    Leads e (names ++ [n]) c ↔ ∃ d, Leads e names d ∧ c ∈ d.children ∧ c.name = n := by
  constructor
  · intro h
    induction names generalizing e with
    | nil =>
      cases h with
      | down hc hRest =>
        cases hRest
        exact ⟨_, .here _, hc, rfl⟩
    | cons m names ih =>
      cases h with
      | down hc hRest =>
        obtain ⟨d, hd, hChild⟩ := ih hRest
        exact ⟨d, .down hc hd, hChild⟩
  · rintro ⟨d, hd, hChild, rfl⟩
    induction hd with
    | here e =>
      cases e with
      | directory m cs => exact .down hChild (.here c)
      | file m bytes => cases hChild
      | broken m => cases hChild
    | down hc _ ih => exact .down hc (ih hChild)

theorem Leads.getLast?_eq {e c : Entry} {names : List String} (h : Leads e names c)
    (hSome : names ≠ []) : names.getLast? = some c.name := by
  obtain ⟨front, n, rfl⟩ := (List.eq_nil_or_concat' names).resolve_left hSome
  obtain ⟨-, -, -, hName⟩ := leads_concat.mp h
  rw [List.getLast?_concat, hName]

/-- Names in a directory are distinct and without slashes. -/
inductive Proper : Entry → Prop
  | file (n : String) (bytes : List UInt8) : Proper (.file n bytes)
  | broken (n : String) : Proper (.broken n)
  | directory {n : String} {cs : List Entry} :
      (cs.map (·.name)).Nodup → (∀ c ∈ cs, '/' ∉ c.name.toList) → (∀ c ∈ cs, Proper c) →
      Proper (.directory n cs)

namespace Proper

variable {e d : Entry} {names : List String}

theorem nodup_children (h : e.Proper) : (e.children.map (·.name)).Nodup := by
  cases h with
  | directory hNodup _ _ => exact hNodup
  | file n bytes => exact List.nodup_nil
  | broken n => exact List.nodup_nil

theorem of_leads (h : e.Proper) (hLeads : e.Leads names d) : d.Proper := by
  induction hLeads with
  | here e => exact h
  | down hc _ ih =>
    cases h with
    | directory _ _ hAll => exact ih (hAll _ hc)

theorem slash_not_mem (h : e.Proper) (hLeads : e.Leads names d) :
    ∀ n ∈ names, '/' ∉ n.toList := by
  induction hLeads with
  | here e => exact List.forall_mem_nil _
  | down hc _ ih =>
    cases h with
    | directory _ hSlash hAll => exact List.forall_mem_cons.mpr ⟨hSlash _ hc, ih (hAll _ hc)⟩

end Proper

/-! ## Walks -/

/-- All directories along some names are kept. -/
def Kept (keep : List String → String → Bool) (path : List String) : List String → Prop
  | [] => True
  | n :: rest => keep path n = true ∧ Kept keep (path ++ [n]) rest

variable {keep : List String → String → Bool} {path : List String}

theorem kept_of_forall {names : List String}
    (h : ∀ front n rest, names = front ++ n :: rest → keep (path ++ front) n = true) :
    Kept keep path names := by
  induction names generalizing path with
  | nil => trivial
  | cons n names ih =>
    refine ⟨by simpa using h [] n names rfl, ih fun front m rest hNames => ?_⟩
    have hKeep := h (n :: front) m rest (by rw [hNames, List.cons_append])
    rwa [List.append_assoc, List.singleton_append]

theorem walks_eq (es : List Entry) :
    walks keep path es = (es.filter fun e => e.isDirectory && keep path e.name).map
      fun e => (e.name, e.walk keep (path ++ [e.name])) := by
  induction es with
  | nil => rw [walks, List.filter_nil, List.map_nil]
  | cons e es ih =>
    rw [walks, List.filter_cons, ih]
    split <;> rfl

theorem mem_walk_directory {n : String} {cs : List Entry} {v : Visit} :
    v ∈ walk keep path (.directory n cs) ↔ v = ⟨path, .directory n cs⟩ ∨
      ∃ c ∈ cs, c.isDirectory = true ∧ keep path c.name = true ∧
        v ∈ c.walk keep (path ++ [c.name]) := by
  rw [walk, List.mem_cons, walks_eq, List.mem_flatMap]
  simp only [List.mem_mergeSort, List.mem_map, List.mem_filter, Bool.and_eq_true]
  refine or_congr_right ⟨?_, ?_⟩
  · rintro ⟨_, ⟨c, ⟨hc, hDirectory, hKeep⟩, rfl⟩, hv⟩
    exact ⟨c, hc, hDirectory, hKeep, hv⟩
  · rintro ⟨c, hc, hDirectory, hKeep, hv⟩
    exact ⟨_, ⟨c, ⟨hc, hDirectory, hKeep⟩, rfl⟩, hv⟩

/-- A walk visits the directories that kept names lead to. -/
theorem mem_walk {e : Entry} {v : Visit} :
    v ∈ e.walk keep path ↔ ∃ names, v.path = path ++ names ∧ e.Leads names v.entry ∧
      v.entry.isDirectory = true ∧ Kept keep path names := by
  obtain ⟨place, entry⟩ := v
  induction e using inductionOn generalizing path with
  | file n bytes =>
    rw [walk]
    constructor
    · exact fun h => absurd h List.not_mem_nil
    · rintro ⟨names, -, ⟨_⟩, ⟨⟩, -⟩
  | broken n =>
    rw [walk]
    constructor
    · exact fun h => absurd h List.not_mem_nil
    · rintro ⟨names, -, ⟨_⟩, ⟨⟩, -⟩
  | directory n cs ih =>
    rw [mem_walk_directory]
    constructor
    · rintro (hTop | ⟨c, hc, -, hKeep, hv⟩)
      · cases hTop
        exact ⟨[], (List.append_nil _).symm, .here _, rfl, trivial⟩
      · obtain ⟨names, hPath, hLeads, hDirectory, hKept⟩ := (ih c hc).mp hv
        exact ⟨c.name :: names, by rw [hPath, List.append_assoc, List.singleton_append],
          .down hc hLeads, hDirectory, hKeep, hKept⟩
    · rintro ⟨names, hPath, hLeads, hDirectory, hKept⟩
      dsimp only at hPath hLeads hDirectory
      subst hPath
      cases hLeads with
      | here => exact .inl (by rw [List.append_nil])
      | @down _ _ c _ names hc hRest =>
        refine .inr ⟨c, hc, ?_, hKept.1, (ih c hc).mpr ⟨names, ?_, hRest, hDirectory, hKept.2⟩⟩
        · cases hRest with
          | here => exact hDirectory
          | down => rfl
        · rw [List.append_assoc, List.singleton_append]

/-- The places by which a walk comes. -/
def walked (keep : List String → String → Bool) (path : List String) (e : Entry) :
    List (List String) :=
  (e.walk keep path).flatMap fun v => v.entry.children.map fun c => v.path ++ [c.name]

theorem nodup_paths {e : Entry} (h : e.Proper) : ((e.walk keep path).map (·.path)).Nodup := by
  induction e using inductionOn generalizing path with
  | file n bytes =>
    rw [walk]
    exact List.nodup_nil
  | broken n =>
    rw [walk]
    exact List.nodup_nil
  | directory n cs ih =>
    obtain ⟨hNames, hAll⟩ : (cs.map (·.name)).Nodup ∧ ∀ c ∈ cs, c.Proper := by
      cases h with
      | directory hNodup _ hAll => exact ⟨hNodup, hAll⟩
    have hBelow : ∀ c : Entry, ∀ q ∈ (c.walk keep (path ++ [c.name])).map (·.path),
        ∃ names, q = path ++ c.name :: names := by
      intro c q hq
      obtain ⟨v, hv, rfl⟩ := List.mem_map.mp hq
      obtain ⟨names, hPath, -⟩ := mem_walk.mp hv
      exact ⟨names, by rw [hPath, List.append_assoc, List.singleton_append]⟩
    rw [walk, List.map_cons, walks_eq, List.map_flatMap]
    refine List.nodup_cons.mpr ⟨?_, ?_⟩
    · intro hMem
      obtain ⟨x, hx, hPath⟩ := List.mem_flatMap.mp hMem
      obtain ⟨c, -, rfl⟩ := List.mem_map.mp (List.mem_mergeSort.mp hx)
      obtain ⟨names, hNames⟩ := hBelow c _ hPath
      simp at hNames
    · refine ((List.mergeSort_perm _ _).flatMap_right _).nodup_iff.mpr ?_
      rw [List.flatMap_map, List.nodup_flatMap]
      refine ⟨fun c hc => ih c (List.mem_of_mem_filter hc) (hAll c (List.mem_of_mem_filter hc)), ?_⟩
      have hDistinct : cs.Pairwise fun c d => c.name ≠ d.name := List.pairwise_map.mp hNames
      refine (hDistinct.filter _).imp fun {c d} hne q hc hd => ?_
      obtain ⟨names, rfl⟩ := hBelow c q hc
      obtain ⟨names', hEq⟩ := hBelow d _ hd
      exact hne (List.cons.inj (List.append_cancel_left hEq)).1

theorem nodup_walked {e : Entry} (h : e.Proper) : (walked keep path e).Nodup := by
  refine List.nodup_flatMap.mpr ⟨fun v hv => ?_, ?_⟩
  · obtain ⟨names, -, hLeads, -⟩ := mem_walk.mp hv
    have hChildren := (h.of_leads hLeads).nodup_children
    have hMap : v.entry.children.map (fun c => v.path ++ [c.name]) =
        (v.entry.children.map (·.name)).map fun n => v.path ++ [n] := by
      rw [List.map_map]
      rfl
    rw [hMap]
    exact hChildren.map fun a b hEq => by simpa using hEq
  · have hDistinct : (e.walk keep path).Pairwise fun v w => v.path ≠ w.path :=
      List.pairwise_map.mp (nodup_paths h)
    refine hDistinct.imp fun {v w} hne q hv hw => ?_
    obtain ⟨c, -, rfl⟩ := List.mem_map.mp hv
    obtain ⟨d, -, hEq⟩ := List.mem_map.mp hw
    exact hne (List.append_inj_left' hEq rfl).symm

/-! ## Other orders of names -/

/-- The same tree with the names of its directories listed in another order. -/
inductive Relisted : Entry → Entry → Prop
  | file (n : String) (bytes : List UInt8) : Relisted (.file n bytes) (.file n bytes)
  | broken (n : String) : Relisted (.broken n) (.broken n)
  | directory {n : String} {cs ds es : List Entry} :
      List.Forall₂ Relisted cs ds → ds.Perm es → Relisted (.directory n cs) (.directory n es)

namespace Relisted

variable {e other d : Entry} {names : List String}

theorem name_eq (h : Relisted e other) : e.name = other.name := by
  cases h <;> rfl

theorem proper (h : Relisted e other) (hProper : e.Proper) : other.Proper := by
  induction e using inductionOn generalizing other with
  | file n bytes =>
    cases h
    exact hProper
  | broken n =>
    cases h
    exact hProper
  | directory n cs ih =>
    cases h with
    | @directory _ _ ds es hAll hPerm =>
      cases hProper with
      | directory hNodup hSlash hProper =>
        have hRearranged : RearrangedBy Relisted cs es := ⟨ds, hAll, hPerm⟩
        refine .directory ?_ ?_ ?_
        · exact (hRearranged.map_perm fun a _ b hRel => hRel.name_eq).nodup_iff.mp hNodup
        · intro c hc
          obtain ⟨b, hb, hRel⟩ := hRearranged.exists_left hc
          rw [← hRel.name_eq]
          exact hSlash b hb
        · intro c hc
          obtain ⟨b, hb, hRel⟩ := hRearranged.exists_left hc
          exact ih b hb hRel (hProper b hb)

theorem leads (h : Relisted e other) (hLeads : e.Leads names d) :
    ∃ d', other.Leads names d' ∧ Relisted d d' := by
  induction hLeads generalizing other with
  | here e => exact ⟨other, .here other, h⟩
  | @down n cs c d names hc _ ih =>
    cases h with
    | @directory _ _ ds es hAll hPerm =>
      obtain ⟨c', hc', hRel⟩ := RearrangedBy.exists_right ⟨ds, hAll, hPerm⟩ hc
      obtain ⟨d', hd', hRest⟩ := ih hRel
      exact ⟨d', hRel.name_eq ▸ .down hc' hd', hRest⟩

theorem leads' {d' : Entry} (h : Relisted e other) (hLeads : other.Leads names d') :
    ∃ d, e.Leads names d ∧ Relisted d d' := by
  induction hLeads generalizing e with
  | here other => exact ⟨e, .here e, h⟩
  | @down n es c' d' names hc' _ ih =>
    cases h with
    | @directory _ cs ds _ hAll hPerm =>
      obtain ⟨c, hc, hRel⟩ := RearrangedBy.exists_left ⟨ds, hAll, hPerm⟩ hc'
      obtain ⟨d, hd, hRest⟩ := ih hRel
      exact ⟨d, hRel.name_eq ▸ .down hc hd, hRest⟩

/-- The order in which directories list their names has no influence on where files lie. -/
theorem leads_file_iff (h : Relisted e other) {n : String} {bytes : List UInt8} :
    other.Leads names (.file n bytes) ↔ e.Leads names (.file n bytes) := by
  constructor
  · intro hLeads
    obtain ⟨d, hd, hRel⟩ := h.leads' hLeads
    cases hRel
    exact hd
  · intro hLeads
    obtain ⟨d, hd, hRel⟩ := h.leads hLeads
    cases hRel
    exact hd

end Relisted

end Entry

/-! ## Places as texts -/

theorem pathText_injective {names names' : List String} (hSome : names ≠ []) (hSome' : names' ≠ [])
    (h : ∀ n ∈ names, '/' ∉ n.toList) (h' : ∀ n ∈ names', '/' ∉ n.toList)
    (hEq : pathText names = pathText names') : names = names' := by
  have hSplit := Text.splitAt_join hSome h
  rw [← hSplit, ← Text.splitAt_join hSome' h']
  exact congrArg (Text.splitAt '/') hEq

end CodeAtlas.Files
