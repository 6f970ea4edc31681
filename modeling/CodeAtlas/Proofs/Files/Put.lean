import CodeAtlas.Proofs.Files.Prune

/-!
# Putting entries into trees

* `descend?_putAt_self`, `label_descend?_putAt`: an entry that is put somewhere is there, and nothing
  else changes.
* `prune_putAt`: so the tree is the same apart from the place of the entry.
-/

namespace CodeAtlas.Files

namespace Entry

variable {e x : Entry} {H : List String → Bool}

/-! ## Distinct names -/

/-- Names in a directory are distinct. -/
def Distinct (e : Entry) : Prop := ∀ names d, e.Leads names d → (d.children.map (·.name)).Nodup

theorem distinct_directory {n : String} {cs : List Entry} :
    (directory n cs).Distinct ↔ (cs.map (·.name)).Nodup ∧ ∀ c ∈ cs, c.Distinct := by
  constructor
  · intro h
    exact ⟨h [] _ (.here _), fun c hc names d hLeads => h (c.name :: names) d (.down hc hLeads)⟩
  · rintro ⟨hNodup, hAll⟩ names d hLeads
    cases hLeads with
    | here => exact hNodup
    | down hc hRest => exact hAll _ hc _ _ hRest

theorem eq_of_child? {n : String} {c d : Entry} (h : e.Distinct) (hChild : e.child? n = some c)
    (hd : d ∈ e.children) (hName : d.name = n) : d = c :=
  List.inj_on_of_nodup_map (h [] e (.here e)) hd (mem_of_child? hChild)
    (hName.trans (name_of_child? hChild).symm)

theorem Distinct.of_leads {names : List String} {d : Entry} (h : e.Distinct)
    (hLeads : e.Leads names d) : d.Distinct := fun _ c hBelow => h _ c (hLeads.trans hBelow)

theorem Distinct.descend?_of_leads {names : List String} {d : Entry} (h : e.Distinct)
    (hLeads : e.Leads names d) : e.descend? names = some d := by
  induction hLeads with
  | here => rfl
  | @down n cs c d names hc _ ih =>
    obtain ⟨c', hChild⟩ : ∃ c', (directory n cs).child? c.name = some c' := by
      rw [← Option.isSome_iff_exists, child?, List.find?_isSome]
      exact ⟨c, hc, by simp⟩
    obtain rfl := eq_of_child? h hChild hc rfl
    rw [descend?, hChild]
    exact ih ((distinct_directory.mp h).2 c hc)

/-! ## Putting an entry into a directory -/

/-- The entry `c`, or `x` if that has its name. -/
def replacing (x c : Entry) : Entry := if c.name = x.name then x else c

theorem name_replacing (x c : Entry) : (replacing x c).name = c.name := by
  rw [replacing]
  split
  · exact ‹c.name = x.name›.symm
  · rfl

theorem put_directory (m : String) (cs : List Entry) (x : Entry) :
    (directory m cs).put x = directory m
      (if cs.any (·.name = x.name) then cs.map (replacing x) else cs ++ [x]) := by
  rw [put]
  split <;> rfl

@[simp] theorem name_put (e x : Entry) : (e.put x).name = e.name := by
  cases e with
  | directory m cs =>
    rw [put_directory]
    rfl
  | file => rfl
  | broken => rfl

@[simp] theorem label_put (e x : Entry) : (e.put x).label = e.label := by
  cases e with
  | directory m cs =>
    rw [put_directory]
    rfl
  | file => rfl
  | broken => rfl

theorem child?_put (hDirectory : e.isDirectory = true) (n : String) :
    (e.put x).child? n = if n = x.name then some x else e.child? n := by
  cases e with
  | file => cases hDirectory
  | broken => cases hDirectory
  | directory m cs =>
    rw [put_directory]
    split
    · rename_i hAny
      have hNames : (fun c => decide (c.name = n)) ∘ replacing x = fun c => decide (c.name = n) := by
        funext c
        rw [Function.comp_apply, name_replacing]
      rw [child?, child?, children, List.find?_map, hNames, children]
      by_cases hn : n = x.name
      · obtain ⟨c, hc⟩ : ∃ c, cs.find? (fun c => decide (c.name = n)) = some c := by
          rw [← Option.isSome_iff_exists, List.find?_isSome, hn]
          exact List.any_eq_true.mp hAny
        have hName : c.name = n := by simpa using List.find?_some hc
        rw [if_pos hn, hc, Option.map_some, replacing, if_pos (hName.trans hn)]
      · rw [if_neg hn]
        cases hc : cs.find? fun c => decide (c.name = n) with
        | none => rfl
        | some c =>
          have hName : c.name = n := by simpa using List.find?_some hc
          rw [Option.map_some, replacing, if_neg (hName.symm ▸ hn)]
    · rename_i hNone
      rw [child?, child?, children, List.find?_append, children]
      by_cases hn : n = x.name
      · have hMissing : cs.find? (fun c => decide (c.name = n)) = none := by
          rw [List.find?_eq_none]
          intro c hc hName
          exact hNone (List.any_eq_true.mpr ⟨c, hc, by simpa [hn] using hName⟩)
        rw [if_pos hn, hMissing, hn]
        simp
      · rw [if_neg hn]
        have hOther : decide (x.name = n) = false := by simpa using fun h => hn h.symm
        simp [hOther]

theorem distinct_put (h : e.Distinct) (hx : x.Distinct) : (e.put x).Distinct := by
  cases e with
  | file => exact h
  | broken => exact h
  | directory m cs =>
    obtain ⟨hNodup, hAll⟩ := distinct_directory.mp h
    rw [put_directory, distinct_directory]
    split
    · refine ⟨?_, fun c hc => ?_⟩
      · have hNames : (fun c : Entry => c.name) ∘ replacing x = fun c => c.name :=
          funext (name_replacing x)
        rwa [List.map_map, hNames]
      · obtain ⟨d, hd, rfl⟩ := List.mem_map.mp hc
        rw [replacing]
        split
        · exact hx
        · exact hAll d hd
    · rename_i hNone
      refine ⟨?_, fun c hc => ?_⟩
      · rw [List.map_append, List.nodup_append]
        refine ⟨hNodup, List.nodup_singleton _, ?_⟩
        rintro _ ha _ hb rfl
        obtain ⟨c, hc, hName⟩ := List.mem_map.mp ha
        exact hNone (List.any_eq_true.mpr ⟨c, hc, by
          simpa [hName] using List.mem_singleton.mp hb⟩)
      · rcases List.mem_append.mp hc with hc | hc
        · exact hAll c hc
        · rw [List.mem_singleton.mp hc]
          exact hx

/-- Putting an entry where it is changes nothing. -/
theorem put_self (h : e.Distinct) (hChild : e.child? x.name = some x) : e.put x = e := by
  cases e with
  | file => rfl
  | broken => rfl
  | directory m cs =>
    have hAny : cs.any (·.name = x.name) = true :=
      List.any_eq_true.mpr ⟨x, mem_of_child? hChild, by simp⟩
    rw [put_directory, if_pos hAny]
    congr 1
    refine (List.map_congr_left fun c hc => ?_).trans (List.map_id cs)
    rw [replacing]
    split
    · exact (eq_of_child? h hChild hc ‹c.name = x.name›).symm
    · rfl

/-- Putting an entry into a directory is not seen if its place is hidden, or if it is not seen how
it differs from what is there. -/
theorem prune_put (h : ∀ c ∈ e.children, c.name = x.name →
      H [x.name] = true ∨ x.prune (under H [x.name]) = c.prune (under H [x.name]))
    (hNew : H [x.name] = true ∨ ∃ c ∈ e.children, c.name = x.name) :
    (e.put x).prune H = e.prune H := by
  cases e with
  | file => rfl
  | broken => rfl
  | directory m cs =>
    have hReplaced : pruneAll H (cs.map (replacing x)) = pruneAll H cs := by
      have hEach : ∀ c ∈ cs, H [c.name] = false →
          (replacing x c).prune (under H [c.name]) = c.prune (under H [c.name]) := by
        intro c hc hVisible
        rw [replacing]
        split
        · rename_i hName
          rcases h c hc hName with hHidden | hSame
          · rw [← hName, hVisible] at hHidden
            cases hHidden
          · rw [hName, hSame]
        · rfl
      have hFilter : (fun c => !H [c.name]) ∘ replacing x = fun c => !H [c.name] := by
        funext c
        rw [Function.comp_apply, name_replacing]
      rw [pruneAll_eq, pruneAll_eq, List.filter_map, hFilter, List.map_map]
      refine List.map_congr_left fun c hc => ?_
      obtain ⟨hc, hVisible⟩ := List.mem_filter.mp hc
      rw [Function.comp_apply, name_replacing]
      exact hEach c hc (by simpa using hVisible)
    rw [put_directory, prune, prune]
    split
    · rw [hReplaced]
    · rename_i hNone
      rcases hNew with hHidden | ⟨c, hc, hName⟩
      · rw [pruneAll_eq, pruneAll_eq, List.filter_append]
        simp [hHidden]
      · exact absurd (List.any_eq_true.mpr ⟨c, hc, by simpa using hName⟩) hNone

/-! ## Putting an entry somewhere -/

@[simp] theorem name_putAt (e : Entry) (names : List String) (x : Entry) :
    (e.putAt names x).name = e.name := by
  cases names with
  | nil => exact name_put e x
  | cons n names =>
    rw [putAt]
    cases e.child? n with
    | none => rfl
    | some c => exact name_put e _

theorem putAt_cons {n : String} {names : List String} {c : Entry} (h : e.child? n = some c) :
    e.putAt (n :: names) x = e.put (c.putAt names x) := by
  rw [putAt, h]

theorem distinct_putAt {names : List String} (h : e.Distinct) (hx : x.Distinct) :
    (e.putAt names x).Distinct := by
  induction names generalizing e with
  | nil => exact distinct_put h hx
  | cons n names ih =>
    cases hChild : e.child? n with
    | none =>
      rw [putAt, hChild]
      exact h
    | some c =>
      rw [putAt_cons hChild]
      exact distinct_put h (ih (h.of_leads (leads_of_child? hChild)))

theorem putAt_self {names : List String} (h : e.Distinct)
    (hFound : e.descend? (names ++ [x.name]) = some x) : e.putAt names x = e := by
  induction names generalizing e with
  | nil =>
    rw [descend?_concat] at hFound
    exact put_self h hFound
  | cons n names ih =>
    rw [List.cons_append, descend?] at hFound
    obtain ⟨c, hChild, hRest⟩ := Option.bind_eq_some_iff.mp hFound
    have hc : c.Distinct := h.of_leads (leads_of_child? hChild)
    rw [putAt_cons hChild, ih hc hRest]
    exact put_self h (by rw [name_of_child? hChild, hChild])

/-- Putting a file changes nothing where one with the same content is. -/
theorem putAt_of_label {names : List String} {n : String} {bytes : List UInt8} (h : e.Distinct)
    {x : Entry} (hx : e.descend? (names ++ [n]) = some x) (hLabel : x.label = .file bytes) :
    e.putAt names (.file n bytes) = e := by
  have hName : x.name = n := by
    rw [descend?_concat] at hx
    obtain ⟨c, -, hChild⟩ := Option.bind_eq_some_iff.mp hx
    exact name_of_child? hChild
  rw [eq_file hLabel, hName] at hx
  exact putAt_self h hx

theorem prune_putAt {names : List String} (h : e.Distinct) (hHidden : H (names ++ [x.name]) = true) :
    (e.putAt names x).prune H = e.prune H := by
  induction names generalizing e H with
  | nil => exact prune_put (fun _ _ _ => Or.inl hHidden) (Or.inl hHidden)
  | cons n names ih =>
    cases hChild : e.child? n with
    | none => rw [putAt, hChild]
    | some c =>
      have hName : (c.putAt names x).name = n := (name_putAt c names x).trans (name_of_child? hChild)
      have hc : c.Distinct := h.of_leads (leads_of_child? hChild)
      rw [putAt_cons hChild]
      refine prune_put (fun d hd hdName => Or.inr ?_)
        (Or.inr ⟨c, mem_of_child? hChild, (name_of_child? hChild).trans hName.symm⟩)
      rw [eq_of_child? h hChild hd (hdName.trans hName), hName]
      exact ih hc hHidden

/-- An entry that is put into a directory is there. -/
theorem descend?_putAt_self {names : List String} {d : Entry} (h : e.descend? names = some d)
    (hDirectory : d.isDirectory = true) :
    (e.putAt names x).descend? (names ++ [x.name]) = some x := by
  induction names generalizing e with
  | nil =>
    obtain rfl := Option.some.inj h
    rw [putAt, descend?_concat, descend?, Option.bind_some, child?_put hDirectory, if_pos rfl]
  | cons n names ih =>
    rw [descend?] at h
    obtain ⟨c, hChild, hRest⟩ := Option.bind_eq_some_iff.mp h
    have hName : (c.putAt names x).name = n := (name_putAt c names x).trans (name_of_child? hChild)
    rw [putAt_cons hChild, List.cons_append, descend?, child?_put (isDirectory_of_child? hChild),
      if_pos hName.symm]
    exact ih hRest

/-- Nothing else changes. -/
theorem label_descend?_putAt {names place : List String} {d : Entry}
    (h : e.descend? names = some d) (hDirectory : d.isDirectory = true)
    (hPlace : ¬ names ++ [x.name] <+: place) :
    ((e.putAt names x).descend? place).map label = (e.descend? place).map label := by
  induction names generalizing e place with
  | nil =>
    obtain rfl := Option.some.inj h
    cases place with
    | nil => exact congrArg some (label_put e x)
    | cons m place =>
      have hm : m ≠ x.name := by
        rintro rfl
        exact hPlace (by simp)
      rw [putAt, descend?, child?_put hDirectory, if_neg hm]
      rfl
  | cons n names ih =>
    rw [descend?] at h
    obtain ⟨c, hChild, hRest⟩ := Option.bind_eq_some_iff.mp h
    have hName : (c.putAt names x).name = n := (name_putAt c names x).trans (name_of_child? hChild)
    rw [putAt_cons hChild]
    cases place with
    | nil => exact congrArg some (label_put e _)
    | cons m place =>
      rw [descend?, descend?, child?_put (isDirectory_of_child? hChild), hName]
      by_cases hm : m = n
      · rw [if_pos hm, hm, hChild]
        refine ih hRest fun hPrefix => hPlace ?_
        rw [hm]
        exact List.cons_prefix_cons.mpr ⟨rfl, hPrefix⟩
      · rw [if_neg hm]

end Entry

end CodeAtlas.Files
