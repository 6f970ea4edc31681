import CodeAtlas.Files.Entry
import CodeAtlas.Proofs.Files.Walk
import CodeAtlas.Proofs.Order
import CodeAtlas.Proofs.Text.Search
import CodeAtlas.Proofs.Traced
import CodeAtlas.Tree.Ignore
import CodeAtlas.Tree.Scan
import Mathlib.Data.List.Nodup

/-!
# Scanned trees

A scan does not enter directories that are ignored. Without an ignore file it finds all the same
what a look at every single file finds.

* `ignores_below`: if the entries of a list ignore a directory, they ignore every file below it.
* `result_scan`: a scan answers with what the filter takes, in order.
* `mem_found`: what the filter takes lies at kept places below kept directories.
* `isListing_scan`: without an ignore file the kept files are all that matters, and the order in which
  the disk lists names does not.
-/

namespace CodeAtlas.Tree

open Std
open CodeAtlas.Files (Entry Visit pathText pathText_injective)
open CodeAtlas.Files.Entry (Leads Proper Relisted Kept walked)

/-! ## Ignored directories -/

section Ignored

open CodeAtlas.Text

/-- The path of a directory with its slash begins the path of everything below it. -/
theorem pathText_below {front rest : List String} (hFront : front ≠ []) (hRest : rest ≠ []) :
    (pathText front ++ "/").toList <+: (pathText (front ++ rest)).toList := by
  refine ⟨(pathText rest).toList, ?_⟩
  rw [pathText, pathText, pathText, join_append hFront hRest, ← String.toList_append]

theorem globsIgnore_nil (path : String) : globsIgnore [] path = false := rfl

namespace IgnoreRules

theorem ignores_iff {rules : IgnoreRules} {path : String} {isDirectory : Bool} :
    rules.ignores path isDirectory = true ↔
      rules.hasDirectory (if isDirectory then path ++ "/" else path) = true ∨
        (isDirectory = false ∧ rules.hasSuffix path = true) ∨
        rules.hasStart (if isDirectory then path ++ "/" else path) = true ∨
        globsIgnore rules.globs (if isDirectory then path ++ "/" else path) = true := by
  simp only [ignores, Bool.or_eq_true, Bool.and_eq_true, Bool.not_eq_true', or_assoc]

/-- Entries that ignore a directory ignore every file below it. An ending is no reason to ignore a
directory, so only the two kinds of entry matter that look at the beginning or at a part of a path. -/
theorem ignores_below {rules : IgnoreRules} (hGlobs : rules.globs = []) {directory path : String}
    (hBelow : (directory ++ "/").toList <+: path.toList)
    (h : rules.ignores directory true = true) : rules.ignores path false = true := by
  rw [ignores_iff, hGlobs, globsIgnore_nil] at h ⊢
  simp only [if_true, Bool.true_eq_false, false_and, false_or, Bool.false_eq_true, or_false,
    if_false] at h ⊢
  rcases h with hDirectory | hStart
  · left
    obtain ⟨d, hd, hContains⟩ := List.any_eq_true.mp hDirectory
    refine List.any_eq_true.mpr ⟨d, hd, contains_iff.mpr ?_⟩
    have hSlashed : ("/" ++ (directory ++ "/")).toList <+: ("/" ++ path).toList := by
      simpa only [String.toList_append, List.prefix_append_right_inj] using hBelow
    exact (contains_iff.mp hContains).trans hSlashed.isInfix
  · right; right
    obtain ⟨start, hMem, hPrefix⟩ := List.any_eq_true.mp hStart
    exact List.any_eq_true.mpr
      ⟨start, hMem, startsWith_iff.mpr ((startsWith_iff.mp hPrefix).trans hBelow)⟩

end IgnoreRules

end Ignored

/-! ## What a filter takes -/

namespace Filter

variable {f : Filter} {top : Entry}

/-- What the filter takes from a place. -/
def record? (f : Filter) (place : List String) (e : Entry) : Option FileEntry :=
  if f.keepsFile (pathText place) then fileEntry f.mode (pathText place) e else none

theorem record?_eq_some {place : List String} {e : Entry} {x : FileEntry} :
    f.record? place e = some x ↔
      f.keepsFile (pathText place) = true ∧ fileEntry f.mode (pathText place) e = some x := by
  simp [record?]

theorem path_of_record? {place : List String} {e : Entry} {x : FileEntry}
    (h : f.record? place e = some x) : x.path = pathText place := by
  obtain ⟨bytes, -, rfl⟩ := Option.map_eq_some_iff.mp (record?_eq_some.mp h).2
  rfl

theorem exists_file_of_fileEntry {mode : LineMode} {path : String} {e : Entry} {x : FileEntry}
    (h : fileEntry mode path e = some x) : ∃ n bytes, e = .file n bytes := by
  cases e with
  | file n bytes => exact ⟨n, bytes, rfl⟩
  | directory n cs => cases h
  | broken n => cases h

theorem countLines_le (mode : LineMode) (lines : List String) :
    countLines mode lines ≤ lines.length := by
  cases mode with
  | physical => exact le_rfl
  | logical => exact List.countP_le_length

/-- What the filter takes from a tree. -/
def found (f : Filter) (top : Entry) : List FileEntry :=
  (top.walk f.keepsDirectory []).flatMap fun v =>
    v.entry.children.flatMap fun c => (f.record? (v.path ++ [c.name]) c).toList

theorem yieldsIf_scanEntry (directory : List String) (e : Entry) :
    YieldsIf (f.scanEntry directory e) True (f.record? (directory ++ [e.name]) e).toList := by
  have hDirectory : e.isDirectory = true →
      fileEntry f.mode (pathText (directory ++ [e.name])) e = none := by
    cases e with
    | directory n cs => exact fun _ => rfl
    | file n bytes => exact fun h => nomatch h
    | broken n => exact fun h => nomatch h
  rw [scanEntry, record?]
  by_cases hKeep : f.keepsFile (pathText (directory ++ [e.name])) = true
  · rw [if_pos hKeep]
    cases hIs : e.isDirectory with
    | true =>
      rw [hDirectory hIs]
      exact YieldsIf.pure []
    | false =>
      simp only [hKeep, Bool.not_true, Bool.or_self, Bool.false_eq_true, if_false]
      cases fileEntry f.mode (pathText (directory ++ [e.name])) e with
      | some x => exact YieldsIf.pure [x]
      | none => exact (YieldsIf.pure []).noted _
  · rw [if_neg hKeep]
    simp only [hKeep, Bool.not_false, Bool.or_true, if_true]
    exact YieldsIf.pure []

theorem yieldsIf_scanVisit (v : Visit) :
    YieldsIf (f.scanVisit v) True
      (v.entry.children.flatMap fun c => (f.record? (v.path ++ [c.name]) c).toList) :=
  (YieldsIf.collect fun c _ => yieldsIf_scanEntry v.path c).congr_cond (by simp)

/-- The filter takes what it keeps below the directories that it keeps. -/
theorem mem_found {x : FileEntry} :
    x ∈ f.found top ↔ ∃ front n e, top.Leads (front ++ [n]) e ∧ Kept f.keepsDirectory [] front ∧
      f.record? (front ++ [n]) e = some x := by
  simp only [found, List.mem_flatMap, Option.mem_toList]
  constructor
  · rintro ⟨v, hv, c, hc, hx⟩
    obtain ⟨names, hPath, hLeads, -, hKept⟩ := Entry.mem_walk.mp hv
    rw [List.nil_append] at hPath
    rw [hPath] at hx
    exact ⟨names, c.name, c, Entry.leads_concat.mpr ⟨v.entry, hLeads, hc, rfl⟩, hKept, hx⟩
  · rintro ⟨front, n, e, hLeads, hKept, hx⟩
    obtain ⟨d, hd, hChild, rfl⟩ := Entry.leads_concat.mp hLeads
    have hDirectory : d.isDirectory = true := by
      cases d with
      | directory => rfl
      | file => cases hChild
      | broken => cases hChild
    exact ⟨⟨front, d⟩, Entry.mem_walk.mpr ⟨front, rfl, hd, hDirectory, hKept⟩, e, hChild, hx⟩

/-! ## Paths -/

theorem sublist_flatMap {α β : Type} {xs : List α} {g h : α → List β}
    (hSub : ∀ x ∈ xs, (g x).Sublist (h x)) : (xs.flatMap g).Sublist (xs.flatMap h) := by
  induction xs with
  | nil => exact List.Sublist.refl _
  | cons x xs ih =>
    obtain ⟨hx, hxs⟩ := List.forall_mem_cons.mp hSub
    exact hx.append (ih hxs)

theorem map_path_found (f : Filter) (top : Entry) :
    ((f.found top).map (·.path)).Sublist ((walked f.keepsDirectory [] top).map pathText) := by
  rw [found, walked, List.map_flatMap, List.map_flatMap]
  refine sublist_flatMap fun v _ => ?_
  rw [List.map_flatMap, List.map_map, List.map_eq_flatMap]
  refine sublist_flatMap fun c _ => ?_
  cases hEntry : f.record? (v.path ++ [c.name]) c with
  | none => exact List.nil_sublist _
  | some x =>
    rw [Option.toList_some, List.map_singleton, path_of_record? hEntry]
    exact List.Sublist.refl _

/-- In a proper tree no two finds have the same path. -/
theorem nodup_paths_found (hProper : top.Proper) : ((f.found top).map (·.path)).Nodup := by
  refine (map_path_found f top).nodup (List.Nodup.map_on ?_ (Entry.nodup_walked hProper))
  have hPlaces : ∀ place ∈ walked f.keepsDirectory [] top,
      place ≠ [] ∧ ∀ n ∈ place, '/' ∉ n.toList := by
    intro place hPlace
    obtain ⟨v, hv, hMem⟩ := List.mem_flatMap.mp hPlace
    obtain ⟨c, hc, rfl⟩ := List.mem_map.mp hMem
    obtain ⟨names, hPath, hLeads, -⟩ := Entry.mem_walk.mp hv
    refine ⟨by simp, ?_⟩
    rw [hPath, List.nil_append]
    exact hProper.slash_not_mem (Entry.leads_concat.mpr ⟨v.entry, hLeads, hc, rfl⟩)
  intro place hPlace place' hPlace' hEq
  obtain ⟨hSome, hSlash⟩ := hPlaces place hPlace
  obtain ⟨hSome', hSlash'⟩ := hPlaces place' hPlace'
  exact pathText_injective hSome hSome' hSlash hSlash' hEq

/-- What is found is listed in strictly ascending order. -/
theorem pairwise_sorted_found (hProper : top.Proper) :
    (sortBy FileEntry.order (f.found top)).Pairwise fun a b => a.order b = .lt := by
  have hPaths : ((sortBy FileEntry.order (f.found top)).map (·.path)).Nodup :=
    ((sortBy_perm _ _).map _).nodup_iff.mpr (nodup_paths_found hProper)
  have hSorted := pairwise_sortBy FileEntry.order (f.found top)
  refine (hSorted.and (List.pairwise_map.mp hPaths)).imp fun {a b} ⟨hle, hne⟩ => ?_
  cases hCmp : a.order b with
  | lt => rfl
  | eq => exact absurd (FileEntry.order_eq_eq.mp hCmp) hne
  | gt =>
    rw [hCmp] at hle
    cases hle

end Filter

theorem result_scan {settings : TreeSettings} {top : Entry} {f : Filter}
    (h : filterFor settings top = .ok f) :
    (scan settings top).result = .ok (sortBy FileEntry.order (f.found top)) := by
  have hFilter : YieldsIf (Traced.ofExcept (filterFor settings top)) True f := by
    rw [h]
    exact YieldsIf.pure f
  have hFound : YieldsIf ((top.walk f.keepsDirectory []).mapM f.scanVisit) True
      ((top.walk f.keepsDirectory []).map fun v =>
        v.entry.children.flatMap fun c => (f.record? (v.path ++ [c.name]) c).toList) :=
    (YieldsIf.mapM fun v _ => f.yieldsIf_scanVisit v).congr_cond (by simp)
  have hScan : YieldsIf (scan settings top) True (sortBy FileEntry.order (f.found top)) := by
    rw [Filter.found, List.flatMap_def]
    exact hFilter.map (hFound.map ((YieldsIf.pure _).noted _))
  exact (hScan _).mpr ⟨trivial, rfl⟩

/-! ## Without an ignore file -/

/-- Nothing under the name of an ignore file lies at the top, or it is not asked for. -/
def Plain (settings : TreeSettings) (top : Entry) : Prop :=
  settings.useIgnoreFile = false ∨ ∀ bytes, ¬ top.Leads [ignoreFileName] (.file ignoreFileName bytes)

/-- The filter of settings where there is no ignore file. -/
def plainFilter (settings : TreeSettings) : Filter :=
  ⟨IgnoreRules.ofEntries settings.ignore [], settings.extensions.map Text.lower,
    LineMode.ofText settings.lineMode⟩

theorem filterFor_plain {settings : TreeSettings} {top : Entry} (h : Plain settings top) :
    filterFor settings top = .ok (plainFilter settings) := by
  have hGlobs : settings.useIgnoreFile = true → readIgnoreFile top = .ok [] := by
    intro hUse
    have hNone : (top.child? ignoreFileName).bind (·.content?) = none := by
      refine Option.bind_eq_none_iff.mpr fun c hc => ?_
      have hMem : c ∈ top.children := List.mem_of_find?_eq_some hc
      have hName : c.name = ignoreFileName := by simpa using List.find?_some hc
      cases c with
      | directory n cs => rfl
      | broken n => rfl
      | file n bytes =>
        rcases h with hOff | hAbsent
        · rw [hOff] at hUse
          cases hUse
        · obtain rfl : n = ignoreFileName := hName
          have hLeads : top.Leads ([] ++ [ignoreFileName]) (.file ignoreFileName bytes) :=
            Entry.leads_concat.mpr ⟨top, .here top, hMem, rfl⟩
          exact absurd hLeads (hAbsent bytes)
    rw [readIgnoreFile, hNone]
  rw [filterFor]
  split
  · rw [hGlobs ‹_›]
    rfl
  · rfl

theorem plain_of_relisted {settings : TreeSettings} {top other : Entry}
    (h : Plain settings top) (hOther : Relisted top other) : Plain settings other :=
  h.imp_right fun hAbsent bytes hLeads => hAbsent bytes (hOther.leads_file_iff.mp hLeads)

/-- Without an ignore file, directories that are not entered hold nothing that is wanted. -/
theorem kept_plainFilter {settings : TreeSettings} {front : List String} {n : String}
    (h : (plainFilter settings).rules.ignores (pathText (front ++ [n])) false = false) :
    Kept (plainFilter settings).keepsDirectory [] front := by
  refine Entry.kept_of_forall fun before m after hFront => ?_
  rw [Filter.keepsDirectory, List.nil_append]
  by_contra hIgnored
  rw [Bool.not_eq_true, Bool.not_eq_false'] at hIgnored
  have hBelow : (pathText (before ++ [m]) ++ "/").toList <+: (pathText (front ++ [n])).toList := by
    have hPath : front ++ [n] = (before ++ [m]) ++ (after ++ [n]) := by
      rw [hFront]
      simp
    rw [hPath]
    exact pathText_below (by simp) (by simp)
  have hFile := IgnoreRules.ignores_below rfl hBelow hIgnored
  rw [hFile] at h
  cases h

/-- The entries are those of the single files that are wanted. -/
structure IsListing (settings : TreeSettings) (top : Entry) (entries : List FileEntry) : Prop where
  /-- Readable files with a wanted extension that are not ignored have entries, and nothing else. -/
  mem : ∀ x, x ∈ entries ↔ ∃ names e, names ≠ [] ∧ top.Leads names e ∧
    fileEntry (LineMode.ofText settings.lineMode) (pathText names) e = some x ∧
    hasExtension (settings.extensions.map Text.lower) (pathText names) = true ∧
    (IgnoreRules.ofEntries settings.ignore []).ignores (pathText names) false = false
  /-- Such a file has just one entry. -/
  single : ∀ names n bytes, names ≠ [] → top.Leads names (.file n bytes) →
    hasExtension (settings.extensions.map Text.lower) (pathText names) = true →
    (IgnoreRules.ofEntries settings.ignore []).ignores (pathText names) false = false →
    ∃! x, x ∈ entries ∧ x.path = pathText names
  /-- Entries ascend by their paths in small letters, then by their paths. -/
  ascending : entries.Pairwise fun a b => a.order b = .lt

theorem mem_found_plain {settings : TreeSettings} {top : Entry} {x : FileEntry} :
    x ∈ (plainFilter settings).found top ↔ ∃ names e, names ≠ [] ∧ top.Leads names e ∧
      fileEntry (LineMode.ofText settings.lineMode) (pathText names) e = some x ∧
      hasExtension (settings.extensions.map Text.lower) (pathText names) = true ∧
      (IgnoreRules.ofEntries settings.ignore []).ignores (pathText names) false = false := by
  rw [Filter.mem_found]
  constructor
  · rintro ⟨front, n, e, hLeads, -, hEntry⟩
    obtain ⟨hKeep, hFile⟩ := Filter.record?_eq_some.mp hEntry
    rw [Filter.keepsFile, Bool.and_eq_true, Bool.not_eq_true'] at hKeep
    exact ⟨front ++ [n], e, by simp, hLeads, hFile, hKeep⟩
  · rintro ⟨names, e, hSome, hLeads, hFile, hExtension, hIgnored⟩
    obtain ⟨front, n, rfl⟩ := (List.eq_nil_or_concat' names).resolve_left hSome
    refine ⟨front, n, e, hLeads, kept_plainFilter hIgnored, Filter.record?_eq_some.mpr ⟨?_, hFile⟩⟩
    rw [Filter.keepsFile, Bool.and_eq_true, Bool.not_eq_true']
    exact ⟨hExtension, hIgnored⟩

/-- **Scans list the wanted files.** Without an ignore file a scan finds every file that the filter
wants by itself, although it does not enter ignored directories, and the order in which the disk
lists names does not show. -/
theorem isListing_scan {settings : TreeSettings} {top : Entry} (hProper : top.Proper)
    (hPlain : Plain settings top) :
    ∃ entries, (scan settings top).result = .ok entries ∧ IsListing settings top entries ∧
      ∀ other, Relisted top other → (scan settings other).result = .ok entries := by
  have hSorted := Filter.pairwise_sorted_found (f := plainFilter settings) hProper
  have hMem : ∀ x, x ∈ sortBy FileEntry.order ((plainFilter settings).found top) ↔ _ :=
    fun x => (sortBy_perm _ _).mem_iff.trans mem_found_plain
  refine ⟨_, result_scan (filterFor_plain hPlain), ⟨hMem, ?_, hSorted⟩, ?_⟩
  · intro names n bytes hSome hLeads hExtension hIgnored
    obtain ⟨x, hx⟩ : ∃ x, fileEntry (LineMode.ofText settings.lineMode) (pathText names)
        (.file n bytes) = some x := ⟨_, rfl⟩
    have hPath : x.path = pathText names := by
      obtain rfl := Option.some.inj hx
      rfl
    refine ⟨x, ⟨(hMem x).mpr ⟨names, _, hSome, hLeads, hx, hExtension, hIgnored⟩, hPath⟩, ?_⟩
    rintro y ⟨hy, hyPath⟩
    exact List.inj_on_of_nodup_map (Filter.nodup_paths_found hProper)
      ((sortBy_perm _ _).mem_iff.mp hy) (mem_found_plain.mpr
        ⟨names, _, hSome, hLeads, hx, hExtension, hIgnored⟩) (hyPath.trans hPath.symm)
  · intro other hOther
    rw [result_scan (filterFor_plain (plain_of_relisted hPlain hOther))]
    refine congrArg Except.ok (eq_of_pairwise_lt FileEntry.order
      (Filter.pairwise_sorted_found (hOther.proper hProper)) hSorted fun x => ?_)
    rw [hMem, (sortBy_perm _ _).mem_iff, mem_found_plain]
    refine exists_congr fun names => exists_congr fun e => and_congr_right fun _ => ?_
    rw [← and_assoc, ← and_assoc (a := top.Leads names e)]
    refine and_congr_left fun _ => and_congr_left fun hFile => ?_
    obtain ⟨n, bytes, rfl⟩ := Filter.exists_file_of_fileEntry hFile
    exact hOther.leads_file_iff

/-- A tree with an ignored directory, an ignored ending, two paths that differ in case only, and a
link to nothing. -/
def sampleTree : Entry :=
  .directory "" [.directory "src" [.file "b.py" [], .file "B.py" [10], .file "b.gen.py" []],
    .directory "build" [.directory "src" [.file "c.py" []]], .file "README" [65], .broken "lost.py"]

def sampleSettings : TreeSettings := ⟨["build/", ".gen.py", "docs"], [".PY"], "physical", true⟩

theorem proper_sampleTree : sampleTree.Proper := by
  have hDirectory : ∀ {n : String} {cs : List Entry}, (cs.map (·.name)).Nodup →
      (∀ c ∈ cs, '/' ∉ c.name.toList ∧ c.Proper) → (Entry.directory n cs).Proper :=
    fun hNodup hAll => .directory hNodup (fun c hc => (hAll c hc).1) fun c hc => (hAll c hc).2
  refine hDirectory (by decide) ?_
  simp only [List.forall_mem_cons, List.not_mem_nil, false_implies, implies_true, and_true]
  refine ⟨⟨by decide, hDirectory (by decide) ?_⟩, ⟨by decide, hDirectory (by decide) ?_⟩,
    ⟨by decide, .file _ _⟩, by decide, .broken _⟩
  · simp only [List.forall_mem_cons, List.not_mem_nil, false_implies, implies_true, and_true]
    exact ⟨⟨by decide, .file _ _⟩, ⟨by decide, .file _ _⟩, by decide, .file _ _⟩
  · simp only [List.forall_mem_cons, List.not_mem_nil, false_implies, implies_true, and_true]
    refine ⟨by decide, hDirectory (by decide) ?_⟩
    simp only [List.forall_mem_cons, List.not_mem_nil, false_implies, implies_true, and_true]
    exact ⟨by decide, .file _ _⟩

theorem isListing_scan_sampleTree :
    sampleTree.Proper ∧ Plain sampleSettings sampleTree ∧
      ∃ entries, (scan sampleSettings sampleTree).result = .ok entries ∧
        IsListing sampleSettings sampleTree entries ∧
        ∀ other, Relisted sampleTree other → (scan sampleSettings other).result = .ok entries := by
  have hPlain : Plain sampleSettings sampleTree := by
    refine .inr fun bytes hLeads => ?_
    have hConcat : sampleTree.Leads ([] ++ [ignoreFileName]) (.file ignoreFileName bytes) := hLeads
    obtain ⟨d, hd, hChild, -⟩ := Entry.leads_concat.mp hConcat
    cases hd
    simp [sampleTree, Entry.children, ignoreFileName] at hChild
  exact ⟨proper_sampleTree, hPlain, isListing_scan proper_sampleTree hPlain⟩

end CodeAtlas.Tree
