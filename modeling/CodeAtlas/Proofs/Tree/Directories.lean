import CodeAtlas.Files.Entry
import CodeAtlas.Proofs.Text.Parts
import CodeAtlas.Proofs.Text.Search
import CodeAtlas.Tree.Ignore

/-!
# Entries for directories

An entry that ends in a slash is looked for as a text inside a path, with a slash before each of them.
Since every name on both sides has a slash behind it, the text is found just where the names are.

* `slashed_prefix_iff`, `slashed_infix_iff`: names with slashes behind them stand in a text of such
  names exactly where the names stand in the list.
* `directoriesIgnored`: an entry ignores the directories on whose paths its names follow each other,
  and the files below these.
-/

namespace CodeAtlas.Tree

open CodeAtlas.Files (pathText)
open CodeAtlas.Text

/-! ## Paths as texts -/

/-- The names that lead to something: at least one, and none is empty or has a slash in it. -/
structure IsPath (names : List String) : Prop where
  some : names ≠ []
  name : ∀ n ∈ names, n ≠ "" ∧ '/' ∉ n.toList

theorem IsPath.slashless {names : List String} (h : IsPath names) : ∀ n ∈ names, '/' ∉ n.toList :=
  fun n hn => (h.name n hn).2

/-- Names with a slash behind each. -/
def slashed (names : List String) : List Char := names.flatMap fun n => n.toList ++ ['/']

theorem slashed_cons (n : String) (names : List String) :
    slashed (n :: names) = n.toList ++ '/' :: slashed names := by
  simp [slashed]

theorem pathText_singleton (n : String) : pathText [n] = n :=
  String.intercalate_singleton (s := "/")

theorem toList_slash (s : String) : ("/" ++ s).toList = '/' :: s.toList := by simp

theorem toList_pathText_concat (names : List String) (n : String) :
    (pathText (names ++ [n])).toList = slashed names ++ n.toList := by
  induction names with
  | nil => rw [List.nil_append, pathText_singleton, slashed, List.flatMap_nil, List.nil_append]
  | cons m names ih =>
    have hSome : names ++ [n] ≠ [] := by simp
    rw [pathText] at ih
    rw [pathText, List.cons_append, join_cons hSome, String.toList_append, ih, slashed_cons]
    simp

/-- The path of a directory with its slash has a slash behind each name. -/
theorem toList_pathText_slash {names : List String} (h : names ≠ []) :
    (pathText names ++ "/").toList = slashed names := by
  obtain ⟨front, last, rfl⟩ := List.eq_nil_or_concat names |>.resolve_left h
  rw [String.toList_append, List.concat_eq_append, toList_pathText_concat, slashed, slashed,
    List.flatMap_append]
  simp

/-! ## Names inside texts -/

/-- What stands at the beginning of such a text are the first names. -/
theorem slashed_prefix_iff {ds ps : List String} (hd : ∀ d ∈ ds, '/' ∉ d.toList)
    (hp : ∀ p ∈ ps, '/' ∉ p.toList) : slashed ds <+: slashed ps ↔ ds <+: ps := by
  induction ds generalizing ps with
  | nil => simp [slashed]
  | cons d ds ih =>
    obtain ⟨hFirst, hRest⟩ := List.forall_mem_cons.mp hd
    cases ps with
    | nil => simp [slashed]
    | cons p ps =>
      obtain ⟨hName, hNames⟩ := List.forall_mem_cons.mp hp
      rw [slashed_cons, slashed_cons, List.cons_prefix_cons, ← ih hRest hNames]
      constructor
      · -- both texts have their first slash behind the first name
        rintro ⟨rest, hEq⟩
        rw [List.append_assoc, List.cons_append] at hEq
        have hCut := congrArg (cutFirstChars '/') hEq
        rw [cutFirstChars_append hFirst, cutFirstChars_append hName, Option.some.injEq,
          Prod.mk.injEq, String.toList_inj] at hCut
        exact ⟨hCut.1, rest, hCut.2⟩
      · rintro ⟨rfl, hPrefix⟩
        rw [List.prefix_append_right_inj, List.cons_prefix_cons]
        exact ⟨rfl, hPrefix⟩

theorem slashed_infix_iff {ds ps : List String} (hd : ∀ d ∈ ds, '/' ∉ d.toList)
    (hp : ∀ p ∈ ps, '/' ∉ p.toList) : '/' :: slashed ds <:+: '/' :: slashed ps ↔ ds <:+: ps := by
  -- the slash in front is the same on both sides
  have hHead (qs : List String) (hq : ∀ q ∈ qs, '/' ∉ q.toList) :
      '/' :: slashed ds <+: '/' :: slashed qs ↔ ds <+: qs := by
    rw [List.cons_prefix_cons, slashed_prefix_iff hd hq]
    exact and_iff_right rfl
  induction ps with
  | nil =>
    rw [List.infix_cons_iff, hHead [] hp]
    simp [slashed]
  | cons p ps ih =>
    obtain ⟨hName, hNames⟩ := List.forall_mem_cons.mp hp
    have hRest : '/' :: slashed ds <:+: '/' :: slashed ps ↔ ds <:+: ps := ih hNames
    rw [List.infix_cons_iff, hHead _ hp, slashed_cons, cons_infix_append_iff hName, hRest,
      List.infix_cons_iff]

/-- The last name of a file's path has no slash behind it, so no entry reaches into it. -/
theorem slashed_infix_file_iff {ds ps : List String} {n : String} (hSome : ds ≠ [])
    (hd : ∀ d ∈ ds, '/' ∉ d.toList) (hp : ∀ p ∈ ps, '/' ∉ p.toList) (hn : '/' ∉ n.toList) :
    '/' :: slashed ds <:+: '/' :: (slashed ps ++ n.toList) ↔ ds <:+: ps := by
  obtain ⟨front, last, rfl⟩ := List.eq_nil_or_concat ds |>.resolve_left hSome
  have hEnd : '/' :: slashed (front.concat last) = ('/' :: slashed front ++ last.toList) ++ ['/'] := by
    simp [slashed]
  rw [← slashed_infix_iff hd hp, hEnd, ← List.cons_append, concat_infix_append_iff hn]

/-! ## Entries -/

/-- The entry for the directories at the end of some names. -/
def directoryEntry (names : List String) : String := pathText names ++ "/"

/-- The entry is taken as it is written: there is no backslash in it, which would stand for a slash,
and it does not begin with a blank. -/
structure IsEntry (names : List String) : Prop extends IsPath names where
  straight : '\\' ∉ (directoryEntry names).toList
  flush : ∀ c ∈ (directoryEntry names).toList.head?, isBlank c = false

theorem IsEntry.readEntry_eq {names : List String} (h : IsEntry names) :
    readEntry (directoryEntry names) = some (.directory (directoryEntry names)) := by
  have hSlash : isBlank '/' = false := by decide
  have hStrip : strip (directoryEntry names) = directoryEntry names := by
    rw [strip, trimBy_eq_self h.flush, String.ofList_toList]
    intro c hc
    have hLast : (directoryEntry names).toList.getLast? = some '/' := by simp [directoryEntry]
    rwa [← Option.some.inj (hLast.symm.trans hc)]
  have hReplace : replaceChar '\\' '/' (directoryEntry names) = directoryEntry names := by
    have hSame : ∀ c ∈ (directoryEntry names).toList, (if c = '\\' then '/' else c) = c := by
      intro c hc
      rw [if_neg]
      rintro rfl
      exact h.straight hc
    rw [replaceChar, List.map_congr_left hSame, List.map_id', String.ofList_toList]
  have hSome : directoryEntry names ≠ "" := by
    intro hEmpty
    have hList := congrArg String.toList hEmpty
    simp [directoryEntry] at hList
  have hEnds : endsWith (directoryEntry names) "/" = true := by
    simp [endsWith, directoryEntry]
  simp only [readEntry, hStrip, hReplace, if_neg hSome, hEnds, if_true]

/-- An entry for directories as the only rule. -/
def onlyEntry (names : List String) : IgnoreRules := .ofEntries [directoryEntry names] []

theorem IsEntry.ignores_eq {names : List String} (h : IsEntry names) (path : String)
    (isDirectory : Bool) : (onlyEntry names).ignores path isDirectory =
      contains ("/" ++ if isDirectory then path ++ "/" else path) ("/" ++ directoryEntry names) := by
  have hRules : onlyEntry names = ⟨[directoryEntry names], [], [], []⟩ := by
    simp [onlyEntry, IgnoreRules.ofEntries, h.readEntry_eq]
  rw [hRules]
  simp [IgnoreRules.ignores, IgnoreRules.hasDirectory, IgnoreRules.hasSuffix, IgnoreRules.hasStart,
    globsIgnore]

/-- What an entry for directories ignores. -/
structure DirectoriesIgnored (ds : List String) : Prop where
  /-- A directory on whose path the names of the entry follow each other. -/
  directory_iff : ∀ ps, IsPath ps → ((onlyEntry ds).ignores (pathText ps) true = true ↔ ds <:+: ps)
  /-- A file for which the directories above it do. -/
  file_iff : ∀ ps, IsPath ps →
    ((onlyEntry ds).ignores (pathText ps) false = true ↔ ds <:+: ps.dropLast)
  /-- A name matches just itself, at any depth. -/
  name_iff : ∀ d, ds = [d] → ∀ ps, IsPath ps →
    ((onlyEntry ds).ignores (pathText ps) true = true ↔ d ∈ ps)
  /-- A file's own name makes no difference: it is ignored if the directory that holds it is. -/
  file_eq : ∀ ps n, ps ≠ [] → IsPath (ps ++ [n]) →
    (onlyEntry ds).ignores (pathText (ps ++ [n])) false = (onlyEntry ds).ignores (pathText ps) true
  /-- So no file at the top is. -/
  top : ∀ n, IsPath [n] → (onlyEntry ds).ignores (pathText [n]) false = false

theorem IsEntry.directory_iff {ds ps : List String} (h : IsEntry ds) (hp : IsPath ps) :
    (onlyEntry ds).ignores (pathText ps) true = true ↔ ds <:+: ps := by
  rw [h.ignores_eq, if_pos rfl, contains_iff, toList_slash, toList_slash, directoryEntry,
    toList_pathText_slash h.some, toList_pathText_slash hp.some,
    slashed_infix_iff h.slashless hp.slashless]

theorem IsEntry.file_iff {ds ps : List String} (h : IsEntry ds) (hp : IsPath ps) :
    (onlyEntry ds).ignores (pathText ps) false = true ↔ ds <:+: ps.dropLast := by
  obtain ⟨front, last, rfl⟩ := List.eq_nil_or_concat ps |>.resolve_left hp.some
  rw [List.concat_eq_append] at hp ⊢
  obtain ⟨hFront, hLast⟩ := List.forall_mem_append.mp hp.slashless
  rw [h.ignores_eq, if_neg Bool.false_ne_true, contains_iff, toList_slash, toList_slash,
    directoryEntry, toList_pathText_slash h.some, toList_pathText_concat, List.dropLast_concat,
    slashed_infix_file_iff h.some h.slashless hFront (hLast last (List.mem_singleton_self last))]

/-- **Entries for directories.** They are matched by whole names at any depth, and files only by the
directories above them. -/
theorem directoriesIgnored {ds : List String} (h : IsEntry ds) : DirectoriesIgnored ds where
  directory_iff _ hp := h.directory_iff hp
  file_iff _ hp := h.file_iff hp
  name_iff := by
    rintro d rfl ps hp
    rw [h.directory_iff hp, List.singleton_infix_iff]
  file_eq := by
    intro ps n hSome hp
    have hFront : IsPath ps := ⟨hSome, fun m hm => hp.name m (List.mem_append_left _ hm)⟩
    rw [Bool.eq_iff_iff, h.file_iff hp, h.directory_iff hFront, List.dropLast_concat]
  top := by
    intro n hn
    rw [Bool.eq_false_iff, ne_eq, h.file_iff hn]
    simpa using h.some

/-- The names `docs` and `build` stand on the way to a file, and its directory is called `builder`. -/
theorem directoriesIgnored_docsBuild : IsEntry ["docs", "build"] ∧ DirectoriesIgnored ["docs", "build"] ∧
    (onlyEntry ["docs", "build"]).ignores (pathText ["a", "docs", "build", "x"]) false = true ∧
    (onlyEntry ["docs", "build"]).ignores (pathText ["a", "docs", "builder", "docs"]) true = false := by
  have hHead : (directoryEntry ["docs", "build"]).toList.head? = some 'd' := by decide +kernel
  have hEntry : IsEntry ["docs", "build"] := by
    refine ⟨⟨by decide, by decide +kernel⟩, by decide +kernel, ?_⟩
    rw [hHead]
    rintro c ⟨⟩
    rfl
  have hIgnored := directoriesIgnored hEntry
  have hFile : IsPath ["a", "docs", "build", "x"] := ⟨by decide, by decide +kernel⟩
  have hOther : IsPath ["a", "docs", "builder", "docs"] := ⟨by decide, by decide +kernel⟩
  refine ⟨hEntry, hIgnored, (hIgnored.file_iff _ hFile).mpr (by decide), ?_⟩
  rw [Bool.eq_false_iff, ne_eq, hIgnored.directory_iff _ hOther]
  decide

end CodeAtlas.Tree
