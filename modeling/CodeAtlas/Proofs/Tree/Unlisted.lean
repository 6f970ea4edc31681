import CodeAtlas.Proofs.Files.Prune
import CodeAtlas.Proofs.Traced
import CodeAtlas.Tree.Scan

/-!
# What a scan does not list

A scan reads the ignore file at the top and the files that its filter takes, and nothing else.

* `scan_congr`: it is the same for trees that differ elsewhere.
-/

namespace CodeAtlas.Tree

open CodeAtlas.Files (Entry Visit pathText)
open CodeAtlas.Files.Entry (under Visible HidesOnly AlikeUpTo Kept)

/-- The filter does not take what is at a place: the scan does not come there, or the filter does not
want it, or it is a directory. -/
def Filter.Leaves (f : Filter) (names : List String) (e : Entry) : Prop :=
  Kept f.keepsDirectory [] names.dropLast →
    e.isDirectory = true ∨ f.keepsFile (pathText names) = false

variable {H : List String → Bool} {e : Entry}

theorem readIgnoreFile_prune {P : List String → Entry → Prop} (h : e.HidesOnly H P)
    (hIgnore : ∀ c, ¬ P [ignoreFileName] c) : readIgnoreFile (e.prune H) = readIgnoreFile e := by
  rw [readIgnoreFile, readIgnoreFile, h.child?_eq fun c _ => hIgnore c]
  cases e.child? ignoreFileName with
  | none => rfl
  | some c =>
    rw [Option.map_some, Option.bind_some, Option.bind_some,
      Entry.content?_congr (Entry.label_prune _ c)]

theorem filterFor_prune {settings : TreeSettings} {P : List String → Entry → Prop}
    (h : e.HidesOnly H P) (hIgnore : settings.useIgnoreFile = true → ∀ c, ¬ P [ignoreFileName] c) :
    filterFor settings (e.prune H) = filterFor settings e := by
  rw [filterFor, filterFor]
  split
  · rw [readIgnoreFile_prune h (hIgnore ‹_›)]
  · rfl

theorem extensions_of_filterFor {settings : TreeSettings} {top : Entry} {f : Filter}
    (h : filterFor settings top = .ok f) : f.extensions = settings.extensions.map Text.lower := by
  rw [filterFor] at h
  split at h
  · cases hIgnore : readIgnoreFile top with
    | error failure =>
      rw [hIgnore] at h
      cases h
    | ok globs =>
      rw [hIgnore] at h
      obtain rfl := Except.ok.inj h
      rfl
  · obtain rfl := Except.ok.inj h
    rfl

namespace Filter

variable {f : Filter}

/-- The files of a directory that are looked at. -/
def lookedAt (f : Filter) (place : List String) (e : Entry) : List (Traced (List FileEntry)) :=
  if e.isDirectory || !f.keepsFile (pathText (place ++ [e.name])) then [] else [f.scanEntry place e]

theorem scanEntry_eq (f : Filter) (place : List String) (e : Entry) :
    f.scanEntry place e = Traced.gather (f.lookedAt place e) := by
  rw [lookedAt]
  split
  · rw [scanEntry, if_pos ‹_›]
    rfl
  · exact (Traced.gather_singleton _).symm

theorem scanVisit_eq (f : Filter) (v : Visit) :
    f.scanVisit v = Traced.gather (v.entry.children.flatMap (f.lookedAt v.path)) := by
  rw [scanVisit, ← Traced.gather_map_eq, Traced.gather_map fun c _ => f.scanEntry_eq v.path c]

theorem lookedAt_prune (H : List String → Bool) (place : List String) (e : Entry) :
    f.lookedAt place (e.prune H) = f.lookedAt place e := by
  have hLabel := Entry.label_prune H e
  have hEntry : ∀ path, fileEntry f.mode path (e.prune H) = fileEntry f.mode path e := by
    intro path
    rw [fileEntry, fileEntry, Entry.content?_congr hLabel, Entry.name_prune]
  rw [lookedAt, lookedAt, scanEntry, scanEntry, Entry.isDirectory_congr hLabel, Entry.name_prune,
    hEntry]

theorem lookedAt_eq_nil {place : List String} {e : Entry} (hKept : Kept f.keepsDirectory [] place)
    (h : f.Leaves (place ++ [e.name]) e) : f.lookedAt place e = [] := by
  rw [Leaves, List.dropLast_concat] at h
  rw [lookedAt]
  rcases h hKept with hDirectory | hUnwanted
  · rw [hDirectory]
    rfl
  · rw [hUnwanted, Bool.not_false, Bool.or_true, if_pos rfl]

/-- Whatever the filter leaves can be hidden. -/
theorem gather_prune (h : e.HidesOnly H f.Leaves) :
    Traced.gather (((e.prune H).walk f.keepsDirectory []).map f.scanVisit) =
      Traced.gather ((e.walk f.keepsDirectory []).map f.scanVisit) := by
  rw [Traced.gather_map fun v _ => f.scanVisit_eq v, Traced.gather_map fun v _ => f.scanVisit_eq v]
  rw [Entry.flatMap_walk_children_prune h lookedAt_prune fun _ _ => lookedAt_eq_nil]

end Filter

/-- A scan does not depend on what its filter leaves, apart from the ignore file. -/
theorem scan_congr {settings : TreeSettings} {P : List String → Entry → Prop} {e e' : Entry}
    (h : AlikeUpTo P e e') (hIgnore : settings.useIgnoreFile = true → ∀ c, ¬ P [ignoreFileName] c)
    (hLeaves : ∀ f, filterFor settings e = .ok f → ∀ names c, P names c → f.Leaves names c) :
    scan settings e' = scan settings e := by
  have hFilter : filterFor settings e' = filterFor settings e :=
    h.eq fun _ _ hHides => filterFor_prune hHides hIgnore
  rw [scan, scan, hFilter]
  cases hResult : filterFor settings e with
  | error failure => rfl
  | ok f =>
    have hScan : ∀ top : Entry, (do
        let found ← (top.walk f.keepsDirectory []).mapM f.scanVisit
        let entries := sortBy FileEntry.order found.flatten
        Traced.note (.treeFiles entries.length)
        return entries) = (do
        let found ← Traced.gather ((top.walk f.keepsDirectory []).map f.scanVisit)
        let entries := sortBy FileEntry.order found
        Traced.note (.treeFiles entries.length)
        return entries) := by
      intro top
      rw [Traced.gather_map_eq, LawfulMonad.bind_assoc]
      rfl
    have hGather := (h.imp (hLeaves f hResult)).eq
      (f := fun top => Traced.gather ((top.walk f.keepsDirectory []).map f.scanVisit))
      fun _ _ hHides => f.gather_prune hHides
    have hOk : Traced.ofExcept (Except.ok f) = (pure f : Traced Filter) := rfl
    rw [hOk, pure_bind, pure_bind, hScan, hScan, hGather]

end CodeAtlas.Tree
