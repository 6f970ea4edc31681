import CodeAtlas.Proofs.Files.Put

/-!
# Writing to a disk

* `Writes.read_eq`: a file that is written can be read.
* `extends_of_write`: making directories and writing a file loses nothing, and apart from the places
  that change the tree is the same.
* `Writes.again`: writing the same again changes nothing.
-/

namespace CodeAtlas.Files

/-! ## New directories -/

/-- Directories are made at some places, the last one first in the list. -/
inductive Grows (top : Entry) : List (List String) → Entry → Prop
  | refl : Grows top [] top
  | step {made : List (List String)} {e d : Entry} {names : List String} {n : String} :
      Grows top made e → e.descend? names = some d → d.isDirectory = true →
      e.descend? (names ++ [n]) = none →
      Grows top ((names ++ [n]) :: made) (e.putAt names (.directory n []))

namespace Grows

variable {top e : Entry} {made : List (List String)}

theorem trans {top₁ : Entry} {made₁ : List (List String)} (h : Grows top made₁ top₁)
    (h' : Grows top₁ made e) : Grows top (made ++ made₁) e := by
  induction h' with
  | refl => exact h
  | step _ hFound hDirectory hMissing ih => exact .step ih hFound hDirectory hMissing

theorem distinct (h : Grows top made e) (hTop : top.Distinct) : e.Distinct := by
  induction h with
  | refl => exact hTop
  | step _ _ _ _ ih =>
    refine Entry.distinct_putAt ih (Entry.distinct_directory.mpr ⟨List.nodup_nil, ?_⟩)
    exact fun c hc => absurd hc List.not_mem_nil

/-- What was there is there. -/
theorem label_eq (h : Grows top made e) {place : List String} {x : Entry}
    (hFound : top.descend? place = some x) :
    (e.descend? place).map Entry.label = some x.label := by
  induction h with
  | refl => rw [hFound, Option.map_some]
  | @step made e d names n _ hNames hDirectory hMissing ih =>
    rw [Entry.label_descend?_putAt hNames hDirectory ?_, ih]
    rintro ⟨rest, rfl⟩
    rw [Entry.descend?_append] at ih
    change Option.map _ ((e.descend? (names ++ [n])).bind _) = _ at ih
    rw [hMissing] at ih
    cases ih

/-- Where a directory is made, there was nothing, and there is something. -/
theorem of_mem_made (h : Grows top made e) {place : List String} (hMade : place ∈ made) :
    top.descend? place = none ∧ (e.descend? place).map Entry.label = some .directory := by
  induction h with
  | refl => cases hMade
  | @step made e d names n hGrows hNames hDirectory hMissing ih =>
    have hMake : Grows e [names ++ [n]] (e.putAt names (.directory n [])) :=
      .step .refl hNames hDirectory hMissing
    rcases List.mem_cons.mp hMade with rfl | hMade
    · refine ⟨?_, ?_⟩
      · cases hTop : top.descend? (names ++ [n]) with
        | none => rfl
        | some x =>
          have hKept := hGrows.label_eq hTop
          rw [hMissing] at hKept
          cases hKept
      · have hSelf := Entry.descend?_putAt_self (x := .directory n []) hNames hDirectory
        exact congrArg (Option.map Entry.label) hSelf
    · obtain ⟨hTop, hLabel⟩ := ih hMade
      obtain ⟨x, hx, hxLabel⟩ := Option.map_eq_some_iff.mp hLabel
      exact ⟨hTop, (hMake.label_eq hx).trans (congrArg some hxLabel)⟩

theorem prune_eq (h : Grows top made e) (hTop : top.Distinct) {H : List String → Bool}
    (hHidden : ∀ place ∈ made, H place = true) : e.prune H = top.prune H := by
  induction h with
  | refl => rfl
  | step hGrows _ _ _ ih =>
    obtain ⟨hHead, hRest⟩ := List.forall_mem_cons.mp hHidden
    rw [Entry.prune_putAt (hGrows.distinct hTop) hHead, ih hRest]

end Grows

/-! ## Operations of a disk -/

namespace Disk

variable {d d' : Disk} {p : Path}

theorem fullParts_concat (d : Disk) {p : Path} (hSome : p.parts ≠ []) :
    d.fullParts p = d.fullParts p.parent ++ [p.name] := by
  have hParts : p.parts = p.parts.dropLast ++ [p.name] := by
    rw [Path.name, List.getLast?_eq_some_getLast hSome, Option.getD_some,
      List.dropLast_append_getLast hSome]
  have hAbsolute : p.parent.isAbsolute = p.isAbsolute := rfl
  rw [fullParts, fullParts, hAbsolute]
  split
  · exact hParts
  · rw [List.append_assoc]
    exact congrArg (d.cwd ++ ·) hParts

/-- The names that lead to a directory. -/
theorem directoryNames?_eq_some {names : List String} (h : d.directoryNames? p = some names) :
    names = d.place p ∧ ∃ e, d.entry? p = some e ∧ e.isDirectory = true := by
  rw [directoryNames?] at h
  rcases (StackAt.top : StackAt d.top [] [d.top]).follow (d.fullParts p) with
    ⟨stack, hFollow, hStack, -⟩ | ⟨hFollow, -⟩
  · rw [locate, hFollow] at h
    cases stack with
    | nil => cases h
    | cons e above =>
      dsimp only at h
      split at h
      · rename_i hDirectory
        refine ⟨(Option.some.inj h).symm.trans hStack.names_eq, e, ?_, hDirectory⟩
        rw [Disk.entry?, locate, hFollow]
        rfl
      · cases h
  · rw [locate, hFollow] at h
    cases h

theorem directoryNames?_of_directory {e : Entry} (h : d.entry? p = some e)
    (hDirectory : e.isDirectory = true) : d.directoryNames? p = some (d.place p) := by
  rw [Disk.entry?, locate] at h
  rw [directoryNames?, locate]
  rcases (StackAt.top : StackAt d.top [] [d.top]).follow (d.fullParts p) with
    ⟨stack, hFollow, hStack, -⟩ | ⟨hFollow, -⟩
  · rw [hFollow] at h ⊢
    cases stack with
    | nil => cases h
    | cons x above =>
      obtain rfl : x = e := Option.some.inj h
      dsimp only
      rw [if_pos hDirectory]
      exact congrArg some hStack.names_eq
  · rw [hFollow] at h
    cases h

/-- What a path finds in the directory that holds it. -/
theorem entry?_of_parent {names : List String} (h : d.directoryNames? p.parent = some names)
    (hSome : p.parts ≠ []) :
    d.top.descend? names ≠ none ∧ d.entry? p = d.top.descend? (further names p.name) := by
  obtain ⟨rfl, e, hEntry, hDirectory⟩ := directoryNames?_eq_some h
  have hFound := descend?_place hEntry
  refine ⟨by rw [hFound]; exact nofun, ?_⟩
  rw [entry?_eq] at hEntry
  have hLanding : landing [] (d.fullParts p.parent) = d.place p.parent := rfl
  rw [entry?_eq, fullParts_concat d hSome, seek_append, hEntry, Option.bind_some, hLanding, seek,
    hFound, Option.any_some, if_pos hDirectory, seek]

/-! ## Making directories -/

/-- New directories are all that is different. -/
def Built (d d' : Disk) : Prop := d'.cwd = d.cwd ∧ ∃ made, Grows d.top made d'.top

theorem Built.refl (d : Disk) : d.Built d := ⟨rfl, [], .refl⟩

theorem Built.trans {d'' : Disk} (h : d.Built d') (h' : d'.Built d'') : d.Built d'' := by
  obtain ⟨hCwd, made, hMade⟩ := h
  obtain ⟨hCwd', made', hMade'⟩ := h'
  exact ⟨hCwd'.trans hCwd, _, hMade.trans hMade'⟩

theorem built_of_made (h : d.makeDirectory p = .made d') : d.Built d' := by
  rw [makeDirectory] at h
  split at h
  · cases h
  · rename_i hMissing
    have hNone : d.entry? p = none := by simpa using hMissing
    cases hNames : d.directoryNames? p.parent with
    | none =>
      rw [hNames] at h
      dsimp only at h
      split at h <;> cases h
    | some names =>
      rw [hNames] at h
      obtain rfl := Making.made.inj h
      obtain ⟨hPlace, e, hEntry, hDirectory⟩ := directoryNames?_eq_some hNames
      have hSome : p.parts ≠ [] := by
        intro hEmpty
        have hSame : p.parent = p := by
          rw [Path.parent, hEmpty, List.dropLast_nil, ← hEmpty]
        rw [hSame, hNone] at hEntry
        cases hEntry
      obtain ⟨-, hFound⟩ := entry?_of_parent hNames hSome
      have hTop : d.top.descend? names = some e := by
        rw [hPlace]
        exact descend?_place hEntry
      have hName : p.name ≠ ".." := by
        intro hUp
        rw [hNone, hUp, further, if_pos rfl] at hFound
        rcases List.eq_nil_or_concat' names with rfl | ⟨front, n, rfl⟩
        · cases hFound
        · rw [List.dropLast_concat] at hFound
          rw [Entry.descend?_concat, ← hFound] at hTop
          cases hTop
      rw [hNone, further, if_neg hName] at hFound
      exact ⟨rfl, _, .step .refl hTop hDirectory hFound.symm⟩

theorem built_of_makeDirectories {fuel : Nat} (h : makeDirectories fuel d p = some d') :
    d.Built d' := by
  induction fuel generalizing p d' with
  | zero => cases h
  | succ fuel ih =>
    rw [makeDirectories] at h
    split at h
    · rename_i hMade
      obtain rfl := Option.some.inj h
      exact built_of_made hMade
    · split at h
      · obtain rfl := Option.some.inj h
        exact .refl d
      · cases h
    · obtain ⟨d₁, hAbove, hRest⟩ := Option.bind_eq_some_iff.mp h
      refine (ih hAbove).trans ?_
      split at hRest
      · rename_i hMade
        obtain rfl := Option.some.inj hRest
        exact built_of_made hMade
      · split at hRest
        · obtain rfl := Option.some.inj hRest
          exact .refl d₁
        · cases hRest

/-- A directory that is there stays as it is. -/
theorem ensureDirectory_of_isDirectory (h : d.isDirectory p = true) :
    d.ensureDirectory p = some d := by
  have hThere : (d.entry? p).isSome = true := by
    obtain ⟨e, hEntry, -⟩ := (Option.any_eq_true _ _).mp h
    rw [hEntry]
    rfl
  rw [ensureDirectory, makeDirectories, makeDirectory, if_pos hThere]
  exact if_pos h

/-! ## Writing files -/

variable {bytes : List UInt8}

/-- What happens when a file is written. -/
structure Writes (d : Disk) (p : Path) (bytes : List UInt8) (names : List String) (d' : Disk) :
    Prop where
  parts : p.parts ≠ []
  name : p.name ≠ ".."
  parent : d.directoryNames? p.parent = some names
  /-- Only a file is replaced. -/
  file : ∀ x, d.top.descend? (names ++ [p.name]) = some x → x.isFile = true
  result : d' = { d with top := d.top.putAt names (.file p.name bytes) }

theorem writes_of_write (h : d.write p bytes = some d') : ∃ names, d.Writes p bytes names d' := by
  have hWrite : (∀ x, d.entry? p = some x → x.isFile = true) ∧
      (if p.parts.isEmpty || p.name = ".." then none
        else (d.directoryNames? p.parent).map fun names =>
          { d with top := d.top.putAt names (.file p.name bytes) }) = some d' := by
    rw [write] at h
    split at h
    · rename_i hEntry
      refine ⟨fun x hx => ?_, h⟩
      obtain rfl := Option.some.inj (hEntry.symm.trans hx)
      rfl
    · rename_i hEntry
      refine ⟨fun x hx => ?_, h⟩
      rw [hEntry] at hx
      cases hx
    · cases h
  obtain ⟨hFile, hWrite⟩ := hWrite
  split at hWrite
  · cases hWrite
  · rename_i hName
    obtain ⟨hParts, hUp⟩ : p.parts ≠ [] ∧ p.name ≠ ".." := by simpa using hName
    obtain ⟨names, hNames, hResult⟩ := Option.map_eq_some_iff.mp hWrite
    refine ⟨names, hParts, hUp, hNames, fun x hx => hFile x ?_, hResult.symm⟩
    rw [(entry?_of_parent hNames hParts).2, further, if_neg hUp, hx]

namespace Writes

variable {names : List String}

theorem write_eq (h : d.Writes p bytes names d') : d.write p bytes = some d' := by
  have hEntry := (entry?_of_parent h.parent h.parts).2
  rw [further, if_neg h.name] at hEntry
  have hGuard : (p.parts.isEmpty || decide (p.name = "..")) = false := by simp [h.parts, h.name]
  rw [write, hEntry, h.parent, h.result]
  cases hFound : d.top.descend? (names ++ [p.name]) with
  | none => simp only [hGuard, Bool.false_eq_true, if_false, Option.map_some]
  | some x =>
    have hFile := h.file x hFound
    cases x with
    | file n old => simp only [hGuard, Bool.false_eq_true, if_false, Option.map_some]
    | directory n cs => cases hFile
    | broken n => cases hFile

theorem exists_directory (h : d.Writes p bytes names d') :
    ∃ e, d.top.descend? names = some e ∧ e.isDirectory = true := by
  obtain ⟨rfl, e, hEntry, hDirectory⟩ := directoryNames?_eq_some h.parent
  exact ⟨e, descend?_place hEntry, hDirectory⟩

/-- The file is there. -/
theorem descend?_self (h : d.Writes p bytes names d') :
    d'.top.descend? (names ++ [p.name]) = some (.file p.name bytes) := by
  obtain ⟨e, hFound, hDirectory⟩ := h.exists_directory
  rw [h.result]
  exact Entry.descend?_putAt_self hFound hDirectory

/-- Nothing else changes. -/
theorem label_eq (h : d.Writes p bytes names d') {place : List String}
    (hPlace : place ≠ names ++ [p.name]) :
    (d'.top.descend? place).map Entry.label = (d.top.descend? place).map Entry.label := by
  obtain ⟨e, hFound, hDirectory⟩ := h.exists_directory
  by_cases hPrefix : names ++ [p.name] <+: place
  · -- nothing lies below a file
    obtain ⟨rest, rfl⟩ := hPrefix
    obtain ⟨n, rest, rfl⟩ : ∃ n rest', rest = n :: rest' :=
      List.exists_cons_of_ne_nil fun hEmpty => hPlace (by rw [hEmpty, List.append_nil])
    rw [Entry.descend?_append d'.top, Entry.descend?_append d.top, h.descend?_self]
    cases hOld : d.top.descend? (names ++ [p.name]) with
    | none => rfl
    | some x =>
      have hFile := h.file x hOld
      cases x with
      | file m old => rfl
      | directory m cs => cases hFile
      | broken m => cases hFile
  · rw [h.result]
    exact Entry.label_descend?_putAt hFound hDirectory hPrefix

/-- What is no file stays. -/
theorem rest (h : d.Writes p bytes names d') {place : List String} {x : Entry}
    (hx : d.top.descend? place = some x) (hIs : x.isFile = false) :
    (d'.top.descend? place).map Entry.label = some x.label := by
  rw [h.label_eq, hx, Option.map_some]
  rintro rfl
  rw [h.file x hx] at hIs
  cases hIs

/-- Directories that have been made before are new. -/
theorem changed_of_mem_made {d₀ : Disk} {made : List (List String)}
    (h : d.Writes p bytes names d') (hGrows : Grows d₀.top made d.top) {place : List String}
    (hPlace : place ∈ made) : d₀.Changed d' place := by
  obtain ⟨hNone, hLabel⟩ := hGrows.of_mem_made hPlace
  obtain ⟨x, hx, hIs⟩ := Option.map_eq_some_iff.mp hLabel
  have hOther : x.isFile = false := by
    cases x with
    | directory => rfl
    | file => cases hIs
    | broken => cases hIs
  rw [Changed, hNone, h.rest hx hOther]
  exact nofun

theorem directoryNames?_eq (h : d.Writes p bytes names d') :
    d'.directoryNames? p.parent = some names := by
  obtain ⟨hNames, e, hEntry, hDirectory⟩ := directoryNames?_eq_some h.parent
  have hCwd : d'.cwd = d.cwd := by rw [h.result]
  have hSpares : d.Spares d' p.parent := by
    intro q hq
    rw [entry?_eq] at hEntry
    obtain ⟨x, hx, hIs⟩ := isDirectory_of_mem_trail hEntry hDirectory hq
    refine not_not.mpr (h.label_eq fun hPlace => ?_).symm
    have hFile := h.file x (hPlace ▸ hx)
    rw [Entry.isFile_eq_false hIs] at hFile
    cases hFile
  have hLabel := hSpares.agrees hCwd
  rw [Agrees, hEntry] at hLabel
  obtain ⟨e', hEntry', hSame⟩ := Option.map_eq_some_iff.mp hLabel
  rw [directoryNames?_of_directory hEntry' ((Entry.isDirectory_congr hSame).trans hDirectory), hNames,
    place_congr hCwd]

theorem read_eq (h : d.Writes p bytes names d') : d'.read p = some bytes := by
  have hEntry := (entry?_of_parent h.directoryNames?_eq h.parts).2
  rw [further, if_neg h.name, h.descend?_self] at hEntry
  rw [read, hEntry]
  rfl

/-- Writing the same again changes nothing. -/
theorem again (h : d.Writes p bytes names d') (hDistinct : d'.top.Distinct) :
    d'.Writes p bytes names d' where
  parts := h.parts
  name := h.name
  parent := h.directoryNames?_eq
  file := fun x hx => by
    rw [h.descend?_self] at hx
    obtain rfl := Option.some.inj hx
    rfl
  result := by
    rw [Entry.putAt_self hDistinct h.descend?_self]

end Writes

/-! ## What writing leaves as it is -/

/-- Nothing is lost and only files change. -/
structure Extends (d d' : Disk) : Prop where
  cwd_eq : d'.cwd = d.cwd
  distinct : d'.top.Distinct
  /-- Files remain files. -/
  file : ∀ place x, d.top.descend? place = some x → x.isFile = true →
    ∃ x', d'.top.descend? place = some x' ∧ x'.isFile = true
  /-- Everything else stays. -/
  rest : ∀ place x, d.top.descend? place = some x → x.isFile = false →
    (d'.top.descend? place).map Entry.label = some x.label
  /-- Apart from changed places the trees are the same. -/
  prune_eq : ∀ H : List String → Bool, (∀ place, d.Changed d' place → H place = true) →
    d'.top.prune H = d.top.prune H

theorem Extends.refl (hDistinct : d.top.Distinct) : d.Extends d where
  cwd_eq := rfl
  distinct := hDistinct
  file := fun _ x hx hFile => ⟨x, hx, hFile⟩
  rest := fun _ x hx _ => by rw [hx, Option.map_some]
  prune_eq := fun _ _ => rfl

theorem extends_of_write {d₁ : Disk} (hDistinct : d.top.Distinct) (hBuilt : d.Built d₁)
    (h : d₁.write p bytes = some d') : d.Extends d' := by
  obtain ⟨names, hWrites⟩ := writes_of_write h
  obtain ⟨hCwd, made, hGrows⟩ := hBuilt
  have hDistinct₁ := hGrows.distinct hDistinct
  refine ⟨?_, ?_, ?_, ?_, ?_⟩
  · rw [hWrites.result]
    exact hCwd
  · rw [hWrites.result]
    exact Entry.distinct_putAt hDistinct₁ fun names c hLeads => by
      cases hLeads
      exact List.nodup_nil
  · intro place x hx hFile
    by_cases hPlace : place = names ++ [p.name]
    · exact ⟨_, hPlace ▸ hWrites.descend?_self, rfl⟩
    · have hLabel := hGrows.label_eq hx
      rw [← hWrites.label_eq hPlace] at hLabel
      obtain ⟨x', hx', hSame⟩ := Option.map_eq_some_iff.mp hLabel
      exact ⟨x', hx', (Entry.isFile_congr hSame).trans hFile⟩
  · intro place x hx hIs
    obtain ⟨x₁, hx₁, hSame⟩ := Option.map_eq_some_iff.mp (hGrows.label_eq hx)
    rw [hWrites.rest hx₁ ((Entry.isFile_congr hSame).trans hIs), hSame]
  · intro H hChanged
    have hMade : ∀ place ∈ made, H place = true := fun place hPlace =>
      hChanged place (hWrites.changed_of_mem_made hGrows hPlace)
    rw [← hGrows.prune_eq hDistinct hMade, hWrites.result]
    by_cases hPlace : d.Changed d' (names ++ [p.name])
    · exact Entry.prune_putAt hDistinct₁ (hChanged _ hPlace)
    · have hLabel : (d.top.descend? (names ++ [p.name])).map Entry.label = some (.file bytes) := by
        rw [not_not.mp hPlace, hWrites.descend?_self]
        rfl
      obtain ⟨x, hx, hIs⟩ := Option.map_eq_some_iff.mp hLabel
      obtain ⟨x₁, hx₁, hSame⟩ := Option.map_eq_some_iff.mp (hGrows.label_eq hx)
      rw [Entry.putAt_of_label hDistinct₁ hx₁ (hSame.trans hIs)]

namespace Extends

variable {place : List String} {x : Entry}

/-- Where something other than a file is, nothing has changed. -/
theorem not_changed (h : d.Extends d') (hx : d.top.descend? place = some x)
    (hIs : x.isFile = false) : ¬ d.Changed d' place := by
  rw [Changed, hx, h.rest place x hx hIs, Option.map_some]
  exact not_not.mpr rfl

/-- A path that finds a directory leads through no changed place. -/
theorem spares_of_isDirectory (h : d.Extends d') (hDirectory : d.isDirectory p = true) :
    d.Spares d' p := by
  obtain ⟨e, hEntry, hIs⟩ := (Option.any_eq_true _ _).mp hDirectory
  rw [entry?_eq] at hEntry
  intro q hq
  obtain ⟨x, hx, hDirectory⟩ := isDirectory_of_mem_trail hEntry hIs hq
  exact h.not_changed hx (Entry.isFile_eq_false hDirectory)

/-- What is there before lies at a changed place if there is one on the way. -/
theorem changed_of_not_visible (h : d.Extends d') (hx : d.top.descend? place = some x)
    (hHidden : ¬ Entry.Visible (fun q => decide (d.Changed d' q)) place) :
    d.Changed d' place := by
  by_contra hStay
  refine hHidden fun front _ hPrefix => ?_
  obtain ⟨rest, rfl⟩ := hPrefix
  rw [decide_eq_false_iff_not]
  cases rest with
  | nil => rwa [List.append_nil] at hStay
  | cons n rest =>
    rw [Entry.descend?_append] at hx
    obtain ⟨y, hy, hBelow⟩ := Option.bind_eq_some_iff.mp hx
    rw [Entry.descend?] at hBelow
    obtain ⟨c, hChild, -⟩ := Option.bind_eq_some_iff.mp hBelow
    exact h.not_changed hy (Entry.isFile_eq_false (Entry.isDirectory_of_child? hChild))

/-- So does what is there afterwards. -/
theorem changed_of_not_visible' (h : d.Extends d') (hx : d'.top.descend? place = some x)
    (hHidden : ¬ Entry.Visible (fun q => decide (d.Changed d' q)) place) :
    d.Changed d' place := by
  cases hOld : d.top.descend? place with
  | some y => exact h.changed_of_not_visible hOld hHidden
  | none =>
    rw [Changed, hOld, hx]
    exact nofun

end Extends

/-- What lies at a changed place before or afterwards. -/
structure Altered (d d' : Disk) (front names : List String) (e : Entry) : Prop where
  changed : d.Changed d' (front ++ names)
  last : names.getLast? = some e.name
  /-- If it is no directory, the place does not become one. -/
  directory : e.isDirectory = false → (d'.top.descend? (front ++ names)).any (·.isDirectory) = false

/-- Below a place that stays, the trees are the same apart from changed places. -/
theorem Extends.alike (h : d.Extends d') (hDistinct : d.top.Distinct) {front : List String}
    {e : Entry} (hFound : d.top.descend? front = some e) (hStay : ¬ d.Changed d' front) :
    ∃ e', d'.top.descend? front = some e' ∧ e'.label = e.label ∧
      e.AlikeUpTo (d.Altered d' front) e' := by
  have hLabel := not_not.mp hStay
  rw [hFound] at hLabel
  obtain ⟨e', hFound', hSame⟩ := Option.map_eq_some_iff.mp hLabel.symm
  have hSome : ∀ {names : List String},
      ¬ Entry.Visible (Entry.under (fun q => decide (d.Changed d' q)) front) names →
      names ≠ [] := by
    rintro names hHidden rfl
    exact hHidden Entry.visible_nil
  refine ⟨e', hFound', hSame, Entry.under (fun q => decide (d.Changed d' q)) front, ?_, ?_, ?_⟩
  · have hVisible : Entry.Visible (fun q => decide (d.Changed d' q)) front := by
      by_contra hHidden
      exact hStay (h.changed_of_not_visible hFound hHidden)
    have hPrune := h.prune_eq (fun q => decide (d.Changed d' q)) fun q hq => decide_eq_true hq
    have hOld := Entry.descend?_prune (e := d.top) hVisible
    have hNew := Entry.descend?_prune (e := d'.top) hVisible
    rw [hFound] at hOld
    rw [hFound', hPrune, hOld] at hNew
    exact (Option.some.inj hNew).symm
  · intro names c hLeads hHidden
    have hc : d.top.descend? (front ++ names) = some c := by
      rw [Entry.descend?_append, hFound]
      exact (hDistinct.of_leads (Entry.leads_of_descend? hFound)).descend?_of_leads hLeads
    have hChanged := h.changed_of_not_visible hc fun hVisible => hHidden hVisible.below
    refine ⟨hChanged, hLeads.getLast?_eq (hSome hHidden), fun _ => ?_⟩
    cases hIs : c.isFile with
    | false => exact absurd hChanged (h.not_changed hc hIs)
    | true =>
      obtain ⟨c', hc', hIs'⟩ := h.file _ c hc hIs
      rw [hc', Option.any_some, Entry.isDirectory_eq_false hIs']
  · intro names c hLeads hHidden
    have hc : d'.top.descend? (front ++ names) = some c := by
      rw [Entry.descend?_append, hFound']
      exact (h.distinct.of_leads (Entry.leads_of_descend? hFound')).descend?_of_leads hLeads
    refine ⟨h.changed_of_not_visible' hc fun hVisible => hHidden hVisible.below,
      hLeads.getLast?_eq (hSome hHidden), fun hIs => ?_⟩
    rw [hc, Option.any_some, hIs]

end Disk

end CodeAtlas.Files
