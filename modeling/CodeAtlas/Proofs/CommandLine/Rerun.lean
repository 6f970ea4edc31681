import CodeAtlas.CommandLine.Run
import CodeAtlas.Proofs.Compilation.Unnoticed
import CodeAtlas.Proofs.Files.Write
import CodeAtlas.Proofs.Module.Unnoticed
import CodeAtlas.Proofs.Report
import CodeAtlas.Proofs.Text.Numeral
import CodeAtlas.Proofs.Text.Utf8
import CodeAtlas.Proofs.Tree.Scan
import CodeAtlas.Proofs.Tree.Unlisted
import CodeAtlas.Proofs.Written

/-!
# Running twice

A run writes one file and the directories above it. If a run reads none of them, the next run with the
same request makes the same text of the same disk, and writing it changes nothing.

* `produce_congr`: what is produced depends on what a run reads, which `Unread` lists.
* `run_again`: a second run ends like the first.
-/

namespace CodeAtlas

open Files (Disk Entry Path)

/-! ## What the time of the run changes -/

/-- The environment fixes the timestamp. -/
def Surroundings.FixesTime (around : Surroundings) : Prop :=
  (around.epoch.bind readTimestamp).isSome = true

theorem aboutRun_congr {around around' : Surroundings} (hEpoch : around'.epoch = around.epoch)
    (h : around.FixesTime) : aboutRun around' = aboutRun around := by
  rw [Surroundings.FixesTime] at h
  obtain ⟨stamp, hStamp⟩ := Option.isSome_iff_exists.mp h
  obtain ⟨text, hText, hRead⟩ := Option.bind_eq_some_iff.mp hStamp
  have hSome : text ≠ "" := by
    rintro rfl
    cases hRead
  have hFixed : fixedStamp (some text) = pure (some stamp) := by
    rw [fixedStamp, Option.getD_some, if_neg hSome, hRead]
  rw [aboutRun, aboutRun, hEpoch, hText, hFixed]
  rfl

/-- Another file tree makes no difference to anything else. -/
theorem result_assemble_tree {ι κ : Type} {around : Surroundings} {root : String}
    {settings : Settings} {providers : Traced (List (Provider ι κ))}
    {tree tree' : Traced (List FileEntry)} {index : Index} {entries : List FileEntry}
    (h : (assemble around root settings providers tree).result = .ok index)
    (hEnabled : settings.enabled "tree" = true) (hTree : tree'.result = .ok entries) :
    (assemble around root settings providers tree').result =
      .ok { index with tree := some entries } := by
  rw [assemble] at h
  obtain ⟨_, hValid, h⟩ := Traced.ok_of_bind h
  obtain ⟨ps, hProviders, h⟩ := Traced.ok_of_bind h
  split at h
  · obtain ⟨_, hNone, -⟩ := Traced.ok_of_bind h
    cases hNone
  · rename_i hSome
    obtain ⟨about, hAbout, h⟩ := Traced.ok_of_bind h
    obtain ⟨projects, hProjects, h⟩ := Traced.ok_of_bind h
    obtain ⟨_, -, h⟩ := Traced.ok_of_bind h
    obtain ⟨entrypoints, hEntrypoints, h⟩ := Traced.ok_of_bind h
    obtain ⟨commands, hCommands, h⟩ := Traced.ok_of_bind h
    obtain ⟨configs, hConfigs, h⟩ := Traced.ok_of_bind h
    obtain ⟨callgraphs, hCallgraphs, h⟩ := Traced.ok_of_bind h
    obtain rfl := Except.ok.inj h
    have hWanted : (wanted settings "tree"
        (tolerant "tree" Failure.isSystem (some <$> tree'))).result = .ok (some entries) := by
      have hSection : (some <$> tree').result = .ok (some entries) := by
        rw [map_eq_pure_bind, Traced.result_bind_of_ok hTree]
        rfl
      have hAttempt : (some <$> tree').attempt.result = .ok (.ok (some entries)) := by
        rw [← hSection]
        rfl
      rw [wanted, if_pos hEnabled, tolerant, Traced.result_bind_of_ok hAttempt]
      rfl
    rw [assemble, Traced.result_bind_of_ok hValid, Traced.result_bind_of_ok hProviders, if_neg hSome,
      Traced.result_bind_of_ok hAbout, Traced.result_bind_of_ok hProjects,
      Traced.result_bind_of_ok hWanted, Traced.result_bind_of_ok hEntrypoints,
      Traced.result_bind_of_ok hCommands, Traced.result_bind_of_ok hConfigs,
      Traced.result_bind_of_ok hCallgraphs]
    rfl

theorem assemble_congr {ι κ : Type} {around around' : Surroundings} {settings : Settings}
    {tree tree' : Traced (List FileEntry)} (hAbout : aboutRun around' = aboutRun around)
    (hTree : settings.enabled "tree" = true → tree' = tree) (root : String)
    (providers : Traced (List (Provider ι κ))) :
    assemble around' root settings providers tree' = assemble around root settings providers tree := by
  have hWanted : wanted settings "tree" (tolerant "tree" Failure.isSystem (some <$> tree')) =
      wanted settings "tree" (tolerant "tree" Failure.isSystem (some <$> tree)) := by
    rw [wanted, wanted]
    split
    · rw [hTree ‹_›]
    · rfl
  rw [assemble, assemble, hAbout, hWanted]

/-! ## Settings -/

theorem Settings.fromCandidates_congr {d d' : Disk} {required : Bool} {cs : List Candidate}
    (h : ∀ c ∈ cs, d.Agrees d' c.path) :
    fromCandidates d' required cs = fromCandidates d required cs := by
  induction cs with
  | nil => rfl
  | cons c cs ih =>
    obtain ⟨hc, hcs⟩ := List.forall_mem_cons.mp h
    have hRead : (d'.entry? c.path).bind (·.content?) = (d.entry? c.path).bind (·.content?) :=
      hc.read_eq
    rw [fromCandidates, fromCandidates, hRead, ih hcs]

namespace CommandLine

/-! ## What is read -/

/-- The directory of a repository. -/
def repository (d : Disk) (root : Path) : Entry := (d.entry? (d.resolve root)).getD default

/-- Looking for projects in a repository reads nothing that has changed. -/
structure DetectionUnread (d d' : Disk) (root : Path) : Prop where
  /-- Files of a build at the top of the repository. -/
  build : ∀ name ∈ Compilation.buildFiles, d.Spares d' ((d.resolve root).child name)
  /-- Parts of a build with their files and sources. -/
  parts : ∀ p ∈ Compilation.considered d (d.resolve root), ∀ q ∈ p :: Compilation.lookedUp p,
    d.Spares d' q
  /-- Units below a directory of sources. -/
  units : ∀ p ∈ Compilation.considered d (d.resolve root), ∀ names n,
    d.Changed d' (d.place (Compilation.sourceRoot p) ++ (names ++ [n])) →
    Text.endsWith n ".java" = false ∨
      (names ++ [n]).any Compilation.skippedDirectories.contains = true
  /-- Packaging files, packages and modules. -/
  modules : ∀ names n, d.Changed d' (d.place root ++ (names ++ [n])) → Module.notices n = false

/-- A run of a request reads nothing that has changed. -/
structure Unread (r : Request) (around : Surroundings) (d' : Disk) : Prop where
  /-- Files with settings. -/
  settings : ∀ c ∈ Settings.candidates r.root r.settingsFile around.settingsFile,
    around.disk.Spares d' c.path
  detection : DetectionUnread around.disk d' r.root
  /-- The ignore file, if there is a file tree that makes use of it. -/
  ignore : ∀ s, (r.settings around).result = .ok s → s.enabled "tree" = true →
    s.tree.useIgnoreFile = true →
    ¬ around.disk.Changed d' (around.disk.place r.root ++ [Tree.ignoreFileName])
  /-- Files that the file tree lists. -/
  tree : ∀ s f, (r.settings around).result = .ok s → s.enabled "tree" = true →
    Tree.filterFor s.tree (repository around.disk r.root) = .ok f →
    ∀ names n, around.disk.Changed d' (around.disk.place r.root ++ (names ++ [n])) →
    (d'.top.descend? (around.disk.place r.root ++ (names ++ [n]))).any (·.isDirectory) = false →
    Entry.Kept f.keepsDirectory [] names → f.keepsFile (Files.pathText (names ++ [n])) = false

variable {r : Request} {around : Surroundings} {d' : Disk}

/-- If nothing has changed, nothing that has changed is read. -/
theorem Unread.refl (r : Request) (around : Surroundings) : Unread r around around.disk where
  settings := fun _ _ _ _ hChanged => hChanged rfl
  detection :=
    ⟨fun _ _ _ _ hChanged => hChanged rfl, fun _ _ _ _ _ _ hChanged => hChanged rfl,
      fun _ _ _ _ hChanged => absurd rfl hChanged, fun _ _ hChanged => absurd rfl hChanged⟩
  ignore := fun _ _ _ _ hChanged => hChanged rfl
  tree := fun _ _ _ _ _ _ _ hChanged => absurd rfl hChanged

/-- The surroundings of a later run. -/
def later (around : Surroundings) (d' : Disk) (now : Int) : Surroundings :=
  { around with disk := d', now }

theorem settings_congr (hExtends : around.disk.Extends d') (h : Unread r around d') (now : Int) :
    r.settings (later around d' now) = r.settings around := by
  have hLoad : Settings.load (later around d' now) r.root r.settingsFile =
      Settings.load around r.root r.settingsFile :=
    Settings.fromCandidates_congr fun c hc => (h.settings c hc).agrees hExtends.cwd_eq
  rw [Request.settings, Request.settings, hLoad]

section Detection

variable {d : Disk} {root : Path}

/-- The directory of the repository before and after. -/
theorem repository_alike (hExtends : d.Extends d') (hDistinct : d.top.Distinct)
    (hRoot : d.isDirectory root = true) :
    Entry.AlikeUpTo (d.Altered d' (d.place root)) (repository d root) (repository d' root) := by
  obtain ⟨e, hEntry, hIs⟩ := (Option.any_eq_true _ _).mp hRoot
  have hFound := Disk.descend?_place hEntry
  have hStay : ¬ d.Changed d' (d.place root) :=
    hExtends.spares_of_isDirectory hRoot _ (Files.landing_mem_trail _ _)
  obtain ⟨e', hFound', -, hAlike⟩ := hExtends.alike hDistinct hFound hStay
  rw [← Disk.place_congr hExtends.cwd_eq] at hFound'
  rw [repository, repository, Disk.entry?_resolve hFound, Disk.entry?_resolve hFound']
  exact hAlike

theorem sameUnits (hExtends : d.Extends d') (hDistinct : d.top.Distinct)
    (h : DetectionUnread d d' root) : Compilation.SameUnits d d' (d.resolve root) := by
  intro p hp top hTop
  have hSpares := h.parts p hp (Compilation.sourceRoot p)
    (List.mem_cons_of_mem _ List.mem_cons_self)
  have hFound := Disk.descend?_place hTop
  obtain ⟨top', hFound', -, hAlike⟩ :=
    hExtends.alike hDistinct hFound (hSpares _ (Files.landing_mem_trail _ _))
  obtain ⟨x, hx, -⟩ := Option.map_eq_some_iff.mp
    ((hSpares.agrees hExtends.cwd_eq).trans (congrArg (Option.map Entry.label) hTop))
  have hTop' := Disk.descend?_place hx
  rw [Disk.place_congr hExtends.cwd_eq, hFound'] at hTop'
  obtain rfl := Option.some.inj hTop'
  refine ⟨top', hx, hAlike.imp fun names c hAltered => ?_⟩
  obtain ⟨front, rfl⟩ := List.getLast?_eq_some_iff.mp hAltered.last
  exact h.units p hp front c.name hAltered.changed

theorem detect_congr (hExtends : d.Extends d') (hDistinct : d.top.Distinct)
    (hRoot : d.isDirectory root = true) (h : DetectionUnread d d' root) :
    detect d' (d.resolve root) = detect d (d.resolve root) := by
  have hModules := (repository_alike hExtends hDistinct hRoot).imp
    (Q := Module.Unnoticed) fun names c hAltered => by
      obtain ⟨front, rfl⟩ := List.getLast?_eq_some_iff.mp hAltered.last
      exact h.modules front c.name hAltered.changed
  rw [repository, repository, Disk.resolve_congr hExtends.cwd_eq] at hModules
  have hBuild : Compilation.SameBuild d d' (d.resolve root) :=
    ⟨fun name hName => (h.build name hName).agrees hExtends.cwd_eq,
      fun p hp => (h.parts p hp p List.mem_cons_self).agrees hExtends.cwd_eq,
      fun p hp q hq => (h.parts p hp q (List.mem_cons_of_mem _ hq)).agrees hExtends.cwd_eq⟩
  rw [detect, detect, Module.provide_congr hModules,
    Compilation.provide_congr hBuild (sameUnits hExtends hDistinct h)]

end Detection

theorem scan_congr (hExtends : around.disk.Extends d') (hDistinct : around.disk.top.Distinct)
    (hRoot : around.disk.isDirectory r.root = true) (h : Unread r around d') {s : Settings}
    (hSettings : (r.settings around).result = .ok s) (hEnabled : s.enabled "tree" = true) :
    Tree.scan s.tree (repository d' r.root) = Tree.scan s.tree (repository around.disk r.root) := by
  refine Tree.scan_congr (repository_alike hExtends hDistinct hRoot) ?_ ?_
  · intro hUse c hAltered
    exact h.ignore s hSettings hEnabled hUse hAltered.changed
  · intro f hFilter names c hAltered hKept
    obtain ⟨front, rfl⟩ := List.getLast?_eq_some_iff.mp hAltered.last
    rw [List.dropLast_concat] at hKept
    cases hIs : c.isDirectory with
    | true => exact Or.inl rfl
    | false =>
      exact Or.inr (h.tree s f hSettings hEnabled hFilter front c.name hAltered.changed
        (hAltered.directory hIs) hKept)

/-- What is produced depends on what a run reads. -/
theorem produce_congr (hExtends : around.disk.Extends d') (hDistinct : around.disk.top.Distinct)
    (hRoot : around.disk.isDirectory r.root = true) (hTime : around.FixesTime)
    (h : Unread r around d') (now : Int) :
    r.produce (later around d' now) = r.produce around := by
  have hRoot' : (later around d' now).disk.isDirectory r.root = around.disk.isDirectory r.root :=
    ((hExtends.spares_of_isDirectory hRoot).agrees hExtends.cwd_eq).isDirectory_eq
  have hResolve : d'.resolve r.root = around.disk.resolve r.root :=
    Disk.resolve_congr hExtends.cwd_eq
  have hAbout : aboutRun (later around d' now) = aboutRun around := aboutRun_congr rfl hTime
  rw [Request.produce, Request.produce, hRoot', settings_congr hExtends h now, hRoot]
  refine Traced.bind_congr_of_ok fun found hFound => ?_
  obtain rfl := Except.ok.inj hFound
  cases hSettings : (r.settings around).result with
  | error f => cases f <;> rfl
  | ok s =>
    have hIndex : indexAt (later around d' now) r.root s = indexAt around r.root s := by
      have hTree : s.enabled "tree" = true → Tree.scan s.tree (repository d' r.root) =
          Tree.scan s.tree (repository around.disk r.root) :=
        scan_congr hExtends hDistinct hRoot h hSettings
      have hProviders := detect_congr hExtends hDistinct hRoot h.detection
      have hFirst := assemble_congr hAbout hTree (around.disk.resolve r.root).text
        (detect around.disk (around.disk.resolve r.root))
      rw [repository, repository, hResolve] at hFirst
      rw [indexAt, indexAt]
      dsimp only [later]
      rw [hResolve, hProviders]
      exact hFirst
    dsimp only
    rw [Request.index, Request.index, hIndex]

/-! ## What is written -/

namespace Request

variable {r : Request} {around : Surroundings}

/-- What is stored is there, and storing it again changes nothing. -/
theorem store_again {d d' : Disk} {path : Path} {text : String} (hDistinct : d.top.Distinct)
    (h : store d path text = some d') :
    d.Extends d' ∧ d'.read path = some (Text.encode text) ∧ store d' path text = some d' := by
  obtain ⟨d₁, hDirectory, hWrite⟩ := Option.bind_eq_some_iff.mp h
  have hExtends := Disk.extends_of_write hDistinct (Disk.built_of_makeDirectories hDirectory) hWrite
  obtain ⟨names, hWrites⟩ := Disk.writes_of_write hWrite
  have hAgain := hWrites.again hExtends.distinct
  have hParent : d'.isDirectory path.parent = true := by
    obtain ⟨-, e, hEntry, hIs⟩ := Disk.directoryNames?_eq_some hAgain.parent
    rw [Disk.isDirectory, hEntry]
    exact hIs
  refine ⟨hExtends, hWrites.read_eq, ?_⟩
  rw [store, Disk.ensureDirectory_of_isDirectory hParent, Option.bind_some, hAgain.write_eq]

/-- The bytes that a run has written: the text on the standard output, or the file. -/
def written (r : Request) (o : Outcome) : Option (List UInt8) :=
  match r.output with
  | none => some (Text.encode o.shown)
  | some path => o.disk.read path

/-- A run that stops without a text has not gone well. -/
theorem exit_of_stopped {exit : Exit} (h : (r.produce around).result = .ok (.stopped exit)) :
    exit ≠ .ok := by
  rw [produce] at h
  split at h
  · obtain ⟨_, -, h⟩ := Traced.ok_of_bind h
    cases h
    exact nofun
  · obtain ⟨found, -, h⟩ := Traced.ok_of_bind h
    split at h
    · rw [index] at h
      obtain ⟨made, -, h⟩ := Traced.ok_of_bind h
      split at h
      · obtain ⟨_, -, h⟩ := Traced.ok_of_bind h
        cases h
      · obtain ⟨_, -, h⟩ := Traced.ok_of_bind h
        cases h
        exact nofun
      · cases h
    · obtain ⟨_, -, h⟩ := Traced.ok_of_bind h
      cases h
      exact nofun
    · cases h

/-- A run that goes well delivers a text. -/
theorem exists_text {o : Outcome} (h : (r.run around).result = .ok o) (hExit : o.exit = .ok) :
    ∃ text, (r.produce around).result = .ok (.text text) ∧
      (r.deliver around.disk text).result = .ok o := by
  rw [run] at h
  obtain ⟨made, hMade, h⟩ := Traced.ok_of_bind h
  cases made with
  | text text => exact ⟨text, hMade, h⟩
  | stopped exit =>
    obtain rfl := Except.ok.inj h
    exact absurd hExit (exit_of_stopped hMade)

/-- Delivering the same again changes nothing. -/
theorem deliver_again {d : Disk} {text : String} {o : Outcome} (hDistinct : d.top.Distinct)
    (h : (r.deliver d text).result = .ok o) (hExit : o.exit = .ok) :
    (r.output = none → o.disk = d) ∧ d.Extends o.disk ∧ r.written o = some (Text.encode text) ∧
      (r.deliver o.disk text).result = .ok o := by
  rw [deliver] at h
  rw [written, deliver]
  cases hOutput : r.output with
  | none =>
    rw [hOutput] at h
    obtain rfl := Except.ok.inj h
    exact ⟨fun _ => rfl, .refl hDistinct, rfl, rfl⟩
  | some path =>
    rw [hOutput] at h
    dsimp only at h ⊢
    cases hStore : store d path text with
    | none =>
      rw [hStore] at h
      obtain rfl := Except.ok.inj h
      cases hExit
    | some d' =>
      rw [hStore] at h
      obtain rfl := Except.ok.inj h
      obtain ⟨hExtends, hRead, hAgain⟩ := store_again hDistinct hStore
      refine ⟨nofun, hExtends, hRead, ?_⟩
      dsimp only
      rw [hAgain]
      rfl

/-- **Running twice.** If a run with a fixed timestamp goes well and, where it has written a file, has
changed nothing that a run reads, then the next run produces the same text of the disk that the first
has left and ends like it: with the same output and the same disk. -/
theorem run_again (r : Request) (around : Surroundings) (hDistinct : around.disk.top.Distinct)
    (hTime : around.FixesTime) {o : Outcome} (hRun : (r.run around).result = .ok o)
    (hExit : o.exit = .ok) (hUnread : r.output ≠ none → Unread r around o.disk) (now : Int) :
    (r.run (later around o.disk now)).result = .ok o ∧
      ∃ text, (r.produce around).result = .ok (.text text) ∧
        (r.produce (later around o.disk now)).result = .ok (.text text) ∧
        r.written o = some (Text.encode text) := by
  obtain ⟨text, hText, hDeliver⟩ := exists_text hRun hExit
  obtain ⟨hSame, hExtends, hWritten, hAgain⟩ := deliver_again hDistinct hDeliver hExit
  have hUnread : Unread r around o.disk := by
    by_cases hOutput : r.output = none
    · rw [hSame hOutput]
      exact .refl r around
    · exact hUnread hOutput
  have hRoot : around.disk.isDirectory r.root = true := by
    by_contra hNot
    rw [Bool.not_eq_true] at hNot
    rw [produce, hNot] at hText
    obtain ⟨_, -, hStopped⟩ := Traced.ok_of_bind hText
    cases hStopped
  have hProduce := produce_congr hExtends hDistinct hRoot hTime hUnread now
  refine ⟨?_, text, hText, hProduce ▸ hText, hWritten⟩
  rw [run, Traced.result_bind_of_ok (hProduce ▸ hText)]
  exact hAgain

/-! ### An index that lists itself -/

/-- A repository with a packaging file and perhaps something else. -/
def sampleRepository (extra : List Entry) : Entry := .directory "repo" (.file "setup.py" [] :: extra)

/-- The repository is the working directory. -/
def sampleAround (extra : List Entry) : Surroundings where
  disk := ⟨.directory "" [sampleRepository extra], ["repo"]⟩
  settingsFile := none
  epoch := some "0"
  now := 0

/-- Asks for an index of `.json` files, to be written into the working directory. -/
def sampleRequest (name : String) : Request where
  output := some ⟨"", [name]⟩
  changes := { extensions := some [".json"] }
  compact := true

def sampleSettings : Settings :=
  { Settings.default with tree := { TreeSettings.default with extensions := [".json"] } }

def sampleIndex : Index where
  about := ⟨"0.1.0", "1.2", "1970-01-01T00:00:00Z"⟩
  projects := [⟨"repo", "setup.py", some "python"⟩]
  tree := some []
  entrypoints := none
  commands := none
  configs := none
  callgraphs := none

/-- The index once there is something to list. -/
def sampleIndexWith (entries : List FileEntry) : Index := { sampleIndex with tree := some entries }

theorem readTimestamp_zero : readTimestamp "0" = some "1970-01-01T00:00:00Z" := by
  rw [readTimestamp, Text.readInt_zero]
  rfl

theorem fixesTime_sampleAround (extra : List Entry) : (sampleAround extra).FixesTime := by
  show (readTimestamp "0").isSome = true
  rw [readTimestamp_zero]
  rfl

theorem distinct_sampleAround {extra : List Entry}
    (hNodup : ("setup.py" :: extra.map (·.name)).Nodup) (hExtra : ∀ e ∈ extra, e.Distinct) :
    (sampleAround extra).disk.top.Distinct := by
  have hFile : (Entry.file "setup.py" []).Distinct := by
    rintro _ _ ⟨⟩
    exact List.nodup_nil
  exact Entry.distinct_directory.mpr ⟨List.nodup_singleton _, List.forall_mem_singleton.mpr
    (Entry.distinct_directory.mpr ⟨hNodup, List.forall_mem_cons.mpr ⟨hFile, hExtra⟩⟩)⟩

theorem aboutRun_sampleAround (extra : List Entry) :
    aboutRun (sampleAround extra) = pure sampleIndex.about := by
  have hFixed : fixedStamp (some "0") = pure (some "1970-01-01T00:00:00Z") := by
    rw [fixedStamp, Option.getD_some, if_neg (by decide), readTimestamp_zero]
  have hEpoch : (sampleAround extra).epoch = some "0" := rfl
  rw [aboutRun, hEpoch, hFixed]
  rfl

theorem indexAt_sampleAround :
    (indexAt (sampleAround []) ⟨"", []⟩ sampleSettings).result = .ok sampleIndex := by
  rw [indexAt, assemble, aboutRun_sampleAround]
  cbv

theorem settings_sampleRequest (name : String) :
    ((sampleRequest name).settings (sampleAround [])).result = .ok sampleSettings := by
  cbv

/-- The only place that changes when a file is written into the repository. -/
theorem changed_sampleAround {name : String} {bytes : List UInt8} {place : List String}
    (hWrite : (sampleAround []).disk.write ⟨"", [name]⟩ bytes =
      some (sampleAround [.file name bytes]).disk)
    (h : (sampleAround []).disk.Changed (sampleAround [.file name bytes]).disk place) :
    place = ["repo", name] := by
  obtain ⟨names, hWrites⟩ := Disk.writes_of_write hWrite
  have hNames : (sampleAround []).disk.directoryNames? ⟨"", []⟩ = some ["repo"] := rfl
  obtain rfl : names = ["repo"] := Option.some.inj (hWrites.parent.symm.trans hNames)
  by_contra hOther
  exact h (hWrites.label_eq hOther).symm

theorem detectionUnread_sampleAround {name : String} {bytes : List UInt8}
    (hWrite : (sampleAround []).disk.write ⟨"", [name]⟩ bytes =
      some (sampleAround [.file name bytes]).disk)
    (hBuild : ∀ n ∈ Compilation.buildFiles, ["repo", name] ∉ Files.trail [] ["repo", n])
    (hName : Module.notices name = false) :
    DetectionUnread (sampleAround []).disk (sampleAround [.file name bytes]).disk ⟨"", []⟩ := by
  have hConsidered : Compilation.considered (sampleAround []).disk ⟨"/", ["repo"]⟩ = [] := rfl
  have hResolve : (sampleAround []).disk.resolve ⟨"", []⟩ = ⟨"/", ["repo"]⟩ := rfl
  refine ⟨?_, ?_, ?_, ?_⟩
  · intro n hn q hq hChanged
    rw [changed_sampleAround hWrite hChanged] at hq
    exact hBuild n hn hq
  · rw [hResolve, hConsidered]
    exact nofun
  · rw [hResolve, hConsidered]
    exact nofun
  · intro names n hChanged
    have hPlace : ["repo"] ++ (names ++ [n]) = ["repo", name] :=
      changed_sampleAround hWrite hChanged
    obtain ⟨rfl, hLast⟩ : names = [] ∧ [n] = [name] :=
      List.append_inj' (List.cons.inj hPlace).2 rfl
    rwa [List.singleton_inj.mp hLast]

theorem result_produce {r : Request} {s : Settings} {index : Index}
    (hRoot : around.disk.isDirectory r.root = true)
    (hSettings : (r.settings around).result = .ok s)
    (hIndex : (indexAt around r.root s).result = .ok index)
    (hFits : ∀ n, index.Holds n → Json.fits n = true) :
    (r.produce around).result = .ok (.text (index.render r.compact)) := by
  have hWrite : index.write r.compact = .ok (index.render r.compact) :=
    Index.write_eq_ok_iff.mpr ⟨hFits, rfl⟩
  have hAttempt : (r.settings around).attempt.result = .ok (.ok s) := by
    rw [← hSettings]
    rfl
  have hIndexAttempt : (indexAt around r.root s).attempt.result = .ok (.ok index) := by
    rw [← hIndex]
    rfl
  rw [produce, hRoot, Bool.not_true, if_neg Bool.false_ne_true, Traced.result_bind_of_ok hAttempt]
  dsimp only
  rw [Request.index, Traced.result_bind_of_ok hIndexAttempt]
  dsimp only
  rw [hWrite]
  rfl

theorem result_run {r : Request} {text : String} {path : Path} {d' : Disk}
    (hText : (r.produce around).result = .ok (.text text)) (hOutput : r.output = some path)
    (hStore : store around.disk path text = some d') :
    (r.run around).result = .ok ⟨.ok, "", d'⟩ := by
  rw [run, Traced.result_bind_of_ok hText]
  dsimp only
  rw [deliver, hOutput]
  dsimp only
  rw [hStore]
  rfl

/-- The numbers of lines are all that a sample index holds. -/
theorem lineCount_of_holds {entries : List FileEntry} {n : Int}
    (h : (sampleIndexWith entries).Holds n) : ∃ x ∈ entries, n = x.lineCount := by
  cases h with
  | lineCount hMem => exact ⟨_, hMem, rfl⟩
  | entrypoint hMem => cases hMem
  | command hMem => cases hMem
  | depth hMem => cases hMem

theorem produce_sampleRequest (name : String) :
    ((sampleRequest name).produce (sampleAround [])).result =
      .ok (.text (sampleIndex.render true)) := by
  refine result_produce rfl (settings_sampleRequest name) indexAt_sampleAround fun n hn => ?_
  obtain ⟨x, hNone, -⟩ := lineCount_of_holds hn
  cases hNone

/-- A file into which an index is written is not listed if it has no wanted extension. -/
theorem run_again_sampleRequest :
    (sampleAround []).disk.top.Distinct ∧ (sampleAround []).FixesTime ∧ ∃ o,
      ((sampleRequest "index.txt").run (sampleAround [])).result = .ok o ∧ o.exit = .ok ∧
      Unread (sampleRequest "index.txt") (sampleAround []) o.disk ∧
      ((sampleRequest "index.txt").run (later (sampleAround []) o.disk 1)).result = .ok o ∧
      ∃ text, ((sampleRequest "index.txt").produce (sampleAround [])).result = .ok (.text text) ∧
        ((sampleRequest "index.txt").produce (later (sampleAround []) o.disk 1)).result =
          .ok (.text text) ∧
        (sampleRequest "index.txt").written o = some (Text.encode text) := by
  have hDistinct : (sampleAround []).disk.top.Distinct :=
    distinct_sampleAround (by decide) (List.forall_mem_nil _)
  have hTime := fixesTime_sampleAround []
  have hWrite : (sampleAround []).disk.write ⟨"", ["index.txt"]⟩
      (Text.encode (sampleIndex.render true)) =
      some (sampleAround [.file "index.txt" (Text.encode (sampleIndex.render true))]).disk := rfl
  have hRun := result_run (produce_sampleRequest "index.txt") rfl hWrite
  have hUnread : Unread (sampleRequest "index.txt") (sampleAround [])
      (sampleAround [.file "index.txt" (Text.encode (sampleIndex.render true))]).disk := by
    refine ⟨?_, detectionUnread_sampleAround hWrite (by decide) (by decide), ?_, ?_⟩
    · intro c hc q hq hChanged
      rw [changed_sampleAround hWrite hChanged] at hq
      revert c
      decide
    · intro s _ _ _ hChanged
      exact absurd (changed_sampleAround hWrite hChanged) (by decide)
    · intro s f hSettings _ hFilter names n hChanged _ _
      have hPlace : ["repo"] ++ (names ++ [n]) = ["repo", "index.txt"] :=
        changed_sampleAround hWrite hChanged
      obtain rfl : sampleSettings = s :=
        Except.ok.inj ((settings_sampleRequest "index.txt").symm.trans hSettings)
      have hExtension : Tree.hasExtension (sampleSettings.tree.extensions.map Text.lower)
          (Files.pathText ["index.txt"]) = false := by
        cbv
      have hNames : names ++ [n] = ["index.txt"] := (List.cons.inj hPlace).2
      rw [hNames, Tree.Filter.keepsFile, Tree.extensions_of_filterFor hFilter, hExtension,
        Bool.false_and]
  exact ⟨hDistinct, hTime, _, hRun, rfl, hUnread,
    run_again _ _ hDistinct hTime hRun rfl (fun _ => hUnread) 1⟩

theorem found_sampleRepository (bytes : List UInt8) {f : Tree.Filter}
    (h : f.keepsFile (Files.pathText ["index.json"]) = true) : ∃ x xs,
    sortBy FileEntry.order (f.found (sampleRepository [.file "index.json" bytes])) = x :: xs := by
  have hLeads : (sampleRepository [.file "index.json" bytes]).Leads
      [(Entry.file "index.json" bytes).name] (.file "index.json" bytes) :=
    Entry.leads_of_mem (List.mem_cons_of_mem _ (List.mem_singleton_self _))
  obtain ⟨x, hx⟩ : ∃ x, f.record? ["index.json"] (.file "index.json" bytes) = some x :=
    ⟨_, Tree.Filter.record?_eq_some.mpr ⟨h, rfl⟩⟩
  have hMem := Tree.Filter.mem_found.mpr ⟨[], _, _, hLeads, trivial, hx⟩
  refine List.exists_cons_of_ne_nil fun hNone => ?_
  rw [← (sortBy_perm FileEntry.order _).mem_iff, hNone] at hMem
  cases hMem

/-- No file of the repository has more lines than the one beside the packaging file. -/
theorem lineCount_sampleRepository (bytes : List UInt8) {f : Tree.Filter} {x : FileEntry}
    (h : x ∈ f.found (sampleRepository [.file "index.json" bytes])) :
    x.lineCount.natAbs ≤ (Tree.linesOf bytes).length := by
  obtain ⟨front, n, e, hLeads, -, hx⟩ := Tree.Filter.mem_found.mp h
  obtain ⟨-, hEntry⟩ := Tree.Filter.record?_eq_some.mp hx
  obtain ⟨name, contents, rfl⟩ := Tree.Filter.exists_file_of_fileEntry hEntry
  obtain ⟨d, hd, hChild, -⟩ := Entry.leads_concat.mp hLeads
  have hContents : contents = [] ∨ contents = bytes := by
    cases hd with
    | here =>
      simp only [sampleRepository, Entry.children, List.mem_cons, Entry.file.injEq,
        List.not_mem_nil, or_false] at hChild
      exact hChild.imp And.right And.right
    | @down _ _ c _ _ hMem hRest =>
      -- Both entries of the repository are files, so nothing lies below them.
      obtain ⟨name', contents', rfl⟩ : ∃ name' contents', c = .file name' contents' := by
        rcases List.mem_cons.mp hMem with rfl | hMem
        · exact ⟨_, _, rfl⟩
        · exact ⟨_, _, List.mem_singleton.mp hMem⟩
      cases hRest
      cases hChild
  have hCount : x.lineCount.natAbs = Tree.countLines f.mode (Tree.linesOf contents) := by
    rw [← Option.some.inj hEntry]
    exact Int.natAbs_natCast _
  have hLe := Tree.Filter.countLines_le f.mode (Tree.linesOf contents)
  rw [hCount]
  rcases hContents with rfl | rfl
  · have hNone : (Tree.linesOf []).length = 0 := by decide +kernel
    exact (hNone ▸ hLe).trans (Nat.zero_le _)
  · exact hLe

/-- What a second run finds beside the packaging file: the index that the first has written. -/
theorem indexAt_again (bytes : List UInt8) : ∃ x xs,
    (indexAt (sampleAround [.file "index.json" bytes]) ⟨"", []⟩ sampleSettings).result =
      .ok (sampleIndexWith (x :: xs)) ∧
    ∀ y ∈ x :: xs, y.lineCount.natAbs ≤ (Tree.linesOf bytes).length := by
  have hDistinct : (sampleAround []).disk.top.Distinct :=
    distinct_sampleAround (by decide) (List.forall_mem_nil _)
  have hWrite : (sampleAround []).disk.write ⟨"", ["index.json"]⟩ bytes =
      some (sampleAround [.file "index.json" bytes]).disk := rfl
  have hExtends := Disk.extends_of_write hDistinct (.refl _) hWrite
  have hDetect := detect_congr hExtends hDistinct rfl
    (detectionUnread_sampleAround hWrite (by decide) (by decide))
  obtain ⟨f, hFilter, hKeeps⟩ : ∃ f, Tree.filterFor sampleSettings.tree
      (sampleRepository [.file "index.json" bytes]) = .ok f ∧
        f.keepsFile (Files.pathText ["index.json"]) = true := by
    refine ⟨_, rfl, ?_⟩
    cbv
  have hScan := Tree.result_scan hFilter
  obtain ⟨x, xs, hEntries⟩ := found_sampleRepository bytes hKeeps
  have hCounts : ∀ y ∈ x :: xs, y.lineCount.natAbs ≤ (Tree.linesOf bytes).length := by
    intro y hy
    rw [← hEntries, (sortBy_perm FileEntry.order _).mem_iff] at hy
    exact lineCount_sampleRepository bytes hy
  rw [hEntries] at hScan
  refine ⟨x, xs, ?_, hCounts⟩
  have hAbout : aboutRun (sampleAround [.file "index.json" bytes]) = aboutRun (sampleAround []) := by
    rw [aboutRun_sampleAround, aboutRun_sampleAround]
  have hFirst := indexAt_sampleAround
  have hRepository : repository (sampleAround [.file "index.json" bytes]).disk ⟨"", []⟩ =
      sampleRepository [.file "index.json" bytes] := rfl
  rw [← hRepository, repository] at hScan
  rw [indexAt] at hFirst ⊢
  rw [Disk.resolve_congr hExtends.cwd_eq] at hScan ⊢
  rw [hDetect, assemble_congr hAbout fun _ => rfl]
  exact result_assemble_tree hFirst rfl hScan

/-- An index of `.json` files lists the index that the run before has written as one. -/
theorem written_again_ne :
    (sampleAround []).disk.top.Distinct ∧ (sampleAround []).FixesTime ∧ ∃ o o',
      ((sampleRequest "index.json").run (sampleAround [])).result = .ok o ∧ o.exit = .ok ∧
      ((sampleRequest "index.json").run (later (sampleAround []) o.disk 0)).result = .ok o' ∧
      o'.exit = .ok ∧
      (sampleRequest "index.json").written o' ≠ (sampleRequest "index.json").written o := by
  have hFirst (text : String) : store (sampleAround []).disk ⟨"", ["index.json"]⟩ text =
      some (sampleAround [.file "index.json" (Text.encode text)]).disk := rfl
  have hSecond (bytes : List UInt8) (text : String) :
      store (sampleAround [.file "index.json" bytes]).disk ⟨"", ["index.json"]⟩ text =
        some (sampleAround [.file "index.json" (Text.encode text)]).disk := rfl
  have hSettings (bytes : List UInt8) :
      ((sampleRequest "index.json").settings (sampleAround [.file "index.json" bytes])).result =
        .ok sampleSettings := by
    cbv
  have hWritten (bytes : List UInt8) : (sampleRequest "index.json").written
      ⟨.ok, "", (sampleAround [.file "index.json" bytes]).disk⟩ = some bytes := rfl
  obtain ⟨x, xs, hIndex, hCounts⟩ := indexAt_again (Text.encode (sampleIndex.render true))
  have hLines : (Tree.linesOf (Text.encode (sampleIndex.render true))).length = 1 := by
    decide +kernel
  have hText := result_produce rfl (hSettings _) hIndex fun n hn => by
    obtain ⟨y, hy, rfl⟩ := lineCount_of_holds hn
    have hCount := hCounts y hy
    rw [hLines] at hCount
    rw [Json.fits, Nat.pow_eq]
    exact decide_eq_true (hCount.trans_lt (Nat.one_lt_pow (by decide) (by decide)))
  refine ⟨distinct_sampleAround (by decide) (List.forall_mem_nil _), fixesTime_sampleAround [],
    _, _, result_run (produce_sampleRequest "index.json") rfl (hFirst _), rfl,
    result_run hText rfl (hSecond _ _), rfl, fun hSame => ?_⟩
  have hBytes := (hWritten _).symm.trans (hSame.trans (hWritten _))
  have hRender : (sampleIndexWith (x :: xs)).render true = sampleIndex.render true :=
    Text.encode_injective (Option.some.inj hBytes)
  have hAbout : (sampleIndexWith (x :: xs)).about = sampleIndex.about := rfl
  have hNames := congrArg (List.map (·.1)) (Report.sections_eq_of_compact hAbout hRender)
  have hNone : (Report.sections sampleIndex).map (·.1) = ["projects"] := rfl
  have hSome : (Report.sections (sampleIndexWith (x :: xs))).map (·.1) =
      ["projects", "tree"] := rfl
  rw [hNone, hSome] at hNames
  cases hNames

end Request

end CommandLine

end CodeAtlas
