import CodeAtlas.Proofs.CommandLine.Rerun
import CodeAtlas.Proofs.Detected
import CodeAtlas.Proofs.Settings.Load

/-!
# How runs end

A run ends with one of four exit codes, or passes on a failure that is not this tool's own. The settings
are checked once the command line has changed them, so the check before an index is made never refuses
them. A run that is refused, or that finds no project, leaves everything as it was; one that goes well
has written the whole text.

* `Course`, `course_runWith`: the ways in which a run can go.
* `ends_runWith`: what is known at the end, whatever settings are loaded and whatever index is made.
* `exits`: hence for every request, disk and environment, also where the system refuses to hand out
  files with settings or where providers cannot answer.
-/

namespace CodeAtlas

open Failure (Foreign)
open Files (Disk Path)

/-! ## Settings -/

namespace Settings

/-- Settings are refused, or there are none for a failure from outside. -/
def Refusal (f : Failure) : Prop := f.Foreign ∨ ∃ fault, f = .settings fault

theorem failsOnly_loadWhere (closed : Path → Bool) (around : Surroundings) (root : Path)
    (explicit : Option Path) :
    FailsOnly Refusal (loadWhere closed around root explicit).result := by
  intro f hf
  obtain ⟨s, hResult, -⟩ | ⟨e, hResult, hFails⟩ := load_cases closed around root explicit
  · cases hf.symm.trans hResult
  obtain rfl := Except.error.inj (hf.symm.trans hResult)
  cases hFails with
  | fileMissing => exact .inr ⟨_, rfl⟩
  | depth => exact .inr ⟨_, rfl⟩
  | nodes => exact .inr ⟨_, rfl⟩
  | notText => exact .inl rfl
  | tooLong => exact .inl rfl
  | overflow => exact .inl rfl

theorem failsOnly_validate (s : Settings) : FailsOnly Refusal s.validate := by
  rw [validate]
  split
  · exact .error (.inr ⟨_, rfl⟩)
  · split
    · exact .error (.inr ⟨_, rfl⟩)
    · split
      · exact .error (.inr ⟨_, rfl⟩)
      · have hAllowed := failsOnly_readAllowed s.allowRegex
        rw [checkRegex]
        split
        · exact .ok ()
        · exact .error (.inr ⟨_, rfl⟩)
        · rename_i f _ hf
          exact .error (.inl (hAllowed f hf))

end Settings

namespace CommandLine.Request

/-! ## Runs that are handed what they read -/

section Runs

variable (r : Request) (d : Disk) (loaded : Traced Settings) (indexed : Settings → Traced Index)

/-- The settings that are loaded with the changes of the request, within their bounds. -/
def settled : Traced Settings := do
  let s := r.changes.apply (← loaded)
  Traced.ofExcept s.validate
  return s

/-- The text of an index, if there is something to index. -/
def textOf (made : Traced Index) : Traced Product := do
  match ← made.attempt with
  | .ok index => return .text (← Traced.ofExcept (index.write r.compact))
  | .error (.noProject root) =>
    Traced.note (.failed (((Failure.noProject root).message?).getD ""))
    return .stopped .noProject
  | .error f => Traced.fail f

/-- What a request produces from the settings that are loaded and the index that is made with some
settings. -/
def produceWith : Traced Product := do
  if !d.isDirectory r.root then
    Traced.note (.notDirectory r.root.text)
    return .stopped .refused
  match ← (r.settled loaded).attempt with
  | .ok s => r.textOf (indexed s)
  | .error (.settings fault) =>
    Traced.note (.invalidConfiguration (.words fault.message))
    return .stopped .refused
  | .error f => Traced.fail f

def runWith : Traced Outcome := do
  match ← r.produceWith d loaded indexed with
  | .text t => r.deliver d t
  | .stopped exit => return ⟨exit, "", d⟩

/-- The settings that a run makes its index with. -/
def Settles (s : Settings) : Prop :=
  d.isDirectory r.root = true ∧ (r.settled loaded).result = .ok s

/-- How a run can go. -/
inductive Course : Except Failure Outcome → Prop
  | astray : d.isDirectory r.root = false → Course (.ok ⟨.refused, "", d⟩)
  | refused {fault : SettingsFault} : d.isDirectory r.root = true →
      (r.settled loaded).result = .error (.settings fault) → Course (.ok ⟨.refused, "", d⟩)
  | unsettled {f : Failure} : d.isDirectory r.root = true → (r.settled loaded).result = .error f →
      (∀ fault, f ≠ .settings fault) → Course (.error f)
  | noProject {s : Settings} {root : String} : r.Settles d loaded s →
      (indexed s).result = .error (.noProject root) → Course (.ok ⟨.noProject, "", d⟩)
  | unindexed {s : Settings} {f : Failure} : r.Settles d loaded s → (indexed s).result = .error f →
      (∀ root, f ≠ .noProject root) → Course (.error f)
  | unprinted {s : Settings} {index : Index} {f : Failure} : r.Settles d loaded s →
      (indexed s).result = .ok index → index.write r.compact = .error f → Course (.error f)
  | shown {s : Settings} {index : Index} {text : String} : r.Settles d loaded s →
      (indexed s).result = .ok index → index.write r.compact = .ok text → r.output = none →
      Course (.ok ⟨.ok, text, d⟩)
  | stored {s : Settings} {index : Index} {text : String} {path : Path} {d' : Disk} :
      r.Settles d loaded s → (indexed s).result = .ok index → index.write r.compact = .ok text →
      r.output = some path → store d path text = some d' → Course (.ok ⟨.ok, "", d'⟩)
  | unwritten {s : Settings} {index : Index} {text : String} {path : Path} : r.Settles d loaded s →
      (indexed s).result = .ok index → index.write r.compact = .ok text → r.output = some path →
      store d path text = none → Course (.ok ⟨.unwritten, "", d⟩)

/-- What is known when a run is over. -/
structure Ends : Prop where
  /-- There is an exit code, or else a failure that is not this tool's own. -/
  ends : (∃ o, (r.runWith d loaded indexed).result = .ok o ∧ o.exit.code ∈ [0, 2, 3, 4]) ∨
    ∃ f, (r.runWith d loaded indexed).result = .error f ∧ f.Foreign
  /-- Settings that an index is made with are those that are loaded, changed and then found to be within
  their bounds. -/
  checked : ∀ s, (r.settled loaded).result = .ok s →
    ∃ before, loaded.result = .ok before ∧ s = r.changes.apply before ∧ s.validate = .ok ()
  /-- They are not refused again. -/
  accepted : ∀ s fault, (r.settled loaded).result = .ok s →
    (indexed s).result ≠ .error (.settings fault)
  /-- A run is refused if its root is no directory or its settings are refused, and only then. -/
  refused_iff : ∀ o, (r.runWith d loaded indexed).result = .ok o → (o.exit = .refused ↔
    d.isDirectory r.root = false ∨ ∃ fault, (r.settled loaded).result = .error (.settings fault))
  /-- A run finds no project if making the index does not, and only then. -/
  noProject_iff : ∀ o, (r.runWith d loaded indexed).result = .ok o → (o.exit = .noProject ↔
    ∃ s root, r.Settles d loaded s ∧ (indexed s).result = .error (.noProject root))
  /-- In both cases nothing is shown and nothing is written. -/
  untouched : ∀ o, (r.runWith d loaded indexed).result = .ok o →
    o.exit = .refused ∨ o.exit = .noProject → o.shown = "" ∧ o.disk = d
  /-- A run that goes well has written the whole text of the index where the request wants it. -/
  whole : ∀ o, (r.runWith d loaded indexed).result = .ok o → o.exit = .ok →
    ∃ s index, r.Settles d loaded s ∧ (indexed s).result = .ok index ∧
      r.written o = some (Text.encode (index.render r.compact))

end Runs

variable {r : Request} {d : Disk} {loaded : Traced Settings} {indexed : Settings → Traced Index}

theorem result_textOf (made : Traced Index) : (r.textOf made).result =
    match made.result with
    | .ok index => (index.write r.compact).map .text
    | .error (.noProject _) => .ok (.stopped .noProject)
    | .error f => .error f := by
  have hAttempt : made.attempt.result = .ok made.result := rfl
  rw [textOf, Traced.result_bind_of_ok hAttempt]
  cases made.result with
  | ok index =>
    dsimp only
    rw [Traced.result_bind, Traced.ofExcept]
    cases index.write r.compact <;> rfl
  | error f => cases f <;> rfl

theorem result_produceWith (loaded : Traced Settings) (indexed : Settings → Traced Index)
    (hRoot : d.isDirectory r.root = true) : (r.produceWith d loaded indexed).result =
      match (r.settled loaded).result with
      | .ok s => (r.textOf (indexed s)).result
      | .error (.settings _) => .ok (.stopped .refused)
      | .error f => .error f := by
  have hAttempt : (r.settled loaded).attempt.result = .ok (r.settled loaded).result := rfl
  rw [produceWith, hRoot]
  refine (Traced.result_bind_of_ok hAttempt _).trans ?_
  cases (r.settled loaded).result with
  | ok s => rfl
  | error f => cases f <;> rfl

theorem result_runWith_of_stopped {exit : Exit}
    (h : (r.produceWith d loaded indexed).result = .ok (.stopped exit)) :
    (r.runWith d loaded indexed).result = .ok ⟨exit, "", d⟩ :=
  Traced.result_bind_of_ok h _

theorem result_runWith_of_error {f : Failure}
    (h : (r.produceWith d loaded indexed).result = .error f) :
    (r.runWith d loaded indexed).result = .error f :=
  Traced.result_bind_of_error h _

/-- The last step of a run, once there is a text. -/
theorem course_deliver {s : Settings} {index : Index} {text : String}
    (hSettles : r.Settles d loaded s) (hIndex : (indexed s).result = .ok index)
    (hText : index.write r.compact = .ok text) :
    Course r d loaded indexed (r.deliver d text).result := by
  rw [deliver]
  cases hOutput : r.output with
  | none => exact .shown hSettles hIndex hText hOutput
  | some path =>
    dsimp only
    cases hStore : store d path text with
    | none => exact .unwritten hSettles hIndex hText hOutput hStore
    | some d' => exact .stored hSettles hIndex hText hOutput hStore

theorem course_runWith (r : Request) (d : Disk) (loaded : Traced Settings)
    (indexed : Settings → Traced Index) :
    Course r d loaded indexed (r.runWith d loaded indexed).result := by
  cases hRoot : d.isDirectory r.root with
  | false =>
    have hStopped : (r.produceWith d loaded indexed).result = .ok (.stopped .refused) := by
      rw [produceWith, hRoot]
      rfl
    rw [result_runWith_of_stopped hStopped]
    exact .astray hRoot
  | true =>
    have hProduce := result_produceWith loaded indexed hRoot
    cases hSettled : (r.settled loaded).result with
    | error f =>
      rw [hSettled] at hProduce
      cases f with
      | settings fault =>
        rw [result_runWith_of_stopped hProduce]
        exact .refused hRoot hSettled
      | _ =>
        rw [result_runWith_of_error hProduce]
        exact .unsettled hRoot hSettled nofun
    | ok s =>
      have hSettles : r.Settles d loaded s := ⟨hRoot, hSettled⟩
      rw [hSettled] at hProduce
      dsimp only at hProduce
      rw [result_textOf] at hProduce
      cases hIndex : (indexed s).result with
      | error f =>
        rw [hIndex] at hProduce
        cases f with
        | noProject root =>
          rw [result_runWith_of_stopped hProduce]
          exact .noProject hSettles hIndex
        | _ =>
          rw [result_runWith_of_error hProduce]
          exact .unindexed hSettles hIndex nofun
      | ok index =>
        rw [hIndex] at hProduce
        dsimp only at hProduce
        cases hText : index.write r.compact with
        | error f =>
          rw [hText] at hProduce
          rw [result_runWith_of_error hProduce]
          exact .unprinted hSettles hIndex hText
        | ok text =>
          rw [hText] at hProduce
          have hRun : (r.runWith d loaded indexed).result = (r.deliver d text).result :=
            Traced.result_bind_of_ok hProduce _
          rw [hRun]
          exact course_deliver hSettles hIndex hText

/-! ## Ends -/

/-- Settings with changes are checked before they are used. -/
theorem settled_eq_ok {s : Settings} (h : (r.settled loaded).result = .ok s) :
    ∃ before, loaded.result = .ok before ∧ s = r.changes.apply before ∧ s.validate = .ok () := by
  obtain ⟨before, hBefore, h⟩ := Traced.ok_of_bind h
  obtain ⟨⟨⟩, hValid, h⟩ := Traced.ok_of_bind h
  obtain rfl := Except.ok.inj h
  exact ⟨before, hBefore, rfl, hValid⟩

theorem Settles.unique {s s' : Settings} (h : r.Settles d loaded s) (h' : r.Settles d loaded s') :
    s = s' :=
  Except.ok.inj (h.2.symm.trans h'.2)

theorem Settles.not_refused {s : Settings} (h : r.Settles d loaded s) :
    ¬ (d.isDirectory r.root = false ∨
      ∃ fault, (r.settled loaded).result = .error (.settings fault)) := by
  rintro (hRoot | ⟨fault, hFail⟩)
  · cases hRoot.symm.trans h.1
  · cases hFail.symm.trans h.2

theorem failsOnly_settled (h : FailsOnly Settings.Refusal loaded.result) :
    FailsOnly Settings.Refusal (r.settled loaded).result :=
  Traced.failsOnly_bind h fun before _ =>
    Traced.failsOnly_bind (Settings.failsOnly_validate (r.changes.apply before)) fun _ _ => .ok _

/-- A failure for want of projects, or one from outside. -/
def Fruitless (f : Failure) : Prop := f.Foreign ∨ ∃ root, f = .noProject root

theorem read_of_store {d d' : Disk} {path : Path} {text : String} (h : store d path text = some d') :
    d'.read path = some (Text.encode text) := by
  obtain ⟨made, -, hWrite⟩ := Option.bind_eq_some_iff.mp h
  obtain ⟨names, hWrites⟩ := Disk.writes_of_write hWrite
  exact hWrites.read_eq

theorem code_mem (exit : Exit) : exit.code ∈ [0, 2, 3, 4] := by
  cases exit <;> decide

namespace Course

variable {o : Outcome}

theorem refused_iff (h : Course r d loaded indexed (.ok o)) : o.exit = .refused ↔
    d.isDirectory r.root = false ∨ ∃ fault, (r.settled loaded).result = .error (.settings fault) := by
  cases h with
  | astray hRoot => exact iff_of_true rfl (.inl hRoot)
  | refused _ hFail => exact iff_of_true rfl (.inr ⟨_, hFail⟩)
  | noProject hSettles | shown hSettles | stored hSettles | unwritten hSettles =>
    exact iff_of_false nofun hSettles.not_refused

theorem noProject_iff (h : Course r d loaded indexed (.ok o)) : o.exit = .noProject ↔
    ∃ s root, r.Settles d loaded s ∧ (indexed s).result = .error (.noProject root) := by
  cases h with
  | astray hRoot =>
    refine iff_of_false nofun fun ⟨s, root, hSettles, _⟩ => ?_
    cases hRoot.symm.trans hSettles.1
  | refused _ hFail =>
    refine iff_of_false nofun fun ⟨s, root, hSettles, _⟩ => ?_
    cases hFail.symm.trans hSettles.2
  | noProject hSettles hNone => exact iff_of_true rfl ⟨_, _, hSettles, hNone⟩
  | shown hSettles hIndex | stored hSettles hIndex | unwritten hSettles hIndex =>
    refine iff_of_false nofun fun ⟨s, root, hSettles', hNone⟩ => ?_
    rw [hSettles'.unique hSettles] at hNone
    cases hIndex.symm.trans hNone

theorem untouched (h : Course r d loaded indexed (.ok o))
    (hExit : o.exit = .refused ∨ o.exit = .noProject) : o.shown = "" ∧ o.disk = d := by
  cases h with
  | astray | refused | noProject => exact ⟨rfl, rfl⟩
  | shown | stored | unwritten => simp at hExit

theorem whole (h : Course r d loaded indexed (.ok o)) (hExit : o.exit = .ok) :
    ∃ s index, r.Settles d loaded s ∧ (indexed s).result = .ok index ∧
      r.written o = some (Text.encode (index.render r.compact)) := by
  cases h with
  | astray | refused | noProject | unwritten => cases hExit
  | shown hSettles hIndex hText hOutput =>
    refine ⟨_, _, hSettles, hIndex, ?_⟩
    rw [(Index.write_eq_ok_iff.mp hText).2, written, hOutput]
  | stored hSettles hIndex hText hOutput hStore =>
    refine ⟨_, _, hSettles, hIndex, ?_⟩
    rw [(Index.write_eq_ok_iff.mp hText).2, written, hOutput]
    exact read_of_store hStore

/-- What a run passes on is no refusal and no want of projects. -/
theorem foreign {f : Failure} (h : Course r d loaded indexed (.error f))
    (hSettled : FailsOnly Settings.Refusal (r.settled loaded).result)
    (hMade : ∀ s, r.Settles d loaded s → FailsOnly Fruitless (indexed s).result) : f.Foreign := by
  cases h with
  | unsettled _ hFail hOther =>
    rcases hSettled f hFail with hForeign | ⟨fault, hFault⟩
    · exact hForeign
    · exact absurd hFault (hOther fault)
  | unindexed hSettles hFail hOther =>
    rcases hMade _ hSettles f hFail with hForeign | ⟨root, hNone⟩
    · exact hForeign
    · exact absurd hNone (hOther root)
  | unprinted _ _ hText =>
    obtain rfl := Index.eq_badValue_of_write hText
    rfl

end Course

/-- What is known at the end, if loading fails only in the ways of settings, and making an index only
for want of projects or in ways that are not this tool's own. -/
theorem ends_runWith (hLoaded : FailsOnly Settings.Refusal loaded.result)
    (hIndexed : ∀ s, s.validate = .ok () → FailsOnly Fruitless (indexed s).result) :
    Ends r d loaded indexed := by
  have hMade : ∀ s, (r.settled loaded).result = .ok s → FailsOnly Fruitless (indexed s).result := by
    intro s hs
    obtain ⟨-, -, -, hValid⟩ := settled_eq_ok hs
    exact hIndexed s hValid
  have hCourse := course_runWith r d loaded indexed
  constructor
  case ends =>
    cases hRun : (r.runWith d loaded indexed).result with
    | ok o => exact .inl ⟨o, rfl, code_mem o.exit⟩
    | error f =>
      rw [hRun] at hCourse
      exact .inr ⟨f, rfl, hCourse.foreign (failsOnly_settled hLoaded) fun s hs => hMade s hs.2⟩
  case checked => exact fun s hs => settled_eq_ok hs
  case accepted =>
    intro s fault hs hFail
    rcases hMade s hs _ hFail with hForeign | ⟨root, hNone⟩
    · cases hForeign
    · cases hNone
  case refused_iff =>
    intro o hRun
    rw [hRun] at hCourse
    exact hCourse.refused_iff
  case noProject_iff =>
    intro o hRun
    rw [hRun] at hCourse
    exact hCourse.noProject_iff
  case untouched =>
    intro o hRun hExit
    rw [hRun] at hCourse
    exact hCourse.untouched hExit
  case whole =>
    intro o hRun hExit
    rw [hRun] at hCourse
    exact hCourse.whole hExit

/-- How the runs of a request end. -/
structure Exits (r : Request) (around : Surroundings) : Prop where
  /-- A run reads the settings of the repository and makes the index of what lies there. -/
  run_eq : r.run around = r.runWith around.disk (Settings.load around r.root r.settingsFile)
    (indexAt around r.root)
  /-- Where all files are handed out, this is known of its end. -/
  ends : Ends r around.disk (Settings.load around r.root r.settingsFile) (indexAt around r.root)
  /-- The same is known where the system keeps back some of the files with settings, and whatever
  providers there are and whatever is found of the file tree, provided that they fail in order. -/
  kept_back : ∀ (closed : Path → Bool) {ι κ : Type} (providers : Traced (List (Provider ι κ)))
    (tree : TreeSettings → Traced (List FileEntry)), FailsOnly Foreign providers.result →
    (∀ ps, providers.result = .ok ps → ∀ p ∈ ps, p.Orderly) →
    (∀ t, FailsOnly Foreign (tree t).result) →
    Ends r around.disk (Settings.loadWhere closed around r.root r.settingsFile) fun s =>
      assemble around (around.disk.resolve r.root).text s providers (tree s.tree)

/-- **Exit codes.** Every run ends with one of the four exit codes or with a failure that is not this
tool's own. Settings are checked once and for all before there is any effect; a run that is refused or
finds nothing leaves everything as it was, and one that goes well has written the whole index. -/
theorem exits (r : Request) (around : Surroundings) : Exits r around := by
  have hKept : ∀ (closed : Path → Bool) {ι κ : Type} (providers : Traced (List (Provider ι κ)))
      (tree : TreeSettings → Traced (List FileEntry)), FailsOnly Foreign providers.result →
      (∀ ps, providers.result = .ok ps → ∀ p ∈ ps, p.Orderly) →
      (∀ t, FailsOnly Foreign (tree t).result) →
      Ends r around.disk (Settings.loadWhere closed around r.root r.settingsFile) fun s =>
        assemble around (around.disk.resolve r.root).text s providers (tree s.tree) := by
    intro closed ι κ providers tree hProviders hOrderly hTree
    refine ends_runWith (Settings.failsOnly_loadWhere _ _ _ _) fun s hValid => ?_
    refine (failsOnly_assemble hValid hProviders hOrderly (hTree s.tree)).mono fun f hf => ?_
    exact hf.imp_right fun hNone => ⟨_, hNone.1⟩
  refine ⟨rfl, ?_, hKept⟩
  have hOpen := hKept (fun _ => false) (detect around.disk (around.disk.resolve r.root))
    (fun t => Tree.scan t (repository around.disk r.root)) (failsOnly_detect _ _)
    (fun _ => orderly_detect) fun t => Tree.failsOnly_scan t _
  rwa [Settings.loadWhere_open] at hOpen

end CommandLine.Request

end CodeAtlas
