import CodeAtlas.Proofs.Settings.Load

/-!
# Where settings come from

Settings come from one file, the first of the candidates that decides. Two states of the disk and the
environment that agree up to there lead to the same settings, whatever stands behind it, and what has
been passed over on the way contributes nothing.

* `decides_iff`: which candidates decide.
* `loadWhere_of_agree`, `loadWhere_of_same`: what the settings depend on.
* `settingsDecided`: both, and what the settings say about the file that they come from.
-/

namespace CodeAtlas.Settings

open Files (Disk Path)
open Toml (Table)

/-! ## Candidates that decide -/

section Candidates

variable (closed : Path → Bool) (disk : Disk)

/-- What the system says of a file: nothing if there is none, and otherwise its bytes, unless they are
not handed out. -/
def handedOut (p : Path) : Option (Option (List UInt8)) :=
  ((disk.entry? p).bind (·.content?)).map fun bytes => if closed p then none else some bytes

/-- A candidate decides if it is a file. Where settings stand in a table of it, there has to be this
table, unless the file cannot be read at all. -/
inductive Candidate.Decisive (c : Candidate) : Prop
  | whole {found : Option (List UInt8)} : c.inTool = false →
      handedOut closed disk c.path = some found → Decisive c
  | unavailable : handedOut closed disk c.path = some none → Decisive c
  | malformed {bytes : List UInt8} {fault : Toml.Fault} :
      handedOut closed disk c.path = some (some bytes) → Toml.readBytes bytes = .error fault →
      Decisive c
  | table {bytes : List UInt8} {t tools : Table} {v : Toml.Value} :
      handedOut closed disk c.path = some (some bytes) → Toml.readBytes bytes = .ok t →
      t.lookup "tool" = some (.table tools) → tools.lookup toolTable = some v → Decisive c

variable {closed disk}

theorem Candidate.finding_eq (c : Candidate) : c.finding closed disk =
    match handedOut closed disk c.path with
    | none => .missing
    | some none => .unavailable
    | some (some bytes) => c.findingIn bytes := by
  rw [finding, handedOut]
  cases (disk.entry? c.path).bind (·.content?) with
  | none => rfl
  | some bytes => by_cases h : closed c.path = true <;> simp [h]

/-- A document that says nothing about settings has no table for them. -/
theorem settingsPart_eq_some_iff {inTool : Bool} {t : Table} {v : Toml.Value} :
    settingsPart inTool t = some v ↔ inTool = false ∧ v = .table t ∨
      inTool = true ∧ ∃ tools, t.lookup "tool" = some (.table tools) ∧
        tools.lookup toolTable = some v := by
  cases inTool with
  | false => simp [settingsPart, eq_comm]
  | true =>
    have hTrue : ¬ (!true) = true := by decide
    rw [settingsPart, if_neg hTrue]
    cases hTool : t.lookup "tool" with
    | none => simp
    | some found => cases found <;> simp

theorem decides_findingIn_iff {c : Candidate} {bytes : List UInt8} :
    (c.findingIn bytes).decides = true ↔
      ∀ t, Toml.readBytes bytes = .ok t → ∃ v, settingsPart c.inTool t = some v := by
  rw [Candidate.findingIn]
  cases hRead : Toml.readBytes bytes with
  | error fault => simp [Finding.decides]
  | ok t =>
    cases hPart : settingsPart c.inTool t with
    | none => simp [hPart, Finding.decides]
    | some v => simp [hPart, Finding.decides]

theorem decides_iff {c : Candidate} :
    (c.finding closed disk).decides = true ↔ c.Decisive closed disk := by
  constructor
  · intro h
    rw [c.finding_eq] at h
    cases hFile : handedOut closed disk c.path with
    | none =>
      rw [hFile] at h
      cases h
    | some found =>
      cases found with
      | none => exact .unavailable hFile
      | some bytes =>
        rw [hFile] at h
        cases hRead : Toml.readBytes bytes with
        | error fault => exact .malformed hFile hRead
        | ok t =>
          obtain ⟨v, hPart⟩ := decides_findingIn_iff.mp h t hRead
          rcases settingsPart_eq_some_iff.mp hPart with ⟨hWhole, -⟩ | ⟨-, tools, hTool, hTable⟩
          · exact .whole hWhole hFile
          · exact .table hFile hRead hTool hTable
  · intro h
    rw [c.finding_eq]
    cases h with
    | @whole found hWhole hFile =>
      rw [hFile]
      cases found with
      | none => rfl
      | some bytes =>
        exact decides_findingIn_iff.mpr fun t _ =>
          ⟨_, settingsPart_eq_some_iff.mpr (.inl ⟨hWhole, rfl⟩)⟩
    | unavailable hFile =>
      rw [hFile]
      rfl
    | malformed hFile hRead =>
      rw [hFile]
      refine decides_findingIn_iff.mpr fun t hOk => ?_
      rw [hRead] at hOk
      cases hOk
    | @table bytes t tools v hFile hRead hTool hTable =>
      rw [hFile]
      refine decides_findingIn_iff.mpr fun t' hOk => ?_
      obtain rfl := Except.ok.inj (hRead.symm.trans hOk)
      cases hIn : c.inTool with
      | false => exact ⟨_, settingsPart_eq_some_iff.mpr (.inl ⟨rfl, rfl⟩)⟩
      | true => exact ⟨v, settingsPart_eq_some_iff.mpr (.inr ⟨rfl, tools, hTool, hTable⟩)⟩

end Candidates

/-! ## Two states -/

/-- Two lists have the same first element with some property if they agree up to it. -/
theorem find?_eq_of_agree {α : Type} {xs ys : List α} {p q : α → Bool}
    (h : ∀ i, (∀ x ∈ xs.take i, p x = false) → ys[i]? = xs[i]? ∧ ∀ x ∈ xs[i]?, q x = p x) :
    ys.find? q = xs.find? p := by
  induction xs generalizing ys with
  | nil =>
    have hFirst := (h 0 (by simp)).1
    rw [List.getElem?_nil, List.getElem?_eq_none_iff, Nat.le_zero, List.length_eq_zero_iff] at hFirst
    rw [hFirst]
    rfl
  | cons x xs ih =>
    obtain ⟨hFirst, hSame⟩ := h 0 (by simp)
    cases ys with
    | nil => cases hFirst
    | cons y ys =>
      obtain rfl : y = x := by simpa using hFirst
      rw [List.find?_cons, List.find?_cons, hSame y (by simp)]
      cases hp : p y with
      | true => rfl
      | false =>
        refine ih fun i hi => ?_
        have hNext := h (i + 1) (by simpa [hp] using hi)
        simpa using hNext

section States

variable (closed closed' : Path → Bool) (around around' : Surroundings) (root : Path)
  (explicit : Option Path)

/-- Where settings are looked for, in order. -/
def sources : List Candidate := candidates root explicit around.settingsFile

/-- The second state agrees with the first on each candidate that is looked at, because none before it
decides: it is the same, and the system says the same of it. -/
def Agree : Prop :=
  ∀ i, (∀ c ∈ (sources around root explicit).take i, ¬ c.Decisive closed around.disk) →
    (sources around' root explicit)[i]? = (sources around root explicit)[i]? ∧
      ∀ c ∈ (sources around root explicit)[i]?,
        handedOut closed' around'.disk c.path = handedOut closed around.disk c.path

/-- The first candidate that decides. -/
def IsFirst (c : Candidate) : Prop :=
  ∃ before after, sources around root explicit = before ++ c :: after ∧
    c.Decisive closed around.disk ∧ ∀ b ∈ before, ¬ b.Decisive closed around.disk

variable {closed closed' around around' root explicit}

theorem finding_congr {c : Candidate}
    (h : handedOut closed' around'.disk c.path = handedOut closed around.disk c.path) :
    c.finding closed' around'.disk = c.finding closed around.disk := by
  rw [c.finding_eq, c.finding_eq, h]

theorem deciding_eq_some_iff {c : Candidate} :
    deciding closed around.disk (sources around root explicit) = some c ↔
      IsFirst closed around root explicit c := by
  rw [deciding, List.find?_eq_some_iff_append, decides_iff, IsFirst]
  constructor
  · rintro ⟨hDecisive, before, after, hSplit, hBefore⟩
    refine ⟨before, after, hSplit, hDecisive, fun b hb hDecides => ?_⟩
    have hNot := hBefore b hb
    rw [decides_iff.mpr hDecides] at hNot
    cases hNot
  · rintro ⟨before, after, hSplit, hDecisive, hBefore⟩
    refine ⟨hDecisive, before, after, hSplit, fun b hb => ?_⟩
    simpa [← decides_iff] using hBefore b hb

/-- What the system says of the deciding file settles everything. -/
theorem loadWhere_of_same {c : Candidate} (h : IsFirst closed around root explicit c)
    (h' : IsFirst closed' around' root explicit c)
    (hSame : handedOut closed' around'.disk c.path = handedOut closed around.disk c.path) :
    loadWhere closed' around' root explicit = loadWhere closed around root explicit := by
  rw [loadWhere_eq, loadWhere_eq]
  have hFirst := deciding_eq_some_iff.mpr h
  have hFirst' := deciding_eq_some_iff.mpr h'
  rw [sources] at hFirst hFirst'
  rw [hFirst, hFirst']
  exact congrArg c.verdict (finding_congr hSame)

theorem loadWhere_of_agree (h : Agree closed closed' around around' root explicit) :
    loadWhere closed' around' root explicit = loadWhere closed around root explicit := by
  have hFirst : deciding closed' around'.disk (sources around' root explicit) =
      deciding closed around.disk (sources around root explicit) := by
    refine find?_eq_of_agree fun i hBefore => ?_
    have hNone : ∀ c ∈ (sources around root explicit).take i, ¬ c.Decisive closed around.disk := by
      intro c hc hDecisive
      have hFalse := hBefore c hc
      rw [decides_iff.mpr hDecisive] at hFalse
      cases hFalse
    obtain ⟨hPlace, hFile⟩ := h i hNone
    exact ⟨hPlace, fun c hc => congrArg Finding.decides (finding_congr (hFile c hc))⟩
  cases hDeciding : deciding closed around.disk (sources around root explicit) with
  | none =>
    rw [hDeciding] at hFirst
    rw [sources] at hDeciding hFirst
    rw [loadWhere_eq, loadWhere_eq, hDeciding, hFirst]
  | some c =>
    rw [hDeciding] at hFirst
    have hIs := deciding_eq_some_iff.mp hDeciding
    refine loadWhere_of_same hIs (deciding_eq_some_iff.mp hFirst) ?_
    obtain ⟨before, after, hSplit, -, hBefore⟩ := hIs
    refine (h before.length ?_).2 c ?_
    · rw [hSplit, List.take_left]
      exact hBefore
    · rw [hSplit]
      simp

/-! ## The settings and their source -/

/-- The candidate holds settings, and no known table or key among them is of the wrong kind. -/
def Candidate.Gives (closed : Path → Bool) (disk : Disk) (c : Candidate) (t : Table) : Prop :=
  c.finding closed disk = .part (.table t) ∧ ¬ Spoiled (.table t)

theorem decides_of_isFirst {c : Candidate} (h : IsFirst closed around root explicit c) :
    Decides closed around root explicit c (c.finding closed around.disk) :=
  ⟨deciding_eq_some_iff.mpr h, rfl⟩

/-- Settings that a file gives are in effect as a whole, unless they are out of bounds. -/
theorem loadWhere_of_gives {c : Candidate} {t : Table} {s : Settings}
    (h : IsFirst closed around root explicit c) (hGives : c.Gives closed around.disk t)
    (hs : (loadWhere closed around root explicit).result = .ok s) :
    s = { givenSettings t with source := some c.path } := by
  have hDecides := decides_of_isFirst h
  rw [hGives.1] at hDecides
  rw [loadWhere_of_decides hDecides, result_verdict_part hGives.2] at hs
  split at hs
  · cases hs
  · split at hs
    · cases hs
    · exact (Except.ok.inj hs).symm

/-- There are either the defaults or the settings of the file that decides. -/
theorem default_or_gives {s : Settings}
    (hs : (loadWhere closed around root explicit).result = .ok s) : s = .default ∨
      ∃ c t, IsFirst closed around root explicit c ∧ c.Gives closed around.disk t ∧
        s = { givenSettings t with source := some c.path } := by
  obtain ⟨s', hResult, hDefault | ⟨c, t, ⟨hDeciding, hPart⟩, hWhole, hGiven⟩⟩ | ⟨e, hResult, -⟩ :=
    load_cases closed around root explicit
  · obtain rfl := Except.ok.inj (hs.symm.trans hResult)
    exact .inl hDefault
  · obtain rfl := Except.ok.inj (hs.symm.trans hResult)
    exact .inr ⟨c, t, deciding_eq_some_iff.mp hDeciding, ⟨hPart, hWhole⟩, hGiven⟩
  · cases hs.symm.trans hResult

variable (closed around root explicit)

/-- What the settings of a repository depend on, and what they say of it. -/
structure SettingsDecided : Prop where
  /-- Where the system hands out all files, the settings are those that are loaded. -/
  load_eq : (∀ p, closed p = false) →
    loadWhere closed around root explicit = load around root explicit
  /-- States that agree up to the candidate that decides lead to the same. -/
  same : ∀ closed' around', Agree closed closed' around around' root explicit →
    loadWhere closed' around' root explicit = loadWhere closed around root explicit
  /-- Nothing but the candidate that decides contributes, neither what is passed over before it nor what
  stands behind it. -/
  alone : ∀ closed' around' c, IsFirst closed around root explicit c →
    IsFirst closed' around' root explicit c →
    handedOut closed' around'.disk c.path = handedOut closed around.disk c.path →
    loadWhere closed' around' root explicit = loadWhere closed around root explicit
  /-- A file that is asked for by name is all that matters. -/
  named : ∀ p, explicit = some p → ∀ closed' around',
    handedOut closed' around'.disk p = handedOut closed around.disk p →
    loadWhere closed' around' root explicit = loadWhere closed around root explicit
  /-- If it is missing, there are no settings. -/
  missing : ∀ p, explicit = some p → handedOut closed around.disk p = none →
    (loadWhere closed around root explicit).result = .error (.settings (.fileMissing p.text))
  /-- Otherwise there are the defaults if no candidate decides. -/
  unsettled : explicit = none →
    (∀ c ∈ sources around root explicit, ¬ c.Decisive closed around.disk) →
    (loadWhere closed around root explicit).result = .ok .default
  /-- All settings that the deciding file gives are in effect. -/
  given : ∀ s c t, (loadWhere closed around root explicit).result = .ok s →
    IsFirst closed around root explicit c → c.Gives closed around.disk t →
    s = { givenSettings t with source := some c.path }
  /-- The settings name that file exactly if they are those that it gives. -/
  source_iff : ∀ s p, (loadWhere closed around root explicit).result = .ok s →
    (s.source = some p ↔ ∃ c t, IsFirst closed around root explicit c ∧ c.path = p ∧
      c.Gives closed around.disk t ∧ s = { givenSettings t with source := some p })
  /-- They name none exactly if they are the defaults. -/
  default_iff : ∀ s, (loadWhere closed around root explicit).result = .ok s →
    (s.source = none ↔ s = .default)

/-- **Sources of settings.** One file decides, the settings depend on it alone, and they name it just if
they come from it. -/
theorem settingsDecided : SettingsDecided closed around root explicit where
  load_eq := by
    intro hOpen
    obtain rfl : closed = fun _ => false := funext hOpen
    exact loadWhere_open around root explicit
  same _ _ h := loadWhere_of_agree h
  alone _ _ _ h h' hSame := loadWhere_of_same h h' hSame
  named := by
    rintro p rfl closed' around' hSame
    refine loadWhere_of_agree fun i _ => ⟨rfl, fun c hc => ?_⟩
    obtain rfl : c = ⟨p, false⟩ := List.mem_singleton.mp (List.mem_of_getElem? hc)
    exact hSame
  missing := by
    rintro p rfl hNone
    have hContent : (around.disk.entry? p).bind (·.content?) = none := by
      simpa [handedOut] using hNone
    rw [loadWhere_eq, deciding_of_content_none hContent]
    rfl
  unsettled := by
    intro hNone hAll
    have hDeciding : deciding closed around.disk (sources around root explicit) = none := by
      rw [deciding, List.find?_eq_none]
      exact fun c hc hDecides => hAll c hc (decides_iff.mp hDecides)
    rw [sources] at hDeciding
    rw [loadWhere_eq, hDeciding, hNone]
    rfl
  given _ _ _ hs h hGives := loadWhere_of_gives h hGives hs
  source_iff := by
    intro s p hs
    constructor
    · intro hSource
      rcases default_or_gives hs with rfl | ⟨c, t, hFirst, hGives, rfl⟩
      · cases hSource
      · obtain rfl := Option.some.inj hSource
        exact ⟨c, t, hFirst, rfl, hGives, rfl⟩
    · rintro ⟨c, t, -, -, -, rfl⟩
      rfl
  default_iff := by
    intro s hs
    constructor
    · intro hSource
      rcases default_or_gives hs with hDefault | ⟨c, t, -, -, rfl⟩
      · exact hDefault
      · cases hSource
    · rintro rfl
      rfl

end States

end CodeAtlas.Settings
