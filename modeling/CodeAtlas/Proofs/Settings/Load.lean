import CodeAtlas.Proofs.Settings.Known
import CodeAtlas.Proofs.Traced
import CodeAtlas.Settings.Load
import Mathlib

/-!
# What becomes of files with settings

The first candidate that is there and does not turn out to hold no settings decides. The system may
refuse to hand out files; `load` is the case in which it does not.

* `loadWhere_eq`: the deciding candidate alone settles what settings there are.
* `loadOutcome`: a file that cannot be used leaves the defaults and a warning, any other the
  settings that it gives, all of them; and for what reasons there are no settings at all.
-/

namespace CodeAtlas.Settings

open Files (Disk Path)
open Toml (Value Table)

/-! ## Candidates -/

/-- What a candidate comes to. -/
inductive Finding where
  /-- There is no such file. -/
  | missing
  /-- The document says nothing about settings. -/
  | silent
  /-- The system does not hand out the file. -/
  | unavailable
  /-- The bytes are no document. -/
  | refused (fault : Toml.Fault)
  /-- The document holds settings. -/
  | part (v : Value)

/-- What the bytes of a candidate come to. -/
def Candidate.findingIn (c : Candidate) (bytes : List UInt8) : Finding :=
  match Toml.readBytes bytes with
  | .error fault => .refused fault
  | .ok t =>
    match settingsPart c.inTool t with
    | some v => .part v
    | none => .silent

variable (closed : Path → Bool) (disk : Disk)

def Candidate.finding (c : Candidate) : Finding :=
  match (disk.entry? c.path).bind (·.content?) with
  | none => .missing
  | some bytes => if closed c.path then .unavailable else c.findingIn bytes

/-- Is no further candidate looked at? -/
def Finding.decides : Finding → Bool
  | missing | silent => false
  | _ => true

/-- The candidate that decides. -/
def deciding (cs : List Candidate) : Option Candidate :=
  cs.find? fun c => (c.finding closed disk).decides

/-- Settings from the first candidate that has them, where the system does not hand out some files. -/
def fromCandidatesWhere (required : Bool) : List Candidate → Traced Settings
  | [] => do
    Traced.note .noSettings
    return .default
  | c :: rest =>
    match (disk.entry? c.path).bind (·.content?) with
    | none =>
      if required then Traced.fail (.settings (.fileMissing c.path.text))
      else fromCandidatesWhere required rest
    | some bytes =>
      if closed c.path then do
        Traced.note (.settingsUnread c.path.text .system)
        return .default
      else do
        match ← ofBytes c bytes with
        | some s => return s
        | none => fromCandidatesWhere required rest

theorem fromCandidatesWhere_open (required : Bool) (cs : List Candidate) :
    fromCandidatesWhere (fun _ => false) disk required cs = fromCandidates disk required cs := by
  induction cs with
  | nil => rfl
  | cons c cs ih =>
    rw [fromCandidatesWhere, fromCandidates, ih]
    rfl

/-- The settings for a repository, where the system does not hand out some files. -/
def loadWhere (around : Surroundings) (root : Path) (explicit : Option Path) : Traced Settings :=
  fromCandidatesWhere closed around.disk explicit.isSome
    (candidates root explicit around.settingsFile)

theorem loadWhere_open (around : Surroundings) (root : Path) (explicit : Option Path) :
    loadWhere (fun _ => false) around root explicit = load around root explicit :=
  fromCandidatesWhere_open _ _ _

/-! ## The deciding candidate -/

/-- The settings of a candidate that decides. -/
def Candidate.verdict (c : Candidate) : Finding → Traced Settings
  | .refused .notText => Traced.fail .notText
  | .refused .tooLong => Traced.fail .badValue
  | .refused .malformed => do
    Traced.note (.settingsUnread c.path.text .malformed)
    return .default
  | .unavailable => do
    Traced.note (.settingsUnread c.path.text .system)
    return .default
  | .part v => ofValue c.path v
  | .missing | .silent => do
    Traced.note .noSettings
    return .default

theorem ofBytes_eq (c : Candidate) (bytes : List UInt8) :
    ofBytes c bytes =
      if (c.findingIn bytes).decides then some <$> c.verdict (c.findingIn bytes) else pure none := by
  rw [ofBytes, Candidate.findingIn]
  cases Toml.readBytes bytes with
  | error fault => cases fault <;> rfl
  | ok t =>
    dsimp only
    obtain hPart | ⟨v, hPart⟩ := Option.eq_none_or_eq_some (settingsPart c.inTool t)
    · simp only [hPart]
      rfl
    · simp only [hPart]
      rfl

variable {closed disk}

/-- A candidate that does not decide is passed over, unless it has to be there. -/
theorem fromCandidatesWhere_cons (required : Bool) (c : Candidate) (cs : List Candidate) :
    fromCandidatesWhere closed disk required (c :: cs) =
      if (c.finding closed disk).decides then c.verdict (c.finding closed disk)
      else if required && ((disk.entry? c.path).bind (·.content?)).isNone then
        Traced.fail (.settings (.fileMissing c.path.text))
      else fromCandidatesWhere closed disk required cs := by
  rw [fromCandidatesWhere]
  cases hRead : (disk.entry? c.path).bind (·.content?) with
  | none =>
    have hFinding : c.finding closed disk = .missing := by rw [Candidate.finding, hRead]
    simp only [hFinding, Finding.decides, Bool.false_eq_true, if_false, Option.isNone_none,
      Bool.and_true]
  | some bytes =>
    cases hClosed : closed c.path with
    | true =>
      have hFinding : c.finding closed disk = .unavailable := by
        rw [Candidate.finding, hRead, hClosed]
        rfl
      simp only [hFinding, Finding.decides, if_true]
      rfl
    | false =>
      have hFinding : c.finding closed disk = c.findingIn bytes := by
        rw [Candidate.finding, hRead, hClosed]
        rfl
      simp only [hFinding, Bool.false_eq_true, if_false, ofBytes_eq, Option.isNone_some,
        Bool.and_false]
      cases (c.findingIn bytes).decides with
      | true => simp only [if_true, map_eq_pure_bind, bind_assoc, pure_bind, bind_pure]
      | false => simp only [Bool.false_eq_true, if_false, pure_bind]

theorem fromCandidatesWhere_eq (cs : List Candidate) :
    fromCandidatesWhere closed disk false cs =
      match deciding closed disk cs with
      | some c => c.verdict (c.finding closed disk)
      | none => do
        Traced.note .noSettings
        return .default := by
  induction cs with
  | nil => rfl
  | cons c cs ih =>
    rw [fromCandidatesWhere_cons, deciding, List.find?_cons, ← deciding, ih]
    cases (c.finding closed disk).decides <;> rfl

/-- A file that is asked for by name decides if it is there. -/
theorem decides_explicit (p : Path) : ((⟨p, false⟩ : Candidate).finding closed disk).decides =
    ((disk.entry? p).bind (·.content?)).isSome := by
  rw [Candidate.finding]
  cases (disk.entry? p).bind (·.content?) with
  | none => rfl
  | some bytes =>
    dsimp only
    split
    · rfl
    · rw [Candidate.findingIn]
      cases Toml.readBytes bytes <;> rfl

theorem fromCandidatesWhere_required (p : Path) :
    fromCandidatesWhere closed disk true [⟨p, false⟩] =
      match deciding closed disk [⟨p, false⟩] with
      | some c => c.verdict (c.finding closed disk)
      | none => Traced.fail (.settings (.fileMissing p.text)) := by
  rw [fromCandidatesWhere_cons, deciding, List.find?_cons, List.find?_nil, decides_explicit]
  cases (disk.entry? p).bind (·.content?) <;> rfl

/-- A file that is asked for by name and does not decide is missing. -/
theorem content_of_deciding_none {p : Path} (h : deciding closed disk [⟨p, false⟩] = none) :
    (disk.entry? p).bind (·.content?) = none := by
  rw [deciding, List.find?_cons, List.find?_nil, decides_explicit] at h
  cases hRead : (disk.entry? p).bind (·.content?) with
  | none => rfl
  | some bytes =>
    rw [hRead] at h
    cases h

/-- The deciding candidate alone settles what settings there are. -/
theorem loadWhere_eq (around : Surroundings) (root : Path) (explicit : Option Path) :
    loadWhere closed around root explicit =
      match deciding closed around.disk (candidates root explicit around.settingsFile) with
      | some c => c.verdict (c.finding closed around.disk)
      | none =>
        match explicit with
        | some p => Traced.fail (.settings (.fileMissing p.text))
        | none => do
          Traced.note .noSettings
          return .default := by
  rw [loadWhere]
  cases explicit with
  | some p => exact fromCandidatesWhere_required p
  | none => exact fromCandidatesWhere_eq _

/-! ## Settings that a document holds -/

theorem mem_trace_bind {α β : Type} {x : Traced α} {f : α → Traced β} {a : α} {e : Happening}
    (hx : x.result = .ok a) (he : e ∈ (f a).trace) : e ∈ (x >>= f).trace := by
  show e ∈ (x.bind f).trace
  rw [Traced.bind, hx]
  exact List.mem_append_right _ he

theorem ofValue_of_complaint {path : Path} {v : Value} {c : Complaint} (h : readAll v = .error c)
    (hForm : ∀ f, c ≠ .failure f) : (ofValue path v).result = .ok .default ∧
      .note (.settingsInvalid path.text (.words c.message)) ∈ (ofValue path v).trace := by
  have hRead : (Settings.read v).result = .ok (.error c) := by rw [result_read, h]
  cases c with
  | failure f => exact absurd rfl (hForm f)
  | _ =>
    exact ⟨(Traced.result_bind_of_ok hRead _).trans rfl,
      mem_trace_bind hRead (List.mem_cons_self ..)⟩

theorem ofValue_of_failure {path : Path} {v : Value} {f : Failure}
    (h : readAll v = .error (.failure f)) : (ofValue path v).result = .error f := by
  have hRead : (Settings.read v).result = .ok (.error (.failure f)) := by rw [result_read, h]
  exact Traced.result_bind_of_ok hRead _

theorem ofValue_of_ok {path : Path} {v : Value} {s : Settings} (h : readAll v = .ok s) :
    (ofValue path v).result = s.validate.map fun _ => { s with source := some path } := by
  have hRead : (Settings.read v).result = .ok (.ok s) := by rw [result_read, h]
  rw [ofValue, Traced.result_bind_of_ok hRead]
  show (Traced.ofExcept s.validate >>= fun _ => (Traced.note _ >>= fun _ => _)).result = _
  rw [Traced.result_bind]
  show (s.validate >>= fun _ => _) = _
  cases s.validate <;> rfl

/-! ## Outcomes -/

/-- A file with settings cannot be used: the system does not hand it out, it is no document, or a
known table or key in it is of the wrong kind. -/
def Finding.Unusable : Finding → Prop
  | unavailable => True
  | refused fault => fault = .malformed
  | part v => Spoiled v ∧ ¬ Overflows v
  | missing | silent => False

/-- The text of a note begins with a code. -/
def HasCode (code : String) (n : Note) : Prop := ∀ w, ∃ rest, n.text w = code ++ " " ++ rest

section Outcomes

variable (closed : Path → Bool) (around : Surroundings) (root : Path) (explicit : Option Path)

/-- The candidate that decides for a repository, and what it comes to. -/
def Decides (c : Candidate) (f : Finding) : Prop :=
  deciding closed around.disk (candidates root explicit around.settingsFile) = some c ∧
    c.finding closed around.disk = f

/-- Why there are no settings. -/
inductive Fails : Failure → Prop
  | fileMissing {p : Path} : explicit = some p → (around.disk.entry? p).bind (·.content?) = none →
      Fails (.settings (.fileMissing p.text))
  | depth {c : Candidate} {t : Table} : Decides closed around root explicit c (.part (.table t)) →
      ¬ Spoiled (.table t) → (givenSettings t).limits.depth < 0 →
      Fails (.settings (.depth (givenSettings t).limits.depth))
  | nodes {c : Candidate} {t : Table} : Decides closed around root explicit c (.part (.table t)) →
      ¬ Spoiled (.table t) → 0 ≤ (givenSettings t).limits.depth →
      (givenSettings t).limits.nodes < 1 →
      Fails (.settings (.nodes (givenSettings t).limits.nodes))
  /-- The bytes are no text. -/
  | notText {c : Candidate} : Decides closed around root explicit c (.refused .notText) →
      Fails .notText
  /-- A number in the document has too many digits. -/
  | tooLong {c : Candidate} : Decides closed around root explicit c (.refused .tooLong) →
      Fails .badValue
  /-- A regular expression asks for too many repetitions. -/
  | overflow {c : Candidate} {v : Value} : Decides closed around root explicit c (.part v) →
      Overflows v → Fails .tooLarge

/-- What becomes of the settings for a repository. -/
structure LoadOutcome : Prop where
  /-- A file that cannot be used leaves the defaults and a warning. -/
  fallsBack : ∀ c f, Decides closed around root explicit c f → f.Unusable →
    (loadWhere closed around root explicit).result = .ok .default ∧
      ∃ n, .note n ∈ (loadWhere closed around root explicit).trace ∧ n.level = .warning ∧
        HasCode "CFG900" n
  /-- Settings are the defaults, or else all that a file gives is in force. -/
  whole : ∀ s, (loadWhere closed around root explicit).result = .ok s → s = .default ∨
    ∃ c t, Decides closed around root explicit c (.part (.table t)) ∧ ¬ Spoiled (.table t) ∧
      s = { givenSettings t with source := some c.path }
  /-- There are no settings for these reasons only, and always for them. -/
  fails : ∀ f, (loadWhere closed around root explicit).result = .error f ↔
    Fails closed around root explicit f

end Outcomes

variable {around : Surroundings} {root : Path} {explicit : Option Path} {c : Candidate}

theorem loadWhere_of_decides {f : Finding} (h : Decides closed around root explicit c f) :
    loadWhere closed around root explicit = c.verdict f := by
  rw [loadWhere_eq, h.1]
  exact congrArg c.verdict h.2

theorem hasCode_settingsUnread (path : String) (cause : Cause) :
    HasCode "CFG900" (.settingsUnread path cause) := by
  have hHead : "CFG900 could not read " = "CFG900" ++ " " ++ "could not read " := by decide +kernel
  intro w
  have hText : (Note.settingsUnread path cause).text w =
    "CFG900 could not read " ++ path ++ ": " ++ cause.text w ++ " (using defaults)" := rfl
  refine ⟨"could not read " ++ path ++ ": " ++ cause.text w ++ " (using defaults)", ?_⟩
  rw [hText, hHead]
  simp only [String.append_assoc]

theorem hasCode_settingsInvalid (path : String) (cause : Cause) :
    HasCode "CFG900" (.settingsInvalid path cause) := by
  have hHead : "CFG900 invalid " = "CFG900" ++ " " ++ "invalid " := by decide +kernel
  intro w
  have hText : (Note.settingsInvalid path cause).text w =
    "CFG900 invalid " ++ path ++ ": " ++ cause.text w ++ " (using defaults)" := rfl
  refine ⟨"invalid " ++ path ++ ": " ++ cause.text w ++ " (using defaults)", ?_⟩
  rw [hText, hHead]
  simp only [String.append_assoc]

/-- A document is read as a whole, or there is a complaint about it. -/
theorem readAll_cases (v : Value) :
    (∃ t, v = .table t ∧ ¬ Spoiled v ∧ readAll v = .ok (givenSettings t)) ∨
      (Overflows v ∧ readAll v = .error (.failure .tooLarge)) ∨
      (Spoiled v ∧ ¬ Overflows v ∧ ∃ c, readAll v = .error c ∧ ∀ f, c ≠ .failure f) := by
  cases v with
  | table t =>
    have hFault := fault_readAll t
    cases hRead : readAll (.table t) with
    | ok s =>
      rw [hRead] at hFault
      refine .inl ⟨t, rfl, firstComplaint_eq_none.mp hFault.symm, ?_⟩
      rw [readAll_eq_ok hRead]
    | error c =>
      rw [hRead, fault_error] at hFault
      have hSpoiled : Spoiled (.table t) := by
        refine Classical.not_not.mp fun hNot => ?_
        rw [firstComplaint_eq_none.mpr hNot] at hFault
        cases hFault
      refine .inr ?_
      by_cases hOverflows : Overflows (.table t)
      · have hTooLarge := firstComplaint_eq_failure.mpr ⟨rfl, hOverflows⟩
        obtain rfl := Option.some.inj (hFault.trans hTooLarge)
        exact .inl ⟨hOverflows, rfl⟩
      · refine .inr ⟨hSpoiled, hOverflows, c, rfl, ?_⟩
        rintro f rfl
        exact hOverflows (firstComplaint_eq_failure.mp hFault.symm).2
  | _ => exact .inr (.inr ⟨trivial, id, .noTable, rfl, nofun⟩)

theorem overflows_spoiled {v : Value} (h : Overflows v) : Spoiled v := by
  cases v with
  | table t =>
    obtain ⟨-, -, s, hs, hRead⟩ := h
    refine .inr ⟨regexKey, by simp [knownKeys], _, hs, ?_⟩
    rintro ⟨node, hNode⟩
    rw [hRead] at hNode
    cases hNode
  | _ => trivial

/-! ## All outcomes -/

theorem verdict_unusable {f : Finding} (h : f.Unusable) : (c.verdict f).result = .ok .default ∧
    ∃ n, .note n ∈ (c.verdict f).trace ∧ n.level = .warning ∧ HasCode "CFG900" n := by
  cases f with
  | missing => cases h
  | silent => cases h
  | unavailable => exact ⟨rfl, _, List.mem_singleton_self _, rfl, hasCode_settingsUnread _ _⟩
  | refused fault =>
    obtain rfl := h
    exact ⟨rfl, _, List.mem_singleton_self _, rfl, hasCode_settingsUnread _ _⟩
  | part v =>
    obtain ⟨hSpoiled, hOverflows⟩ := h
    obtain ⟨t, -, hNot, -⟩ | ⟨hOver, -⟩ | ⟨-, -, c', hRead, hForm⟩ := readAll_cases v
    · exact absurd hSpoiled hNot
    · exact absurd hOver hOverflows
    · obtain ⟨hResult, hNote⟩ : (ofValue c.path v).result = .ok .default ∧
          .note (.settingsInvalid c.path.text (.words c'.message)) ∈ (ofValue c.path v).trace :=
        ofValue_of_complaint hRead hForm
      exact ⟨hResult, _, hNote, rfl, hasCode_settingsInvalid _ _⟩

theorem result_verdict_part {t : Table} (h : ¬ Spoiled (.table t)) :
    (c.verdict (.part (.table t))).result =
      if (givenSettings t).limits.depth < 0 then
        .error (.settings (.depth (givenSettings t).limits.depth))
      else if (givenSettings t).limits.nodes < 1 then
        .error (.settings (.nodes (givenSettings t).limits.nodes))
      else .ok { givenSettings t with source := some c.path } := by
  obtain ⟨t', hTable, -, hRead⟩ | ⟨hOver, -⟩ | ⟨hSpoiled, -⟩ := readAll_cases (.table t)
  · cases hTable
    rw [Candidate.verdict, ofValue_of_ok hRead, validate_given]
    split
    · rfl
    · split <;> rfl
  · exact absurd (overflows_spoiled hOver) h
  · exact absurd hSpoiled h

theorem loadWhere_of_deciding_none
    (h : deciding closed around.disk (candidates root explicit around.settingsFile) = none) :
    (explicit = none ∧ (loadWhere closed around root explicit).result = .ok .default) ∨
      ∃ p, explicit = some p ∧ (around.disk.entry? p).bind (·.content?) = none ∧
        (loadWhere closed around root explicit).result = .error (.settings (.fileMissing p.text)) := by
  rw [loadWhere_eq, h]
  cases explicit with
  | none => exact .inl ⟨rfl, rfl⟩
  | some p => exact .inr ⟨p, rfl, content_of_deciding_none h, rfl⟩

/-- A file that is asked for by name and is missing does not decide. -/
theorem deciding_of_content_none {p : Path}
    (h : (disk.entry? p).bind (·.content?) = none) (env : Option String) :
    deciding closed disk (candidates root (some p) env) = none := by
  rw [candidates, deciding, List.find?_cons, List.find?_nil, decides_explicit, h]
  rfl

theorem decides_of_deciding
    (h : deciding closed around.disk (candidates root explicit around.settingsFile) = some c) :
    Decides closed around root explicit c (c.finding closed around.disk) ∧
      (c.finding closed around.disk).decides = true := by
  have hTrue := List.find?_some h
  exact ⟨⟨h, rfl⟩, hTrue⟩

theorem result_verdict_overflow {v : Value} (h : Overflows v) :
    (c.verdict (.part v)).result = .error .tooLarge := by
  obtain ⟨t, rfl, hNot, -⟩ | ⟨-, hRead⟩ | ⟨-, hNot, -⟩ := readAll_cases v
  · exact absurd (overflows_spoiled h) hNot
  · exact ofValue_of_failure hRead
  · exact absurd h hNot

/-- Either there are settings, which the file gives as a whole, or there is a reason why not. -/
theorem verdict_cases {f : Finding} (h : Decides closed around root explicit c f)
    (hDecides : f.decides = true) :
    (∃ s, (c.verdict f).result = .ok s ∧ (s = .default ∨
      ∃ t, f = .part (.table t) ∧ ¬ Spoiled (.table t) ∧
        s = { givenSettings t with source := some c.path })) ∨
      ∃ e, (c.verdict f).result = .error e ∧ Fails closed around root explicit e := by
  cases f with
  | missing => cases hDecides
  | silent => cases hDecides
  | unavailable => exact .inl ⟨_, rfl, .inl rfl⟩
  | refused fault =>
    cases fault with
    | malformed => exact .inl ⟨_, rfl, .inl rfl⟩
    | notText => exact .inr ⟨_, rfl, .notText h⟩
    | tooLong => exact .inr ⟨_, rfl, .tooLong h⟩
  | part v =>
    obtain ⟨t, rfl, hWhole, -⟩ | ⟨hOver, -⟩ | ⟨hSpoiled, hNot, -⟩ := readAll_cases v
    · have hResult := result_verdict_part (c := c) hWhole
      split at hResult
      · exact .inr ⟨_, hResult, .depth h hWhole ‹_›⟩
      · split at hResult
        · exact .inr ⟨_, hResult, .nodes h hWhole (Int.not_lt.mp ‹_›) ‹_›⟩
        · exact .inl ⟨_, hResult, .inr ⟨t, rfl, hWhole, rfl⟩⟩
    · exact .inr ⟨_, result_verdict_overflow hOver, .overflow h hOver⟩
    · have hUnusable : (Finding.part v).Unusable := ⟨hSpoiled, hNot⟩
      exact .inl ⟨_, (verdict_unusable hUnusable).1, .inl rfl⟩

theorem load_cases (closed : Path → Bool) (around : Surroundings) (root : Path)
    (explicit : Option Path) :
    (∃ s, (loadWhere closed around root explicit).result = .ok s ∧ (s = .default ∨
      ∃ c t, Decides closed around root explicit c (.part (.table t)) ∧ ¬ Spoiled (.table t) ∧
        s = { givenSettings t with source := some c.path })) ∨
      ∃ e, (loadWhere closed around root explicit).result = .error e ∧
        Fails closed around root explicit e := by
  cases hDeciding : deciding closed around.disk
      (candidates root explicit around.settingsFile) with
  | none =>
    obtain ⟨-, hResult⟩ | ⟨p, hExplicit, hMissing, hResult⟩ := loadWhere_of_deciding_none hDeciding
    · exact .inl ⟨_, hResult, .inl rfl⟩
    · exact .inr ⟨_, hResult, .fileMissing hExplicit hMissing⟩
  | some c =>
    obtain ⟨hDecides, hTrue⟩ := decides_of_deciding hDeciding
    rw [loadWhere_of_decides hDecides]
    obtain ⟨s, hResult, hDefault | ⟨t, hPart, hWhole, hs⟩⟩ | ⟨e, hResult, hFails⟩ :=
      verdict_cases hDecides hTrue
    · exact .inl ⟨s, hResult, .inl hDefault⟩
    · exact .inl ⟨s, hResult, .inr ⟨c, t, ⟨hDecides.1, hPart⟩, hWhole, hs⟩⟩
    · exact .inr ⟨e, hResult, hFails⟩

theorem result_of_fails {e : Failure} (h : Fails closed around root explicit e) :
    (loadWhere closed around root explicit).result = .error e := by
  cases h with
  | fileMissing hExplicit hMissing =>
    subst hExplicit
    rw [loadWhere_eq, deciding_of_content_none hMissing]
    rfl
  | depth hDecides hWhole hLow =>
    rw [loadWhere_of_decides hDecides, result_verdict_part hWhole, if_pos hLow]
  | nodes hDecides hWhole hDepth hLow =>
    rw [loadWhere_of_decides hDecides, result_verdict_part hWhole, if_neg (Int.not_lt.mpr hDepth),
      if_pos hLow]
  | notText hDecides =>
    rw [loadWhere_of_decides hDecides]
    rfl
  | tooLong hDecides =>
    rw [loadWhere_of_decides hDecides]
    rfl
  | overflow hDecides hOver =>
    rw [loadWhere_of_decides hDecides, result_verdict_overflow hOver]

theorem loadOutcome (closed : Path → Bool) (around : Surroundings) (root : Path)
    (explicit : Option Path) : LoadOutcome closed around root explicit where
  fallsBack := by
    intro c f hDecides hUnusable
    rw [loadWhere_of_decides hDecides]
    exact verdict_unusable hUnusable
  whole := by
    intro s hs
    obtain ⟨s', hResult, hWhole⟩ | ⟨e, hResult, -⟩ := load_cases closed around root explicit
    · obtain rfl := Except.ok.inj (hs.symm.trans hResult)
      exact hWhole
    · cases hs.symm.trans hResult
  fails := by
    intro e
    refine ⟨fun he => ?_, result_of_fails⟩
    obtain ⟨s, hResult, -⟩ | ⟨e', hResult, hFails⟩ := load_cases closed around root explicit
    · cases he.symm.trans hResult
    · obtain rfl := Except.error.inj (he.symm.trans hResult)
      exact hFails

/-- A repository with nothing but a file with settings. -/
def aroundSettings (bytes : List UInt8) : Surroundings where
  disk := ⟨.directory "" [.directory "repo" [.file "cd-index.toml" bytes]], []⟩
  settingsFile := none
  epoch := none
  now := 0

/-- There are neither settings nor is there a complaint about settings: the file is no text. -/
theorem load_notText : (load (aroundSettings [255]) ⟨"", ["repo"]⟩ none).result = .error .notText ∧
    ¬ ((∃ s, (load (aroundSettings [255]) ⟨"", ["repo"]⟩ none).result = .ok s) ∨
      ∃ f, (load (aroundSettings [255]) ⟨"", ["repo"]⟩ none).result = .error (.settings f)) := by
  have hResult : (load (aroundSettings [255]) ⟨"", ["repo"]⟩ none).result = .error .notText := by
    rw [← loadWhere_open]
    refine result_of_fails (.notText (c := ⟨⟨"", ["repo", "cd-index.toml"]⟩, false⟩) ⟨?_, ?_⟩) <;> cbv
  refine ⟨hResult, ?_⟩
  rw [hResult]
  rintro (⟨s, hs⟩ | ⟨f, hf⟩)
  · cases hs
  · cases hf

end CodeAtlas.Settings
