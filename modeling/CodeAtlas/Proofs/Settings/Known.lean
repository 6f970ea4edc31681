import CodeAtlas.Proofs.Traced
import CodeAtlas.Settings.Read

/-!
# Known keys of settings

Which tables and keys of a document are settings, and what each of them asks of its value. Reading
is compared with this list.

* `fault_readAll`: what reading complains of is what is wrong with the first known table or key, in
  their order, that does not have a fitting value.
* `readAll_isOk_iff`: a document can be read just if all of them fit.
* `readAll_eq_ok`: if all fit, every setting is the one that the document gives, or else the default.
-/

namespace CodeAtlas.Settings

open Toml (Value Table)

/-! ## First complaints -/

section Faults

variable {ε α β : Type}

/-- What a result complains of. -/
def fault : Except ε α → Option ε
  | .ok _ => none
  | .error e => some e

@[simp] theorem fault_ok (a : α) : fault (.ok a : Except ε α) = none := rfl

@[simp] theorem fault_error (e : ε) : fault (.error e : Except ε α) = some e := rfl

@[simp] theorem fault_pure (a : α) : fault (pure a : Except ε α) = none := rfl

theorem fault_map (f : α → β) (x : Except ε α) : fault (x.map f) = fault x := by
  cases x <;> rfl

/-- The first complaint counts, if the second does not depend on the first value. -/
theorem fault_bind {x : Except ε α} {f : α → Except ε β} {o : Option ε} (h : ∀ a, fault (f a) = o) :
    fault (x >>= f) = (fault x).or o := by
  cases x with
  | ok a => exact h a
  | error e => rfl

theorem findSome?_cons_or (f : α → Option ε) (a : α) (xs : List α) :
    (a :: xs).findSome? f = (f a).or (xs.findSome? f) := by
  rw [List.findSome?_cons]
  cases f a <;> rfl

end Faults

/-! ## What is known -/

def knownTables : List String := ["scan", "tree", "configs", "commands", "callgraph"]

/-- What a key asks of its value. -/
inductive Kind where
  | texts
  | number
  | truth
  | lineMode
  | regex
  deriving DecidableEq

/-- Does a value have the kind that is asked for? -/
def Kind.Fits : Kind → Value → Prop
  | texts, .text _ => True
  | texts, .array items => ∀ v ∈ items, ∃ s, v = .text s
  | number, .int _ => True
  | truth, .bool _ => True
  | lineMode, .text s => s ∈ lineModes
  | regex, .text s => ∃ node, Regex.read s = .ok node
  | _, _ => False

structure KnownKey where
  table : String
  name : String
  kind : Kind

/-- The keys that are looked at before the expression that restricts commands. -/
def earlyKeys : List KnownKey :=
  [⟨"scan", "ignore", .texts⟩, ⟨"scan", "ext", .texts⟩, ⟨"scan", "sections", .texts⟩,
    ⟨"scan", "no_tree", .truth⟩, ⟨"tree", "loc_mode", .lineMode⟩,
    ⟨"tree", "use_gitignore", .truth⟩, ⟨"configs", "env_prefixes", .texts⟩]

def regexKey : KnownKey := ⟨"commands", "allow_regex", .regex⟩

/-- The keys that are looked at after it. -/
def lateKeys : List KnownKey :=
  [⟨"callgraph", "roots", .texts⟩, ⟨"callgraph", "max_depth", .number⟩,
    ⟨"callgraph", "max_nodes", .number⟩, ⟨"callgraph", "include_external", .truth⟩]

def knownKeys : List KnownKey := earlyKeys ++ regexKey :: lateKeys

/-- The name of a key with that of its table. -/
def KnownKey.text (k : KnownKey) : String := k.table ++ "." ++ k.name

/-- What is wrong with the value of a key. -/
def KnownKey.complaint (k : KnownKey) (v : Value) : Option Complaint :=
  match k.kind with
  | .texts => fault (stringsAt k.text v)
  | .number => fault (intAt k.text v)
  | .truth => fault (boolAt k.text v)
  | .lineMode => fault (lineModeAt v)
  | .regex => fault (regexAt v)

/-- The table under a name, empty if there is none. -/
def innerTable (t : Table) (name : String) : Table :=
  match t.lookup name with
  | some (.table inner) => inner
  | _ => []

/-- The value of a key in a document. -/
def KnownKey.value? (k : KnownKey) (t : Table) : Option Value := (innerTable t k.table).lookup k.name

/-- A document holds something else where a table should be. -/
def NoTable (t : Table) (name : String) : Prop :=
  ∃ v, t.lookup name = some v ∧ ∀ inner, v ≠ .table inner

/-- A document has a value for a key that does not fit. -/
def Misfit (t : Table) (k : KnownKey) : Prop := ∃ v, k.value? t = some v ∧ ¬ k.kind.Fits v

/-- Settings hold a known table or key of the wrong kind. -/
def Spoiled (v : Value) : Prop :=
  match v with
  | .table t => (∃ name ∈ knownTables, NoTable t name) ∨ ∃ k ∈ knownKeys, Misfit t k
  | _ => True

/-! ## Values that fit -/

theorem textsOf_isSome {items : List Value} :
    (textsOf items).isSome = true ↔ ∀ v ∈ items, ∃ s, v = .text s := by
  induction items with
  | nil => simp [textsOf]
  | cons v items ih => cases v <;> simp [textsOf, ih]

/-- A value fits if reading does not complain of it. -/
theorem KnownKey.complaint_eq_none {k : KnownKey} {v : Value} :
    k.complaint v = none ↔ k.kind.Fits v := by
  obtain ⟨table, name, kind⟩ := k
  cases kind with
  | texts =>
    cases v with
    | text s => simp [complaint, Kind.Fits, stringsAt]
    | array items =>
      simp only [complaint, Kind.Fits, stringsAt, ← textsOf_isSome]
      cases textsOf items <;> simp
    | _ => simp [complaint, Kind.Fits, stringsAt]
  | number => cases v <;> simp [complaint, Kind.Fits, intAt]
  | truth => cases v <;> simp [complaint, Kind.Fits, boolAt]
  | lineMode =>
    cases v with
    | text s =>
      simp only [complaint, Kind.Fits, lineModeAt, List.contains_iff_mem]
      split <;> simp [*]
    | _ => simp [complaint, Kind.Fits, lineModeAt]
  | regex =>
    cases v with
    | text s =>
      simp only [complaint, Kind.Fits, regexAt]
      cases Regex.read s with
      | ok node => simp
      | error e => cases e <;> simp
    | _ => simp [complaint, Kind.Fits, regexAt]

/-! ## Tables -/

theorem fault_tableAt_eq_none {t : Table} {name : String} :
    fault (tableAt t name) = none ↔ ¬ NoTable t name := by
  unfold tableAt NoTable
  cases t.lookup name with
  | none => simp
  | some v => cases v <;> simp

theorem tableAt_of_fault_eq_none {t : Table} {name : String} (h : fault (tableAt t name) = none) :
    tableAt t name = .ok (innerTable t name) := by
  unfold tableAt at h
  unfold tableAt innerTable
  cases hFound : t.lookup name with
  | none => rfl
  | some v =>
    rw [hFound] at h
    cases v <;> first | rfl | cases h

/-- The known tables of a document, empty where there are none. -/
def tablesIn (t : Table) : Tables :=
  ⟨innerTable t "scan", innerTable t "tree", innerTable t "configs", innerTable t "commands",
    innerTable t "callgraph"⟩

theorem fault_tablesOf (t : Table) :
    fault (tablesOf (.table t)) = knownTables.findSome? fun name => fault (tableAt t name) := by
  simp only [knownTables, findSome?_cons_or, List.findSome?_nil]
  iterate 5 refine fault_bind fun _ => ?_
  rfl

theorem tablesOf_eq_ok {t : Table} (h : fault (tablesOf (.table t)) = none) :
    tablesOf (.table t) = .ok (tablesIn t) := by
  rw [fault_tablesOf, List.findSome?_eq_none_iff] at h
  have hEach : ∀ name ∈ knownTables, tableAt t name = .ok (innerTable t name) :=
    fun name hName => tableAt_of_fault_eq_none (h name hName)
  simp only [knownTables, List.forall_mem_cons] at hEach
  obtain ⟨hScan, hTree, hConfigs, hCommands, hCallgraph, -⟩ := hEach
  rw [tablesOf, hScan, hTree, hConfigs, hCommands, hCallgraph]
  rfl

/-! ## Keys -/

section Fields

variable {α : Type}

/-- The value under a name, if it can be read. -/
def given (t : Table) (name : String) (read : Value → Except Complaint α) : Option α :=
  (t.lookup name).bind fun v => (read v).toOption

variable {t : Table} {name : String} {read : Value → Except Complaint α} {put : Settings → α → Settings}

theorem fault_field (s : Settings) :
    fault (field t name read put s) = (t.lookup name).bind fun v => fault (read v) := by
  rw [field]
  cases t.lookup name with
  | none => rfl
  | some v => exact fault_map _ _

theorem field_eq_ok {s s' : Settings} (h : field t name read put s = .ok s') :
    s' = (given t name read).elim s (put s) := by
  rw [field] at h
  rw [given]
  cases hFound : t.lookup name with
  | none =>
    rw [hFound] at h
    exact (Except.ok.inj h).symm
  | some v =>
    rw [hFound] at h
    dsimp only at h
    rw [Option.bind_some]
    cases hRead : read v with
    | error c =>
      rw [hRead] at h
      cases h
    | ok a =>
      rw [hRead] at h
      exact (Except.ok.inj h).symm

/-- A key that says nothing leaves its setting as it is. -/
theorem field_eq_put {s s' : Settings} (h : field t name read put s = .ok s') (a : α)
    (hSame : put s a = s) : s' = put s ((given t name read).getD a) := by
  obtain rfl := field_eq_ok h
  cases given t name read with
  | none => exact hSame.symm
  | some b => rfl

end Fields

/-- Reads settings without reporting anything. -/
def readAll (v : Value) : Except Complaint Settings := do
  let (tables, s, wanted) ← readFirst v
  readRest tables (wantSections wanted s)

theorem result_read (v : Value) : (Settings.read v).result = .ok (readAll v) := by
  rw [Settings.read, readAll]
  cases readFirst v with
  | error c => rfl
  | ok found =>
    obtain ⟨tables, s, wanted⟩ := found
    dsimp only
    split <;> rfl

/-- What is wrong with the value of a key in a document. -/
def complaintAt (t : Table) (k : KnownKey) : Option Complaint := (k.value? t).bind k.complaint

/-- What is wrong with the first known table or key of a document. -/
def firstComplaint (t : Table) : Option Complaint :=
  (knownTables.findSome? fun name => fault (tableAt t name)).or (knownKeys.findSome? (complaintAt t))

theorem fault_readFiles (t : Table) (s : Settings) :
    fault (readFiles (tablesIn t) s) = (earlyKeys.take 2).findSome? (complaintAt t) := by
  simp only [earlyKeys, List.take_succ_cons, List.take_zero, findSome?_cons_or, List.findSome?_nil,
    Option.or_none]
  exact (fault_bind fun s => fault_field s).trans (congrArg (Option.or · _) (fault_field s))

theorem fault_wantedSections (t : Table) :
    fault (wantedSections (tablesIn t)) = complaintAt t ⟨"scan", "sections", .texts⟩ := by
  rw [wantedSections]
  cases hFound : (tablesIn t).scan.lookup "sections" with
  | none =>
    have hValue : KnownKey.value? ⟨"scan", "sections", .texts⟩ t = none := hFound
    rw [complaintAt, hValue]
    rfl
  | some v =>
    have hValue : KnownKey.value? ⟨"scan", "sections", .texts⟩ t = some v := hFound
    rw [complaintAt, hValue]
    exact fault_map _ _

theorem fault_readRest (t : Table) (s : Settings) :
    fault (readRest (tablesIn t) s) =
      (earlyKeys.drop 3 ++ regexKey :: lateKeys).findSome? (complaintAt t) := by
  simp only [earlyKeys, regexKey, lateKeys, List.drop_succ_cons, List.drop_zero, List.cons_append,
    List.nil_append, findSome?_cons_or, List.findSome?_nil, Option.or_none]
  rw [readRest]
  iterate 8 refine (fault_bind fun s => ?_).trans (congrArg (Option.or · _) (fault_field _))
  exact fault_field _

theorem readAll_of_tables {v : Value} {tables : Tables} (h : tablesOf v = .ok tables) :
    readAll v = (do
      let s ← readFiles tables .default
      let wanted ← wantedSections tables
      readRest tables (wantSections wanted s)) := by
  have hFirst : readFirst v = (do
      let s ← readFiles tables .default
      let wanted ← wantedSections tables
      return (tables, s, wanted)) := by
    rw [readFirst, h]
    rfl
  rw [readAll, hFirst]
  simp only [bind_assoc, pure_bind]

theorem fault_readAll (t : Table) : fault (readAll (.table t)) = firstComplaint t := by
  have hTables := fault_tablesOf t
  rw [firstComplaint, ← hTables]
  cases hFault : fault (tablesOf (.table t)) with
  | some c =>
    rw [readAll, readFirst]
    cases hFound : tablesOf (.table t) with
    | ok tables =>
      rw [hFound] at hFault
      cases hFault
    | error c' =>
      rw [hFound] at hFault
      exact hFault
  | none =>
    have hKeys : knownKeys = earlyKeys.take 2 ++ ⟨"scan", "sections", .texts⟩ ::
        (earlyKeys.drop 3 ++ regexKey :: lateKeys) := rfl
    rw [readAll_of_tables (tablesOf_eq_ok hFault), hKeys, List.findSome?_append, findSome?_cons_or,
      Option.none_or, ← fault_readFiles t .default, ← fault_wantedSections]
    refine fault_bind fun s => ?_
    refine fault_bind fun wanted => ?_
    exact fault_readRest t (wantSections wanted s)

/-! ## Settings that are given -/

/-- The settings that a document gives, with the defaults for what it does not say. -/
def givenSettings (t : Table) : Settings :=
  let d := Settings.default
  let texts (table name : String) := given (innerTable t table) name (stringsAt (table ++ "." ++ name))
  let truth (table name : String) := given (innerTable t table) name (boolAt (table ++ "." ++ name))
  let number (name : String) := given (innerTable t "callgraph") name (intAt ("callgraph." ++ name))
  let sections := ((texts "scan" "sections").map fun xs => sectionNames.filter xs.contains).getD d.sections
  { tree := {
      ignore := (texts "scan" "ignore").getD d.tree.ignore
      extensions := ((texts "scan" "ext").map (·.map normalExtension)).getD d.tree.extensions
      lineMode := (given (innerTable t "tree") "loc_mode" lineModeAt).getD d.tree.lineMode
      useIgnoreFile := (truth "tree" "use_gitignore").getD d.tree.useIgnoreFile }
    roots := addNew [] ((texts "callgraph" "roots").getD [])
    limits := ⟨(number "max_depth").getD d.limits.depth, (number "max_nodes").getD d.limits.nodes⟩
    external := (truth "callgraph" "include_external").getD d.external
    allowRegex := (given (innerTable t "commands") "allow_regex" regexAt).getD d.allowRegex
    sections := if (truth "scan" "no_tree").getD false then sections.erase "tree" else sections
    envPrefixes := (texts "configs" "env_prefixes").getD d.envPrefixes
    source := none }

theorem wantedSections_eq_ok {t : Tables} {wanted : Option (List String)}
    (h : wantedSections t = .ok wanted) :
    wanted = given t.scan "sections" (stringsAt "scan.sections") := by
  rw [wantedSections] at h
  rw [given]
  cases hFound : t.scan.lookup "sections" with
  | none =>
    rw [hFound] at h
    exact (Except.ok.inj h).symm
  | some v =>
    rw [hFound] at h
    dsimp only at h
    rw [Option.bind_some]
    cases hRead : stringsAt "scan.sections" v with
    | error c =>
      rw [hRead] at h
      cases h
    | ok names =>
      rw [hRead] at h
      exact (Except.ok.inj h).symm

theorem wantSections_eq (wanted : Option (List String)) (s : Settings) :
    wantSections wanted s = { s with
      sections := (wanted.map fun xs => sectionNames.filter xs.contains).getD s.sections } := by
  cases wanted <;> rfl

theorem readFiles_eq_ok {t : Tables} {s s' : Settings} (h : readFiles t s = .ok s') :
    s' = { s with
      tree.ignore := (given t.scan "ignore" (stringsAt "scan.ignore")).getD s.tree.ignore
      tree.extensions := ((given t.scan "ext" (stringsAt "scan.ext")).map
        (·.map normalExtension)).getD s.tree.extensions } := by
  rw [readFiles] at h
  obtain ⟨s₁, h₁, h⟩ := ok_of_bind h
  obtain rfl := field_eq_put h₁ s.tree.ignore rfl
  obtain rfl := field_eq_ok h
  cases given t.scan "ext" (stringsAt "scan.ext") <;> rfl

theorem readRest_eq_ok {t : Tables} {s s' : Settings} (h : readRest t s = .ok s') :
    s' = { s with
      sections := if (given t.scan "no_tree" (boolAt "scan.no_tree")).getD false then
        s.sections.erase "tree" else s.sections
      tree.lineMode := (given t.tree "loc_mode" lineModeAt).getD s.tree.lineMode
      tree.useIgnoreFile := (given t.tree "use_gitignore" (boolAt "tree.use_gitignore")).getD
        s.tree.useIgnoreFile
      envPrefixes := (given t.configs "env_prefixes" (stringsAt "configs.env_prefixes")).getD
        s.envPrefixes
      allowRegex := (given t.commands "allow_regex" regexAt).getD s.allowRegex
      roots := addNew s.roots ((given t.callgraph "roots" (stringsAt "callgraph.roots")).getD [])
      limits.depth := (given t.callgraph "max_depth" (intAt "callgraph.max_depth")).getD
        s.limits.depth
      limits.nodes := (given t.callgraph "max_nodes" (intAt "callgraph.max_nodes")).getD
        s.limits.nodes
      external := (given t.callgraph "include_external" (boolAt "callgraph.include_external")).getD
        s.external } := by
  rw [readRest] at h
  obtain ⟨s₁, h₁, h⟩ := ok_of_bind h
  obtain ⟨s₂, h₂, h⟩ := ok_of_bind h
  obtain ⟨s₃, h₃, h⟩ := ok_of_bind h
  obtain ⟨s₄, h₄, h⟩ := ok_of_bind h
  obtain ⟨s₅, h₅, h⟩ := ok_of_bind h
  obtain ⟨s₆, h₆, h⟩ := ok_of_bind h
  obtain ⟨s₇, h₇, h⟩ := ok_of_bind h
  obtain ⟨s₈, h₈, h⟩ := ok_of_bind h
  have e₁ : s₁ = { s with sections := if (given t.scan "no_tree" (boolAt "scan.no_tree")).getD false
      then s.sections.erase "tree" else s.sections } := by
    rw [field_eq_put h₁ false rfl]
    cases (given t.scan "no_tree" (boolAt "scan.no_tree")).getD false <;> rfl
  have e₂ := field_eq_put h₂ s₁.tree.lineMode rfl
  have e₃ := field_eq_put h₃ s₂.tree.useIgnoreFile rfl
  have e₄ := field_eq_put h₄ s₃.envPrefixes rfl
  have e₅ := field_eq_put h₅ s₄.allowRegex rfl
  have e₆ := field_eq_put h₆ [] rfl
  have e₇ := field_eq_put h₇ s₆.limits.depth rfl
  have e₈ := field_eq_put h₈ s₇.limits.nodes rfl
  have e₉ := field_eq_put h s₈.external rfl
  -- every step changes its own setting
  simp only [e₁] at e₂
  simp only [e₂] at e₃
  simp only [e₃] at e₄
  simp only [e₄] at e₅
  simp only [e₅, addRoots] at e₆
  simp only [e₆] at e₇
  simp only [e₇] at e₈
  simp only [e₈] at e₉
  exact e₉

theorem readAll_eq_ok {t : Table} {s : Settings} (h : readAll (.table t) = .ok s) :
    s = givenSettings t := by
  have hFault : fault (tablesOf (.table t)) = none := by
    cases hTables : tablesOf (.table t) with
    | ok tables => rfl
    | error c =>
      rw [readAll, readFirst, hTables] at h
      cases h
  rw [readAll_of_tables (tablesOf_eq_ok hFault)] at h
  obtain ⟨s₁, h₁, h⟩ := ok_of_bind h
  obtain ⟨wanted, hWanted, h⟩ := ok_of_bind h
  have e₁ := readFiles_eq_ok h₁
  have e₂ := wantedSections_eq_ok hWanted
  have e₃ := readRest_eq_ok h
  simp only [wantSections_eq, e₁, e₂] at e₃
  exact e₃

/-! ## Spoiled settings -/

theorem complaintAt_eq_none {t : Table} {k : KnownKey} : complaintAt t k = none ↔ ¬ Misfit t k := by
  rw [complaintAt, Option.bind_eq_none_iff]
  constructor
  · rintro h ⟨v, hv, hNot⟩
    exact hNot (KnownKey.complaint_eq_none.mp (h v hv))
  · intro h v hv
    refine KnownKey.complaint_eq_none.mpr ?_
    exact Classical.not_not.mp fun hNot => h ⟨v, hv, hNot⟩

theorem firstComplaint_eq_none {t : Table} : firstComplaint t = none ↔ ¬ Spoiled (.table t) := by
  rw [firstComplaint, Option.or_eq_none_iff, List.findSome?_eq_none_iff, List.findSome?_eq_none_iff]
  simp only [fault_tableAt_eq_none, complaintAt_eq_none, Spoiled, not_or, not_exists, not_and]

theorem readAll_isOk_iff {v : Value} : (∃ s, readAll v = .ok s) ↔ ¬ Spoiled v := by
  cases v with
  | table t =>
    rw [← firstComplaint_eq_none, ← fault_readAll]
    cases readAll (.table t) <;> simp
  | _ =>
    refine iff_of_false ?_ (not_not_intro trivial)
    rintro ⟨s, h⟩
    cases h

/-- Reading stops at the expression that restricts commands, which asks for too many repetitions. -/
def Overflows (v : Value) : Prop :=
  match v with
  | .table t => (∀ name ∈ knownTables, ¬ NoTable t name) ∧ (∀ k ∈ earlyKeys, ¬ Misfit t k) ∧
      ∃ s, regexKey.value? t = some (.text s) ∧ Regex.read s = .error .overflow
  | _ => False

theorem complaint_ne_failure {k : KnownKey} (hKind : k.kind ≠ .regex) (v : Value) (f : Failure) :
    k.complaint v ≠ some (.failure f) := by
  obtain ⟨table, name, kind⟩ := k
  cases kind with
  | texts =>
    cases v with
    | array items =>
      simp only [KnownKey.complaint, stringsAt]
      cases textsOf items <;> simp
    | _ => simp [KnownKey.complaint, stringsAt]
  | number => cases v <;> simp [KnownKey.complaint, intAt]
  | truth => cases v <;> simp [KnownKey.complaint, boolAt]
  | lineMode =>
    cases v with
    | text s =>
      simp only [KnownKey.complaint, lineModeAt]
      split <;> simp
    | _ => simp [KnownKey.complaint, lineModeAt]
  | regex => exact absurd rfl hKind

theorem complaint_regexKey {v : Value} {f : Failure} : regexKey.complaint v = some (.failure f) ↔
    f = .tooLarge ∧ ∃ s, v = .text s ∧ Regex.read s = .error .overflow := by
  cases v with
  | text s =>
    simp only [regexKey, KnownKey.complaint, regexAt]
    cases hRead : Regex.read s with
    | ok node => simp [hRead]
    | error e => cases e <;> simp [regexFailure, hRead, eq_comm]
  | _ => simp [regexKey, KnownKey.complaint, regexAt]

/-- Nothing but a number that is too large is complained of as a failure. -/
theorem firstComplaint_eq_failure {t : Table} {f : Failure} :
    firstComplaint t = some (.failure f) ↔ f = .tooLarge ∧ Overflows (.table t) := by
  have hTables : (knownTables.findSome? fun name => fault (tableAt t name)) ≠ some (.failure f) := by
    intro h
    obtain ⟨name, -, hName⟩ := List.exists_of_findSome?_eq_some h
    unfold tableAt at hName
    cases hFound : t.lookup name with
    | none => simp [hFound] at hName
    | some v => cases v <;> simp [hFound] at hName
  have hOthers : ∀ ks : List KnownKey, (∀ k ∈ ks, k.kind ≠ .regex) →
      ks.findSome? (complaintAt t) ≠ some (.failure f) := by
    intro ks hKinds h
    obtain ⟨k, hk, hComplaint⟩ := List.exists_of_findSome?_eq_some h
    obtain ⟨v, -, hv⟩ := Option.bind_eq_some_iff.mp hComplaint
    exact complaint_ne_failure (hKinds k hk) v f hv
  have hEarly := hOthers earlyKeys (by decide)
  have hLate := hOthers lateKeys (by decide)
  have hRegex : complaintAt t regexKey = some (.failure f) ↔
      f = .tooLarge ∧ ∃ s, regexKey.value? t = some (.text s) ∧ Regex.read s = .error .overflow := by
    rw [complaintAt, Option.bind_eq_some_iff]
    simp only [complaint_regexKey]
    constructor
    · rintro ⟨v, hv, hf, s, rfl, hs⟩
      exact ⟨hf, s, hv, hs⟩
    · rintro ⟨hf, s, hv, hs⟩
      exact ⟨_, hv, hf, s, rfl, hs⟩
  rw [firstComplaint, knownKeys, List.findSome?_append, findSome?_cons_or, Option.or_eq_some_iff,
    Option.or_eq_some_iff, Option.or_eq_some_iff, hRegex, List.findSome?_eq_none_iff,
    List.findSome?_eq_none_iff]
  simp only [hTables, hEarly, hLate, false_or, and_false, or_false, fault_tableAt_eq_none,
    complaintAt_eq_none, Overflows]
  exact ⟨fun ⟨hTable, hKey, hf, hs⟩ => ⟨hf, hTable, hKey, hs⟩,
    fun ⟨hf, hTable, hKey, hs⟩ => ⟨hTable, hKey, hf, hs⟩⟩

/-! ## Bounds -/

theorem lineModes_contains_given (t : Table) :
    lineModes.contains (givenSettings t).tree.lineMode = true := by
  show lineModes.contains ((given (innerTable t "tree") "loc_mode" lineModeAt).getD "physical") = true
  have hDefault : lineModes.contains "physical" = true := by decide
  rw [given]
  cases (innerTable t "tree").lookup "loc_mode" with
  | none => exact hDefault
  | some v =>
    cases v with
    | text s =>
      rw [Option.bind_some, lineModeAt]
      split
      · assumption
      · exact hDefault
    | _ => exact hDefault

/-- An expression that has been read can be read again. -/
theorem checkRegex_given (t : Table) : (givenSettings t).checkRegex = .ok () := by
  have hAllowed : ∃ found, readAllowed (givenSettings t).allowRegex = .ok found := by
    show ∃ found, readAllowed ((given (innerTable t "commands") "allow_regex" regexAt).getD none) =
      .ok found
    rw [given]
    cases (innerTable t "commands").lookup "allow_regex" with
    | none => exact ⟨none, rfl⟩
    | some v =>
      cases v with
      | text s =>
        rw [Option.bind_some, regexAt]
        cases hRead : Regex.read s with
        | error e => cases e <;> exact ⟨none, rfl⟩
        | ok node =>
          dsimp only [Except.toOption, Option.getD_some]
          split
          · exact ⟨none, rfl⟩
          · rename_i hEmpty
            exact ⟨some node, by rw [readAllowed, if_neg hEmpty, hRead]⟩
      | _ => exact ⟨none, rfl⟩
  obtain ⟨found, hFound⟩ := hAllowed
  rw [checkRegex, hFound]

/-- Settings that are read from a document can miss the bounds of call graphs only. -/
theorem validate_given (t : Table) : (givenSettings t).validate =
    if (givenSettings t).limits.depth < 0 then
      .error (.settings (.depth (givenSettings t).limits.depth))
    else if (givenSettings t).limits.nodes < 1 then
      .error (.settings (.nodes (givenSettings t).limits.nodes))
    else .ok () := by
  rw [validate, lineModes_contains_given, checkRegex_given, Bool.not_true,
    if_neg (c := false = true) Bool.false_ne_true]

end CodeAtlas.Settings
