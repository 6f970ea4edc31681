import CodeAtlas.Files.Disk
import CodeAtlas.Proofs.Files.Walk

/-!
# Places on a disk

A place is a list of names from the root. What a path finds depends on the places through which it
leads, of which all but the last have to be directories.

* `Disk.entry?_eq`: what a path finds, in terms of these places.
* `Disk.Spares.agrees`: a path that leads through no changed place finds what it found.
-/

namespace CodeAtlas.Files

/-! ## What can be told of an entry alone -/

/-- An entry without its name and without what it holds below. -/
inductive Label where
  | file (content : List UInt8)
  | directory
  | broken
  deriving DecidableEq

namespace Entry

variable {e e' : Entry}

def label : Entry → Label
  | file _ bytes => .file bytes
  | directory _ _ => .directory
  | broken _ => .broken

theorem isDirectory_congr (h : e.label = e'.label) : e.isDirectory = e'.isDirectory := by
  cases e <;> cases e' <;> simp_all [isDirectory, label]

theorem isFile_congr (h : e.label = e'.label) : e.isFile = e'.isFile := by
  cases e <;> cases e' <;> simp_all [isFile, label]

theorem isFile_eq_false (h : e.isDirectory = true) : e.isFile = false := by
  cases e with
  | directory => rfl
  | file => cases h
  | broken => cases h

theorem isDirectory_eq_false (h : e.isFile = true) : e.isDirectory = false := by
  by_contra hIs
  rw [Bool.not_eq_false] at hIs
  rw [isFile_eq_false hIs] at h
  cases h

theorem eq_file {bytes : List UInt8} (h : e.label = .file bytes) : e = .file e.name bytes := by
  cases e with
  | file n old => rw [Label.file.inj h, name]
  | directory => cases h
  | broken => cases h

theorem exists?_congr (h : e.label = e'.label) : e.exists? = e'.exists? := by
  cases e <;> cases e' <;> simp_all [exists?, label]

theorem content?_congr (h : e.label = e'.label) : e.content? = e'.content? := by
  cases e <;> cases e' <;> simp_all [content?, label]

theorem any_congr {f : Entry → Bool} (hf : ∀ e e' : Entry, e.label = e'.label → f e = f e')
    {o o' : Option Entry} (h : o.map label = o'.map label) : o.any f = o'.any f := by
  cases o with
  | none =>
    cases o' with
    | none => rfl
    | some e' => cases h
  | some e =>
    cases o' with
    | none => cases h
    | some e' => exact hf e e' (Option.some.inj h)

theorem bind_congr {α : Type} {f : Entry → Option α}
    (hf : ∀ e e' : Entry, e.label = e'.label → f e = f e') {o o' : Option Entry}
    (h : o.map label = o'.map label) : o.bind f = o'.bind f := by
  cases o with
  | none =>
    cases o' with
    | none => rfl
    | some e' => cases h
  | some e =>
    cases o' with
    | none => cases h
    | some e' => exact hf e e' (Option.some.inj h)

theorem isDirectory_of_child? {n : String} {c : Entry} (h : e.child? n = some c) :
    e.isDirectory = true := by
  cases e with
  | directory => rfl
  | file => cases h
  | broken => cases h

theorem isDirectory_of_mem {c : Entry} (h : c ∈ e.children) : e.isDirectory = true := by
  cases e with
  | directory => rfl
  | file => cases h
  | broken => cases h

theorem name_of_child? {n : String} {c : Entry} (h : e.child? n = some c) : c.name = n := by
  simpa using List.find?_some h

theorem mem_of_child? {n : String} {c : Entry} (h : e.child? n = some c) : c ∈ e.children :=
  List.mem_of_find?_eq_some h

theorem leads_of_mem {c : Entry} (h : c ∈ e.children) : e.Leads [c.name] c := by
  cases e with
  | directory m cs => exact .down h (.here c)
  | file => cases h
  | broken => cases h

theorem leads_of_child? {n : String} {c : Entry} (h : e.child? n = some c) : e.Leads [n] c := by
  obtain rfl := name_of_child? h
  exact leads_of_mem (mem_of_child? h)

theorem Leads.trans {d c : Entry} {names names' : List String} (h : e.Leads names d)
    (h' : d.Leads names' c) : e.Leads (names ++ names') c := by
  induction h with
  | here => exact h'
  | down hc _ ih => exact .down hc (ih h')

/-! ## Descending -/

theorem descend?_append (e : Entry) (names names' : List String) :
    e.descend? (names ++ names') = (e.descend? names).bind (·.descend? names') := by
  induction names generalizing e with
  | nil => rfl
  | cons n names ih =>
    rw [List.cons_append, descend?, descend?]
    cases e.child? n with
    | none => rfl
    | some c => exact ih c

theorem descend?_concat (e : Entry) (names : List String) (n : String) :
    e.descend? (names ++ [n]) = (e.descend? names).bind (·.child? n) := by
  rw [descend?_append]
  congr 1
  funext d
  rw [descend?]
  cases d.child? n <;> rfl

theorem leads_of_descend? {names : List String} {d : Entry} (h : e.descend? names = some d) :
    e.Leads names d := by
  induction names generalizing e with
  | nil =>
    obtain rfl := Option.some.inj h
    exact .here e
  | cons n names ih =>
    rw [descend?] at h
    obtain ⟨c, hChild, hRest⟩ := Option.bind_eq_some_iff.mp h
    exact (leads_of_child? hChild).trans (ih hRest)

end Entry

/-! ## Paths through places -/

/-- One name further. Double dots lead back up. -/
def further (place : List String) (n : String) : List String :=
  if n = ".." then place.dropLast else place ++ [n]

/-- The places through which names lead, the first and the last included. -/
def trail : List String → List String → List (List String)
  | place, [] => [place]
  | place, n :: rest => place :: trail (further place n) rest

/-- The place to which names lead. -/
def landing (place names : List String) : List String := names.foldl further place

/-- What names find in a tree: on the way there have to be directories. -/
def seek (top : Entry) : List String → List String → Option Entry
  | place, [] => top.descend? place
  | place, n :: rest =>
    if (top.descend? place).any (·.isDirectory) then seek top (further place n) rest else none

theorem landing_mem_trail (place names : List String) : landing place names ∈ trail place names := by
  induction names generalizing place with
  | nil => exact List.mem_cons_self
  | cons n names ih => exact List.mem_cons_of_mem _ (ih _)

theorem seek_eq_some {top e : Entry} {place names : List String} (h : seek top place names = some e) :
    top.descend? (landing place names) = some e := by
  induction names generalizing place with
  | nil => exact h
  | cons n names ih =>
    rw [seek] at h
    split at h
    · exact ih h
    · cases h

theorem seek_of_none {top : Entry} {place : List String} (h : top.descend? place = none)
    (names : List String) : seek top place names = none := by
  cases names with
  | nil => exact h
  | cons n names =>
    rw [seek, h]
    rfl

theorem seek_append (top : Entry) (place names names' : List String) :
    seek top place (names ++ names') =
      (seek top place names).bind fun _ => seek top (landing place names) names' := by
  induction names generalizing place with
  | nil =>
    rw [List.nil_append, seek]
    cases hFound : top.descend? place with
    | none => exact seek_of_none hFound names'
    | some e => rfl
  | cons n names ih =>
    rw [List.cons_append, seek, seek]
    split
    · exact ih _
    · rfl

/-- On the way to a directory there are only directories. -/
theorem isDirectory_of_mem_trail {top e : Entry} {place names q : List String}
    (h : seek top place names = some e) (hDirectory : e.isDirectory = true)
    (hq : q ∈ trail place names) : ∃ x, top.descend? q = some x ∧ x.isDirectory = true := by
  induction names generalizing place with
  | nil =>
    obtain rfl := List.mem_singleton.mp hq
    exact ⟨e, h, hDirectory⟩
  | cons n names ih =>
    rw [seek] at h
    split at h
    · rename_i hHere
      rcases List.mem_cons.mp hq with rfl | hq
      · exact (Option.any_eq_true _ _).mp hHere
      · exact ih h hq
    · cases h

/-- What is found depends on the places on the way. -/
theorem seek_congr {top top' : Entry} {place names : List String}
    (h : ∀ p ∈ trail place names,
      (top.descend? p).map Entry.label = (top'.descend? p).map Entry.label) :
    (seek top place names).map Entry.label = (seek top' place names).map Entry.label := by
  induction names generalizing place with
  | nil => exact h place List.mem_cons_self
  | cons n names ih =>
    have hHere : (top.descend? place).any (·.isDirectory) =
        (top'.descend? place).any (·.isDirectory) :=
      Entry.any_congr (fun _ _ => Entry.isDirectory_congr) (h place List.mem_cons_self)
    rw [seek, seek, hHere]
    split
    · exact ih fun p hp => h p (List.mem_cons_of_mem _ hp)
    · rfl

/-! ## Places without double dots -/

theorem dots_not_mem_landing {place names : List String} (h : ".." ∉ place) :
    ".." ∉ landing place names := by
  induction names generalizing place with
  | nil => exact h
  | cons n names ih =>
    refine ih ?_
    rw [further]
    split
    · exact fun hMem => h (List.dropLast_subset _ hMem)
    · rename_i hn
      rw [List.mem_append, List.mem_singleton]
      rintro (hMem | hEq)
      · exact h hMem
      · exact hn hEq.symm

theorem seek_of_descend? {top e : Entry} {place names : List String} (h : ".." ∉ names)
    (hFound : top.descend? (place ++ names) = some e) : seek top place names = some e := by
  induction names generalizing place with
  | nil => rwa [List.append_nil] at hFound
  | cons n names ih =>
    obtain ⟨hn, hRest⟩ : ".." ≠ n ∧ ".." ∉ names := by simpa using h
    have hHere : (top.descend? place).any (·.isDirectory) = true := by
      rw [Entry.descend?_append] at hFound
      obtain ⟨x, hx, hBelow⟩ := Option.bind_eq_some_iff.mp hFound
      rw [Entry.descend?] at hBelow
      obtain ⟨c, hChild, -⟩ := Option.bind_eq_some_iff.mp hBelow
      rw [hx, Option.any_some]
      exact Entry.isDirectory_of_child? hChild
    rw [seek, if_pos hHere, further, if_neg fun hUp => hn hUp.symm]
    refine ih hRest ?_
    rw [List.append_assoc, List.singleton_append]
    exact hFound

theorem collapse_eq (names : List String) : Disk.collapse names = landing [] names := by
  have hFold : ∀ done : List String,
      (names.foldl (fun done n => if n = ".." then done.tail else n :: done) done).reverse =
        landing done.reverse names := by
    induction names with
    | nil => exact fun done => rfl
    | cons n names ih =>
      intro done
      rw [List.foldl_cons, ih, landing, landing, List.foldl_cons]
      congr 1
      rw [further]
      split
      · rw [List.dropLast_reverse]
      · rw [List.reverse_cons]
  exact hFold []

/-! ## Stacks of entries -/

/-- The entries from a place up to the top. -/
inductive StackAt (top : Entry) : List String → List Entry → Prop
  | top : StackAt top [] [top]
  | down {place : List String} {e c : Entry} {above : List Entry} {n : String} :
      StackAt top place (e :: above) → e.child? n = some c →
      StackAt top (place ++ [n]) (c :: e :: above)

namespace StackAt

variable {top e : Entry} {place : List String} {stack above : List Entry}

theorem descend?_eq (h : StackAt top place (e :: above)) : top.descend? place = some e := by
  generalize hStack : e :: above = stack at h
  induction h generalizing e above with
  | top =>
    cases hStack
    rfl
  | down _ hChild ih =>
    cases hStack
    rw [Entry.descend?_concat, ih rfl]
    exact hChild

theorem up (h : StackAt top place (e :: above)) (hSome : above ≠ []) :
    StackAt top place.dropLast above := by
  cases h with
  | top => exact absurd rfl hSome
  | down hAbove hChild => rwa [List.dropLast_concat]

theorem eq_nil_of_top (h : StackAt top place [e]) : place = [] := by
  cases h
  rfl

theorem names_eq (h : StackAt top place stack) : (stack.reverse.map (·.name)).tail = place := by
  induction h with
  | top => rfl
  | @down place e c above n hAbove hChild ih =>
    rw [List.reverse_cons, List.map_append, List.tail_append_of_ne_nil (by simp), ih,
      List.map_singleton, Entry.name_of_child? hChild]

theorem ne_nil (h : StackAt top place stack) : stack ≠ [] := by
  cases h <;> simp

/-- Following names from a stack finds what they find in the tree. -/
theorem follow (h : StackAt top place stack) (names : List String) :
    (∃ stack', Disk.follow stack names = some stack' ∧ StackAt top (landing place names) stack' ∧
      stack'.head? = seek top place names) ∨
    Disk.follow stack names = none ∧ seek top place names = none := by
  induction names generalizing place stack with
  | nil =>
    cases stack with
    | nil => exact absurd rfl h.ne_nil
    | cons e above => exact Or.inl ⟨_, rfl, h, h.descend?_eq.symm⟩
  | cons n names ih =>
    cases stack with
    | nil => exact absurd rfl h.ne_nil
    | cons e above =>
      rw [Disk.follow, seek, h.descend?_eq, Option.any_some]
      cases hDirectory : e.isDirectory with
      | false => exact Or.inr ⟨rfl, rfl⟩
      | true =>
        simp only [Bool.not_true, Bool.false_eq_true, if_false, if_true]
        have hLanding : landing place (n :: names) = landing (further place n) names := rfl
        rw [hLanding]
        by_cases hUp : n = ".."
        · rw [if_pos hUp, further, if_pos hUp]
          refine ih ?_
          split
          · rename_i hTop
            obtain rfl : above = [] := by simpa using hTop
            obtain rfl := h.eq_nil_of_top
            exact h
          · rename_i hSome
            exact h.up (by simpa using hSome)
        · rw [if_neg hUp, further, if_neg hUp]
          cases hChild : e.child? n with
          | none =>
            have hNone : top.descend? (place ++ [n]) = none := by
              rw [Entry.descend?_concat, h.descend?_eq]
              exact hChild
            exact Or.inr ⟨rfl, seek_of_none hNone names⟩
          | some c => exact ih (.down h hChild)

end StackAt

/-! ## Changed places -/

namespace Disk

variable {d d' : Disk}

/-- What a path finds, in terms of the places through which it leads. -/
theorem entry?_eq (d : Disk) (p : Path) : d.entry? p = seek d.top [] (d.fullParts p) := by
  rw [Disk.entry?, locate]
  rcases StackAt.top.follow (d.fullParts p) with ⟨stack, hFollow, -, hHead⟩ | ⟨hFollow, hSeek⟩
  · rw [hFollow]
    exact hHead
  · rw [hFollow, hSeek]
    rfl

/-- The place at which a path ends. -/
def place (d : Disk) (p : Path) : List String := landing [] (d.fullParts p)

/-- What is at a place has changed. -/
def Changed (d d' : Disk) (place : List String) : Prop :=
  (d.top.descend? place).map Entry.label ≠ (d'.top.descend? place).map Entry.label

instance (d d' : Disk) (place : List String) : Decidable (d.Changed d' place) :=
  inferInstanceAs (Decidable (_ ≠ _))

/-- A path leads through no changed place. -/
def Spares (d d' : Disk) (p : Path) : Prop := ∀ q ∈ trail [] (d.fullParts p), ¬ d.Changed d' q

/-- A path finds the same on two disks, as far as can be told of an entry alone. -/
def Agrees (d d' : Disk) (p : Path) : Prop :=
  (d'.entry? p).map Entry.label = (d.entry? p).map Entry.label

namespace Agrees

variable {p : Path}

theorem exists?_eq (h : d.Agrees d' p) : d'.exists? p = d.exists? p :=
  Entry.any_congr (fun _ _ => Entry.exists?_congr) h

theorem isDirectory_eq (h : d.Agrees d' p) : d'.isDirectory p = d.isDirectory p :=
  Entry.any_congr (fun _ _ => Entry.isDirectory_congr) h

theorem read_eq (h : d.Agrees d' p) : d'.read p = d.read p :=
  Entry.bind_congr (fun _ _ => Entry.content?_congr) h

end Agrees

/-- A path that leads through no changed place finds what it found. -/
theorem Spares.agrees {p : Path} (hCwd : d'.cwd = d.cwd) (h : d.Spares d' p) : d.Agrees d' p := by
  have hFull : d'.fullParts p = d.fullParts p := by
    rw [fullParts, fullParts, hCwd]
  rw [Agrees, entry?_eq, entry?_eq, hFull]
  exact (seek_congr fun q hq => not_not.mp (h q hq)).symm

/-- What a path finds lies at its place. -/
theorem descend?_place {p : Path} {e : Entry} (h : d.entry? p = some e) :
    d.top.descend? (d.place p) = some e := by
  rw [entry?_eq] at h
  exact seek_eq_some h

theorem place_congr {p : Path} (hCwd : d'.cwd = d.cwd) : d'.place p = d.place p := by
  rw [place, place, fullParts, fullParts, hCwd]

theorem resolve_congr {p : Path} (hCwd : d'.cwd = d.cwd) : d'.resolve p = d.resolve p := by
  rw [resolve, resolve, fullParts, fullParts, hCwd]

theorem parts_resolve (d : Disk) (p : Path) : (d.resolve p).parts = d.place p :=
  collapse_eq (d.fullParts p)

/-- What lies at the place of a path is found by the path without double dots. -/
theorem entry?_resolve {p : Path} {e : Entry} (h : d.top.descend? (d.place p) = some e) :
    d.entry? (d.resolve p) = some e := by
  have hFull : d.fullParts (d.resolve p) = d.place p := parts_resolve d p
  rw [entry?_eq, hFull]
  exact seek_of_descend? (dots_not_mem_landing List.not_mem_nil) h

end Disk

end CodeAtlas.Files
