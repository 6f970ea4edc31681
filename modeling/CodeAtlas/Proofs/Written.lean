import CodeAtlas.Proofs.Json.Layout
import CodeAtlas.Proofs.Order
import CodeAtlas.Report

/-!
# Written indexes

The text of an index is a JSON text, in either layout, and it is read as the value that the index is
written as.

* `mem_numbers_ofIndex`: the numbers in that value are the counts of lines, the lines and the depths.
* `namesOnce_ofIndex`: no object in it has a name twice.
* `written_index`: an index is written just if none of its numbers has too many digits, and what is
  written is read as its value.
-/

namespace CodeAtlas

open Json (Value)

/-! ## Numbers -/

namespace Json

theorem numbersOfItems_eq (items : List Value) : numbersOfItems items = items.flatMap Value.numbers := by
  induction items with
  | nil => rfl
  | cons v items ih => rw [numbersOfItems, ih, List.flatMap_cons]

theorem numbersOfMembers_append (ms ms' : List (String × Value)) :
    numbersOfMembers (ms ++ ms') = numbersOfMembers ms ++ numbersOfMembers ms' := by
  induction ms with
  | nil => rfl
  | cons m ms ih =>
    obtain ⟨k, v⟩ := m
    rw [List.cons_append, numbersOfMembers, numbersOfMembers, ih, List.append_assoc]

theorem mem_numbers_array {α : Type} {xs : List α} {f : α → Value} {n : Int} :
    n ∈ (Value.array (xs.map f)).numbers ↔ ∃ x ∈ xs, n ∈ (f x).numbers := by
  simp [Value.numbers, numbersOfItems_eq]

/-- Numbers are written unless they have too many digits. -/
theorem fits_iff {n : Int} :
    fits n = true ↔ (Nat.toDigits 10 n.natAbs).length ≤ Text.maxDigits := by
  rw [fits, decide_eq_true_eq, Nat.pow_eq, Nat.length_toDigits_le_iff (by decide) (by decide)]

end Json

/-- The numbers in an index. -/
inductive Index.Holds (index : Index) : Int → Prop
  | lineCount {f : FileEntry} : f ∈ index.tree.getD [] → index.Holds f.lineCount
  | entrypoint {p : ProjectEntrypoints} {e : Entrypoint} : p ∈ index.entrypoints.getD [] →
      e ∈ p.entrypoints → index.Holds e.line
  | command {c : Command} : c ∈ index.commands.getD [] → index.Holds c.line
  | depth {p : ProjectCallgraphs} {g : Callgraph} : p ∈ index.callgraphs.getD [] →
      g ∈ p.graphs → index.Holds g.depth

namespace Report

open Json

theorem numbersOfItems_texts (xs : List String) : numbersOfItems (xs.map .text) = [] := by
  simp [numbersOfItems_eq, List.flatMap_map, Value.numbers]

theorem numbers_sortedTexts (xs : List String) : (sortedTexts xs).numbers = [] :=
  numbersOfItems_texts _

theorem mem_numbers_sectionOf {α : Type} {name : String} {order : α → α → Ordering} {sh : α → Value}
    {found : List α} {n : Int} : n ∈ numbersOfMembers (sectionOf name order sh found) ↔
      ∃ x ∈ found, n ∈ (sh x).numbers := by
  cases found with
  | nil => simp [sectionOf, numbersOfMembers]
  | cons x found =>
    have hMem := fun y => (sortBy_perm order (x :: found)).mem_iff (a := y)
    simp [sectionOf, numbersOfMembers, mem_numbers_array, hMem]

theorem numbers_ofRef (r : ProjectRef) : (ofRef r).numbers = [] := rfl

theorem numbers_ofProject (p : ProjectEntry) : (ofProject p).numbers = [] := by
  rw [ofProject]
  split
  · split <;> rfl
  · rfl

theorem numbers_ofFile (f : FileEntry) : (ofFile f).numbers = [f.lineCount] := rfl

theorem numbers_ofEntrypoint (e : Entrypoint) : (ofEntrypoint e).numbers = [e.line] := by
  rw [ofEntrypoint]
  split <;> rfl

theorem mem_numbers_ofEntrypoints {p : ProjectEntrypoints} {n : Int} :
    n ∈ (ofEntrypoints p).numbers ↔ ∃ e ∈ p.entrypoints, n = e.line := by
  have hMem := fun e => (sortBy_perm Entrypoint.order p.entrypoints).mem_iff (a := e)
  simp [ofEntrypoints, Value.numbers, numbersOfMembers, numbers_ofRef, numbersOfItems_eq,
    numbers_ofEntrypoint, hMem]

theorem numbers_ofCommand (c : Command) : (ofCommand c).numbers = [c.line] := by
  simp [ofCommand, Value.numbers, numbersOfMembers, numbers_sortedTexts]

theorem numbers_ofCallgraph (g : Callgraph) : (ofCallgraph g).numbers = [g.depth] := by
  simp [ofCallgraph, ofEdge, Value.numbers, numbersOfMembers, numbersOfItems_eq]

theorem mem_numbers_ofCallgraphs {p : ProjectCallgraphs} {n : Int} :
    n ∈ (ofCallgraphs p).numbers ↔ ∃ g ∈ p.graphs, n = g.depth := by
  have hMem := fun g => (sortBy_perm Callgraph.order p.graphs).mem_iff (a := g)
  simp [ofCallgraphs, Value.numbers, numbersOfMembers, numbers_ofRef, numbersOfItems_eq,
    numbers_ofCallgraph, hMem]

theorem numbers_configSection (keys : List String) : numbersOfMembers (configSection keys) = [] := by
  rw [configSection]
  split
  · rfl
  · simp [numbersOfMembers, Value.numbers, numbersOfItems_texts]

/-- The numbers in the value of an index are those of the index. -/
theorem mem_numbers_ofIndex {index : Index} {n : Int} :
    n ∈ (ofIndex index).numbers ↔ index.Holds n := by
  have hMeta : ∀ names, (ofMeta index.about names).numbers = [] := by
    intro names
    simp [ofMeta, Value.numbers, numbersOfMembers, numbers_sortedTexts]
  have hSections : n ∈ (ofIndex index).numbers ↔
      (∃ f ∈ index.tree.getD [], n = f.lineCount) ∨
      (∃ p ∈ index.entrypoints.getD [], ∃ e ∈ p.entrypoints, n = e.line) ∨
      (∃ c ∈ index.commands.getD [], n = c.line) ∨
      ∃ p ∈ index.callgraphs.getD [], p.graphs ≠ [] ∧ ∃ g ∈ p.graphs, n = g.depth := by
    simp [ofIndex, sections, Value.numbers, numbersOfMembers, hMeta, numbersOfMembers_append,
      mem_numbers_sectionOf, numbers_ofProject, numbers_ofFile, mem_numbers_ofEntrypoints,
      numbers_ofCommand, numbers_configSection, mem_numbers_ofCallgraphs, and_assoc]
  rw [hSections]
  constructor
  · rintro (⟨f, hf, rfl⟩ | ⟨p, hp, e, he, rfl⟩ | ⟨c, hc, rfl⟩ | ⟨p, hp, -, g, hg, rfl⟩)
    · exact .lineCount hf
    · exact .entrypoint hp he
    · exact .command hc
    · exact .depth hp hg
  · rintro (hf | ⟨hp, he⟩ | hc | ⟨hp, hg⟩)
    · exact .inl ⟨_, hf, rfl⟩
    · exact .inr (.inl ⟨_, hp, _, he, rfl⟩)
    · exact .inr (.inr (.inl ⟨_, hc, rfl⟩))
    · exact .inr (.inr (.inr ⟨_, hp, List.ne_nil_of_mem hg, _, hg, rfl⟩))

end Report

/-! ## Names -/

namespace Json

mutual

/-- No object has a name twice. -/
def Value.NamesOnce : Value → Prop
  | .array items => ItemsOnce items
  | .object members => (members.map (·.1)).Nodup ∧ MembersOnce members
  | _ => True

def ItemsOnce : List Value → Prop
  | [] => True
  | v :: rest => v.NamesOnce ∧ ItemsOnce rest

def MembersOnce : List (String × Value) → Prop
  | [] => True
  | (_, v) :: rest => v.NamesOnce ∧ MembersOnce rest

end

theorem itemsOnce_map {α : Type} {f : α → Value} {xs : List α} (h : ∀ x ∈ xs, (f x).NamesOnce) :
    ItemsOnce (xs.map f) := by
  induction xs with
  | nil => trivial
  | cons x xs ih => exact ⟨h x List.mem_cons_self, ih fun y hy => h y (List.mem_cons_of_mem _ hy)⟩

theorem membersOnce_append {ms ms' : List (String × Value)} (h : MembersOnce ms)
    (h' : MembersOnce ms') : MembersOnce (ms ++ ms') := by
  induction ms with
  | nil => exact h'
  | cons m ms ih => exact ⟨h.1, ih h.2⟩

end Json

namespace Report

open Json

theorem namesOnce_sortedTexts (xs : List String) : (sortedTexts xs).NamesOnce :=
  itemsOnce_map fun _ _ => trivial

theorem namesOnce_ofRef (r : ProjectRef) : (ofRef r).NamesOnce :=
  ⟨by simp, trivial, trivial, trivial⟩

theorem namesOnce_ofProject (p : ProjectEntry) : (ofProject p).NamesOnce := by
  rw [ofProject]
  split
  · split <;> simp [Value.NamesOnce, MembersOnce]
  · simp [Value.NamesOnce, MembersOnce]

theorem namesOnce_ofEntrypoint (e : Entrypoint) : (ofEntrypoint e).NamesOnce := by
  rw [ofEntrypoint]
  split <;> simp [Value.NamesOnce, MembersOnce]

theorem namesOnce_ofEntrypoints (p : ProjectEntrypoints) : (ofEntrypoints p).NamesOnce :=
  ⟨by simp, namesOnce_ofRef _, itemsOnce_map fun e _ => namesOnce_ofEntrypoint e, trivial⟩

theorem namesOnce_ofCommand (c : Command) : (ofCommand c).NamesOnce := by
  simp [ofCommand, Value.NamesOnce, MembersOnce, namesOnce_sortedTexts]

theorem namesOnce_ofCallgraph (g : Callgraph) : (ofCallgraph g).NamesOnce := by
  have hEdges : ItemsOnce ((sortBy compare g.edges).map ofEdge) :=
    itemsOnce_map fun e _ => by simp [ofEdge, Value.NamesOnce, MembersOnce]
  simp [ofCallgraph, Value.NamesOnce, MembersOnce, hEdges]

theorem namesOnce_ofCallgraphs (p : ProjectCallgraphs) : (ofCallgraphs p).NamesOnce :=
  ⟨by simp, namesOnce_ofRef _, itemsOnce_map fun g _ => namesOnce_ofCallgraph g, trivial⟩

theorem namesOnce_ofMeta (about : Meta) (names : List String) : (ofMeta about names).NamesOnce := by
  simp [ofMeta, Value.NamesOnce, MembersOnce, namesOnce_sortedTexts]

theorem names_sectionOf {α : Type} (name : String) (order : α → α → Ordering) (sh : α → Value)
    (found : List α) : ((sectionOf name order sh found).map (·.1)).Sublist [name] := by
  rw [sectionOf]
  split
  · exact List.nil_sublist _
  · exact .refl _

theorem membersOnce_sectionOf {α : Type} {name : String} {order : α → α → Ordering} {sh : α → Value}
    (h : ∀ x, (sh x).NamesOnce) (found : List α) : MembersOnce (sectionOf name order sh found) := by
  rw [sectionOf]
  split
  · trivial
  · exact ⟨itemsOnce_map fun x _ => h x, trivial⟩

theorem names_configSection (keys : List String) :
    ((configSection keys).map (·.1)).Sublist ["configs"] := by
  rw [configSection]
  split
  · exact List.nil_sublist _
  · exact .refl _

theorem membersOnce_configSection (keys : List String) : MembersOnce (configSection keys) := by
  rw [configSection]
  split
  · trivial
  · exact ⟨⟨by simp, itemsOnce_map fun _ _ => trivial, trivial⟩, trivial⟩

/-- Every section has its own place. -/
theorem names_sections (index : Index) : ((sections index).map (·.1)).Sublist
    ["projects", "tree", "entrypoints", "commands", "configs", "callgraphs"] := by
  simp only [sections, List.map_append, List.append_assoc]
  exact (names_sectionOf ..).append ((names_sectionOf ..).append ((names_sectionOf ..).append
    ((names_sectionOf ..).append ((names_configSection _).append (names_sectionOf ..)))))

theorem membersOnce_sections (index : Index) : MembersOnce (sections index) := by
  have hFile (f : FileEntry) : (ofFile f).NamesOnce := by
    simp [ofFile, Value.NamesOnce, MembersOnce]
  exact membersOnce_append (membersOnce_append (membersOnce_append (membersOnce_append
    (membersOnce_append (membersOnce_sectionOf namesOnce_ofProject _)
      (membersOnce_sectionOf hFile _)) (membersOnce_sectionOf namesOnce_ofEntrypoints _))
      (membersOnce_sectionOf namesOnce_ofCommand _)) (membersOnce_configSection _))
      (membersOnce_sectionOf namesOnce_ofCallgraphs _)

theorem namesOnce_ofIndex (index : Index) : (ofIndex index).NamesOnce := by
  have hNames := ((names_sections index).cons_cons "meta").nodup (by decide)
  exact ⟨hNames, namesOnce_ofMeta _ _, membersOnce_sections index⟩

end Report

/-! ## Texts -/

open Json (Blanks Padded)

/-- Both layouts of an index are texts of its value. -/
theorem Index.document_render (index : Index) (compact : Bool) :
    (Report.ofIndex index).Document (index.render compact).toList := by
  have hEnd : Blanks ['\n'] := by simp [Blanks, Json.isBlank]
  have hStands : (Report.ofIndex index).Stands (if compact then (Report.ofIndex index).compact
      else (Report.ofIndex index).spread 0) := by
    split
    · exact Value.stands_compact _
    · exact Value.stands_spread _ 0
  refine ⟨[], _, ['\n'], by simp [Blanks], hStands, hEnd, ?_⟩
  rw [Index.render, String.toList_ofList, List.nil_append]

/-- An index is written unless one of its numbers is too long. -/
theorem Index.write_eq_ok_iff {index : Index} {compact : Bool} {text : String} :
    index.write compact = .ok text ↔
      (∀ n, index.Holds n → Json.fits n = true) ∧ index.render compact = text := by
  rw [Index.write]
  split
  · rename_i hAll
    rw [List.all_eq_true] at hAll
    simp only [Except.ok.injEq, iff_and_self]
    exact fun _ n hn => hAll n (Report.mem_numbers_ofIndex.mpr hn)
  · rename_i hNot
    refine iff_of_false nofun fun ⟨hAll, _⟩ => hNot (List.all_eq_true.mpr fun n hn => ?_)
    exact hAll n (Report.mem_numbers_ofIndex.mp hn)

theorem Index.eq_badValue_of_write {index : Index} {compact : Bool} {f : Failure}
    (h : index.write compact = .error f) : f = .badValue := by
  rw [Index.write] at h
  split at h
  · cases h
  · exact (Except.error.inj h).symm

/-- What is written for an index, and when. -/
structure Index.Written (index : Index) : Prop where
  /-- An index is written in both layouts just if none of its numbers has too many digits. -/
  writes (compact : Bool) : (∃ text, index.write compact = .ok text) ↔
    ∀ n, index.Holds n → (Nat.toDigits 10 n.natAbs).length ≤ Text.maxDigits
  /-- The only other outcome. -/
  fails {compact : Bool} {f : Failure} : index.write compact = .error f → f = .badValue
  /-- What is written is a JSON text of the value of the index. -/
  document {compact : Bool} {text : String} : index.write compact = .ok text →
    (Report.ofIndex index).Document text.toList
  /-- It is a text of no other value, -/
  only {compact : Bool} {text : String} {v : Value} : index.write compact = .ok text →
    v.Document text.toList → v = Report.ofIndex index
  /-- and is read as this one, whatever the layout. -/
  read {compact : Bool} {text : String} : index.write compact = .ok text →
    Json.read text = some (Report.ofIndex index)
  /-- Hence no member is lost when objects are kept by their names. -/
  names : (Report.ofIndex index).NamesOnce
  /-- The compact text ends its only line. -/
  oneLine {text : String} : index.write true = .ok text →
    ∃ line, text.toList = line ++ ['\n'] ∧ '\n' ∉ line

/-- **Written indexes.** Whatever characters and numbers an index holds, both of its texts are JSON
texts and are read as its value, with the members in their order; the compact text is one line. There
are no such texts if a number in the index has too many digits. -/
theorem written_index (index : Index) : index.Written where
  writes compact := by
    constructor
    · rintro ⟨text, hText⟩ n hn
      exact Json.fits_iff.mp ((Index.write_eq_ok_iff.mp hText).1 n hn)
    · exact fun h => ⟨_, Index.write_eq_ok_iff.mpr ⟨fun n hn => Json.fits_iff.mpr (h n hn), rfl⟩⟩
  fails h := Index.eq_badValue_of_write h
  document h := (Index.write_eq_ok_iff.mp h).2 ▸ index.document_render _
  only h hv := by
    have hRead := Value.read_eq ((Index.write_eq_ok_iff.mp h).2 ▸ index.document_render _)
    exact Option.some.inj ((Value.read_eq hv).symm.trans hRead)
  read h := Value.read_eq ((Index.write_eq_ok_iff.mp h).2 ▸ index.document_render _)
  names := Report.namesOnce_ofIndex index
  oneLine h := by
    refine ⟨(Report.ofIndex index).compact, ?_, Json.newline_not_mem_compact _⟩
    rw [← (Index.write_eq_ok_iff.mp h).2, Index.render, String.toList_ofList, if_pos rfl]

/-- The calls found from a root down to a depth of too many digits. -/
def deepGraph : Callgraph := ⟨"m.f", Nat.pow 10 Text.maxDigits, false, []⟩

def deepIndex : Index where
  about := ⟨"0.1.0", "1.2", "1970-01-01T00:00:00Z"⟩
  projects := [⟨"repo", "setup.py", some "python"⟩]
  tree := none
  entrypoints := none
  commands := none
  configs := none
  callgraphs := some [⟨⟨"repo", "setup.py"⟩, [deepGraph]⟩]

/-- There is no text of this index. -/
theorem not_written_deepIndex : deepIndex.write true = .error .badValue ∧
    deepIndex.write false = .error .badValue := by
  have hHolds : deepIndex.Holds deepGraph.depth :=
    .depth (List.mem_singleton_self _) (List.mem_singleton_self _)
  have hLong : Json.fits deepGraph.depth = false := by
    rw [Json.fits, deepGraph, Int.natAbs_natCast]
    exact decide_eq_false (lt_irrefl _)
  have hNot : ¬ (Report.ofIndex deepIndex).numbers.all Json.fits = true := by
    intro hAll
    have hFits := List.all_eq_true.mp hAll _ (Report.mem_numbers_ofIndex.mpr hHolds)
    rw [hLong] at hFits
    cases hFits
  exact ⟨if_neg hNot, if_neg hNot⟩

end CodeAtlas
