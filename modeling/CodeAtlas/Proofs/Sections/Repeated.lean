import CodeAtlas.Proofs.Callgraph.RootText

/-!
# Roots that name the same

A declaration has many names: with or without its number of parameters, behind a qualifier, between
blanks. Each text that finds a declaration in a project adds a graph to those of the project, whatever
the other texts have found.

* `graphsRepeated`: the roots of the graphs of a project, and when no two of them are the same.
* `not_once_counted`: the same root twice, with and without its number of parameters.
-/

namespace CodeAtlas

variable {ι κ : Type}

namespace Root

/-- The root with another text of the same meaning. -/
def ofText (text : String) (r : Root) : Root := { r with text := text }

theorem ofSpec_text (text text' spec : String) (arity : Option Nat) :
    ofSpec text spec arity = (ofSpec text' spec arity).map (ofText text) := by
  unfold ofSpec
  cases cutMember spec with
  | none => rfl
  | some parts =>
    dsimp only [Option.bind_eq_bind, Option.bind_some]
    split <;> rfl

/-- A text is read without the blanks around it. -/
theorem parse_trimmed {text text' : String}
    (h : Text.trimBy Text.isBlank text.toList = Text.trimBy Text.isBlank text'.toList) :
    parse text = (parse text').map (Option.map (ofText text)) := by
  simp only [parse, h]
  cases hCut : cutArity (Text.trimBy Text.isBlank text'.toList) with
  | none => exact congrArg Except.ok (ofSpec_text ..)
  | some cut =>
    dsimp only
    cases arityValue cut.2 with
    | error f => rfl
    | ok n => exact congrArg Except.ok (ofSpec_text ..)

end Root

/-! ## What a text finds -/

/-- The first declaration of a project that a text names. -/
def foundMethod (p : Provider ι κ) (project : Project) (text : String) : Option (Method ι) :=
  (rootsIn text).head?.bind fun r => (itemsOf (p.declarations project)).find? r.names

theorem rootsIn_cases (text : String) : rootsIn text = [] ∨ ∃ r, rootsIn text = [r] := by
  unfold rootsIn
  split
  · exact .inr ⟨_, rfl⟩
  · exact .inl rfl

section Found

variable {request : CallgraphRequest} {p : Provider ι κ} {project : Project} {text : String}

theorem ref_of_mem_foundAt {x : ProjectRef × Callgraph} (h : x ∈ foundAt request p project text) :
    x.1 = project.ref := by
  obtain ⟨-, -, -, -, -, -, -, -, -, rfl⟩ := mem_foundAt h
  rfl

theorem mem_of_foundMethod {m : Method ι} (h : foundMethod p project text = some m) :
    m ∈ itemsOf (p.declarations project) := by
  obtain ⟨r, -, hFind⟩ := Option.bind_eq_some_iff.mp h
  exact List.mem_of_find?_eq_some hFind

/-- Only what a text means as a root counts, not how it is spelled. -/
theorem foundMethod_congr {text' : String} {r r' : Root} (h : rootsIn text = [r])
    (h' : rootsIn text' = [r']) (hType : r.typePart = r'.typePart)
    (hMember : r.memberPart = r'.memberPart) (hArity : r.arity = r'.arity) :
    foundMethod p project text = foundMethod p project text' := by
  have hNames : (r.names : Method ι → Bool) = r'.names := by
    obtain ⟨_, _, _, _⟩ := r
    obtain ⟨_, _, _, _⟩ := r'
    dsimp only at hType hMember hArity
    subst hType hMember hArity
    rfl
  rw [foundMethod, foundMethod, h, h', List.head?_cons, List.head?_cons, Option.bind_some,
    Option.bind_some, hNames]

/-- Blanks around a text do not count. -/
theorem foundMethod_trimmed {text' : String}
    (h : Text.trimBy Text.isBlank text.toList = Text.trimBy Text.isBlank text'.toList) :
    foundMethod p project text = foundMethod p project text' := by
  have hRoots : rootsIn text = (rootsIn text').map (Root.ofText text) := by
    unfold rootsIn
    rw [Root.parse_trimmed h]
    rcases Root.parse text' with f | _ | r <;> rfl
  rw [foundMethod, foundMethod, hRoots]
  obtain hNone | ⟨r, hRoot⟩ := rootsIn_cases text'
  · rw [hNone]
    rfl
  · rw [hRoot]
    rfl

/-- With its number of parameters a declaration is found that is found without. -/
theorem foundMethod_counted {text' : String} {r r' : Root} {n : Nat} {m : Method ι}
    (h : rootsIn text = [r]) (h' : rootsIn text' = [r']) (hType : r.typePart = r'.typePart)
    (hMember : r.memberPart = r'.memberPart) (hNone : r.arity = none) (hArity : r'.arity = some n)
    (hFound : foundMethod p project text = some m) (hn : m.arity = n) :
    foundMethod p project text' = some m := by
  have hNames : ∀ d : Method ι, r'.names d = (r.names d && d.arity = n) := by
    intro d
    obtain ⟨_, _, _, _⟩ := r
    obtain ⟨_, _, _, _⟩ := r'
    dsimp only at hType hMember hNone hArity
    subst hType hMember hNone hArity
    exact congrArg (· && decide (d.arity = n)) (Bool.and_true _).symm
  rw [foundMethod, h, List.head?_cons, Option.bind_some, List.find?_eq_some_iff_append] at hFound
  rw [foundMethod, h', List.head?_cons, Option.bind_some, List.find?_eq_some_iff_append]
  obtain ⟨hName, before, after, hSplit, hBefore⟩ := hFound
  refine ⟨by simp [hNames, hName, hn], before, after, hSplit, fun d hd => ?_⟩
  have hNot := hBefore d hd
  rw [Bool.not_eq_true'] at hNot
  rw [hNames, hNot]
  rfl

/-- A text that finds a declaration in a project adds one graph, with this declaration as its root. -/
theorem map_root_foundAt
    (h : ∀ r ∈ rootsIn text, (rootGraph p request project r).result.isOk = true) :
    (foundAt request p project text).map (·.2.root) =
      ((foundMethod p project text).map (·.id)).toList := by
  obtain hNone | ⟨r, hRoot⟩ := rootsIn_cases text
  · rw [foundAt, foundMethod, hNone]
    rfl
  have hOk := h r (hRoot ▸ List.mem_singleton_self r)
  rw [foundAt, foundMethod, hRoot, List.flatMap_singleton, List.head?_cons, Option.bind_some]
  cases hDeclared : p.declarations project with
  | error f =>
    rw [rootGraph, Traced.result_bind, result_resolveRoot, hDeclared] at hOk
    cases hOk
  | ok declared =>
    have hFirst : (itemsOf (Except.ok declared : Except Failure _)).find? r.names =
        (declared.filter r.names).head? := (List.head?_filter ..).symm
    rw [hFirst]
    rw [result_rootGraph p request project r hDeclared] at hOk ⊢
    rw [Root.select] at hOk ⊢
    cases hNames : declared.filter r.names with
    | nil => rfl
    | cons m others =>
      rw [hNames] at hOk
      dsimp only at hOk ⊢
      cases hGraph : (explore p request.external request.limits m m.id).graph with
      | error f =>
        rw [hGraph] at hOk
        cases hOk
      | ok g =>
        have hRootId : g.root = m.id := by
          obtain ⟨-, rfl⟩ := Exploration.graph_eq_ok hGraph
          rfl
        simp only [Except.map, itemsOf, List.map_cons, List.map_nil, List.head?_cons, Option.map_some,
          Option.toList_some, hRootId]

end Found

/-! ## Places -/

section Places

variable {α β γ : Type} [BEq γ] [LawfulBEq γ] {k : γ} {pairs : List (γ × β)}

theorem valuesOf_eq_map (h : ∀ y ∈ pairs, y.1 = k) : Assoc.valuesOf k pairs = pairs.map (·.2) := by
  rw [Assoc.valuesOf, List.filter_eq_self.mpr fun y hy => beq_iff_eq.mpr (h y hy)]

theorem valuesOf_eq_nil_of_ne {k' : γ} (h : ∀ y ∈ pairs, y.1 = k') (hne : k' ≠ k) :
    Assoc.valuesOf k pairs = [] := by
  refine Assoc.valuesOf_eq_nil.mpr fun hk => ?_
  obtain ⟨y, hy, hKey⟩ := List.mem_map.mp hk
  exact hne ((h y hy).symm.trans hKey)

/-- Of what is found at places with different keys, that under one key is what is found at its place. -/
theorem valuesOf_flatMap_of_nodup {xs : List α} {key : α → γ} {f : α → List (γ × β)}
    (hNodup : (xs.map key).Nodup) (hKeys : ∀ x ∈ xs, ∀ y ∈ f x, y.1 = key x) {x : α} (hx : x ∈ xs) :
    Assoc.valuesOf (key x) (xs.flatMap f) = (f x).map (·.2) := by
  induction xs with
  | nil => cases hx
  | cons z xs ih =>
    obtain ⟨hNew, hDistinct⟩ := List.nodup_cons.mp hNodup
    obtain ⟨hFirst, hOthers⟩ := List.forall_mem_cons.mp hKeys
    rw [List.flatMap_cons, Assoc.valuesOf_append]
    obtain rfl | hx := List.mem_cons.mp hx
    · have hRest : Assoc.valuesOf (key x) (xs.flatMap f) = [] := by
        rw [Assoc.valuesOf_flatMap, List.flatMap_eq_nil_iff]
        intro y hy
        refine valuesOf_eq_nil_of_ne (hOthers y hy) fun hSame => ?_
        exact hNew (List.mem_map.mpr ⟨y, hy, hSame⟩)
      rw [valuesOf_eq_map hFirst, hRest, List.append_nil]
    · have hNone : Assoc.valuesOf (key x) (f z) = [] :=
        valuesOf_eq_nil_of_ne hFirst fun hSame => hNew (hSame ▸ List.mem_map_of_mem hx)
      rw [hNone, List.nil_append, ih hDistinct hOthers hx]

end Places

/-- What different elements lead to is without repetitions just if no two of them lead to the same. -/
theorem nodup_filterMap_iff {α β : Type} {f : α → Option β} {xs : List α} (h : xs.Nodup) :
    (xs.filterMap f).Nodup ↔ ∀ a ∈ xs, ∀ b ∈ xs, a ≠ b → ∀ y, f a = some y → f b ≠ some y := by
  rw [List.Nodup, List.pairwise_filterMap]
  constructor
  · intro hPair a ha b hb hne y hy hy'
    have hSymm : Std.Symm fun a b => ∀ y, f a = some y → ∀ y', f b = some y' → y ≠ y' :=
      ⟨fun a b hab y hy y' hy' => (hab y' hy' y hy).symm⟩
    exact hPair.forall ha hb hne y hy y hy' rfl
  · intro hAll
    refine h.pairwise_of_forall_ne fun a ha b hb hne y hy y' hy' hSame => ?_
    exact hAll a ha b hb hne y hy (hSame ▸ hy')

/-! ## Graphs of a project -/

section Graphs

variable {request : CallgraphRequest} {providers : List (Provider ι κ)}

/-- The roots of the graphs of a project are what the texts find there, each as often. -/
theorem perm_roots {v : Option (List ProjectCallgraphs)}
    (hRefs : ((places providers).map (·.2.ref)).Nodup)
    (hSection : (callgraphSection request providers).result = .ok v) {x : Provider ι κ × Project}
    (hx : x ∈ places providers) : ((graphsUnder x.2.ref v).map (·.root)).Perm
      (request.roots.filterMap fun text => (foundMethod x.1 x.2 text).map (·.id)) := by
  obtain ⟨hExtracts, rfl⟩ := (yieldsIf_callgraphSection request providers v).mp hSection
  have hKeys : ∀ y ∈ places providers,
      ∀ g ∈ request.roots.flatMap fun text => foundAt request y.1 y.2 text, g.1 = y.2.ref := by
    intro y _ g hg
    obtain ⟨text, -, hg⟩ := List.mem_flatMap.mp hg
    exact ref_of_mem_foundAt hg
  have hThere := valuesOf_flatMap_of_nodup hRefs hKeys hx
  rw [graphsUnder_group]
  refine ((rootedGraphs_perm _).map _).trans (.of_eq ?_)
  rw [foundBy, hThere, List.map_map, List.map_flatMap, List.filterMap_eq_flatMap_toList]
  refine List.flatMap_congr fun text hText => ?_
  obtain ⟨hProvider, hProject⟩ := mem_places.mp hx
  exact map_root_foundAt ((hExtracts text hText).explored x.1 hProvider x.2 hProject)

/-- The graphs that the texts of a request add to those of a project. -/
structure GraphsRepeated (request : CallgraphRequest) (providers : List (Provider ι κ)) : Prop where
  /-- There is one for each text that finds a declaration there, with this declaration as its root. -/
  roots : ∀ v, (callgraphSection request providers).result = .ok v → ∀ x ∈ places providers,
    ((graphsUnder x.2.ref v).map (·.root)).Perm
      (request.roots.filterMap fun text => (foundMethod x.1 x.2 text).map (·.id))
  /-- No two have the same root just if no two texts find the same declaration. -/
  once_iff : ∀ v, (callgraphSection request providers).result = .ok v → ∀ x ∈ places providers,
    (((graphsUnder x.2.ref v).map (·.root)).Nodup ↔
      ∀ text ∈ request.roots, ∀ text' ∈ request.roots, text ≠ text' →
        ∀ m, foundMethod x.1 x.2 text = some m → foundMethod x.1 x.2 text' ≠ some m)
  /-- Blanks around a text do not count. -/
  trimmed : ∀ (x : Provider ι κ × Project) (text text' : String),
    Text.trimBy Text.isBlank text.toList = Text.trimBy Text.isBlank text'.toList →
    foundMethod x.1 x.2 text = foundMethod x.1 x.2 text'
  /-- Two spellings of one root find the same. -/
  alike : ∀ (x : Provider ι κ × Project) text text' r r', rootsIn text = [r] → rootsIn text' = [r'] →
    r.typePart = r'.typePart → r.memberPart = r'.memberPart → r.arity = r'.arity →
    foundMethod x.1 x.2 text = foundMethod x.1 x.2 text'
  /-- So do a root without a number of parameters and one with that of the declaration that is found. -/
  counted : ∀ (x : Provider ι κ × Project) text text' r r' (n : Nat) m, rootsIn text = [r] →
    rootsIn text' = [r'] → r.typePart = r'.typePart → r.memberPart = r'.memberPart →
    r.arity = none → r'.arity = some n → foundMethod x.1 x.2 text = some m → m.arity = n →
    foundMethod x.1 x.2 text' = some m
  /-- If the providers answer, there is a section unless a parameter count is too long. -/
  readable : (∀ p ∈ providers, p.Total) →
    ((callgraphSection request providers).result.isOk = true ↔
      ∀ text ∈ request.roots, Root.Readable text)

/-- **Repeated graphs.** Where identities tell the declarations of a project apart, its graphs have
different roots just if the texts find different declarations there. -/
theorem graphsRepeated (hTexts : request.roots.Nodup) (hRefs : ((places providers).map (·.2.ref)).Nodup)
    (hIds : ∀ x ∈ places providers, ((itemsOf (x.1.declarations x.2)).map (·.id)).Nodup) :
    GraphsRepeated request providers where
  roots v hSection _ hx := perm_roots hRefs hSection hx
  once_iff v hSection x hx := by
    rw [(perm_roots hRefs hSection hx).nodup_iff, nodup_filterMap_iff hTexts]
    refine forall₂_congr fun text _ => forall₂_congr fun text' _ => forall_congr' fun _ => ?_
    constructor
    · intro hDifferent m hm hm'
      exact hDifferent m.id (by rw [hm]; rfl) (by rw [hm']; rfl)
    · intro hDifferent id hId hId'
      obtain ⟨m, hm, rfl⟩ := Option.map_eq_some_iff.mp hId
      obtain ⟨m', hm', hSame⟩ := Option.map_eq_some_iff.mp hId'
      obtain rfl := List.inj_on_of_nodup_map (hIds x hx) (mem_of_foundMethod hm') (mem_of_foundMethod hm)
        hSame
      exact hDifferent m' hm hm'
  trimmed _ _ _ h := foundMethod_trimmed h
  alike _ _ _ _ _ h h' := foundMethod_congr h h'
  counted _ _ _ _ _ _ _ h h' := foundMethod_counted h h'
  readable hTotal := by
    rw [(yieldsIf_callgraphSection request providers).isOk_iff]
    exact forall₂_congr fun text _ => extracts_iff_readable hTotal text

end Graphs

/-! ### A root with and without its number of parameters -/

/-- A project with a method that calls another one. -/
def onceProvider : Provider Nat Nat :=
  .ofTable [jobProject] [jobRun, jobStep 1]
    fun
    | 0 => [1]
    | _ => []

theorem distinct_onceProvider : ((places [onceProvider]).map (·.2.ref)).Nodup ∧
    ∀ x ∈ places [onceProvider], ((itemsOf (x.1.declarations x.2)).map (·.id)).Nodup := by
  have hIds : jobRun.id ≠ (jobStep 1).id := by decide
  refine ⟨List.nodup_singleton _, fun x hx => ?_⟩
  obtain rfl := List.mem_singleton.mp hx
  exact List.nodup_cons.mpr ⟨fun h => hIds (List.mem_singleton.mp h), List.nodup_singleton _⟩

theorem graphsRepeated_onceProvider : ["Job.run", "Job.step"].Nodup ∧
    ((places [onceProvider]).map (·.2.ref)).Nodup ∧
    (∀ x ∈ places [onceProvider], ((itemsOf (x.1.declarations x.2)).map (·.id)).Nodup) ∧
    GraphsRepeated ⟨["Job.run", "Job.step"], ⟨2, 200⟩, false⟩ [onceProvider] := by
  have hTexts : ["Job.run", "Job.step"].Nodup := by decide
  obtain ⟨hRefs, hIds⟩ := distinct_onceProvider
  exact ⟨hTexts, hRefs, hIds, graphsRepeated hTexts hRefs hIds⟩

theorem parse_jobRun_counted :
    Root.parse "Job.run/0" = .ok (some ⟨"Job.run/0", "Job", "run", some 0⟩) := by
  have hSpec : Root.ofSpec "Job.run/0" "Job.run" (some 0) =
      some ⟨"Job.run/0", "Job", "run", some 0⟩ := by decide
  have hHead : ∀ c ∈ "Job.run".toList.head?, Text.isBlank c = false := by
    intro c hc
    obtain rfl : 'J' = c := Option.some.inj hc
    decide
  have hDigits : Nat.toDigits 10 0 = ['0'] := by decide
  have hShort : (Nat.toDigits 10 0).length ≤ Text.maxDigits := by
    rw [hDigits]
    decide
  have hText : "Job.run" ++ "/" ++ toString 0 = "Job.run/0" := by decide
  have hParse := Root.parse_counted (by decide) hHead (by decide) hShort
  rw [hText, hSpec] at hParse
  exact hParse

/-- Both texts find the same method, which gets two graphs. -/
theorem not_once_counted :
    ["Job.run", "Job.run/0"].Nodup ∧ ((places [onceProvider]).map (·.2.ref)).Nodup ∧
      (∀ x ∈ places [onceProvider], ((itemsOf (x.1.declarations x.2)).map (·.id)).Nodup) ∧
      ∃ v, (callgraphSection ⟨["Job.run", "Job.run/0"], ⟨2, 200⟩, false⟩ [onceProvider]).result = .ok v ∧
        ¬ ((graphsUnder ⟨"App", "app"⟩ v).map (·.root)).Nodup := by
  obtain ⟨hRefs, hIds⟩ := distinct_onceProvider
  refine ⟨by decide, hRefs, hIds, ?_⟩
  have hTotal : ∀ p ∈ [onceProvider], p.Total :=
    List.forall_mem_singleton.mpr ⟨rfl, fun _ => rfl, fun _ => rfl, fun _ => rfl⟩
  have hReadable : ∀ text ∈ ["Job.run", "Job.run/0"], Root.Readable text := by
    intro text hText
    rw [← Root.parse_isOk_iff]
    obtain rfl | hText := List.mem_cons.mp hText
    · rw [parse_jobRun]
      rfl
    · rw [List.mem_singleton.mp hText, parse_jobRun_counted]
      rfl
  have hFound : foundMethod onceProvider jobProject "Job.run" = some jobRun := by
    rw [foundMethod, rootsIn, parse_jobRun]
    cbv
  have hCounted : foundMethod onceProvider jobProject "Job.run/0" = some jobRun := by
    rw [foundMethod, rootsIn, parse_jobRun_counted]
    cbv
  have hExtracts : ∀ text ∈ ["Job.run", "Job.run/0"],
      Extracts ⟨["Job.run", "Job.run/0"], ⟨2, 200⟩, false⟩ [onceProvider] text :=
    fun text hText => (extracts_iff_readable hTotal text).mpr (hReadable text hText)
  have hSection := (yieldsIf_callgraphSection ⟨["Job.run", "Job.run/0"], ⟨2, 200⟩, false⟩
    [onceProvider] _).mpr ⟨hExtracts, rfl⟩
  refine ⟨_, hSection, fun hOnce => ?_⟩
  have hx : (onceProvider, jobProject) ∈ places [onceProvider] := List.mem_singleton_self _
  have hRoots := (perm_roots hRefs hSection hx).nodup_iff.mp hOnce
  rw [List.filterMap_cons, List.filterMap_cons, hFound, hCounted] at hRoots
  exact (List.nodup_cons.mp hRoots).1 (List.mem_singleton_self _)

end CodeAtlas
