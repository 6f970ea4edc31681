import CodeAtlas.Proofs.Files.Respelled
import CodeAtlas.Proofs.Module.Unnoticed
import CodeAtlas.Proofs.Text.Numeral
import CodeAtlas.Proofs.Tree.Lines

/-!
# Ways to write a module

The text of a module can be written with different line ends, and with or without a mark of the byte
order. Line ends make no difference. A module that begins with a mark is not read, although its lines
are the same.

* `readModule_mark`: no text with a mark in front of it is a module.
* `provide_respelled`: answers about a repository depend on what is read from its modules.
* `spelledAgain`: what another way to write a module changes.
-/

namespace CodeAtlas.Text

/-! ## Characters of words -/

set_option maxRecDepth 40000 in
/-- The table is read once, character by character. -/
theorem isWordStart_mark : isWordStart '\ufeff' = false := by
  have hRuns : ∃ cs, wordStartRuns = runsOf (numeralsFrom none cs) ∧
      inRuns (runsOf (numeralsFrom none cs)) '\ufeff' = false := by
    refine ⟨_, congrArg runsOf (numerals_ofList _), ?_⟩
    decide +kernel
  obtain ⟨cs, hRuns, hNot⟩ := hRuns
  rw [isWordStart, if_neg (by decide), hRuns, hNot]

end CodeAtlas.Text

namespace CodeAtlas.Module

open CodeAtlas.Text
open CodeAtlas.Files (Entry Path Visit)
open CodeAtlas.Files.Entry (Respelled)
open CodeAtlas.Tree (Writing LineEnd IsLine endedChars)

/-! ## Marks -/

theorem startLine_mark (line : Nat) (cs : List Char) :
    startLine ⟨line, [], [], true⟩ ('\ufeff' :: cs) =
      some ⟨[], ⟨line, [], [], false⟩, '\ufeff' :: cs⟩ := by
  have hMargin : Margin.read ⟨0, 0, 0, line⟩ ('\ufeff' :: cs) =
      some (⟨0, 0, 0, line⟩, '\ufeff' :: cs) := by
    rw [Margin.read, if_neg (by decide)]
    all_goals simp
  have hDrop : (('\ufeff' :: cs).dropWhile fun c => ('\ufeff' :: cs).head? = some '#' && c != '\n') =
      '\ufeff' :: cs := List.dropWhile_cons_of_neg (by simp)
  rw [startLine]
  simp only [hMargin, Option.bind_eq_bind, Option.bind_some, hDrop]
  rfl

theorem mannerOf_mark (letters : List Char) : mannerOf ('\ufeff' :: letters) = none := by
  match letters with
  | [] => decide
  | [c] =>
    have hOne : ¬ ((c = 'r' ∨ c = 'R') ∧ ((c = 'b' ∨ c = 'B') ∨ (c = 'f' ∨ c = 'F'))) := by
      rintro ⟨rfl | rfl, h⟩ <;> revert h <;> decide
    rw [mannerOf]
    simpa using hOne
  | _ :: _ :: _ => rfl

theorem manner?_mark (cs : List Char) : manner? ('\ufeff' :: cs) = none := by
  have hLetters : (('\ufeff' :: cs).take 3).takeWhile (!isQuote ·) =
      '\ufeff' :: (cs.take 2).takeWhile (!isQuote ·) := by
    rw [List.take_succ_cons, List.takeWhile_cons_of_pos (by decide)]
  rw [manner?, hLetters, mannerOf_mark]
  split
  · split <;> rfl
  · rfl

theorem token?_mark (embedded : Nat → List Char → Option (List Token)) (s : Cursor)
    (cs : List Char) : token? embedded s ('\ufeff' :: cs) = none := by
  have hBegins : ('\ufeff' :: cs).head?.any beginsWord = true := by
    rw [List.head?_cons, Option.any_some]
    decide
  have hWord : word? ('\ufeff' :: cs) = none := by
    rw [word?, List.span_eq_takeWhile_dropWhile, List.takeWhile_cons_of_pos (by decide)]
    dsimp only
    rw [if_neg (by simp), if_neg (by rw [isWordStart_mark]; exact Bool.false_ne_true)]
  rw [token?, manner?_mark]
  dsimp only
  rw [if_pos hBegins, hWord]
  rfl

theorem tokensFrom_mark (embedded : Nat → List Char → Option (List Token)) (fuel line : Nat)
    (cs : List Char) : tokensFrom embedded fuel ⟨line, [], [], true⟩ ('\ufeff' :: cs) [] = none := by
  match fuel with
  | 0 => rfl
  | 1 =>
    rw [tokensFrom, if_pos rfl, startLine_mark]
    rfl
  | fuel + 2 =>
    rw [tokensFrom, if_pos rfl, startLine_mark]
    dsimp only
    rw [tokensFrom, if_neg Bool.false_ne_true, onLine, if_neg (by decide), token?_mark]
    · rfl
    all_goals simp

theorem tokens_mark (cs : List Char) : tokens ('\ufeff' :: cs) = none := by
  have hEnd : ∃ cs', endLastLine ('\ufeff' :: cs) = '\ufeff' :: cs' := by
    rw [endLastLine]
    split
    · exact ⟨_, rfl⟩
    · exact ⟨_, rfl⟩
  obtain ⟨cs', hEnd⟩ := hEnd
  rw [tokens, maxDepth, tokensAt, hEnd]
  split
  · rfl
  · exact tokensFrom_mark _ _ _ _

/-- No text with a mark in front of it is a module. -/
theorem readModule_mark (cs : List Char) : readModule ('\ufeff' :: cs) = none := by
  rw [readModule, tokens_mark]
  rfl

/-! ## Texts -/

/-- The text of a file, in which line feeds end lines. -/
def textOf (w : Writing) : List Char := endedChars (w.ended.map fun l => (l.1, .feed)) w.last

theorem unifyLineEnds_endedChars {ended : List (String × LineEnd)} {last : String}
    (hLines : ∀ l ∈ ended, IsLine l.1) (hLast : IsLine last)
    (hApart : ended.IsChain fun l next => l.2 = .carriage → next ≠ ("", .feed)) :
    unifyLineEnds (endedChars ended last) = endedChars (ended.map fun l => (l.1, .feed)) last := by
  induction ended with
  | nil =>
    have hChars : endedChars [] last = last.toList ++ [] := (List.append_nil _).symm
    rw [hChars, Tree.unifyLineEnds_append hLast.1, unifyLineEnds, List.map_nil, hChars]
  | cons l ended ih =>
    obtain ⟨hLine, hEnded⟩ := List.forall_mem_cons.mp hLines
    have hChars (l : String × LineEnd) (rest : List (String × LineEnd)) :
        endedChars (l :: rest) last = l.1.toList ++ (l.2.chars ++ endedChars rest last) := by
      rw [endedChars, endedChars, List.flatMap_cons, List.append_assoc, List.append_assoc]
    have hNext : l.2 = .carriage → (endedChars ended last).head? ≠ some '\n' := fun hEnd =>
      Tree.head?_endedChars_ne hEnded hLast fun next hNext => hApart.rel_head? hNext hEnd
    rw [List.map_cons, hChars, hChars, Tree.unifyLineEnds_append hLine.1,
      Tree.unifyLineEnds_chars hNext, ih hEnded hApart.tail]
    rfl

/-- What is read of a file is its text, with the mark in front of it. -/
theorem readFile_bytes {w : Writing} (h : w.Proper) (f : ModuleFile) :
    Library.readFile { f with content := w.bytes } =
      readModule ((if w.marked then ['\ufeff'] else []) ++ textOf w) := by
  have hDecode : decode? w.bytes = some w.chars := by
    have hEncode := decode?_encode (String.ofList w.chars)
    rwa [encode, String.toList_ofList] at hEncode
  have hMark : '\r' ∉ (if w.marked then ['\ufeff'] else []) := by
    split <;> decide
  rw [Library.readFile, hDecode, Option.bind_some, Writing.chars, Tree.unifyLineEnds_append hMark,
    unifyLineEnds_endedChars h.ended h.last h.apart, textOf]

/-! ## Modules of a repository -/

/-- The file is a module, and the same is read from both contents. -/
def ReadsSame (name : String) (bytes bytes' : List UInt8) : Prop :=
  bytes' = bytes ∨ Files.suffix name = ".py" ∧ ∀ f : ModuleFile,
    Library.readFile { f with content := bytes' } = Library.readFile { f with content := bytes }

/-- Two files of the same module from which the same is read. -/
structure SameModule (f f' : ModuleFile) : Prop where
  path : f'.path = f.path
  name : f'.name = f.name
  read : Library.readFile f' = Library.readFile f

section Repository

variable {e e' top top' : Entry} {path : List String} {root : Path}

theorem readFile_respelled (h : Respelled ReadsSame e e') (path : List String) (name : String) :
    SameModule ⟨path, name, e.content?.getD []⟩ ⟨path, name, e'.content?.getD []⟩ := by
  refine ⟨rfl, rfl, ?_⟩
  have hContent := h.rel_content?
  generalize e.content? = o, e'.content? = o' at hContent
  cases hContent with
  | none => rfl
  | some hReads =>
    rcases hReads with rfl | ⟨-, hRead⟩
    · rfl
    · exact hRead ⟨path, name, []⟩

theorem holds_respelled (h : Respelled ReadsSame e e') (n : String) : holds e' n = holds e n := by
  have hChild := h.rel_child? n
  rw [holds, holds]
  generalize e.child? n = o, e'.child? n = o' at hChild
  cases hChild with
  | none => rfl
  | some hRel => exact hRel.1.exists?_eq

theorem marker?_respelled (h : Respelled ReadsSame e e') : marker? e' = marker? e := by
  rw [marker?, marker?, show holds e' = holds e from funext (holds_respelled h)]

theorem isModuleFile_respelled (h : Respelled ReadsSame e e') :
    isModuleFile e' = isModuleFile e := by
  rw [isModuleFile, isModuleFile, h.isFile_eq, h.name_eq]

theorem isPackage_respelled (h : Respelled ReadsSame e e') : isPackage e' = isPackage e := by
  rw [isPackage, isPackage, h.isDirectory_eq, holds_respelled h]

theorem packageModules_respelled {package : String} (h : Respelled ReadsSame e e') :
    List.Forall₂ SameModule (packageModules path package e) (packageModules path package e') := by
  induction e using Entry.inductionOn generalizing e' path package with
  | file n bytes =>
    cases h
    rw [packageModules, packageModules]
    · exact .nil
    all_goals simp
  | broken n =>
    cases h
    rw [packageModules]
    · exact .nil
    all_goals simp
  | directory n cs ih =>
    cases h with
    | directory hAll =>
      have hOwn := forall₂_imp_of_mem hAll (S := fun c c' => Respelled ReadsSame c c' ∧ c ∈ cs)
        fun c hc _ _ hRel => ⟨hRel, hc⟩
      have hSorted := sortBy_of_forall₂ hOwn fun a b hab a' b' hab' =>
        show compareOn Entry.name a a' = compareOn Entry.name b b' by
          rw [compareOn, compareOn, hab.1.name_eq, hab'.1.name_eq]
      rw [packageModules_directory, packageModules_directory]
      refine List.rel_flatMap hSorted fun c c' hRel => ?_
      rw [partModules, partModules, isModuleFile_respelled hRel.1, isPackage_respelled hRel.1,
        hRel.1.name_eq]
      split
      · exact .cons (readFile_respelled hRel.1 _ _) .nil
      · split
        · exact ih c hRel.2 hRel.1
        · exact .nil

theorem topModules_respelled (h : Respelled ReadsSame e e') :
    List.Forall₂ SameModule (topModules path e) (topModules path e') := by
  rw [topModules, topModules, isModuleFile_respelled h, isPackage_respelled h, marker?_respelled h,
    h.name_eq]
  split
  · split
    · exact .nil
    · exact .cons (readFile_respelled h _ _) .nil
  · split
    · exact packageModules_respelled h
    · exact .nil

theorem modulesOf_respelled (h : Respelled ReadsSame e e') :
    List.Forall₂ SameModule (modulesOf path e) (modulesOf path e') := by
  have hRoot : (sourceRoot path e').1 = (sourceRoot path e).1 ∧
      Respelled ReadsSame (sourceRoot path e).2 (sourceRoot path e').2 := by
    have hChild := h.rel_child? sourceDirectory
    rw [sourceRoot, sourceRoot]
    generalize e.child? sourceDirectory = o, e'.child? sourceDirectory = o' at hChild
    cases hChild with
    | none => exact ⟨rfl, h⟩
    | some hRel =>
      dsimp only
      rw [hRel.1.isDirectory_eq]
      split
      · exact ⟨rfl, hRel.1⟩
      · exact ⟨rfl, h⟩
  rw [modulesOf, modulesOf]
  dsimp only
  rw [hRoot.1]
  exact List.rel_flatMap hRoot.2.sortedChildren fun c c' hRel => topModules_respelled hRel

theorem filesOf_respelled (h : Respelled ReadsSame top top') (p : Project) :
    List.Forall₂ SameModule (filesOf root top p) (filesOf root top' p) := by
  have hFound := h.rel_descend? (p.directory.parts.drop root.parts.length)
  rw [filesOf, filesOf]
  generalize top.descend? _ = o, top'.descend? _ = o' at hFound
  cases hFound with
  | none => exact .nil
  | some hRel => exact modulesOf_respelled hRel

/-! ## Projects of a repository -/

theorem nameFrom_respelled (h : Respelled ReadsSame e e') (directory : Path) {file : String}
    (hFile : Files.suffix file ≠ ".py") : nameFrom directory e' file = nameFrom directory e file := by
  have hChild := h.rel_child? file
  rw [nameFrom, nameFrom]
  generalize e.child? file = o, e'.child? file = o' at hChild
  cases hChild with
  | none => rfl
  | @some c c' hRel =>
    have hContent : c'.content? = c.content? := by
      have hRead := hRel.1.rel_content?
      generalize c.content? = o, c'.content? = o' at hRead
      cases hRead with
      | none => rfl
      | some hSame =>
        rcases hSame with rfl | ⟨hModule, -⟩
        · rfl
        · rw [hRel.2] at hModule
          exact absurd hModule hFile
    rw [Option.filter_some, Option.filter_some, hRel.1.exists?_eq]
    cases c.exists? with
    | false => rfl
    | true =>
      rw [if_pos rfl, if_pos rfl]
      dsimp only
      rw [hContent]

theorem projectAt_respelled {place : List String} (h : Respelled ReadsSame e e') :
    projectAt root ⟨place, e'⟩ = projectAt root ⟨place, e⟩ := by
  have hPixi : Files.suffix "pixi.toml" ≠ ".py" := by decide +kernel
  have hPyproject : Files.suffix "pyproject.toml" ≠ ".py" := by decide +kernel
  have hName : ∀ directory, projectName directory e' = projectName directory e := fun directory => by
    rw [projectName, projectName, nameFrom_respelled h directory hPixi,
      nameFrom_respelled h directory hPyproject]
  rw [projectAt, projectAt]
  dsimp only
  rw [marker?_respelled h, hName]

theorem findProjects_respelled (h : Respelled ReadsSame top top') :
    findProjects root top' = findProjects root top := by
  have hWalk : (top'.walk entered []).flatMap (projectSteps root) =
      (top.walk entered []).flatMap (projectSteps root) := by
    refine (flatMap_eq_of_forall₂ (h.forall₂_walk entered []) fun v v' hRel => ?_).symm
    obtain ⟨place, d⟩ := v
    obtain ⟨place', d'⟩ := v'
    obtain ⟨rfl, hEntry⟩ := hRel
    rw [projectSteps, projectSteps, projectAt_respelled hEntry]
    dsimp only
    rw [marker?_respelled hEntry]
  have hSome : (modulesOf [] top').isEmpty = (modulesOf [] top).isEmpty := by
    have hFiles := (modulesOf_respelled h : List.Forall₂ SameModule (modulesOf [] top) (modulesOf [] top'))
    generalize modulesOf [] top = files, modulesOf [] top' = files' at hFiles
    cases hFiles <;> rfl
  rw [findProjects_eq, findProjects_eq, hWalk, hSome]

/-! ## Libraries -/

theorem addFile_same {f f' : ModuleFile} (h : SameModule f f') (l : Library) :
    l.addFile f' = l.addFile f := by
  rw [Library.addFile, Library.addFile, h.path, h.name, h.read]

theorem addFiles_same {files files' : List ModuleFile} (h : List.Forall₂ SameModule files files')
    (l : Library) : l.addFiles files' = l.addFiles files := by
  induction h generalizing l with
  | nil => rfl
  | cons hFirst _ ih =>
    rw [Library.addFiles, Library.addFiles, addFile_same hFirst]
    dsimp only
    rw [ih]

theorem ofProjects_respelled (h : Respelled ReadsSame top top') (projects : List Project) :
    Library.ofProjects root top' projects = Library.ofProjects root top projects := by
  have hStep : ∀ (l : Library) (p : Project), l.addProject p.ref (filesOf root top' p) =
      l.addProject p.ref (filesOf root top p) := fun l p => by
    rw [Library.addProject, Library.addProject, addFiles_same (filesOf_respelled h p)]
  rw [Library.ofProjects, Library.ofProjects]
  simp only [hStep]

/-- Answers about a repository depend on nothing but what is read from its modules. -/
theorem provide_respelled (h : Respelled ReadsSame top top') :
    provide root top' = provide root top := by
  have hLibrary : Library.ofProjects root top' = Library.ofProjects root top :=
    funext (ofProjects_respelled h)
  rw [provide, provide, findProjects_respelled h, hLibrary]

end Repository

/-! ## Modules that are not read -/

/-- The same library, whatever has been noted on the way. -/
structure SameButNotes (l l' : Library) : Prop where
  sources : l'.sources = l.sources
  table : l'.table = l.table
  byProject : l'.byProject = l.byProject

section Unread

variable {l l' : Library} {f : ModuleFile}

theorem addFile_unread (h : Library.readFile f = none) :
    SameButNotes (l.addFile f).1 l ∧ (l.addFile f).2 = none := by
  rw [Library.addFile, h]
  exact ⟨⟨rfl, rfl, rfl⟩, rfl⟩

theorem SameButNotes.addSource (h : SameButNotes l l') (s : Source) :
    SameButNotes (l.addSource s) (l'.addSource s) := by
  rw [Library.addSource, Library.addSource, h.table]
  split
  · exact ⟨congrArg (· ++ [s]) h.sources, rfl, h.byProject⟩
  · exact ⟨congrArg (· ++ [s]) h.sources, rfl, h.byProject⟩

theorem SameButNotes.addFile (h : SameButNotes l l') (f : ModuleFile) :
    SameButNotes (l.addFile f).1 (l'.addFile f).1 ∧ (l'.addFile f).2 = (l.addFile f).2 := by
  rw [Library.addFile, Library.addFile, h.sources]
  cases Library.readFile f with
  | none => exact ⟨⟨rfl, h.table, h.byProject⟩, rfl⟩
  | some body => exact ⟨h.addSource _, rfl⟩

/-- Files that cannot be read add nothing. -/
theorem SameButNotes.addFiles {q : ModuleFile → Bool} {files : List ModuleFile}
    (h : SameButNotes l l') (hUnread : ∀ f ∈ files, q f = false → Library.readFile f = none) :
    SameButNotes (l.addFiles files).1 (l'.addFiles (files.filter q)).1 ∧
      (l'.addFiles (files.filter q)).2 = (l.addFiles files).2 := by
  induction files generalizing l l' with
  | nil => exact ⟨h, rfl⟩
  | cons f files ih =>
    obtain ⟨hFirst, hRest⟩ := List.forall_mem_cons.mp hUnread
    rw [List.filter_cons, Library.addFiles]
    dsimp only
    cases hq : q f with
    | true =>
      obtain ⟨hAdded, hSource⟩ := h.addFile f
      obtain ⟨hAll, hSources⟩ := ih hAdded hRest
      rw [if_pos rfl, Library.addFiles]
      dsimp only
      rw [hSource, hSources]
      exact ⟨hAll, rfl⟩
    | false =>
      obtain ⟨hAdded, hSource⟩ := addFile_unread (l := l) (hFirst hq)
      have hBefore : SameButNotes (l.addFile f).1 l' :=
        ⟨h.sources.trans hAdded.sources, h.table.trans hAdded.table,
          h.byProject.trans hAdded.byProject⟩
      obtain ⟨hAll, hSources⟩ := ih hBefore hRest
      rw [if_neg Bool.false_ne_true, hSource, hSources]
      exact ⟨hAll, rfl⟩

theorem SameButNotes.addProject {q : ModuleFile → Bool} {files : List ModuleFile}
    (h : SameButNotes l l') (hUnread : ∀ f ∈ files, q f = false → Library.readFile f = none)
    (p : ProjectRef) : SameButNotes (l.addProject p files) (l'.addProject p (files.filter q)) := by
  obtain ⟨hAdded, hFound⟩ := h.addFiles hUnread
  rw [Library.addProject, Library.addProject]
  dsimp only
  exact ⟨hAdded.sources, hAdded.table, by rw [hFound, hAdded.byProject]⟩

/-- A library is the same without the files that cannot be read. -/
theorem ofProjects_filter {q : ModuleFile → Bool} {root : Path} {top : Entry}
    (hUnread : ∀ f, q f = false → Library.readFile f = none) (projects : List Project) :
    SameButNotes (Library.ofProjects root top projects)
      (projects.foldl (fun l p => l.addProject p.ref ((filesOf root top p).filter q)) .empty) := by
  have hFold : ∀ l l', SameButNotes l l' →
      SameButNotes (projects.foldl (fun l p => l.addProject p.ref (filesOf root top p)) l)
        (projects.foldl (fun l p => l.addProject p.ref ((filesOf root top p).filter q)) l') := by
    induction projects with
    | nil => exact fun _ _ h => h
    | cons p projects ih => exact fun l l' h => ih _ _ (h.addProject (fun f _ => hUnread f) p.ref)
  exact hFold _ _ ⟨rfl, rfl, rfl⟩

end Unread

/-! ## Lines -/

/-- The file is a module, and both contents have the same lines. -/
def LinesSame (name : String) (bytes bytes' : List UInt8) : Prop :=
  bytes' = bytes ∨ Files.suffix name = ".py" ∧ Tree.linesOf bytes' = Tree.linesOf bytes

section Scan

variable {e e' top top' : Entry} {settings : TreeSettings}

theorem fileEntry_respelled (h : Respelled LinesSame e e') (mode : Tree.LineMode) (path : String) :
    Tree.fileEntry mode path e' = Tree.fileEntry mode path e := by
  have hContent := h.rel_content?
  rw [Tree.fileEntry, Tree.fileEntry, h.name_eq]
  generalize e.content? = o, e'.content? = o' at hContent
  cases hContent with
  | none => rfl
  | some hLines =>
    rcases hLines with rfl | ⟨-, hLines⟩
    · rfl
    · rw [Option.map_some, Option.map_some, hLines]

theorem filterFor_respelled (h : Respelled LinesSame top top') :
    Tree.filterFor settings top' = Tree.filterFor settings top := by
  have hName : Files.suffix Tree.ignoreFileName ≠ ".py" := by decide +kernel
  have hChild := h.rel_child? Tree.ignoreFileName
  have hIgnore : Tree.readIgnoreFile top' = Tree.readIgnoreFile top := by
    rw [Tree.readIgnoreFile, Tree.readIgnoreFile]
    generalize top.child? Tree.ignoreFileName = o, top'.child? Tree.ignoreFileName = o' at hChild
    cases hChild with
    | none => rfl
    | @some c c' hRel =>
      have hContent := hRel.1.rel_content?
      rw [Option.bind_some, Option.bind_some]
      generalize c.content? = o, c'.content? = o' at hContent
      cases hContent with
      | none => rfl
      | some hLines =>
        rcases hLines with rfl | ⟨hModule, -⟩
        · rfl
        · rw [hRel.2] at hModule
          exact absurd hModule hName
  rw [Tree.filterFor, Tree.filterFor, hIgnore]

theorem scan_respelled (h : Respelled LinesSame top top') :
    Tree.scan settings top' = Tree.scan settings top := by
  have hVisit : ∀ (f : Tree.Filter) (v v' : Visit), v'.path = v.path ∧
      Respelled LinesSame v.entry v'.entry → f.scanVisit v = f.scanVisit v' := by
    intro f v v' ⟨hPath, hEntry⟩
    rw [Tree.Filter.scanVisit, Tree.Filter.scanVisit, hPath]
    congr 1
    refine mapM_eq_of_forall₂ hEntry.children fun c c' hRel => ?_
    rw [Tree.Filter.scanEntry, Tree.Filter.scanEntry, hRel.name_eq, hRel.isDirectory_eq, fileEntry_respelled hRel]
  rw [Tree.scan, Tree.scan, filterFor_respelled h]
  congr 1
  funext f
  rw [mapM_eq_of_forall₂ (h.forall₂_walk f.keepsDirectory []) (hVisit f)]

end Scan

/-! ## Modules that are written again -/

section Again

variable {w w' : Writing}

/-- What is known of the lines of a file is known of its text. -/
theorem linesOf_bytes_eq (h : w.Proper) : Tree.linesOf w.bytes =
    (Tree.dropLastEmpty (splitChars '\n' (textOf w))).map String.ofList := by
  rw [Tree.linesOf, Writing.bytes, decodeLossy_encodeChars, h.withoutMark_chars,
    unifyLineEnds_endedChars h.ended h.last h.apart, textOf]

/-- Modules that are written in one way, all or some of them, are written in another way instead. -/
def Instead (w w' : Writing) (name : String) (bytes bytes' : List UInt8) : Prop :=
  bytes' = bytes ∨ Files.suffix name = ".py" ∧ bytes = w.bytes ∧ bytes' = w'.bytes

/-- What another way to write a module changes. -/
structure SpelledAgain (w w' : Writing) : Prop where
  /-- The files of a repository have the same lengths and digests. -/
  tree : ∀ settings top top', Respelled (Instead w w') top top' →
    Tree.scan settings top' = Tree.scan settings top
  /-- All answers about a repository are the same if there is a mark in both ways or in neither. -/
  answers : w'.marked = w.marked → ∀ root top top', Respelled (Instead w w') top top' →
    provide root top' = provide root top
  /-- Without a mark the module is read. -/
  read : w'.marked = false → ∀ f : ModuleFile,
    Library.readFile { f with content := w'.bytes } = readModule (textOf w)
  /-- With one it is not, so what is read is the same only then. -/
  read_iff : ∀ f : ModuleFile, Library.readFile { f with content := w'.bytes } =
    Library.readFile { f with content := w.bytes } ↔ w'.marked = w.marked
  /-- A module with a mark shows in the notes only. -/
  lost : w'.marked = true → ∀ root top projects,
    SameButNotes (Library.ofProjects root top projects)
      (projects.foldl (fun l p => l.addProject p.ref
        ((filesOf root top p).filter fun f => f.content != w'.bytes)) .empty)

/-- **Ways to write a module.** Only a mark of the byte order makes a difference, and not to the lines. -/
theorem spelledAgain (h : w.Proper) (h' : w'.Proper) (hText : textOf w' = textOf w)
    (hAccepted : readModule (textOf w) ≠ none) : SpelledAgain w w' := by
  have hRead {w : Writing} (h : w.Proper) (hMark : w.marked = false) (f : ModuleFile) :
      Library.readFile { f with content := w.bytes } = readModule (textOf w) := by
    rw [readFile_bytes h, hMark]
    rfl
  have hUnread {w : Writing} (h : w.Proper) (hMark : w.marked = true) (f : ModuleFile) :
      Library.readFile { f with content := w.bytes } = none := by
    rw [readFile_bytes h, hMark]
    exact readModule_mark _
  have hSame : w'.marked = w.marked → ∀ f : ModuleFile,
      Library.readFile { f with content := w'.bytes } =
        Library.readFile { f with content := w.bytes } := fun hMark f => by
    rw [readFile_bytes h', readFile_bytes h, hMark, hText]
  refine ⟨fun settings top top' hTop => ?_, fun hMark root top top' hTop => ?_,
    fun hMark f => (hRead h' hMark f).trans (congrArg readModule hText),
    fun f => ⟨fun hEq => ?_, fun hMark => hSame hMark f⟩, fun hMark root top projects => ?_⟩
  · refine scan_respelled (hTop.imp fun n bytes bytes' hInstead => ?_)
    refine hInstead.imp_right fun ⟨hModule, hOld, hNew⟩ => ⟨hModule, ?_⟩
    rw [hOld, hNew, linesOf_bytes_eq h', linesOf_bytes_eq h, hText]
  · refine provide_respelled (hTop.imp fun n bytes bytes' hInstead => ?_)
    refine hInstead.imp_right fun ⟨hModule, hOld, hNew⟩ => ⟨hModule, fun f => ?_⟩
    rw [hOld, hNew]
    exact hSame hMark f
  · cases hMark : w.marked <;> cases hMark' : w'.marked
    · rfl
    · rw [hUnread h' hMark', hRead h hMark] at hEq
      exact absurd hEq.symm hAccepted
    · rw [hRead h' hMark', hUnread h hMark, hText] at hEq
      exact absurd hEq hAccepted
    · rfl
  · refine ofProjects_filter (fun f hContent => ?_) projects
    have hBytes : f.content = w'.bytes := by simpa using hContent
    rw [← hUnread h' hMark f, ← hBytes]

end Again

/-- A module with a function that does nothing. -/
def plainModule : Writing := ⟨false, [("def f():", .feed), (" pass", .feed)], ""⟩

theorem proper_plainModule (marked : Bool) : { plainModule with marked }.Proper := by
  cases marked <;> exact ⟨by decide, by decide, by decide⟩

theorem readModule_plainModule : readModule (textOf plainModule) ≠ none := by
  rw [← Option.isSome_iff_ne_none]
  decide +kernel

theorem spelledAgain_carriage : plainModule.Proper ∧ readModule (textOf plainModule) ≠ none ∧
    SpelledAgain plainModule ⟨false, [("def f():", .both), (" pass", .carriage)], ""⟩ :=
  ⟨proper_plainModule false, readModule_plainModule,
    spelledAgain (proper_plainModule false) ⟨by decide, by decide, by decide⟩ (by decide)
      readModule_plainModule⟩

/-- The module is not read any more if a mark is put in front of it, although it has the same lines. -/
theorem not_read_marked : Library.readFile ⟨["m.py"], "m", plainModule.bytes⟩ ≠ none ∧
    Library.readFile ⟨["m.py"], "m", { plainModule with marked := true }.bytes⟩ = none ∧
    Tree.linesOf { plainModule with marked := true }.bytes = Tree.linesOf plainModule.bytes := by
  have hPlain := proper_plainModule false
  have hMarked := proper_plainModule true
  refine ⟨?_, ?_, ?_⟩
  · exact (readFile_bytes hPlain ⟨["m.py"], "m", []⟩).trans_ne readModule_plainModule
  · exact (readFile_bytes hMarked ⟨["m.py"], "m", []⟩).trans (readModule_mark _)
  · exact (linesOf_bytes_eq hMarked).trans (linesOf_bytes_eq hPlain).symm

end CodeAtlas.Module
