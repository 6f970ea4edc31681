import CodeAtlas.Module.Indexing
import CodeAtlas.Proofs.Assoc
import CodeAtlas.Proofs.Text.Parts
import CodeAtlas.Proofs.Text.Search

/-!
# Relative imports

The level of a relative import says how many packages it leaves, the first level none. A module `a.b.m`
can go up to level 2: one level more leaves the outermost package.

* `relativeImports`: which module an import names, and when it is the one that the language means.
* `not_meant_above`: one level too many leads to a module at the top.
-/

namespace CodeAtlas.Module

open Text

/-! ## Packages -/

/-- Names between which dots stand in the name of a package, the outermost first. -/
def IsPackagePath (package : List String) : Prop := ∀ s ∈ package, s ≠ "" ∧ '.' ∉ s.toList

/-- The module that the language means: each level but the first leaves a package, of which one has to be
left. -/
def meantModule (package : List String) (name : Option String) (level : Nat) : Option String :=
  if level ≤ package.length then
    some (join "." (package.take (package.length - (level - 1)) ++ name.toList))
  else none

instance (package : List String) : Decidable (IsPackagePath package) :=
  inferInstanceAs (Decidable (∀ s ∈ package, _))

section Package

variable {package : List String} {name : Option String} {level : Nat}

theorem join_eq_empty {parts : List String} (hSome : parts ≠ []) (h : join "." parts = "") :
    parts = [""] := by
  cases parts with
  | nil => exact absurd rfl hSome
  | cons s rest =>
    cases rest with
    | nil => rw [← h, join, String.intercalate_singleton]
    | cons t rest =>
      rw [join_cons (List.cons_ne_nil t rest)] at h
      simp at h

theorem IsPackagePath.join_ne (h : IsPackagePath package) (parts : List String)
    (hSome : package ++ parts ≠ []) (hFirst : package ≠ []) : join "." (package ++ parts) ≠ "" := by
  intro hEmpty
  obtain ⟨s, rest, rfl⟩ := List.exists_cons_of_ne_nil hFirst
  have hEq := join_eq_empty hSome hEmpty
  rw [List.cons_append] at hEq
  exact (h s List.mem_cons_self).1 (List.cons.inj hEq).1

/-- The parts of the name of a package are found again. -/
theorem IsPackagePath.parts_join (h : IsPackagePath package) :
    (if join "." package = "" then [] else splitAt '.' (join "." package)) = package := by
  by_cases hNone : package = []
  · rw [hNone]
    rfl
  · have hSome := h.join_ne [] (by simpa using hNone) hNone
    rw [List.append_nil] at hSome
    rw [if_neg hSome]
    exact splitAt_join hNone fun s hs => (h s hs).2

theorem packageOf_member {m : String} (hDot : '.' ∉ m.toList) :
    packageOf (join "." (package ++ [m])) false = join "." package := by
  by_cases hNone : package = []
  · have hCut : cutLast '.' m = none := by
      rw [cutLast, cutFirstChars_of_not_mem (by simpa using hDot)]
      rfl
    rw [hNone, List.nil_append, join, String.intercalate_singleton, packageOf,
      if_neg Bool.false_ne_true, beforeLast, hCut]
    rfl
  · have hCut : cutLast '.' (join "." package ++ "." ++ m) = some (join "." package, m) :=
      cutLast_append hDot
    rw [join_append hNone (List.cons_ne_nil _ _), packageOf, if_neg Bool.false_ne_true, beforeLast]
    rw [join, join, String.intercalate_singleton] at *
    rw [hCut]
    rfl

/-! ## Modules that imports name -/

theorem absoluteModule_eq (h : IsPackagePath package) (hLevel : 1 ≤ level) :
    absoluteModule (join "." package) name level =
      if package.length < level - 1 then none
      else (some (join "." (package.take (package.length - (level - 1)) ++ name.toList))).filter
        (· ≠ "") := by
  rw [absoluteModule, if_neg (by omega), h.parts_join]
  dsimp only
  split
  · rfl
  · split
    · rename_i hEmpty
      rw [hEmpty]
      rfl
    · rename_i hSome
      rw [Option.filter_some_pos (by simpa using hSome)]

/-- Within the packages around a module an import names what it means. -/
theorem absoluteModule_within (h : IsPackagePath package) (hLevel : 1 ≤ level)
    (hWithin : level ≤ package.length) :
    absoluteModule (join "." package) name level = meantModule package name level := by
  have hTake : package.take (package.length - (level - 1)) ≠ [] := by
    rw [ne_eq, List.take_eq_nil_iff]
    rintro (hNone | hNone)
    · omega
    · rw [hNone] at hWithin
      exact absurd hWithin (by rw [List.length_nil]; omega)
  have hPath : IsPackagePath (package.take (package.length - (level - 1))) := fun s hs =>
    h s (List.mem_of_mem_take hs)
  have hSome := hPath.join_ne name.toList (by simp [hTake]) hTake
  rw [absoluteModule_eq h hLevel, if_neg (by omega), meantModule, if_pos hWithin,
    Option.filter_some_pos (by simpa using hSome)]

theorem absoluteModule_beyond (h : IsPackagePath package) (hBeyond : package.length + 1 < level) :
    absoluteModule (join "." package) name level = none := by
  rw [absoluteModule_eq h (by omega), if_pos (by omega)]

/-- Just above the outermost package an import names a module at the top. -/
theorem absoluteModule_above (h : IsPackagePath package) (hAbove : level = package.length + 1) :
    absoluteModule (join "." package) name level = name.filter (· ≠ "") := by
  have hTake : package.take (package.length - (level - 1)) = [] := by
    rw [hAbove, Nat.add_sub_cancel, Nat.sub_self, List.take_zero]
  rw [absoluteModule_eq h (by omega), if_neg (by omega), hTake, List.nil_append]
  cases name with
  | none => rfl
  | some n => rw [Option.toList_some, join, String.intercalate_singleton]

end Package

/-! ## Names that are bound -/

/-- A statement of a module gives the member of another module a name. -/
def BindsMember (package : String) (body : List Stmt) (given member source : String) : Prop :=
  ∃ name names level, Node.stmt (.importsFrom name names level) ∈ walkFrom (Node.stmts body) ∧
    absoluteModule package name level = some source ∧
    ∃ i ∈ names, i.name = member ∧ i.alias?.getD i.name = given

theorem mem_of_mem_putNew {k : String} {i : Import} {found : List (String × Import)} {x : String × Import}
    (h : x ∈ Assoc.putNew k i found) : x = (k, i) ∨ x ∈ found := by
  rw [Assoc.putNew] at h
  split at h
  · exact .inr h
  · exact (List.mem_append.mp h).symm.imp_left List.mem_singleton.mp

/-- The members that have names have got them from statements of the module. -/
def Bound (package : String) (body : List Stmt) (found : List (String × Import)) : Prop :=
  ∀ x ∈ found, ∀ member, x.2.member = some member → BindsMember package body x.1 member x.2.source

section Bound

variable {package : String} {body : List Stmt} {found : List (String × Import)}

/-- An import of modules brings in no members. -/
theorem Bound.addImport (h : Bound package body found) (i : Imported) :
    Bound package body (addImport found i) := by
  intro x hx member hMember
  rw [Module.addImport] at hx
  split at hx
  · rcases Assoc.mem_of_mem_put hx with rfl | hx
    · cases hMember
    · exact h x hx member hMember
  · rcases mem_of_mem_putNew hx with rfl | hx
    · cases hMember
    · exact h x hx member hMember

theorem Bound.addMember (h : Bound package body found) {source : String} {i : Imported}
    (hNew : BindsMember package body (i.alias?.getD i.name) i.name source) :
    Bound package body (addMember source found i) := by
  intro x hx member hMember
  rw [Module.addMember] at hx
  split at hx
  · exact h x hx member hMember
  · rcases Assoc.mem_of_mem_put hx with rfl | hx
    · obtain rfl := Option.some.inj hMember
      exact hNew
    · exact h x hx member hMember

/-- Members get names only from imports that name a module. -/
theorem bound_importsOf (package : String) (body : List Stmt) :
    Bound package body (importsOf package body) := by
  refine List.foldlRecOn _ _ (fun _ hNone => nomatch hNone) fun found hFound n hn => ?_
  split
  · exact List.foldlRecOn _ _ hFound fun _ hBefore i _ => hBefore.addImport i
  · rename_i name names level
    split
    · rename_i source hSource
      exact List.foldlRecOn _ _ hFound fun _ hBefore i hi =>
        hBefore.addMember ⟨name, names, level, hn, hSource, i, hi, rfl, rfl⟩
    · exact hFound
  · exact hFound

end Bound

/-! ## Relative imports -/

/-- What a relative import in a module of a package names. -/
structure RelativeImports (package : List String) (name : Option String) (level : Nat) : Prop where
  /-- The package is that of its modules, and its own. -/
  member : ∀ m : String, '.' ∉ m.toList →
    packageOf (join "." (package ++ [m])) false = join "." package
  own : packageOf (join "." package) true = join "." package
  /-- As long as there is a package to leave, the import names the module that is meant. -/
  within : level ≤ package.length →
    absoluteModule (join "." package) name level = meantModule package name level
  /-- It names none if it leaves the outermost package and goes on from there. -/
  beyond : package.length + 1 < level → absoluteModule (join "." package) name level = none
  /-- If it just leaves the outermost package, it names a module at the top. -/
  above : level = package.length + 1 →
    absoluteModule (join "." package) name level = name.filter (· ≠ "")
  /-- So it names what is meant, which may be nothing, but in this case. -/
  right_iff : absoluteModule (join "." package) name level = meantModule package name level ↔
    ¬ (level = package.length + 1 ∧ ∃ n, name = some n ∧ n ≠ "")
  /-- Where imports name no module, no member of one gets a name. -/
  bound : ∀ body, Bound (join "." package) body (importsOf (join "." package) body)

/-- **Relative imports.** They name what is meant unless they leave the outermost package. -/
theorem relativeImports {package : List String} (h : IsPackagePath package) (name : Option String)
    {level : Nat} (hLevel : 1 ≤ level) : RelativeImports package name level where
  member _ := packageOf_member
  own := rfl
  within := absoluteModule_within h hLevel
  beyond := absoluteModule_beyond h
  above := absoluteModule_above h
  right_iff := by
    by_cases hWithin : level ≤ package.length
    · exact iff_of_true (absoluteModule_within h hLevel hWithin) (by omega)
    · rw [meantModule, if_neg hWithin]
      by_cases hAbove : level = package.length + 1
      · rw [absoluteModule_above h hAbove, Option.filter_eq_none_iff]
        simp [hAbove]
      · exact iff_of_true (absoluteModule_beyond h (by omega)) (by omega)
  bound := bound_importsOf _

theorem relativeImports_member : IsPackagePath ["a", "b"] ∧ 1 ≤ 2 ∧
    RelativeImports ["a", "b"] (some "c.d") 2 ∧
    absoluteModule "a.b" (some "c.d") 2 = some "a.c.d" := by
  have hPath : IsPackagePath ["a", "b"] := by decide
  have hImports : RelativeImports ["a", "b"] (some "c.d") 2 :=
    relativeImports hPath (some "c.d") (by decide)
  exact ⟨hPath, by decide, hImports, hImports.within (by decide)⟩

/-- A module at the top that imports from a module beside it binds a name, although no package is around
them. -/
theorem not_meant_above : packageOf "m" false = join "." [] ∧
    meantModule [] (some "x") 1 = none ∧ absoluteModule (join "." []) (some "x") 1 = some "x" ∧
    importsOf (join "." []) [.importsFrom (some "x") [⟨"f", none⟩] 1] = [("f", ⟨"x", some "f"⟩)] := by
  refine ⟨by decide, by decide, by decide, ?_⟩
  cbv

end CodeAtlas.Module
