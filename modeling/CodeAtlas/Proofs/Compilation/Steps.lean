import CodeAtlas.Proofs.Assoc
import CodeAtlas.Proofs.Compilation.Declared
import Mathlib.Logic.Relation

/-!
# Declaring step by step

All that a unit declares is added by steps, each of which adds a type, a method or some fields. What
every step preserves holds of every unit.

* `Declared.Sound`: types stand at the places that are their numbers, inside types with smaller ones,
  and know their methods.
* `sound_sourceOf`: what a unit declares is sound.
-/

namespace CodeAtlas.Compilation

theorem getElem?_concat {α : Type} {xs : List α} {x y : α} {i : Nat}
    (h : (xs ++ [x])[i]? = some y) : xs[i]? = some y ∨ i = xs.length ∧ x = y := by
  rcases Nat.lt_or_ge i xs.length with hi | hi
  · rw [List.getElem?_append_left hi] at h
    exact .inl h
  · rw [List.getElem?_append_right hi] at h
    have hBound := (List.getElem?_eq_some_iff.mp h).1
    rw [List.length_singleton] at hBound
    have hLast : i - xs.length = 0 := by omega
    rw [hLast] at h
    exact .inr ⟨by omega, Option.some.inj h⟩

namespace Declared

variable {d d' : Declared}

/-! ## Steps -/

/-- One thing is added in a type that is there already. -/
inductive Step (d : Declared) : Declared → Prop
  | type (owner : Option Nat) (n : Node) : (∀ o ∈ owner, o < d.allTypes.length) →
      Step d (d.addType owner n)
  | callable (owner : Nat) (n : Node) : owner < d.allTypes.length → Step d (d.addCallable owner n)
  | fields (owner : Nat) (n : Node) : owner < d.allTypes.length → Step d (d.addFields owner n)

/-- Some things are added one after the other. -/
abbrev Steps : Declared → Declared → Prop := Relation.ReflTransGen Step

@[simp] theorem length_modifyType (d : Declared) (n : Nat) (f : TypeDecl → TypeDecl) :
    (d.modifyType n f).allTypes.length = d.allTypes.length := List.length_modify ..

theorem length_addType (owner : Option Nat) (d : Declared) (n : Node) :
    (d.addType owner n).allTypes.length = d.allTypes.length + 1 := by
  cases owner <;> simp [addType]

theorem Step.length_le (h : Step d d') : d.allTypes.length ≤ d'.allTypes.length := by
  cases h with
  | type owner n => rw [length_addType]; omega
  | callable owner n => simp [addCallable]
  | fields owner n => simp [addFields]

theorem Steps.length_le (h : Steps d d') : d.allTypes.length ≤ d'.allTypes.length := by
  induction h with
  | refl => exact Nat.le_refl _
  | tail _ hStep ih => exact Nat.le_trans ih hStep.length_le

mutual

theorem steps_addMember (owner : Nat) (d : Declared) (n : Node) (h : owner < d.allTypes.length) :
    Steps d (addMember owner d n) := by
  match n with
  | .leaf .. => exact .refl
  | .branch role kind children =>
    cases kind with
    | typeDeclaration =>
      have hOwner : ∀ o ∈ some owner, o < d.allTypes.length := by
        rintro o ⟨⟩
        exact h
      exact .head (.type (some owner) _ hOwner)
        (steps_addBodies _ _ children (by rw [length_addType]; omega))
    | enumMembers => exact steps_addMembers owner d children h
    | method => exact .single (.callable owner _ h)
    | constructor => exact .single (.callable owner _ h)
    | fields => exact .single (.fields owner _ h)
    | _ => exact .refl

theorem steps_addMembers (owner : Nat) (d : Declared) (ns : List Node)
    (h : owner < d.allTypes.length) : Steps d (addMembers owner d ns) := by
  match ns with
  | [] => exact .refl
  | n :: rest =>
    have hFirst := steps_addMember owner d n h
    exact hFirst.trans (steps_addMembers owner _ rest
      (Nat.lt_of_lt_of_le h (Steps.length_le hFirst)))

theorem steps_addBodies (owner : Nat) (d : Declared) (ns : List Node)
    (h : owner < d.allTypes.length) : Steps d (addBodies owner d ns) := by
  match ns with
  | [] => exact .refl
  | .leaf .. :: rest => exact steps_addBodies owner d rest h
  | .branch role _ children :: rest =>
    have hFirst : Steps d (if role = .body then addMembers owner d children else d) := by
      split
      · exact steps_addMembers owner d children h
      · exact .refl
    exact hFirst.trans (steps_addBodies owner _ rest
      (Nat.lt_of_lt_of_le h (Steps.length_le hFirst)))

end

theorem steps_foldl (ns : List Node) (d : Declared) : Steps d (ns.foldl addTop d) := by
  induction ns generalizing d with
  | nil => exact .refl
  | cons n ns ih =>
    refine Relation.ReflTransGen.trans ?_ (ih _)
    rw [addTop]
    split
    · refine .head (.type none n ?_) (steps_addBodies _ _ _ (by rw [length_addType]; omega))
      intro _ hOwner
      cases hOwner
    · exact .refl

/-! ## What steps preserve -/

/-- The methods of a type, by their numbers. -/
def Owns (d : Declared) (i : Nat) (name : String) (j : Nat) : Prop :=
  ∃ c ∈ d.declarations, c.number = j ∧ c.owner = i ∧ c.name = name ∧ c.isConstructor = false

/-- What the type at a place knows of itself. -/
structure Placed (d : Declared) (i : Nat) (t : TypeDecl) : Prop where
  number : t.number = i
  /-- It stands in an earlier type, if in any. -/
  outer : ∀ o ∈ t.outer, o < i
  methods : ∀ name j, j ∈ (t.methods.lookup name).getD [] ↔ d.Owns i name j

/-- Everything that is declared fits together. -/
structure Sound (d : Declared) : Prop where
  types : ∀ i t, d.allTypes[i]? = some t → d.Placed i t
  owners : ∀ c ∈ d.declarations, c.owner < d.allTypes.length
  numbered : d.Numbered

theorem sound_empty : empty.Sound := ⟨nofun, nofun, rfl⟩

/-- What a type knows of itself does not depend on its fields and the types in it. -/
theorem Placed.congr {i : Nat} {t t' : TypeDecl} (h : d.Placed i t)
    (hDeclarations : d'.declarations = d.declarations) (hNumber : t'.number = t.number)
    (hOuter : t'.outer = t.outer) (hMethods : t'.methods = t.methods) : d'.Placed i t' where
  number := hNumber.trans h.number
  outer := hOuter ▸ h.outer
  methods name j := by rw [hMethods, h.methods, Owns, Owns, hDeclarations]

/-- Types may get other fields, and other types in them. -/
theorem Sound.modifyType (h : d.Sound) (owner : Nat) {f : TypeDecl → TypeDecl}
    (hNumber : ∀ t, (f t).number = t.number) (hOuter : ∀ t, (f t).outer = t.outer)
    (hMethods : ∀ t, (f t).methods = t.methods) : (d.modifyType owner f).Sound where
  types i t ht := by
    rw [Declared.modifyType, List.getElem?_modify] at ht
    obtain ⟨u, hu, rfl⟩ := Option.map_eq_some_iff.mp ht
    split
    · exact (h.types i u hu).congr rfl (hNumber u) (hOuter u) (hMethods u)
    · exact (h.types i u hu).congr rfl rfl rfl rfl
  owners := by
    rw [length_modifyType]
    exact h.owners
  numbered := h.numbered

/-- A new type may stand behind all others. -/
theorem Sound.concat (h : d.Sound) {t : TypeDecl} (hNumber : t.number = d.allTypes.length)
    (hOuter : ∀ o ∈ t.outer, o < d.allTypes.length) (hMethods : t.methods = [])
    (types : List (String × Nat)) :
    Sound { d with allTypes := d.allTypes ++ [t], types := types } where
  types i u hu := by
    rcases getElem?_concat hu with hOld | ⟨rfl, rfl⟩
    · exact (h.types i u hOld).congr rfl rfl rfl rfl
    · refine ⟨hNumber, hOuter, fun name j => ?_⟩
      -- no method has been declared in a type before the type itself
      rw [hMethods]
      refine iff_of_false (by simp) ?_
      rintro ⟨c, hc, -, hOwner, -⟩
      exact absurd (h.owners c hc) (by omega)
  owners c hc := by
    have hLess := h.owners c hc
    simp only [List.length_append, List.length_singleton]
    omega
  numbered := h.numbered

theorem Sound.addType (h : d.Sound) {owner : Option Nat} (n : Node)
    (hOwner : ∀ o ∈ owner, o < d.allTypes.length) : (d.addType owner n).Sound := by
  dsimp only [Declared.addType]
  cases owner with
  | none => exact h.concat rfl hOwner rfl _
  | some o =>
    refine Sound.modifyType ?_ o (fun _ => rfl) (fun _ => rfl) fun _ => rfl
    exact h.concat rfl hOwner rfl d.types

theorem owns_addCallable {owner i j : Nat} {n : Node} {name : String} :
    (d.addCallable owner n).Owns i name j ↔ d.Owns i name j ∨
      d.declarations.length = j ∧ owner = i ∧ (callableOf j owner n).name = name ∧
        (callableOf j owner n).isConstructor = false := by
  simp only [Owns, addCallable, modifyType, List.mem_append, List.mem_singleton, or_and_right,
    exists_or, exists_eq_left]
  exact or_congr_right (and_congr_right fun _ => .rfl)

theorem Sound.addCallable (h : d.Sound) {owner : Nat} (n : Node)
    (hOwner : owner < d.allTypes.length) : (d.addCallable owner n).Sound where
  types i t ht := by
    rw [Declared.addCallable, Declared.modifyType, List.getElem?_modify] at ht
    obtain ⟨u, hu, rfl⟩ := Option.map_eq_some_iff.mp ht
    have hPlaced := h.types i u hu
    -- only the type that the method stands in may get to know it
    have hOther : owner ≠ i ∨ (callableOf d.declarations.length owner n).isConstructor = true →
        ∀ name j, j ∈ (u.methods.lookup name).getD [] ↔ (d.addCallable owner n).Owns i name j := by
      rintro hNot name j
      rw [hPlaced.methods, owns_addCallable, or_iff_left]
      rintro ⟨rfl, hOwner, -, hKind⟩
      exact hNot.elim (fun hNe => hNe hOwner) fun hConstructor => by simp [hKind] at hConstructor
    split
    · rename_i hSame
      split
      · exact ⟨hPlaced.number, hPlaced.outer, hOther (.inr ‹_›)⟩
      · rename_i hMethod
        refine ⟨hPlaced.number, hPlaced.outer, fun name j => ?_⟩
        have hKind : (callableOf d.declarations.length owner n).isConstructor = false := by
          simpa using hMethod
        rw [Assoc.getD_lookup_push, owns_addCallable, ← hPlaced.methods]
        split
        · rename_i hName
          obtain rfl := eq_of_beq hName
          rw [List.mem_append, List.mem_singleton]
          refine or_congr_right ⟨?_, fun hNew => hNew.1.symm⟩
          rintro rfl
          exact ⟨rfl, hSame, rfl, hKind⟩
        · rename_i hName
          refine (or_iff_left ?_).symm
          rintro ⟨rfl, -, rfl, -⟩
          exact hName (beq_self_eq_true _)
    · exact ⟨hPlaced.number, hPlaced.outer, hOther (.inl ‹_›)⟩
  owners c hc := by
    rw [Declared.addCallable] at hc ⊢
    rw [length_modifyType]
    rcases List.mem_append.mp hc with hc | hc
    · exact h.owners c hc
    · rw [List.mem_singleton.mp hc]
      exact hOwner
  numbered := (adds_addCallable owner d n).numbered h.numbered

theorem Sound.addFields (h : d.Sound) (owner : Nat) (n : Node) : (d.addFields owner n).Sound :=
  h.modifyType owner (fun _ => rfl) (fun _ => rfl) fun _ => rfl

theorem Sound.step (h : d.Sound) (hStep : Step d d') : d'.Sound := by
  cases hStep with
  | type owner n hOwner => exact h.addType n hOwner
  | callable owner n hOwner => exact h.addCallable n hOwner
  | fields owner n => exact h.addFields owner n

theorem Sound.steps (h : d.Sound) (hSteps : Steps d d') : d'.Sound := by
  induction hSteps with
  | refl => exact h
  | tail _ hStep ih => exact ih.step hStep

end Declared

/-! ## Units -/

/-- What has been declared in a unit. -/
def Source.declared (s : Source) : Declared := ⟨s.allTypes, s.types, s.declarations⟩

theorem sound_sourceOf (number : Nat) (path : String) (tree : Node) :
    (sourceOf number path tree).declared.Sound :=
  Declared.sound_empty.steps (Declared.steps_foldl tree.children .empty)

end CodeAtlas.Compilation
