import CodeAtlas.Proofs.Callgraph.RootText

/-!
# What an identity tells

An identity is one text in which the type, the member and the number of parameters of a method stand
behind each other. They can be told apart again where the names do not look like what stands between them.

* `identitiesTell`: methods with the same identity have the same type, member and number of parameters,
  and a generic suffix does not show.
-/

namespace CodeAtlas

open Text

variable {ι κ : Type}

/-! ## Generic suffixes -/

/-- There is nothing to cut off at a marker: the text begins with it or is without it. -/
def Uncut (marker : Char) (cs : List Char) : Prop := cs.head? = some marker ∨ marker ∉ cs

section Cut

variable {a b : Char} {cs : List Char}

/-- The first character is never cut off. -/
theorem cutMarker_cons (a c : Char) (cs : List Char) :
    cutMarker a (c :: cs) = c :: if c = a then cs else cs.takeWhile (· != a) := by
  by_cases hc : c = a
  · have hCut : cutFirstChars a (c :: cs) = some ([], cs) := by
      rw [hc]
      exact cutFirstChars_append List.not_mem_nil cs
    rw [cutMarker, hCut, if_pos hc]
    rfl
  · rw [if_neg hc]
    by_cases hMem : a ∈ cs
    · obtain ⟨before, after, rfl, hBefore⟩ := List.eq_append_cons_of_mem hMem
      have hNot : a ∉ c :: before := by simp [hBefore, Ne.symm hc]
      have hCut : cutFirstChars a (c :: (before ++ a :: after)) = some (c :: before, after) :=
        cutFirstChars_append hNot after
      have hTake : (before ++ a :: after).takeWhile (· != a) = before := by
        rw [List.takeWhile_append_of_pos fun x hx => by simpa using fun h : x = a => hBefore (h ▸ hx)]
        simp
      rw [cutMarker, hCut, hTake]
      rfl
    · have hCut : cutFirstChars a (c :: cs) = none :=
        cutFirstChars_of_not_mem (by simp [hMem, Ne.symm hc])
      have hTake : cs.takeWhile (· != a) = cs :=
        List.takeWhile_eq_self_iff.mpr fun x hx => by simpa using fun h : x = a => hMem (h ▸ hx)
      rw [cutMarker, hCut, hTake]

theorem Uncut.cutMarker_eq (h : Uncut a cs) : cutMarker a cs = cs := by
  cases cs with
  | nil => rfl
  | cons c cs =>
    rw [cutMarker_cons]
    split
    · rfl
    · rename_i hc
      have hNot : a ∉ c :: cs := h.resolve_left fun hHead => hc (Option.some.inj hHead)
      rw [List.takeWhile_eq_self_iff.mpr]
      intro x hx
      simpa using fun h : x = a => hNot (h ▸ List.mem_cons_of_mem c hx)

theorem uncut_cutMarker (a : Char) (cs : List Char) : Uncut a (cutMarker a cs) := by
  cases cs with
  | nil => exact .inr List.not_mem_nil
  | cons c cs =>
    rw [cutMarker_cons]
    by_cases hc : c = a
    · exact .inl (congrArg some hc)
    · rw [if_neg hc]
      refine .inr fun hMem => ?_
      rcases List.mem_cons.mp hMem with hEq | hMem
      · exact hc hEq.symm
      · simpa using List.mem_takeWhile_imp hMem

/-- A cut at another marker leaves nothing to cut off either. -/
theorem Uncut.cutMarker (h : Uncut a cs) (b : Char) : Uncut a (cutMarker b cs) := by
  cases cs with
  | nil => exact h
  | cons c cs =>
    rw [cutMarker_cons]
    refine h.imp id fun hNot hMem => hNot ?_
    rcases List.mem_cons.mp hMem with rfl | hMem
    · exact List.mem_cons_self
    · refine List.mem_cons_of_mem c ?_
      split at hMem
      · exact hMem
      · exact (List.takeWhile_sublist _).subset hMem

end Cut

/-- A name without its generic suffix has none. -/
theorem stripGenerics_stripGenerics (s : String) : stripGenerics (stripGenerics s) = stripGenerics s := by
  have hTick : Uncut '\x60' (stripGenericsChars s.toList) := (uncut_cutMarker _ _).cutMarker _
  have hAngle : Uncut '<' (stripGenericsChars s.toList) := uncut_cutMarker _ _
  have hAgain : stripGenericsChars (stripGenericsChars s.toList) = stripGenericsChars s.toList := by
    rw [stripGenericsChars, hTick.cutMarker_eq, hAngle.cutMarker_eq]
  rw [stripGenerics, stripGenerics, String.toList_ofList, hAgain]

theorem stripGenerics_eq_empty_iff {s : String} : stripGenerics s = "" ↔ s = "" := by
  have hCut : ∀ a cs, cutMarker a cs = [] ↔ cs = [] := by
    intro a cs
    cases cs with
    | nil => exact iff_of_true rfl rfl
    | cons c cs =>
      rw [cutMarker_cons]
      exact iff_of_false (List.cons_ne_nil _ _) (List.cons_ne_nil _ _)
  rw [← String.toList_inj, stripGenerics, String.toList_ofList, stripGenericsChars, String.toList_empty,
    hCut, hCut, String.toList_eq_nil_iff]

namespace Method

/-- The method with its names without their generic suffixes. -/
def stripped (m : Method ι) : Method ι :=
  { m with typeName := stripGenerics m.typeName, name := stripGenerics m.name }

/-- A generic suffix does not show in an identity. -/
theorem id_stripped (m : Method ι) : m.stripped.id = m.id := by
  have hType : identityType (stripGenerics m.typeName) = identityType m.typeName := by
    rw [identityType, identityType]
    by_cases hEmpty : m.typeName = ""
    · rw [if_pos hEmpty, if_pos (stripGenerics_eq_empty_iff.mpr hEmpty)]
    · rw [if_neg hEmpty, if_neg fun h => hEmpty (stripGenerics_eq_empty_iff.mp h),
        stripGenerics_stripGenerics]
  have hName : m.stripped.identityName = m.identityName := by
    rw [identityName, identityName]
    exact ite_congr rfl (fun _ => rfl) fun _ => stripGenerics_stripGenerics m.name
  rw [id, id, hName]
  exact congrArg (· ++ "." ++ m.identityName ++ "(" ++ toString m.arity ++ ")") hType

end Method

/-! ## Parts of an identity -/

theorem toString_negSucc (n : Nat) : toString (Int.negSucc n) = "-" ++ toString (n + 1) := rfl

theorem toNat_of_mem_toString {n : Nat} {c : Char} (h : c ∈ (toString n).toList) :
    48 ≤ c.toNat ∧ c.toNat < 58 := toNat_of_mem_toDigits (n := n) (Nat.toList_repr ▸ h)

/-- A natural number is not written like a negative one. -/
theorem toString_ne_negative (n k : Nat) : toString n ≠ "-" ++ toString k := by
  intro hEq
  have hMinus : '-' ∈ (toString n).toList := by
    rw [hEq, String.toList_append]
    exact List.mem_cons_self
  exact absurd (toNat_of_mem_toString hMinus).1 (by decide)

/-- A whole number is known from its numeral. -/
theorem toString_int_inj {a b : Int} : toString a = toString b ↔ a = b := by
  refine ⟨fun h => ?_, fun h => by rw [h]⟩
  cases a with
  | ofNat n =>
    cases b with
    | ofNat k => exact congrArg Int.ofNat (Nat.repr_inj.mp h)
    | negSucc k => exact absurd h (toString_ne_negative n (k + 1))
  | negSucc n =>
    cases b with
    | ofNat k => exact absurd h.symm (toString_ne_negative k (n + 1))
    | negSucc k =>
      rw [toString_negSucc, toString_negSucc, String.append_right_inj] at h
      exact congrArg Int.negSucc (Nat.succ.inj (Nat.repr_inj.mp h))

theorem bracket_not_mem_toString (a : Int) : '(' ∉ (toString a).toList := by
  have hDigits : ∀ n : Nat, '(' ∉ (toString n).toList := fun n hMem =>
    absurd (toNat_of_mem_toString hMem).1 (by decide)
  cases a with
  | ofNat n => exact hDigits n
  | negSucc n =>
    rw [toString_negSucc, String.toList_append, List.mem_append]
    rintro (hMem | hMem)
    · exact absurd hMem (by decide)
    · exact hDigits (n + 1) hMem

namespace Method

variable {m : Method ι} {m' : Method κ}

/-- The names of the method do not look like what stands between the parts of an identity. The name of a
constructor does not show. -/
structure Separable (m : Method ι) : Prop extends m.Plain where
  typeName_ne : m.typeName ≠ ""
  typeName_last : m.typeName.toList.getLast? ≠ some '.'
  name_dot : m.isConstructor = false → '.' ∉ m.name.toList

/-- The member's name says whether the member is a constructor. -/
theorem Separable.isConstructor_eq (h : m.Separable) :
    m.isConstructor = decide (m.memberName = constructorName) := by
  cases hCtor : m.isConstructor with
  | true => rw [memberName, if_pos hCtor, decide_eq_true rfl]
  | false =>
    have hName : m.memberName = m.name := if_neg (by rw [hCtor]; exact Bool.false_ne_true)
    refine (decide_eq_false fun hEq => h.name_dot hCtor ?_).symm
    rw [← hName, hEq]
    decide

theorem memberName_eq_iff (hCtor : m.isConstructor = m'.isConstructor) :
    m.memberName = m'.memberName ↔ (m.isConstructor = false → m.name = m'.name) := by
  rw [memberName, memberName, ← hCtor]
  cases m.isConstructor <;> simp

/-- What an identity says about a method. -/
structure IdentitiesTell (m : Method ι) (m' : Method κ) : Prop where
  /-- Two methods have the same one just if it shows the same of both. -/
  id_eq_iff : m.id = m'.id ↔ m.typeName = m'.typeName ∧ m.arity = m'.arity ∧
    m.isConstructor = m'.isConstructor ∧ (m.isConstructor = false → m.name = m'.name)
  /-- Whatever the names of a method are, their generic suffixes do not show. -/
  stripped : ∀ d : Method ι, d.stripped.id = d.id

/-- **Identities.** They tell methods apart whose names are separable. -/
theorem identitiesTell (h : m.Separable) (h' : m'.Separable) : IdentitiesTell m m' where
  id_eq_iff := by
    rw [id_eq_of_plain h.typeName_ne h.toPlain, id_eq_of_plain h'.typeName_ne h'.toPlain]
    constructor
    · intro hId
      obtain ⟨hNames, hCount⟩ := eq_of_counted (bracket_not_mem_toString m.arity)
        (bracket_not_mem_toString m'.arity) hId
      -- the type and the member are cut apart as they are where the identity is read as a root
      have hCut := Root.cutMember_memberName h.typeName_last h.name_dot
      rw [hNames, Root.cutMember_memberName h'.typeName_last h'.name_dot] at hCut
      obtain ⟨hType, hMember⟩ := Prod.mk.inj (Option.some.inj hCut)
      have hCtor : m.isConstructor = m'.isConstructor := by
        rw [h.isConstructor_eq, h'.isConstructor_eq, hMember]
      exact ⟨hType.symm, toString_int_inj.mp hCount, hCtor, (memberName_eq_iff hCtor).mp hMember.symm⟩
    · rintro ⟨hType, hArity, hCtor, hName⟩
      rw [hType, hArity, (memberName_eq_iff hCtor).mpr hName]
  stripped := id_stripped

/-- A method with brackets in its names, which stand in no one's way. -/
def bracketedCall : Method Nat := ⟨"a.b(1)", "call(2)", -1, false, true, none, none, 0⟩

/-- A constructor whose own name has a marker. -/
def markedConstructor : Method Nat := ⟨"a.b", "<init>", 0, true, true, none, none, 0⟩

theorem identitiesTell_bracketedCall : bracketedCall.Separable ∧ markedConstructor.Separable ∧
    IdentitiesTell bracketedCall markedConstructor ∧ bracketedCall.id = "a.b(1).call(2)(-1)" ∧
    markedConstructor.id = "a.b..ctor(0)" := by
  have hMethod : bracketedCall.Separable := by
    refine ⟨⟨?_, ?_, fun _ => ?_, fun _ => ?_⟩, ?_, ?_, fun _ => ?_⟩ <;> decide
  have hConstructor : markedConstructor.Separable := by
    refine ⟨⟨?_, ?_, nofun, nofun⟩, ?_, ?_, nofun⟩ <;> decide
  exact ⟨hMethod, hConstructor, identitiesTell hMethod hConstructor, by decide, by decide⟩

end Method

end CodeAtlas
