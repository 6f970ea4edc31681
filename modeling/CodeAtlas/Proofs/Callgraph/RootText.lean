import CodeAtlas.Proofs.Sections.Callgraphs
import CodeAtlas.Proofs.Text.Search

/-!
# The root of a method

Every declared method can be named by a root: its type, its member and its parameter count.

* `Root.parse_rootText`: the root of a method is read as what it was made of.
* `Root.select_of_count`: a root with a parameter count finds the first declaration that agrees.
* `rootText_leads_back`: the root of a declaration leads to the first that agrees with it, and back
  to its identity unless one of another kind stands before it.
-/

namespace CodeAtlas

open Text

variable {ι κ : Type}

/-! ## Writing roots -/

/-- A parameter count is written with the digits of a natural number. -/
theorem exists_count {arity : Int} (h : 0 ≤ arity) : ∃ n : Nat, arity = n ∧
    toString arity = toString n ∧ (toString arity).toList = Nat.toDigits 10 n := by
  obtain ⟨n, rfl⟩ := Int.eq_ofNat_of_zero_le h
  exact ⟨n, rfl, rfl, Nat.toList_repr⟩

namespace Method

/-- The member's name as a root shows it. -/
def memberName (m : Method ι) : String := if m.isConstructor then constructorName else m.name

/-- The root of a method with its parameter count, if this is a number that can be written: not
negative and not too long. -/
def rootText (m : Method ι) : Option String :=
  if 0 ≤ m.arity ∧ (toString m.arity).length ≤ maxDigits then
    some (m.typeName ++ "." ++ m.memberName ++ "/" ++ toString m.arity)
  else none

theorem isSome_rootText_iff (m : Method ι) :
    m.rootText.isSome = true ↔ 0 ≤ m.arity ∧ m.arity < 10 ^ maxDigits := by
  rw [rootText]
  by_cases hArity : 0 ≤ m.arity
  · obtain ⟨n, hn, hCount, -⟩ := exists_count hArity
    have hLength : (toString m.arity).length ≤ maxDigits ↔ n < 10 ^ maxDigits := by
      rw [hCount]
      exact Nat.length_repr_le_iff (by decide)
    have hBound : m.arity < 10 ^ maxDigits ↔ n < 10 ^ maxDigits := by
      rw [hn]
      exact_mod_cast Iff.rfl
    rw [hBound, ← hLength]
    by_cases hShort : (toString m.arity).length ≤ maxDigits
    · rw [if_pos ⟨hArity, hShort⟩]
      exact iff_of_true rfl ⟨hArity, hShort⟩
    · rw [if_neg fun h => hShort h.2]
      exact iff_of_false Bool.false_ne_true fun h => hShort h.2
  · rw [if_neg fun h => hArity h.1]
    exact iff_of_false Bool.false_ne_true fun h => hArity h.1

/-- The names of the method have no parts that are read otherwise in a root. -/
structure Nameable (m : Method ι) : Prop where
  typeName_ne : m.typeName ≠ ""
  typeName_head : ∀ c ∈ m.typeName.toList.head?, isBlank c = false
  typeName_last : m.typeName.toList.getLast? ≠ some '.'
  typeName_line : '\n' ∉ m.typeName.toList
  unqualified : startsWith m.typeName globalQualifier = false
  name_ne : m.isConstructor = false → m.name ≠ ""
  name_dot : m.isConstructor = false → '.' ∉ m.name.toList
  name_line : m.isConstructor = false → '\n' ∉ m.name.toList

/-- Does `m` agree with `d` in type, up to the global qualifier, in member and in parameter count? -/
def agrees (d m : Method ι) : Bool :=
  (m.typeName = d.typeName || m.typeName = globalQualifier ++ d.typeName) &&
    (if d.isConstructor then m.isConstructor else m.name = d.name) && m.arity = d.arity

end Method

/-! ## Reading them -/

namespace Root

section Parse

variable {m : Method ι} {text : String}

theorem cutMember_constructor (typeName : String) :
    cutMember (typeName ++ "." ++ constructorName) = some (typeName, constructorName) := by
  have hList : (typeName ++ "." ++ constructorName).toList =
      typeName.toList ++ ("." ++ constructorName).toList := by
    simp
  have hEnds : endsWith (typeName ++ "." ++ constructorName) ("." ++ constructorName) = true := by
    rw [endsWith, hList, List.isSuffixOf_iff_suffix]
    exact List.suffix_append _ _
  have hLength : ("." ++ constructorName).toList.length = 6 := by decide
  rw [cutMember, if_pos hEnds, dropLastChars, hList, List.length_append, hLength,
    Nat.add_sub_cancel, List.take_left, String.ofList_toList]

/-- A member named `ctor` is not taken for a constructor: there is no second dot before it. -/
theorem cutMember_name {typeName name : String} (hLast : typeName.toList.getLast? ≠ some '.')
    (hDot : '.' ∉ name.toList) : cutMember (typeName ++ "." ++ name) = some (typeName, name) := by
  have hEnds : endsWith (typeName ++ "." ++ name) ("." ++ constructorName) = false := by
    rw [Bool.eq_false_iff, ne_eq, endsWith, List.isSuffixOf_iff_suffix]
    rintro ⟨before, hBefore⟩
    -- read from the end, what stands before the first dot is the name, and the dot after it is in
    -- the type
    have hName : '.' ∉ name.toList.reverse := by simpa using hDot
    have hCtor : '.' ∉ "rotc".toList := by decide
    have hReverse : "rotc".toList ++ '.' :: '.' :: before.reverse =
        name.toList.reverse ++ '.' :: typeName.toList.reverse := by
      simpa [constructorName] using congrArg List.reverse hBefore
    have hCut := cutFirstChars_append hCtor ('.' :: before.reverse)
    rw [hReverse, cutFirstChars_append hName] at hCut
    have hType : typeName.toList.reverse = '.' :: before.reverse :=
      (Prod.mk.inj (Option.some.inj hCut)).2
    rw [← List.head?_reverse, hType] at hLast
    exact hLast rfl
  rw [cutMember, hEnds, if_neg Bool.false_ne_true]
  exact cutLast_append hDot

theorem cutMember_memberName (hLast : m.typeName.toList.getLast? ≠ some '.')
    (hDot : m.isConstructor = false → '.' ∉ m.name.toList) :
    cutMember (m.typeName ++ "." ++ m.memberName) = some (m.typeName, m.memberName) := by
  rw [Method.memberName]
  by_cases hCtor : m.isConstructor = true
  · rw [if_pos hCtor]
    exact cutMember_constructor m.typeName
  · rw [if_neg hCtor]
    exact cutMember_name hLast (hDot (Bool.eq_false_iff.mpr hCtor))

theorem memberName_ne (h : m.Nameable) : m.memberName ≠ "" := by
  rw [Method.memberName]
  split
  · decide
  · exact h.name_ne (Bool.eq_false_iff.mpr ‹_›)

theorem memberName_line (h : m.Nameable) : '\n' ∉ m.memberName.toList := by
  rw [Method.memberName]
  split
  · decide
  · exact h.name_line (Bool.eq_false_iff.mpr ‹_›)

/-- A parameter count that can be written is read again. -/
theorem parse_counted {spec : String} {n : Nat} (hne : spec ≠ "")
    (hHead : ∀ c ∈ spec.toList.head?, isBlank c = false) (hLine : '\n' ∉ spec.toList)
    (hShort : (Nat.toDigits 10 n).length ≤ maxDigits) :
    parse (spec ++ "/" ++ toString n) = .ok (ofSpec (spec ++ "/" ++ toString n) spec (some n)) := by
  have hList : (spec ++ "/" ++ toString n).toList = spec.toList ++ '/' :: Nat.toDigits 10 n := by
    simp [Nat.toList_repr]
  have hSpec : spec.toList ≠ [] := by simpa using hne
  have hLast : ∀ c ∈ (Nat.toDigits 10 n).getLast?, isBlank c = false := by
    intro c hc
    obtain ⟨hLower, hUpper⟩ := toNat_of_mem_toDigits (List.mem_of_getLast? hc)
    exact isBlank_of_digit hLower hUpper
  have hTrim := trimBy_counted hSpec hHead Nat.toDigits_ne_nil hLast
  have hCut := cutArity_append hSpec hLine Nat.toDigits_ne_nil
    fun c hc => isDigit_of_mem_toDigits (n := n) hc
  have hValue : arityValue (Nat.toDigits 10 n) = .ok n := by
    rw [arityValue, readNat_toDigits hShort]
  simp only [parse, hList, hTrim, hCut, hValue, String.ofList_toList]
  rfl

/-- The root of a method is read as what it was made of. -/
theorem parse_rootText (h : m.Nameable) (hText : m.rootText = some text) :
    parse text = .ok (some ⟨text, m.typeName, m.memberName, some m.arity.toNat⟩) := by
  rw [Method.rootText] at hText
  split at hText
  · rename_i hWritable
    obtain ⟨hArity, hShort⟩ := hWritable
    obtain ⟨n, hn, hCount, hDigits⟩ := exists_count hArity
    rw [← String.length_toList, hDigits] at hShort
    rw [hCount] at hText
    obtain rfl := Option.some.inj hText
    have hType : m.typeName.toList ≠ [] := by simpa using h.typeName_ne
    have hList : (m.typeName ++ "." ++ m.memberName).toList =
        m.typeName.toList ++ '.' :: m.memberName.toList := by
      simp
    have hne : m.typeName ++ "." ++ m.memberName ≠ "" := by
      rw [ne_eq, ← String.toList_inj, hList]
      simp
    have hHead : ∀ c ∈ (m.typeName ++ "." ++ m.memberName).toList.head?, isBlank c = false := by
      rw [hList, List.head?_append_of_ne_nil _ hType]
      exact h.typeName_head
    have hLine : '\n' ∉ (m.typeName ++ "." ++ m.memberName).toList := by
      rw [hList, List.mem_append, List.mem_cons]
      rintro (hLine | hLine | hLine)
      · exact h.typeName_line hLine
      · cases hLine
      · exact memberName_line h hLine
    rw [parse_counted hne hHead hLine hShort, ofSpec,
      cutMember_memberName h.typeName_last h.name_dot, hn]
    simp [withoutQualifier, h.unqualified, h.typeName_ne, memberName_ne h]
  · cases hText

end Parse

/-! ## Finding the method -/

/-- A root with a parameter count finds the first declaration that it names. -/
theorem select_of_count {r : Root} {n : Nat} {declared : List (Method ι)}
    (hCount : r.arity = some n) (h : ∃ m ∈ declared, r.names m = true) :
    ∃ m others, r.select declared = .found false m others ∧ declared.find? r.names = some m := by
  obtain ⟨d, hd, hNames⟩ := h
  rw [select]
  cases hFilter : declared.filter r.names with
  | nil => exact absurd hNames (List.filter_eq_nil_iff.mp hFilter d hd)
  | cons m others =>
    refine ⟨m, others, ?_, ?_⟩
    · dsimp only
      rw [hCount, Option.isNone_some, Bool.and_false]
    · rw [← List.head?_filter, hFilter, List.head?_cons]

end Root

section Find

variable {d : Method ι}

theorem Method.agrees_self (d : Method ι) : d.agrees d = true := by
  simp [agrees]

/-- The root of a method names what agrees with it. -/
theorem names_rootText (h : d.Nameable) (hArity : 0 ≤ d.arity) (text : String) (m : Method ι) :
    Root.names ⟨text, d.typeName, d.memberName, some d.arity.toNat⟩ m = d.agrees m := by
  have hCount : ((some d.arity.toNat).all fun n => m.arity = n) = decide (m.arity = d.arity) := by
    show decide (m.arity = (d.arity.toNat : Int)) = _
    rw [Int.toNat_of_nonneg hArity]
  by_cases hCtor : d.isConstructor = true
  · have hMember : d.memberName = constructorName := if_pos hCtor
    rw [Root.names, Method.agrees, hMember, hCount, if_pos hCtor]
    rfl
  · have hMember : d.memberName = d.name := if_neg hCtor
    have hName : d.name ≠ constructorName := by
      intro hName
      refine h.name_dot (Bool.eq_false_iff.mpr hCtor) ?_
      rw [hName]
      decide
    have hPlain : ¬ Root.isConstructor ⟨text, d.typeName, d.name, some d.arity.toNat⟩ = true := by
      rw [Root.isConstructor, decide_eq_true_eq]
      exact hName
    rw [Root.names, Method.agrees, hMember, hCount, if_neg hCtor, if_neg hPlain]

/-- Nothing else that is declared can stand for `d`: no type of its name carries the qualifier, and
no constructor of its type has its name. -/
structure Unrivalled (declared : List (Method ι)) (d : Method ι) : Prop where
  unqualified : ∀ m ∈ declared, m.typeName ≠ globalQualifier ++ d.typeName
  unconstructed : d.isConstructor = false → ∀ m ∈ declared, m.typeName = d.typeName →
    m.isConstructor = true → m.name ≠ d.name

theorem Unrivalled.id_eq {declared : List (Method ι)} {m : Method ι} (h : Unrivalled declared d)
    (hm : m ∈ declared) (hAgrees : d.agrees m = true) : m.id = d.id := by
  rw [Method.agrees, Bool.and_eq_true, Bool.and_eq_true, Bool.or_eq_true, decide_eq_true_eq,
    decide_eq_true_eq, decide_eq_true_eq] at hAgrees
  obtain ⟨⟨hType, hMember⟩, hArity⟩ := hAgrees
  have hType : m.typeName = d.typeName := hType.resolve_right (h.unqualified m hm)
  have hName : m.identityName = d.identityName := by
    rw [Method.identityName, Method.identityName]
    by_cases hCtor : d.isConstructor = true
    · rw [if_pos hCtor] at hMember ⊢
      rw [if_pos hMember]
    · rw [if_neg hCtor, decide_eq_true_eq] at hMember
      have hPlain : ¬ m.isConstructor = true := fun hm' =>
        h.unconstructed (Bool.eq_false_iff.mpr hCtor) m hm hType hm' hMember
      rw [if_neg hCtor, if_neg hPlain, hMember]
  rw [Method.id, Method.id, hType, hName, hArity]

/-! ## Identities as roots -/

theorem stripGenerics_eq_self {s : String} (hTick : '\x60' ∉ s.toList) (hAngle : '<' ∉ s.toList) :
    stripGenerics s = s := by
  have hCut : ∀ c, c ∉ s.toList → cutMarker c s.toList = s.toList := by
    intro c hc
    rw [cutMarker, cutFirstChars_of_not_mem hc]
  rw [stripGenerics, stripGenericsChars, hCut _ hTick, hCut _ hAngle, String.ofList_toList]

/-- The names of the method bear no generic markers. -/
structure Method.Plain (m : Method ι) : Prop where
  typeName_tick : '\x60' ∉ m.typeName.toList
  typeName_angle : '<' ∉ m.typeName.toList
  name_tick : m.isConstructor = false → '\x60' ∉ m.name.toList
  name_angle : m.isConstructor = false → '<' ∉ m.name.toList

theorem id_eq_of_plain (hType : d.typeName ≠ "") (hPlain : d.Plain) :
    d.id = d.typeName ++ "." ++ d.memberName ++ "(" ++ toString d.arity ++ ")" := by
  have hName : d.identityName = d.memberName := by
    rw [Method.identityName, Method.memberName]
    by_cases hCtor : d.isConstructor = true
    · rw [if_pos hCtor, if_pos hCtor]
    · have hFalse : d.isConstructor = false := Bool.eq_false_iff.mpr hCtor
      rw [if_neg hCtor, if_neg hCtor,
        stripGenerics_eq_self (hPlain.name_tick hFalse) (hPlain.name_angle hFalse)]
  rw [Method.id, identityType, if_neg hType,
    stripGenerics_eq_self hPlain.typeName_tick hPlain.typeName_angle, hName]

/-- The last bracket opens the parameter count. -/
theorem eq_of_counted {x y n k : String} (hn : '(' ∉ n.toList) (hk : '(' ∉ k.toList)
    (h : x ++ "(" ++ n ++ ")" = y ++ "(" ++ k ++ ")") : x = y ∧ n = k := by
  have hClosed : ∀ {t : String}, '(' ∉ t.toList → '(' ∉ (t ++ ")").toList := by
    intro t ht
    simpa using ht
  have hCut : cutLast '(' (x ++ "(" ++ (n ++ ")")) = some (x, n ++ ")") :=
    cutLast_append (hClosed hn)
  have hCut' : cutLast '(' (y ++ "(" ++ (k ++ ")")) = some (y, k ++ ")") :=
    cutLast_append (hClosed hk)
  have hAssoc : ∀ s t : String, s ++ "(" ++ t ++ ")" = s ++ "(" ++ (t ++ ")") :=
    fun _ _ => String.append_assoc
  rw [hAssoc, hAssoc] at h
  rw [h, hCut'] at hCut
  obtain ⟨hx, hn⟩ := Prod.mk.inj (Option.some.inj hCut)
  exact ⟨hx.symm, (String.append_left_inj ")").mp hn.symm⟩

theorem rootText_eq {text : String} (hText : d.rootText = some text) :
    0 ≤ d.arity ∧ text = d.typeName ++ "." ++ d.memberName ++ "/" ++ toString d.arity := by
  rw [Method.rootText] at hText
  split at hText
  · rename_i hWritable
    exact ⟨hWritable.1, (Option.some.inj hText).symm⟩
  · cases hText

/-- An identity `x(n)` becomes the root `x/n`. -/
theorem rootText_of_id {text x n : String} (h : d.Nameable) (hPlain : d.Plain)
    (hText : d.rootText = some text) (hn : '(' ∉ n.toList) (hId : d.id = x ++ "(" ++ n ++ ")") :
    x ++ "/" ++ n = text := by
  obtain ⟨hArity, rfl⟩ := rootText_eq hText
  have hCount : '(' ∉ (toString d.arity).toList := by
    obtain ⟨k, -, -, hDigits⟩ := exists_count hArity
    intro hMem
    rw [hDigits] at hMem
    exact absurd (toNat_of_mem_toDigits hMem).1 (by decide)
  rw [id_eq_of_plain h.typeName_ne hPlain] at hId
  obtain ⟨rfl, rfl⟩ := eq_of_counted hCount hn hId
  rfl

end Find

/-! ## There and back -/

section LeadsBack

variable {p : Provider ι κ} {project : Project} {declared : List (Method ι)} {d : Method ι}
  {text : String}

/-- The root `text` of the declaration `d` finds `m`, the first that agrees with `d`. If nothing
rivals `d`, this is its identity, which can be turned into the root if it is plain. -/
structure LeadsBack (p : Provider ι κ) (project : Project) (declared : List (Method ι))
    (d : Method ι) (text : String) (m : Method ι) (others : List (Method ι)) : Prop where
  parses : Root.parse text = .ok (some ⟨text, d.typeName, d.memberName, some d.arity.toNat⟩)
  found : (resolveText p project text).result = .ok (.found false m others)
  first : declared.find? d.agrees = some m
  identity : Unrivalled declared d → m.id = d.id
  back : Unrivalled declared d → d.Plain → ∀ x n, '(' ∉ n.toList → d.id = x ++ "(" ++ n ++ ")" →
    (resolveText p project (x ++ "/" ++ n)).result = .ok (.found false m others) ∧
      m.id = x ++ "(" ++ n ++ ")"

/-- The root of a declaration leads to the first that agrees with it, and back to its identity if
nothing rivals it. -/
theorem rootText_leads_back (hDeclared : p.declarations project = .ok declared) (hd : d ∈ declared)
    (hNameable : d.Nameable) (hText : d.rootText = some text) :
    ∃ m others, LeadsBack p project declared d text m others := by
  obtain ⟨hArity, -⟩ := rootText_eq hText
  have hParse := Root.parse_rootText hNameable hText
  have hNames : Root.names ⟨text, d.typeName, d.memberName, some d.arity.toNat⟩ = d.agrees :=
    funext (names_rootText hNameable hArity text)
  obtain ⟨m, others, hSelect, hFirst⟩ := Root.select_of_count
    (r := ⟨text, d.typeName, d.memberName, some d.arity.toNat⟩) rfl
    ⟨d, hd, (congrFun hNames d).trans d.agrees_self⟩
  rw [hNames] at hFirst
  have hFound : (resolveText p project text).result = .ok (.found false m others) := by
    have hRead : (Traced.ofExcept (Root.parse text)).result =
        .ok (some ⟨text, d.typeName, d.memberName, some d.arity.toNat⟩) := hParse
    rw [resolveText, Traced.result_bind_of_ok hRead, result_resolveRoot, hDeclared, Except.map,
      hSelect]
  have hId : Unrivalled declared d → m.id = d.id := fun hUnrivalled =>
    hUnrivalled.id_eq (List.mem_of_find?_eq_some hFirst) (List.find?_some hFirst)
  refine ⟨m, others, hParse, hFound, hFirst, hId, fun hUnrivalled hPlain x n hn hEq => ?_⟩
  rw [rootText_of_id hNameable hPlain hText hn hEq]
  exact ⟨hFound, (hId hUnrivalled).trans hEq⟩

/-- Two methods of one identity: the root of the second finds the first. -/
theorem rootText_leads_back_jobStep :
    ∃ m others, LeadsBack rootedProvider jobProject [jobRun, jobStep 1, jobStep 2] (jobStep 2)
        "Job.step/1" m others ∧
      (resolveText rootedProvider jobProject ("Job.step" ++ "/" ++ "1")).result =
        .ok (.found false m others) ∧ m.id = "Job.step" ++ "(" ++ "1" ++ ")" := by
  have hHead : ∀ c ∈ (jobStep 2).typeName.toList.head?, isBlank c = false := by
    intro c hc
    obtain rfl : 'J' = c := Option.some.inj hc
    decide
  have hNameable : (jobStep 2).Nameable := by
    refine ⟨?_, hHead, ?_, ?_, ?_, ?_, ?_, ?_⟩ <;> decide
  have hText : (jobStep 2).rootText = some "Job.step/1" := by decide
  have hDeclared : rootedProvider.declarations jobProject = .ok [jobRun, jobStep 1, jobStep 2] := rfl
  obtain ⟨m, others, h⟩ := rootText_leads_back hDeclared (by simp) hNameable hText
  have hUnrivalled : Unrivalled [jobRun, jobStep 1, jobStep 2] (jobStep 2) := by
    constructor <;> decide
  have hPlain : (jobStep 2).Plain := by
    constructor <;> decide
  exact ⟨m, others, h, h.back hUnrivalled hPlain "Job.step" "1" (by decide) (by decide)⟩

end LeadsBack

end CodeAtlas
