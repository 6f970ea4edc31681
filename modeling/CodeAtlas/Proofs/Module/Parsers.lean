import CodeAtlas.Module.Indexing
import CodeAtlas.Proofs.Module.Blocks
import CodeAtlas.Proofs.Order
import Mathlib

/-!
# What added parsers take

A statement that puts an added parser into a variable makes a command, and calls in later statements of
its block, which add arguments to what is in the variable, say what the command takes. Nothing follows
what else is put into the variable in between.

* `parsersCollect`: a command takes what the calls behind its statement in the block say; a call behind
  several such statements counts for all of them, and for the latest one alone if nothing comes between.
* `flags_reused`: where a variable is used for two parsers, the first takes what is meant for the second.
-/

namespace CodeAtlas.Module

/-! ## Parsers and arguments -/

/-- The statement puts an added parser into the variable. -/
def Stmt.AssignsParser (s : Stmt) (x : String) : Prop :=
  ∃ line c, s.call? = some (line, some x, c) ∧ c.isMethod "add_parser" = true

/-- At the place `p` an added parser is put into the variable. -/
def ParserAt (body : List Stmt) (x : String) (p : List Nat) : Prop :=
  ∃ s later, StandsAt [body] p s later ∧ s.AssignsParser x

/-- The statement at the place `p` makes the call itself. -/
def CallAt (body : List Stmt) (p : List Nat) (c : Call) : Prop :=
  ∃ t later n, StandsAt [body] p t later ∧ t.Owns n ∧ n.call? = some c

/-- The call at the place `q` adds an argument to what is in the variable, and stands behind the place `p`
in its block, where an added parser is put into the variable. -/
structure Feeds (body : List Stmt) (x : String) (p q : List Nat) (c : Call) : Prop where
  parser : ParserAt body x p
  call : CallAt body q c
  adds : c.isMethod "add_argument" = true ∧ c.isOn x = true
  behind : Behind p q

section Inputs

variable {f : Inputs → List String} {o : String}

/-- What comes together from several calls. -/
theorem mem_foldl_append (hf : ∀ a b, f (a ++ b) = f a ++ f b) {is : List Inputs} {a : Inputs} :
    o ∈ f (is.foldl (· ++ ·) a) ↔ o ∈ f a ∨ ∃ i ∈ is, o ∈ f i := by
  induction is generalizing a with
  | nil => simp
  | cons i is ih => rw [List.foldl_cons, ih, hf, List.mem_append, or_assoc, List.exists_mem_cons_iff]

theorem mem_inputsOf (hf : ∀ a b, f (a ++ b) = f a ++ f b) (hEmpty : f .empty = []) {x : String}
    {later : List Stmt} : o ∈ f (inputsOf x later) ↔ ∃ n c, (∃ m ∈ later, (Node.stmt m).Holds n) ∧
      n.call? = some c ∧ (c.isMethod "add_argument" = true ∧ c.isOn x = true) ∧ o ∈ f c.inputs := by
  have hWalk : ∀ n, n ∈ walkFrom (Node.stmts later) ↔ ∃ m ∈ later, (Node.stmt m).Holds n := by
    intro n
    rw [mem_walkFrom, Node.stmts]
    simp
  rw [inputsOf, mem_foldl_append hf, hEmpty]
  simp only [List.not_mem_nil, false_or, List.mem_map, List.mem_filter, List.mem_filterMap, hWalk,
    Bool.and_eq_true]
  constructor
  · rintro ⟨-, ⟨c, ⟨⟨n, hn, hCall⟩, hAdds⟩, rfl⟩, ho⟩
    exact ⟨n, c, hn, hCall, hAdds, ho⟩
  · rintro ⟨n, c, hn, hCall, hAdds, ho⟩
    exact ⟨_, ⟨c, ⟨⟨n, hn, hCall⟩, hAdds⟩, rfl⟩, ho⟩

end Inputs

/-! ## Commands -/

section Commands

variable {s : Source} {stmt : Stmt} {later : List Stmt} {cmd : Command} {p : List Nat}

theorem mem_blockCommands {block : List Stmt} : cmd ∈ blockCommands s block ↔
    ∃ i stmt later, block.drop i = stmt :: later ∧ addedCommand s stmt later = some cmd := by
  induction block with
  | nil => simp [blockCommands]
  | cons m rest ih =>
    rw [blockCommands, List.mem_append, Option.mem_toList, ih]
    constructor
    · rintro (hAdded | ⟨i, stmt, later, hDrop, hAdded⟩)
      · exact ⟨0, m, rest, rfl, hAdded⟩
      · exact ⟨i + 1, stmt, later, hDrop, hAdded⟩
    · rintro ⟨i, stmt, later, hDrop, hAdded⟩
      cases i with
      | zero =>
        obtain ⟨rfl, rfl⟩ := List.cons.inj hDrop
        exact .inl hAdded
      | succ i => exact .inr ⟨i, stmt, later, hDrop, hAdded⟩

/-- The commands of a module: those that its statements add, wherever they stand, and those of decorated
functions. -/
theorem mem_commands : cmd ∈ s.commands ↔
    (∃ p stmt later, StandsAt [s.body] p stmt later ∧ addedCommand s stmt later = some cmd) ∨
      ∃ n ∈ walkFrom (Node.stmts s.body), decoratedCommand s n = some cmd := by
  have hAdded : (∃ p stmt later, StandsAt [s.body] p stmt later ∧ addedCommand s stmt later = some cmd) ↔
      ∃ block, (block = s.body ∨ ∃ n ∈ walkFrom (Node.stmts s.body), block ∈ n.blocks) ∧
        cmd ∈ blockCommands s block := by
    constructor
    · rintro ⟨p, stmt, later, hAt, hCommand⟩
      obtain ⟨block, i, hDrop, hBlock⟩ := exists_standsAt_iff.mp ⟨p, hAt⟩
      exact ⟨block, hBlock, mem_blockCommands.mpr ⟨i, stmt, later, hDrop, hCommand⟩⟩
    · rintro ⟨block, hBlock, hCommand⟩
      obtain ⟨i, stmt, later, hDrop, hCommand⟩ := mem_blockCommands.mp hCommand
      obtain ⟨p, hAt⟩ := exists_standsAt_iff.mpr ⟨block, i, hDrop, hBlock⟩
      exact ⟨p, stmt, later, hAt, hCommand⟩
  rw [hAdded, Source.commands, List.mem_append, List.mem_flatMap]
  simp only [List.mem_append, List.mem_flatMap, Option.mem_toList]
  constructor
  · rintro (hTop | ⟨n, hn, ⟨block, hBlock, hCommand⟩ | hDecorated⟩)
    · exact .inl ⟨s.body, .inl rfl, hTop⟩
    · exact .inl ⟨block, .inr ⟨n, hn, hBlock⟩, hCommand⟩
    · exact .inr ⟨n, hn, hDecorated⟩
  · rintro (⟨block, rfl | ⟨n, hn, hBlock⟩, hCommand⟩ | ⟨n, hn, hDecorated⟩)
    · exact .inl hCommand
    · exact .inr ⟨n, hn, .inl ⟨block, hBlock, hCommand⟩⟩
    · exact .inr ⟨n, hn, .inr hDecorated⟩

/-- A command that a statement adds. -/
theorem exists_of_addedCommand (h : addedCommand s stmt later = some cmd) : ∃ line var c name aliases,
    stmt.call? = some (line, var, c) ∧ c.isMethod "add_parser" = true ∧
    cmd = commandOf s name aliases ((var.map (inputsOf · later)).getD .empty) line := by
  rw [addedCommand] at h
  obtain ⟨⟨line, var, c⟩, hCall, h⟩ := Option.bind_eq_some_iff.mp h
  dsimp only at h
  split at h
  · rename_i hMethod
    obtain ⟨name, -, h⟩ := Option.bind_eq_some_iff.mp h
    exact ⟨line, var, c, name, _, hCall, hMethod, (Option.some.inj h).symm⟩
  · cases h

/-- What a command takes that the statement at a place adds. -/
theorem mem_taken {f : Inputs → List String} (hf : ∀ a b, f (a ++ b) = f a ++ f b)
    (hEmpty : f .empty = []) (hAt : StandsAt [s.body] p stmt later) {line : Nat} {var : Option String}
    {c : Call} (hCall : stmt.call? = some (line, var, c)) (hMethod : c.isMethod "add_parser" = true)
    {o : String} : o ∈ f ((var.map (inputsOf · later)).getD .empty) ↔
      ∃ x q c, Feeds s.body x p q c ∧ o ∈ f c.inputs := by
  have hVar : ∀ {x q c}, Feeds s.body x p q c → var = some x := by
    rintro x q c' ⟨⟨stmt', later', hAt', line', c'', hCall', -⟩, -, -, -⟩
    obtain ⟨rfl, -⟩ := hAt.unique hAt'
    rw [hCall] at hCall'
    cases hCall'
    rfl
  constructor
  · intro ho
    cases var with
    | none =>
      rw [Option.map_none, Option.getD_none, hEmpty] at ho
      cases ho
    | some x =>
      rw [Option.map_some, Option.getD_some, mem_inputsOf hf hEmpty] at ho
      obtain ⟨n, c', hn, hCall', hAdds, ho⟩ := ho
      obtain ⟨q, t, l, hBehind, hq, hOwns⟩ := (holds_later_iff hAt).mp hn
      exact ⟨x, q, c', ⟨⟨stmt, later, hAt, line, c, hCall, hMethod⟩, ⟨t, l, n, hq, hOwns, hCall'⟩, hAdds,
        hBehind⟩, ho⟩
  · rintro ⟨x, q, c', hFeeds, ho⟩
    obtain rfl := hVar hFeeds
    obtain ⟨t, l, n, hq, hOwns, hCall'⟩ := hFeeds.call
    rw [Option.map_some, Option.getD_some, mem_inputsOf hf hEmpty]
    exact ⟨n, c', (holds_later_iff hAt).mpr ⟨q, t, l, hFeeds.behind, hq, hOwns⟩, hCall', hFeeds.adds, ho⟩

end Commands

/-! ## Which parser a call counts for -/

/-- What the commands of a module take. -/
structure ParsersCollect (s : Source) : Prop where
  /-- A command is added by a statement somewhere or belongs to a decorated function. -/
  commands : ∀ cmd, cmd ∈ s.commands ↔
    (∃ p stmt later, StandsAt [s.body] p stmt later ∧ addedCommand s stmt later = some cmd) ∨
      ∃ n ∈ walkFrom (Node.stmts s.body), decoratedCommand s n = some cmd
  /-- The command that a statement adds takes what the calls say that add arguments behind it in its
  block, options as well as arguments. -/
  options : ∀ p stmt later cmd, StandsAt [s.body] p stmt later → addedCommand s stmt later = some cmd →
    ∀ o, o ∈ cmd.options ↔ ∃ x q c, Feeds s.body x p q c ∧ o ∈ c.inputs.options
  arguments : ∀ p stmt later cmd, StandsAt [s.body] p stmt later → addedCommand s stmt later = some cmd →
    ∀ o, o ∈ cmd.arguments ↔ ∃ x q c, Feeds s.body x p q c ∧ o ∈ c.inputs.arguments
  /-- A parser for which a call counts is the latest one in the variable just if no other is put there in
  between. -/
  latest_iff : ∀ x p q c, Feeds s.body x p q c → (IsGreatest {p' | ParserAt s.body x p' ∧ p' < q} p ↔
    ∀ p', ParserAt s.body x p' → p < p' → ¬ p' < q)
  /-- A call counts for no more than one parser if no other is put into the variable in between. -/
  unique : ∀ x q c, (∀ p, Feeds s.body x p q c → ∀ p', ParserAt s.body x p' → p < p' → ¬ p' < q) →
    ∀ p p', Feeds s.body x p q c → Feeds s.body x p' q c → p = p'

theorem parsersCollect (s : Source) : ParsersCollect s where
  commands _ := mem_commands
  options p stmt later cmd hAt hAdded o := by
    obtain ⟨line, var, c, name, aliases, hCall, hMethod, rfl⟩ := exists_of_addedCommand hAdded
    rw [commandOf, mem_sortedSet]
    exact mem_taken (fun _ _ => rfl) rfl hAt hCall hMethod
  arguments p stmt later cmd hAt hAdded o := by
    obtain ⟨line, var, c, name, aliases, hCall, hMethod, rfl⟩ := exists_of_addedCommand hAdded
    rw [commandOf, mem_sortedSet]
    exact mem_taken (fun _ _ => rfl) rfl hAt hCall hMethod
  latest_iff x p q c hFeeds := by
    constructor
    · rintro ⟨-, hGreatest⟩ p' hParser hLt hBefore
      exact not_lt.mpr (hGreatest ⟨hParser, hBefore⟩) hLt
    · intro hNone
      refine ⟨⟨hFeeds.parser, hFeeds.behind.lt⟩, ?_⟩
      rintro p' ⟨hParser, hBefore⟩
      exact not_lt.mp fun hLt => hNone p' hParser hLt hBefore
  unique x q c hNone p p' hFeeds hFeeds' := by
    have hNot : ¬ p < p' := fun hLt => hNone p hFeeds p' hFeeds'.parser hLt hFeeds'.behind.lt
    have hNot' : ¬ p' < p := fun hLt => hNone p' hFeeds' p hFeeds.parser hLt hFeeds.behind.lt
    exact le_antisymm (not_lt.mp hNot') (not_lt.mp hNot)

/-! ### One variable for two parsers -/

def parserCall (line : Nat) (var method text : String) : Expr :=
  .call line (.attribute (.name var false) method) [.constant (.text text false)] []

def reusedBody : List Stmt :=
  [.assign 1 [.name "p" true] (parserCall 1 "s" "add_parser" "a"),
    .expr 2 (parserCall 2 "p" "add_argument" "--x"),
    .assign 3 [.name "p" true] (parserCall 3 "s" "add_parser" "b"),
    .expr 4 (parserCall 4 "p" "add_argument" "--y")]

def reusedCall : Call :=
  ⟨4, .attribute (.name "p" false) "add_argument", [.constant (.text "--y" false)], []⟩

theorem feeds_reused : Feeds reusedBody "p" [0, 0] [0, 3] reusedCall ∧
    Feeds reusedBody "p" [0, 2] [0, 3] reusedCall := by
  have hCall : CallAt reusedBody [0, 3] reusedCall :=
    ⟨_, _, _, .here rfl rfl, .single ⟨.head _, rfl⟩, rfl⟩
  refine ⟨⟨⟨_, _, .here rfl rfl, _, _, rfl, rfl⟩, hCall, ⟨rfl, rfl⟩, .here (by omega)⟩,
    ⟨⟨_, _, .here rfl rfl, _, _, rfl, rfl⟩, hCall, ⟨rfl, rfl⟩, .here (by omega)⟩⟩

/-- The first of two parsers takes what is meant for the second. -/
theorem flags_reused : Feeds reusedBody "p" [0, 0] [0, 3] reusedCall ∧
    ¬ IsGreatest {p | ParserAt reusedBody "p" p ∧ p < [0, 3]} [0, 0] ∧
    (sourceOf 0 "m" "m.py" reusedBody).commands.map (fun c => (c.name, c.options)) =
      [("a", ["--x", "--y"]), ("b", ["--y"])] := by
  refine ⟨feeds_reused.1, ?_, ?_⟩
  · rintro ⟨-, hGreatest⟩
    have hBefore : [0, 2] ≤ [0, 0] := hGreatest ⟨feeds_reused.2.parser, feeds_reused.2.behind.lt⟩
    exact absurd hBefore (by decide)
  · cbv

end CodeAtlas.Module
