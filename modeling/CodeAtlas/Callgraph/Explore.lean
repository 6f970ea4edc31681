import CodeAtlas.Callgraph.Callees

/-!
# Exploring call graphs

A call graph is explored breadth first from its root. Methods at a distance of `depth` or more are
not expanded, and at most `nodes` distinct identities are taken in, the root included; the
exploration ends for good at the first that would be one too many. Methods outside the repository
count for nothing.

`Exploration.measure_expand_le` says that expanding a method costs as much budget as it adds to the
queue, so the exploration ends.
-/

namespace CodeAtlas

variable {ι κ : Type}

structure Limits where
  depth : Int
  nodes : Int
  deriving DecidableEq, Repr

/-- A method that waits to be expanded, with its identity and its distance from the root. -/
structure Pending (ι : Type) where
  method : Method ι
  id : String
  depth : Nat

/-- Why an exploration ended early. -/
inductive Stop where
  | truncated
  | failed (f : Failure)
  deriving DecidableEq, Repr

structure Exploration (ι : Type) where
  /-- The calls met, latest first. -/
  edges : List Edge
  /-- The identities taken in, latest first. -/
  visited : List String
  queue : List (Pending ι)
  stop : Option Stop
  /-- The notes left, latest first. -/
  notes : List Note
  /-- The methods whose calls were looked at, latest first. -/
  queried : List (Method ι)

namespace Exploration

/-- Takes an identity in, and its method into the queue if it is near enough to be expanded. -/
def takeIn (lim : Limits) (source : Pending ι) (c : Callee ι) (m : Method ι) (s : Exploration ι) :
    Exploration ι :=
  { s with
    visited := c.id :: s.visited
    queue :=
      if (source.depth + 1 : Int) < lim.depth then s.queue ++ [⟨m, c.id, source.depth + 1⟩]
      else s.queue }

/-- Keeps the call from `source` to a callee. -/
def record (source : Pending ι) (c : Callee ι) (s : Exploration ι) : Exploration ι :=
  { s with edges := ⟨source.id, c.id⟩ :: s.edges }

/-- Takes a callee in that can be explored and is new, or ends at one too many. -/
def visit (lim : Limits) (source : Pending ι) (c : Callee ι) (s : Exploration ι) :
    Exploration ι :=
  match c.method with
  | none => s
  | some m =>
    if c.id ∈ s.visited then s
    else if lim.nodes ≤ s.visited.length then { s with stop := some .truncated }
    else s.takeIn lim source c m

/-- Takes a callee of `source` in. -/
def meet (lim : Limits) (source : Pending ι) (s : Exploration ι) (c : Callee ι) : Exploration ι :=
  (s.record source c).visit lim source c

/-- Takes an event of `source` in; after the end nothing changes. -/
def step (lim : Limits) (source : Pending ι) (s : Exploration ι) (e : CallEvent ι) :
    Exploration ι :=
  if s.stop.isSome then s
  else
    match e with
    | .callee c => s.meet lim source c
    | .unresolved n => { s with notes := n :: s.notes }
    | .failed f => { s with stop := some (.failed f) }

/-- Keeps that the calls of a method were looked at, if the provider knows them. -/
def query (p : Provider ι κ) (m : Method ι) (s : Exploration ι) : Exploration ι :=
  if p.answersCalls m then { s with queried := m :: s.queried } else s

/-- Expands a method that was taken from the queue. -/
def expand (p : Provider ι κ) (external : Bool) (lim : Limits) (source : Pending ι)
    (s : Exploration ι) : Exploration ι :=
  (p.events external source.method).foldl (step lim source) (s.query p source.method)

/-- The identities that may still be taken in and the methods that wait. -/
def measure (lim : Limits) (s : Exploration ι) : Nat :=
  (lim.nodes - s.visited.length).toNat + s.queue.length

theorem measure_meet_le (lim : Limits) (source : Pending ι) (s : Exploration ι) (c : Callee ι) :
    (s.meet lim source c).measure lim ≤ s.measure lim := by
  unfold meet visit
  split
  · exact Nat.le_refl _
  · split
    · exact Nat.le_refl _
    · split
      · exact Nat.le_refl _
      · simp only [takeIn, record, measure] at *
        split <;> simp only [List.length_cons, List.length_append, List.length_nil] <;> omega

theorem measure_query (p : Provider ι κ) (m : Method ι) (s : Exploration ι) (lim : Limits) :
    (s.query p m).measure lim = s.measure lim := by
  unfold query
  split <;> rfl

theorem measure_step_le (lim : Limits) (source : Pending ι) (s : Exploration ι)
    (e : CallEvent ι) : (s.step lim source e).measure lim ≤ s.measure lim := by
  unfold step
  split
  · exact Nat.le_refl _
  · cases e with
    | callee c => exact measure_meet_le lim source s c
    | unresolved n => exact Nat.le_refl _
    | failed f => exact Nat.le_refl _

theorem measure_foldl_step_le (lim : Limits) (source : Pending ι) (es : List (CallEvent ι))
    (s : Exploration ι) : (es.foldl (step lim source) s).measure lim ≤ s.measure lim := by
  induction es generalizing s with
  | nil => exact Nat.le_refl _
  | cons e es ih => exact Nat.le_trans (ih _) (measure_step_le lim source s e)

theorem measure_expand_le (p : Provider ι κ) (external : Bool) (lim : Limits)
    (source : Pending ι) (s : Exploration ι) :
    (s.expand p external lim source).measure lim ≤ s.measure lim := by
  exact Nat.le_trans (measure_foldl_step_le lim source _ _) (Nat.le_of_eq (measure_query p _ s lim))

/-- Expands methods from the queue until it is empty or the exploration has ended. -/
def run (p : Provider ι κ) (external : Bool) (lim : Limits) (s : Exploration ι) :
    Exploration ι :=
  match s.stop, _hq : s.queue with
  | none, source :: rest =>
    let popped := { s with queue := rest }
    if lim.depth ≤ source.depth then run p external lim popped
    else run p external lim (popped.expand p external lim source)
  | _, _ => s
termination_by s.measure lim
decreasing_by
  · simp [measure, _hq]
  · refine Nat.lt_of_le_of_lt (measure_expand_le p external lim source _) ?_
    simp [measure, _hq]

/-- The exploration before anything is expanded. -/
def start (root : Method ι) (rootId : String) : Exploration ι :=
  ⟨[], [rootId], [⟨root, rootId, 0⟩], none, [], []⟩

end Exploration

/-! ## Call graphs -/

/-- What came of exploring a root: the graph or a failure, the notes, and the methods whose calls
were looked at, in order. -/
structure Explored (ι : Type) where
  graph : Except Failure Callgraph
  notes : List Note
  queried : List (Method ι)

/-- The graph that an exploration has found. -/
def Exploration.graph (s : Exploration ι) (rootId : String) (lim : Limits) :
    Except Failure Callgraph :=
  match s.stop with
  | some (.failed f) => .error f
  | stop => .ok ⟨rootId, lim.depth, stop.isSome, sortedSet s.edges⟩

/-- Explores the calls from a root that is shown as `rootId`. -/
def explore (p : Provider ι κ) (external : Bool) (lim : Limits) (root : Method ι)
    (rootId : String) : Explored ι :=
  let s := (Exploration.start root rootId).run p external lim
  ⟨s.graph rootId lim, s.notes.reverse, s.queried.reverse⟩

/-- The graph of a root, with the notes of its exploration in the trace. -/
def Explored.traced (e : Explored ι) : Traced Callgraph := ⟨e.graph, e.notes.map .note⟩

end CodeAtlas
