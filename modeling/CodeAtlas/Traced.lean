import CodeAtlas.Note

/-!
# Traced computations

A `Traced α` ends with a value or a failure and leaves a trace of notes beside it. The value never
depends on the trace: `result_bind` says so.

The sources behind a provider are read once, at the first question that needs them; what reading
them reported stands in the trace at every such question, and `Traced.notes` shows it at the first.
-/

namespace CodeAtlas

/-- What a trace holds. -/
inductive Happening where
  | note (n : Note)
  /-- The sources named `key` are needed; reading them reports some notes. -/
  | reading (key : String) (notes : List Note)
  deriving DecidableEq, Repr

structure Traced (α : Type) where
  result : Except Failure α
  trace : List Happening

namespace Traced

variable {α β : Type}

def ok (a : α) : Traced α := ⟨.ok a, []⟩

def fail (f : Failure) : Traced α := ⟨.error f, []⟩

def ofExcept (r : Except Failure α) : Traced α := ⟨r, []⟩

/-- Leaves a note. -/
def note (n : Note) : Traced Unit := ⟨.ok (), [.note n]⟩

/-- Leaves several notes. -/
def noteAll (ns : List Note) : Traced Unit := ⟨.ok (), ns.map .note⟩

/-- Reads the sources named `key`. -/
def reading (key : String) (notes : List Note) : Traced Unit := ⟨.ok (), [.reading key notes]⟩

def bind (x : Traced α) (f : α → Traced β) : Traced β :=
  match x.result with
  | .error e => ⟨.error e, x.trace⟩
  | .ok a => ⟨(f a).result, x.trace ++ (f a).trace⟩

instance : Monad Traced where
  pure := ok
  bind := bind

/-- The failure of a computation as a value. -/
def attempt (x : Traced α) : Traced (Except Failure α) := ⟨.ok x.result, x.trace⟩

theorem result_pure (a : α) : (pure a : Traced α).result = .ok a := rfl

theorem result_bind (x : Traced α) (f : α → Traced β) :
    (x >>= f).result = x.result >>= fun a => (f a).result := by
  show (bind x f).result = _
  unfold bind
  cases x.result <;> rfl

/-! ## Notes -/

/-- The notes of a trace; sources whose keys are in `seen` have been read. -/
def notesOf (seen : List String) : List Happening → List Note
  | [] => []
  | .note n :: rest => n :: notesOf seen rest
  | .reading key ns :: rest =>
    if key ∈ seen then notesOf seen rest else ns ++ notesOf (key :: seen) rest

def notes (x : Traced α) : List Note := notesOf [] x.trace

end Traced

end CodeAtlas
