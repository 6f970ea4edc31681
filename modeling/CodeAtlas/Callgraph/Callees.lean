import CodeAtlas.Provider
import CodeAtlas.Text.Blank

/-!
# Callees

The calls of a method, each with what it comes to: a method of the repository, which can be explored
further, or the label of one outside, or nothing. Calls outside show only if externals are asked
for.
-/

namespace CodeAtlas

variable {ι κ : Type}

/-- The target of a call. Only a method of the repository is carried along. -/
structure Callee (ι : Type) where
  id : String
  method : Option (Method ι)

def Callee.explorable (c : Callee ι) : Bool := c.method.isSome

/-- What is met on going through the calls of a method. -/
inductive CallEvent (ι : Type) where
  | callee (c : Callee ι)
  | unresolved (n : Note)
  | failed (f : Failure)

/-- The label of a call that nothing is known of, if it has one. -/
def looseCallee (text : String) : List (Callee ι) :=
  let label := Text.strip text
  if label = "" then [] else [⟨label, none⟩]

/-- The callee that a resolved call comes to. -/
def boundCallee (external : Bool) (target : Method ι) : List (Callee ι) :=
  if target.inSource then [⟨target.id, some target⟩]
  else if external then [⟨target.id, none⟩]
  else []

namespace Provider

/-- The events of some calls of the method `m`, up to the first failure. -/
def eventsOf (p : Provider ι κ) (external : Bool) (m : Method ι) :
    List (CallSite κ) → List (CallEvent ι)
  | [] => []
  | c :: rest =>
    match p.resolve c with
    | .error f => [.failed f]
    | .ok none =>
      .unresolved (.unresolvedCall c.text c.argCount m.file c.line) ::
        ((if external then (looseCallee c.text).map .callee else []) ++ p.eventsOf external m rest)
    | .ok (some target) => (boundCallee external target).map .callee ++ p.eventsOf external m rest

/-- The events of all calls of a method. -/
def events (p : Provider ι κ) (external : Bool) (m : Method ι) : List (CallEvent ι) :=
  match p.callSites m with
  | .error f => [.failed f]
  | .ok calls => p.eventsOf external m calls

/-- Does the provider answer the question for the calls of a method? -/
def answersCalls (p : Provider ι κ) (m : Method ι) : Bool := (p.callSites m).isOk

end Provider

/-- The callees among some events, with the notes between them. -/
def calleesOf : List (CallEvent ι) → Traced (List (Callee ι))
  | [] => pure []
  | .callee c :: rest => do return c :: (← calleesOf rest)
  | .unresolved n :: rest => do
    Traced.note n
    calleesOf rest
  | .failed f :: _ => Traced.fail f

/-- The callees of a method in the order of its calls. -/
def Provider.callees (p : Provider ι κ) (external : Bool) (m : Method ι) :
    Traced (List (Callee ι)) := calleesOf (p.events external m)

end CodeAtlas
