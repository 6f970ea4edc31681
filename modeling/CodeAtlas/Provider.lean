import CodeAtlas.Method
import CodeAtlas.Index
import CodeAtlas.Traced
import CodeAtlas.Files.Path

/-!
# Providers

A provider knows the sources of one language. Everything else sees projects, methods and calls, and
asks the provider what a call refers to. Answers are functions of the question, so they do not
change during a run.
-/

namespace CodeAtlas

/-- A unit of source code such as a distribution or a module of a build. -/
structure Project where
  name : String
  path : String
  language : String
  directory : Files.Path
  deriving Inhabited

def Project.ref (p : Project) : ProjectRef := ⟨p.name, p.path⟩

/-- Answers about sources. A method is found again by a handle of type `ι`, a call by one of type
`κ`. -/
structure Provider (ι κ : Type) where
  language : String
  /-- What reading the sources reports. -/
  sourceNotes : List Note
  projects : Except Failure (List Project)
  declarations : Project → Except Failure (List (Method ι))
  callSites : Method ι → Except Failure (List (CallSite κ))
  resolve : CallSite κ → Except Failure (Option (Method ι))
  entrypoints : Project → Except Failure (List Entrypoint)
  commands : Project → Except Failure (List Command)
  envLookups : Project → Except Failure (List String)
  literals : Project → Except Failure (List String)

namespace Provider

variable {ι κ α : Type}

/-- A question about the sources, which are read for it if they have not been. -/
def ask (p : Provider ι κ) (answer : Except Failure α) : Traced α := do
  Traced.reading p.language p.sourceNotes
  Traced.ofExcept answer

/-- A question that needs no sources. -/
def listProjects (p : Provider ι κ) : Traced (List Project) := Traced.ofExcept p.projects

/-! ## Providers side by side -/

/-- The same provider with its handles among those of several providers. It knows nothing of the
methods and calls of the others. -/
def embed {μ σ : Type} (p : Provider ι κ) (method : ι → μ) (method? : μ → Option ι) (call : κ → σ)
    (call? : σ → Option κ) : Provider μ σ where
  language := p.language
  sourceNotes := p.sourceNotes
  projects := p.projects
  declarations := fun q => (p.declarations q).map fun ms => ms.map (·.map method)
  callSites := fun m =>
    match method? m.handle with
    | some h => (p.callSites (m.map fun _ => h)).map fun cs => cs.map (·.map call)
    | none => .ok []
  resolve := fun c =>
    match call? c.handle with
    | some h => (p.resolve (c.map fun _ => h)).map fun found => found.map (·.map method)
    | none => .ok none
  entrypoints := p.entrypoints
  commands := p.commands
  envLookups := p.envLookups
  literals := p.literals

/-- The first of two providers side by side. -/
def left {ι' κ' : Type} (p : Provider ι κ) : Provider (ι ⊕ ι') (κ ⊕ κ') :=
  p.embed .inl Sum.getLeft? .inl Sum.getLeft?

/-- The second of two providers side by side. -/
def right {ι' κ' : Type} (p : Provider ι κ) : Provider (ι' ⊕ ι) (κ' ⊕ κ) :=
  p.embed .inr Sum.getRight? .inr Sum.getRight?

/-- Does the provider have projects to speak of? -/
def hasProjects (p : Provider ι κ) : Bool :=
  match p.projects with
  | .ok projects => !projects.isEmpty
  | .error _ => true

end Provider

end CodeAtlas
