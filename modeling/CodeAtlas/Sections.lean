import CodeAtlas.Assoc
import CodeAtlas.Callgraph.Explore
import CodeAtlas.Callgraph.Root
import CodeAtlas.Index
import CodeAtlas.Provider
import CodeAtlas.Regex.Match
import CodeAtlas.Regex.Reader

/-!
# The sections of an index

Every section is put together from what the providers answer for their projects, in an order of its
own. A section with nothing in it is absent.
-/

namespace CodeAtlas

variable {ι κ : Type}

/-!
## Entrypoints

The entrypoints of every project that has some, by file and line.
-/

/-- The entrypoints of a project, if it has any. -/
def projectEntrypoints (p : Provider ι κ) (project : Project) :
    Traced (List ProjectEntrypoints) := do
  let found := sortBy Entrypoint.order (← p.ask (p.entrypoints project))
  if found.isEmpty then return []
  Traced.note (.entrypoints project.name found.length)
  return [⟨project.ref, found⟩]

def providerEntrypoints (p : Provider ι κ) : Traced (List ProjectEntrypoints) := do
  return (← (← p.listProjects).mapM (projectEntrypoints p)).flatten

/-- The section of entrypoints; absent if there are none. -/
def entrypointSection (providers : List (Provider ι κ)) :
    Traced (Option (List ProjectEntrypoints)) := do
  let found := (← providers.mapM providerEntrypoints).flatten
  return nonEmpty? (sortBy ProjectEntrypoints.order found)

/-!
## Commands

The commands of all projects by name, file and line. A regular expression can restrict them to those
in whose name it matches.
-/

/-- How a refused expression fails. -/
def regexFailure : Regex.Fault → Failure
  | .malformed => .regex
  | .overflow => .tooLarge
  | .repertoires => .badValue

/-- Reads the expression that restricts commands; an empty one is none. -/
def readAllowed (pattern : Option String) : Except Failure (Option Regex.Node) :=
  match pattern with
  | none => .ok none
  | some s =>
    if s = "" then .ok none
    else
      match Regex.read s with
      | .ok node => .ok (some node)
      | .error fault => .error (regexFailure fault)

/-- Is a command let through? -/
def allows (allowed : Option Regex.Node) (c : Command) : Bool := allowed.all (·.search c.name)

def providerCommands (p : Provider ι κ) : Traced (List Command) := do
  return (← (← p.listProjects).mapM fun project => p.ask (p.commands project)).flatten

/-- The section of commands; absent if none is let through. -/
def commandSection (allowed : Option Regex.Node) (providers : List (Provider ι κ)) :
    Traced (Option (List Command)) := do
  let found := (← providers.mapM providerCommands).flatten
  let kept := sortBy Command.order (found.filter (allows allowed))
  Traced.note (.commands kept.length)
  return nonEmpty? kept

/-!
## Environment variables

The variables that a code base looks up by name, and the literals that begin with one of some
prefixes and go on after it.
-/

/-- Does the literal begin with one of the prefixes and go on? -/
def extendsSome (prefixes : List String) (literal : String) : Bool :=
  prefixes.any fun p => Text.startsWith literal p && p.toList.length < literal.toList.length

/-- The variables of a project, repetitions included. -/
def projectKeys (prefixes : List String) (p : Provider ι κ) (project : Project) :
    Traced (List String) := do
  let looked := (← p.ask (p.envLookups project)).filter (· != "")
  if prefixes.isEmpty then return looked
  return looked ++ (← p.ask (p.literals project)).filter (extendsSome prefixes)

def providerKeys (prefixes : List String) (p : Provider ι κ) : Traced (List String) := do
  return (← (← p.listProjects).mapM (projectKeys prefixes p)).flatten

/-- The section of environment variables; absent if there are none. Empty prefixes do not count. -/
def configSection (prefixes : List String) (providers : List (Provider ι κ)) :
    Traced (Option (List String)) := do
  let prefixes := prefixes.filter (· != "")
  let keys := sortedSet (← providers.mapM (providerKeys prefixes)).flatten
  Traced.note (.envKeys keys.length)
  return nonEmpty? keys

/-!
## Call graphs

Every root is looked up in every project, and a graph is explored from each declaration found. Graphs
are shown under their projects: projects in the order of their references, graphs in the order of
their roots. A project without graphs does not show.
-/

/-- The graphs of some projects in their final order. -/
def groupCallgraphs (found : List (ProjectRef × List Callgraph)) : List ProjectCallgraphs :=
  sortBy ProjectCallgraphs.order
    ((found.filter fun f => !f.2.isEmpty).map fun f => ⟨f.1, sortBy Callgraph.order f.2⟩)

/-- What is to be explored, and how far. -/
structure CallgraphRequest where
  roots : List String
  limits : Limits
  external : Bool

/-- The roots among some texts. -/
def readRoots : List String → Traced (List Root)
  | [] => pure []
  | text :: rest => do
    match ← Traced.ofExcept (Root.parse text) with
    | some r => return r :: (← readRoots rest)
    | none =>
      Traced.note (.invalidRoot text)
      readRoots rest

/-- The graph of one root in one project, if it names something there. -/
def rootGraph (p : Provider ι κ) (request : CallgraphRequest) (project : Project) (r : Root) :
    Traced (List (ProjectRef × Callgraph)) := do
  match ← resolveRoot p project r with
  | .notFound => return []
  | .found _ m _ =>
    Traced.note (.rootAt m.id m.file m.line)
    let graph ← (explore p request.external request.limits m m.id).traced
    if graph.truncated then Traced.note (.truncated project.name r.text)
    return [(project.ref, graph)]

/-- The graphs of some roots in one project. -/
def projectGraphs (p : Provider ι κ) (request : CallgraphRequest) (roots : List Root)
    (project : Project) : Traced (List (ProjectRef × Callgraph)) := do
  return (← roots.mapM (rootGraph p request project)).flatten

/-- The graphs of some roots in the projects of one provider. -/
def providerGraphs (request : CallgraphRequest) (roots : List Root) (p : Provider ι κ) :
    Traced (List (ProjectRef × Callgraph)) := do
  return (← (← p.listProjects).mapM (projectGraphs p request roots)).flatten

/-- The section of call graphs; absent without roots or without graphs. -/
def callgraphSection (request : CallgraphRequest) (providers : List (Provider ι κ)) :
    Traced (Option (List ProjectCallgraphs)) := do
  if request.roots.isEmpty then return none
  let roots ← readRoots request.roots
  let found := (← providers.mapM (providerGraphs request roots)).flatten
  let grouped := groupCallgraphs (Assoc.gather found)
  Traced.note (.callgraphs (grouped.flatMap (·.graphs)).length grouped.length)
  return nonEmpty? grouped

end CodeAtlas
