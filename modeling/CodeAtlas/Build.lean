import CodeAtlas.Report
import CodeAtlas.Sections
import CodeAtlas.Settings.Load
import CodeAtlas.Timestamp
import CodeAtlas.Tree.Scan

/-!
# Making an index

An index is put together from its sections. A section whose provider or system fails is left out and
noted; the others are made all the same. Every other failure ends the run.
-/

namespace CodeAtlas

variable {ι κ α : Type}

/-- The version of this tool, and that of the form of what it writes. -/
def toolVersion : String := "0.1.0"

def schemaVersion : String := "1.2"

/-- The timestamp that the environment fixes, if it fixes one. -/
def fixedStamp (epoch : Option String) : Traced (Option String) := do
  let text := epoch.getD ""
  if text = "" then return none
  match readTimestamp text with
  | some stamp => return some stamp
  | none =>
    Traced.note (.invalidEpoch text)
    return none

/-- What an index says about itself. -/
def aboutRun (around : Surroundings) : Traced Meta := do
  let stamp ← fixedStamp around.epoch
  return ⟨toolVersion, schemaVersion, stamp.getD ((timestamp? around.now).getD "")⟩

/-- The projects of one provider as the index lists them. -/
def providerEntries (p : Provider ι κ) : Traced (List ProjectEntry) := do
  return (← p.listProjects).map fun q => ⟨q.name, q.path, some p.language⟩

/-- The projects of all providers in order. -/
def projectEntries (providers : List (Provider ι κ)) : Traced (List ProjectEntry) := do
  return sortBy ProjectEntry.order (← providers.mapM providerEntries).flatten

/-- A section that is left out after a failure that `tolerates` accepts. -/
def tolerant (name : String) (tolerates : Failure → Bool) (body : Traced (Option α)) :
    Traced (Option α) := do
  match ← body.attempt with
  | .ok found => return found
  | .error f =>
    if !tolerates f then Traced.fail f
    Traced.note (.skippedSection name (.ofFailure f))
    return none

/-- A section if the settings want it. -/
def wanted (settings : Settings) (name : String) (body : Traced (Option α)) : Traced (Option α) :=
  if settings.enabled name then body else pure none

/-- The settings' request for call graphs. -/
def Settings.request (s : Settings) : CallgraphRequest := ⟨s.roots, s.limits, s.external⟩

/-- The section of commands with the settings' expression. -/
def allowedCommands (settings : Settings) (providers : List (Provider ι κ)) :
    Traced (Option (List Command)) := do
  commandSection (← Traced.ofExcept (readAllowed settings.allowRegex)) providers

/-- The index of a repository whose providers and file tree are found by `providers` and `tree`. -/
def assemble (around : Surroundings) (root : String) (settings : Settings)
    (providers : Traced (List (Provider ι κ))) (tree : Traced (List FileEntry)) :
    Traced Index := do
  Traced.ofExcept settings.validate
  let providers ← providers
  if providers.isEmpty then Traced.fail (.noProject root)
  let about ← aboutRun around
  let projects ← projectEntries providers
  let tree ← wanted settings "tree" (tolerant "tree" Failure.isSystem (some <$> tree))
  let entrypoints ← wanted settings "entrypoints"
    (tolerant "entrypoints" Failure.isRecoverable (entrypointSection providers))
  let commands ← wanted settings "commands"
    (tolerant "commands" Failure.isRecoverable (allowedCommands settings providers))
  let configs ← wanted settings "configs"
    (tolerant "configs" Failure.isRecoverable (configSection settings.envPrefixes providers))
  let callgraphs ← wanted settings "callgraphs"
    (tolerant "callgraphs" Failure.isRecoverable (callgraphSection settings.request providers))
  return { about, projects, tree, entrypoints, commands, configs, callgraphs }

end CodeAtlas
