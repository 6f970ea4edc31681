import CodeAtlas.Compilation.Provider
import CodeAtlas.Module.Provider

/-!
# Detection

The providers for a repository: those that find projects in it.
-/

namespace CodeAtlas

open Files (Disk Path)

/-- The methods that providers know. -/
abbrev MethodRef := Option Module.FunctionRef ⊕ Option Compilation.CallableRef

/-- The calls that providers know. -/
abbrev CallRef := Module.CallRef ⊕ Compilation.CallRef

/-- The providers for the repository at `root`, an absolute path without double dots. -/
def detect (disk : Disk) (root : Path) : Traced (List (Provider MethodRef CallRef)) := do
  let modules ← Module.provide root ((disk.entry? root).getD default)
  let units ← Compilation.provide disk root
  return [modules.left, units.right].filter (·.hasProjects)

end CodeAtlas
