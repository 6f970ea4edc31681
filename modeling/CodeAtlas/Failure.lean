import CodeAtlas.Text.Quoted

/-!
# Failures

The causes for which an operation ends without a result. `Failure.message?` gives the text of those
that are reported to the user in words.
-/

namespace CodeAtlas

/-- Why settings are refused. -/
inductive SettingsFault where
  | depth (value : Int)
  | nodes (value : Int)
  | lineMode (value : String)
  | regex (pattern : String)
  | fileMissing (path : String)
  deriving DecidableEq, Repr

def SettingsFault.message : SettingsFault → String
  | depth n => "max_depth must be >= 0, got " ++ toString n
  | nodes n => "max_nodes must be >= 1, got " ++ toString n
  | lineMode s => "loc_mode must be one of physical, logical, got " ++ Text.quoted s
  | regex s => "invalid commands allow_regex " ++ Text.quoted s
  | fileMissing p => "Config file not found: " ++ p

inductive Failure where
  /-- The settings contradict their bounds. -/
  | settings (fault : SettingsFault)
  /-- No supported project lies under the root. -/
  | noProject (root : String)
  /-- A provider cannot answer. -/
  | provider (message : String)
  /-- The system reports an error. -/
  | system
  /-- The system refuses access. -/
  | forbidden
  /-- A value is outside what an operation takes. -/
  | badValue
  /-- A project description has another shape than expected. -/
  | wrongShape
  /-- A value is of a type that an operation does not take. -/
  | wrongType
  /-- A description gives what may be given once more than once. -/
  | repeated
  /-- Bytes are no UTF-8 text. -/
  | notText
  /-- An ignore line has no meaning. -/
  | ignoreLine
  /-- A regular expression is malformed. -/
  | regex
  /-- A number exceeds what is supported. -/
  | tooLarge
  deriving DecidableEq, Repr

namespace Failure

/-- The text of a failure that is reported in words. -/
def message? : Failure → Option String
  | settings fault => some fault.message
  | noProject root => some ("Could not detect a supported project in " ++ root)
  | provider message => some message
  | _ => none

/-- Does the system report the failure? -/
def isSystem : Failure → Bool
  | system | forbidden => true
  | _ => false

/-- Does the failure leave the rest of a scan intact, at the price of a section? -/
def isRecoverable : Failure → Bool
  | provider _ => true
  | f => f.isSystem

end Failure

end CodeAtlas
