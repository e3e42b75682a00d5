import Warden.Error

/-! # Configuration errors -/

namespace Warden.Config

/-- Why a configuration could not be read or used. -/
inductive ConfigError where
  | parse (reason : String)
  | missingVariable (name : String)
  | invalid (reason : String)
  | security (e : Error)
  deriving DecidableEq, Repr

def ConfigError.message : ConfigError → String
  | .parse reason => s!"Failed to parse config: {reason}"
  | .missingVariable name => s!"Environment variable not found: {name}"
  | .invalid reason => s!"Configuration validation error: {reason}"
  | .security e => e.message

end Warden.Config
