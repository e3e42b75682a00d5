/-! # Errors -/

namespace Warden

/-- Why access was denied. -/
inductive Denial where
  | denied
  | allAbstained
  | publicRejected
  deriving DecidableEq, Repr

def Denial.text : Denial → String
  | .denied => "Denied"
  | .allAbstained => "All voters abstained"
  | .publicRejected => "Public invocation rejected"

/-- A failure of the access-control core. -/
inductive Error where
  | accessDenied (kind : Denial) (reason : String)
  | credentialsNotFound (reason : String)
  | invalidArgument (reason : String)
  | cycle (role : String)
  | infrastructure (reason : String)
  deriving DecidableEq, Repr

namespace Error

/-- The plain denial that voters produce. -/
def denied : Error := .accessDenied .denied "Access is denied"

def message : Error → String
  | .accessDenied kind reason => s!"Access denied: {kind.text}: {reason}"
  | .credentialsNotFound reason => s!"Authentication credentials not found: {reason}"
  | .invalidArgument reason => s!"Invalid argument: {reason}"
  | .cycle role => s!"Invalid argument: Cycle in role hierarchy: '{role}' reaches itself"
  | .infrastructure reason => s!"Authorization infrastructure failure: {reason}"

/-- Whether the error is a denial of access, as opposed to a failure to decide. -/
def isDenial : Error → Bool
  | .accessDenied .. => true
  | _ => false

end Error

end Warden
