import Warden.Authentication

/-! # Observations of access decisions -/

namespace Warden

inductive Outcome where
  | granted
  | denied
  | failed
  deriving DecidableEq, Repr

def Outcome.text : Outcome → String
  | .granted => "granted"
  | .denied => "denied"
  | .failed => "error"

def Outcome.of : Except Error Unit → Outcome
  | .ok () => .granted
  | .error e => if e.isDenial then .denied else .failed

/-- One observed decision. -/
structure Observation where
  object : String
  outcome : Outcome
  principal : Option String
  authorities : List String
  attributes : List String
  deriving DecidableEq, Repr

namespace Observation

/-- The observation of a decision on `a` for an object guarded by the attributes. -/
def record (object : String) (decision : Except Error Unit) (a : Authentication)
    (attributes : List String) : Observation :=
  { object, outcome := Outcome.of decision, principal := a.principal,
    authorities := a.authorities, attributes }

/-- How an observation is written; the attributes are left out when there are none. -/
def display (o : Observation) : String :=
  let outcome := o.outcome.text
  let who := o.principal.getD "<none>"
  let guards := if o.attributes.isEmpty then "" else ", attributes=" ++ ",".intercalate o.attributes
  s!"Authorization[object={o.object}, outcome={outcome}, principal={who}{guards}]"

end Observation

end Warden
