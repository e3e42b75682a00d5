import Warden.Authentication
import Warden.Authority.Hierarchy
import Warden.Text.Items

/-!
# Voters

A voter grants when the authentication satisfies an attribute it understands, denies when it
understands some but satisfies none, and abstains otherwise: role, hierarchy, authentication
(`IS_AUTHENTICATED_FULLY`, `IS_AUTHENTICATED_ANONYMOUSLY`, `IS_ANONYMOUS`) and constant voters.
-/

namespace Warden

/-- The attributes written in a comma-separated text, in order, repeats kept. -/
def attributesOf (s : String) : List String := Text.commaItems s

inductive Vote where
  | granted
  | abstain
  | denied
  deriving DecidableEq, Repr

def Vote.text : Vote → String
  | .granted => "granted"
  | .abstain => "abstain"
  | .denied => "denied"

/-- A voter on access requests. -/
inductive Voter where
  | role (rolePrefix : String)
  | hierarchy (h : RoleHierarchy)
  | authenticated
  | constant (vote : Vote) (understood : Bool)

namespace Voter

/-- The attribute that demands a full, non-anonymous authentication. -/
def fullyAuthenticated : String := "IS_AUTHENTICATED_FULLY"

/-- The attribute that any authenticated or anonymous principal satisfies. -/
def anonymouslyAuthenticated : String := "IS_AUTHENTICATED_ANONYMOUSLY"

/-- The attribute that only an anonymous principal satisfies. -/
def anonymousOnly : String := "IS_ANONYMOUS"

/-- Whether the authentication satisfies one of the authentication voter's attributes. -/
def authenticatedBy (a : Authentication) (attr : String) : Bool :=
  if attr = fullyAuthenticated then a.authenticated && !a.isAnonymous
  else if attr = anonymouslyAuthenticated then a.authenticated || a.isAnonymous
  else if attr = anonymousOnly then a.isAnonymous
  else false

def supports : Voter → String → Bool
  | .role p, attr => p.isPrefixOf attr
  | .hierarchy _, attr => "ROLE_".isPrefixOf attr
  | .authenticated, attr =>
    attr = fullyAuthenticated || attr = anonymouslyAuthenticated ||
      attr = anonymousOnly
  | .constant _ understood, _ => understood

/-- Whether the authentication satisfies an attribute the voter understands. -/
def satisfied : Voter → Authentication → String → Bool
  | .role _, a, attr => a.authorities.contains attr
  | .hierarchy h, a, attr => (h.reachable a.authorities).contains attr
  | .authenticated, a, attr => authenticatedBy a attr
  | .constant _ _, _, _ => false

/-- Grants when an understood attribute is satisfied, denies when none is, else abstains. -/
def tally (understands satisfied : String → Bool) (attributes : List String) : Vote :=
  let understood := attributes.filter understands
  if understood.any satisfied then .granted
  else if understood.isEmpty then .abstain
  else .denied

def vote : Voter → Authentication → List String → Vote
  | .constant v _, _, _ => v
  | .role p, a, attributes => tally (role p).supports ((role p).satisfied a) attributes
  | .hierarchy h, a, attributes =>
    tally (hierarchy h).supports ((hierarchy h).satisfied a) attributes
  | .authenticated, a, attributes => tally authenticated.supports (authenticated.satisfied a) attributes

end Voter

end Warden
