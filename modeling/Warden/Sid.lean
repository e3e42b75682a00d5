import Warden.Authentication
import Warden.Authority.Hierarchy

/-!
# Security identities

The principal's identity, then one identity per authority, read through a role hierarchy when
one is given.
-/

namespace Warden

/-- A security identity. -/
inductive Sid where
  | principal (name : String)
  | authority (name : String)
  deriving DecidableEq, Repr

namespace Sid

def display : Sid → String
  | .principal name => s!"PrincipalSid[{name}]"
  | .authority name => s!"GrantedAuthoritySid[{name}]"

/-- The principal's identity, then those of its (reachable) authorities. -/
def of (hierarchy : Option RoleHierarchy) (a : Authentication) : List Sid :=
  let held := match hierarchy with
    | some h => h.reachable a.authorities
    | none => a.authorities
  (a.principal.map Sid.principal).toList ++ held.map Sid.authority

end Sid

end Warden
