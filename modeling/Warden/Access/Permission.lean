import Warden.Authentication

/-!
# Permissions on domain objects

The deny-all evaluator, used when no other is configured, refuses every permission.
-/

namespace Warden

/-- Decides permissions on domain objects. -/
inductive PermissionEvaluator where
  | denyAll

namespace PermissionEvaluator

def hasPermission : PermissionEvaluator → Authentication → String → String → Bool
  | .denyAll, _, _, _ => false

def hasPermissionById : PermissionEvaluator → Authentication → String → String → String → Bool
  | .denyAll, _, _, _, _ => false

end PermissionEvaluator

end Warden
