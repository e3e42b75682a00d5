import Warden.Authentication

/-!
# Anonymous visitors

A request without an authentication acts as a visitor minted with the filter's key.
-/

namespace Warden.Web

/-- Supplies the authentication of visitors who did not log in. -/
structure AnonymousFilter where
  visitor : Authentication
  minted : visitor.isAnonymous = true
  deriving DecidableEq, Repr

namespace AnonymousFilter

/-- A filter minting visitors with the key, principal and authorities given. -/
def create (key principal : String) (authorities : List String) : Except Error AnonymousFilter :=
  match h : Authentication.anonymous key principal authorities with
  | .ok a => .ok ⟨a, Authentication.anonymous_isAnonymous h⟩
  | .error e => .error e

/-- A filter minting `anonymousUser` with the authority `ROLE_ANONYMOUS`. -/
def withKey (key : String) : Except Error AnonymousFilter :=
  create key "anonymousUser" ["ROLE_ANONYMOUS"]

/-- The context to act in: `c` when it holds an authentication, else the visitor's. -/
def resolve (f : AnonymousFilter) (c : Option SecurityContext) : SecurityContext :=
  match c with
  | some ctx => if ctx.authentication.isSome then ctx else .holding f.visitor
  | none => .holding f.visitor

/-- The slot after the filter has run on it, and whether it put the visitor there. -/
def apply (f : AnonymousFilter) (slot : Option SecurityContext) : Option SecurityContext × Bool :=
  if (slot.bind (·.authentication)).isSome then (slot, false) else (some (f.resolve none), true)

end AnonymousFilter

end Warden.Web
