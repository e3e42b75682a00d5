import Warden.Authentication

/-!
# Run-as substitution

Each `RUN_AS_` attribute of an object becomes an extra role of a substitute identity, minted
with the manager's key and holding the caller's principal, credentials and authorities.
-/

namespace Warden

/-- The mark of an attribute that asks for a substitute identity. -/
def runAsMark : String := "RUN_AS_"

/-- Whether and how secured calls run under a substitute identity. -/
inductive RunAs where
  | disabled
  | minting (key rolePrefix : String)

namespace RunAs

/-- A minting manager; the key must not be empty. -/
def withKey (key : String) (rolePrefix : String) : Except Error RunAs :=
  if key = "" then
    .error (.invalidArgument
      "A key is required and should match a RunAsImplAuthenticationProvider key")
  else .ok (.minting key rolePrefix)

def extraRoles (rolePrefix : String) (attributes : List String) : List String :=
  (attributes.filter runAsMark.isPrefixOf).map (rolePrefix ++ ·)

/-- The substitute identity for `a` on an object with the attributes, if any. -/
def substitute : RunAs → Authentication → List String → Option Authentication
  | .disabled, _, _ => none
  | .minting key rolePrefix, a, attributes =>
    match extraRoles rolePrefix attributes with
    | [] => none
    | extra => some (Authentication.mintRunAs key a (extra ++ a.authorities))

/-- The manager asked about a call on an object; it never looks at the object. -/
def onObject {α : Type} (r : RunAs) (a : Authentication) (_ : α) (attributes : List String) :
    Option Authentication :=
  r.substitute a attributes

def minted : RunAs → Authentication → Bool
  | .disabled, _ => false
  | .minting key _, a => a.isRunAs && a.keyMatches key

end RunAs

end Warden
