import Warden.Authority.Basic
import Warden.Error

/-!
# Authentications

Principal, credentials and authorities, of the ordinary kind or minted with a key: a visitor's
anonymous authentication, or a run-as stand-in for one secured call.
-/

namespace Warden

/-- How an authentication came about. -/
inductive Authentication.Kind where
  | standard
  | anonymous (key : String)
  | runAs (key : String)
  deriving DecidableEq, Repr

/-- Who acts, with which credentials and authorities. -/
structure Authentication where
  principal : Option String
  credentials : Option String
  authorities : List String
  authenticated : Bool
  kind : Authentication.Kind
  deriving DecidableEq, Repr

namespace Authentication

/-- An ordinary authentication, authenticated exactly when it holds an authority. -/
def build (principal credentials : Option String) (authorities : List String) :
    Authentication :=
  let held := Authority.list authorities
  { principal, credentials, authorities := held, authenticated := !held.isEmpty,
    kind := .standard }

/-- The parts given to the authentication builder so far; a part given again replaces it. -/
structure Builder where
  principal : Option String
  credentials : Option String
  authorities : List String
  deriving DecidableEq, Repr

inductive Builder.Call where
  | principal (p : String)
  | credentials (c : String)
  | authorities (names : List String)
  deriving DecidableEq, Repr

namespace Builder

def start : Builder := ⟨none, none, []⟩

def call (b : Builder) : Call → Builder
  | .principal p => { b with principal := some p }
  | .credentials c => { b with credentials := some c }
  | .authorities names => { b with authorities := Authority.list names }

def run (calls : List Call) : Builder := calls.foldl call start

/-- An ordinary authentication of the parts given. -/
def build (b : Builder) : Authentication :=
  { principal := b.principal, credentials := b.credentials, authorities := b.authorities,
    authenticated := !b.authorities.isEmpty, kind := .standard }

end Builder

/-- A visitor's authentication; key, principal and authorities are checked in that order. -/
def anonymous (key principal : String) (authorities : List String) :
    Except Error Authentication :=
  let held := Authority.list authorities
  if key = "" then .error (.invalidArgument "Anonymous key cannot be empty")
  else if principal = "" then .error (.invalidArgument "Anonymous principal cannot be empty")
  else if held = [] then .error (.invalidArgument "Anonymous authorities cannot be empty")
  else .ok { principal := some principal, credentials := none, authorities := held,
             authenticated := true, kind := .anonymous key }

/-- A stand-in for `caller` minted with `key`, holding `authorities` instead of the caller's. -/
def mintRunAs (key : String) (caller : Authentication) (authorities : List String) :
    Authentication :=
  { principal := caller.principal, credentials := caller.credentials,
    authorities := Authority.list authorities, authenticated := true, kind := .runAs key }

/-- Like `mintRunAs`, but the key must not be empty. -/
def runAs (key : String) (caller : Authentication) (authorities : List String) :
    Except Error Authentication :=
  if key = "" then .error (.invalidArgument "Run-as key cannot be empty")
  else .ok (mintRunAs key caller authorities)

/-- The principal's name, empty when there is no principal. -/
def name (a : Authentication) : String := a.principal.getD ""

def hasAuthority (a : Authentication) (authority : String) : Bool :=
  a.authorities.contains authority

def isAnonymous (a : Authentication) : Bool :=
  match a.kind with
  | .anonymous _ => true
  | _ => false

/-- What `anonymous` mints is a visitor's authentication. -/
theorem anonymous_isAnonymous {key principal : String} {authorities : List String}
    {a : Authentication} (h : anonymous key principal authorities = .ok a) :
    a.isAnonymous = true := by
  unfold anonymous at h
  dsimp only at h
  split at h
  · cases h
  · split at h
    · cases h
    · split at h
      · cases h
      · cases h
        rfl

def isRunAs (a : Authentication) : Bool :=
  match a.kind with
  | .runAs _ => true
  | _ => false

/-- Whether the authentication was minted with `key`; an ordinary one never was. -/
def keyMatches (a : Authentication) (key : String) : Bool :=
  match a.kind with
  | .anonymous k | .runAs k => k == key
  | .standard => false

def eraseCredentials (a : Authentication) : Authentication := { a with credentials := none }

end Authentication

/-- What a thread or task knows about who is acting: possibly nobody. -/
structure SecurityContext where
  authentication : Option Authentication
  deriving DecidableEq, Repr

namespace SecurityContext

def empty : SecurityContext := ⟨none⟩

def holding (a : Authentication) : SecurityContext := ⟨some a⟩

end SecurityContext

end Warden
