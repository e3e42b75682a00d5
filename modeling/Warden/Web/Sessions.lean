import Warden.Authentication
import Warden.Web.Request

/-!
# Sessions

One context per session id, kept only when it holds a non-anonymous authentication.
-/

namespace Warden.Web

/-- Contexts kept per session id, each id once. -/
structure Sessions where
  entries : List (String × SecurityContext)
  deriving DecidableEq, Repr

namespace Sessions

def empty : Sessions := ⟨[]⟩

def load (s : Sessions) (r : Request) : Option SecurityContext :=
  r.sessionId.bind fun id => s.entries.lookup id

/-- Whether a context is worth keeping: it holds a non-anonymous authentication. -/
def keepable (c : Option SecurityContext) : Option SecurityContext :=
  c.filter fun ctx => match ctx.authentication with
    | some a => !a.isAnonymous
    | none => false

/-- Keeps `c` under `id` in a list of entries, in place when `id` is present. -/
def putIn (id : String) (c : SecurityContext) :
    List (String × SecurityContext) → List (String × SecurityContext)
  | [] => [(id, c)]
  | (k, v) :: rest => if k = id then (k, c) :: rest else (k, v) :: putIn id c rest

def invalidate (s : Sessions) (id : String) : Sessions :=
  ⟨s.entries.filter (·.1 ≠ id)⟩

/-- Saves the request's context, or forgets the session when it is not worth keeping. -/
def save (s : Sessions) (c : Option SecurityContext) (r : Request) : Sessions :=
  match r.sessionId with
  | none => s
  | some id =>
    match keepable c with
    | some ctx => ⟨putIn id ctx s.entries⟩
    | none => s.invalidate id

def contains (s : Sessions) (r : Request) : Bool := (s.load r).isSome

def size (s : Sessions) : Nat := s.entries.length

end Sessions

end Warden.Web
