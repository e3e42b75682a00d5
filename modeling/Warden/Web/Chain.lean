import Warden.Intercept
import Warden.Web.Anonymous
import Warden.Web.Matcher
import Warden.Web.Sessions

/-!
# The security filter chain

Each request runs through the interceptor with the context kept for its session, which is
saved again afterwards unless the handler panicked; and the privilege check, which answers
without running anything.
-/

namespace Warden.Web

/-- Requests guarded by an interceptor, with an optional anonymous filter. -/
structure Chain where
  interceptor : Interceptor Request
  anonymous : Option AnonymousFilter

/-- What the chain changes: the running thread and the session store. -/
structure Site where
  thread : Thread
  sessions : Sessions
  deriving DecidableEq, Repr

namespace Chain

/-- The session store after a request: its context is saved unless the handler panicked. -/
def savedAfter {β : Type} (result : Except Failure β) (s : Sessions) (c : Option SecurityContext)
    (r : Request) : Sessions :=
  match result with
  | .error .aborted => s
  | _ => s.save c r

/-- Runs `handler` for the request on the site's thread. -/
def filter {β : Type} (c : Chain) (r : Request) (handler : OnThread (Except Failure β)) :
    StateM Site (Except Failure β) := do
  let site ← get
  let loaded := site.sessions.load r
  let slot := match c.anonymous with
    | some f => (f.apply loaded).1
    | none => loaded
  let (result, after) := (c.interceptor.invoke r handler).run { site.thread with slot }
  set ({ thread := { after with slot := site.thread.slot },
         sessions := savedAfter result site.sessions after.slot r } : Site)
  return result

/-- Runs `handler` for the request in a task scoped to the context it acts in. -/
def filterInTask {β : Type} (c : Chain) (r : Request) (handler : InTask (Except Failure β)) :
    StateM Site (Except Failure β) := do
  let site ← get
  let loaded := site.sessions.load r
  let scope := match c.anonymous with
    | some f => some (f.resolve loaded)
    | none => loaded
  let (result, after) := ((c.interceptor.invokeInTask r handler).run scope).run site.thread
  set ({ thread := after, sessions := savedAfter result site.sessions scope r } : Site)
  return result

end Chain

end Warden.Web

namespace Warden

open Web

/-- Whether `auth` may make a request with the method for `uri` below `contextPath`. -/
def Interceptor.allows (i : Interceptor Request) (contextPath uri : String)
    (method : Option String) (auth : Option Authentication) : OnThread (Except Error Bool) :=
  match auth with
  | none => return .ok false
  | some a => do
    let r := ({ Request.get uri with contextPath }).withMethod (method.getD "GET")
    match ← i.authorize r (some a) with
    | .ok () => return .ok true
    | .error e => return if e.isDenial then .ok false else .error e

/-- Whether `auth` may make a `GET` request for `uri` in the root context. -/
def Interceptor.allowsUri (i : Interceptor Request) (uri : String)
    (auth : Option Authentication) : OnThread (Except Error Bool) :=
  i.allows "" uri none auth

end Warden
