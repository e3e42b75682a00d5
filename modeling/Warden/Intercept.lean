import Warden.Access.Decision
import Warden.Access.RunAs
import Warden.Observation

/-!
# The security interceptor

A secured call looks up the object's attributes, asks the decision manager (recording the
decision), asks the run-as manager for a substitute, and runs the target with the substitute
in place, restoring the caller's context afterwards; on a thread the context is the slot's, in
a task that of the task's scope.
-/

namespace Warden

/-- Why a secured call did not return a value. -/
inductive Failure where
  | security (e : Error)
  | target (message : String)
  | aborted
  deriving DecidableEq, Repr

/-- A thread's context slot and the observations recorded on it, oldest first. -/
structure Thread where
  slot : Option SecurityContext
  trail : List Observation
  deriving DecidableEq, Repr

abbrev OnThread := StateM Thread

/-- A computation in a task, which sees the context of its scope. -/
abbrev InTask := ReaderT (Option SecurityContext) OnThread

namespace Thread

def fresh : Thread := ⟨none, []⟩

def authentication (t : Thread) : Option Authentication := t.slot.bind (·.authentication)

end Thread

/-- Runs `m` with `c` in the slot and puts the previous value back, whatever `m` left. -/
def onThreadWith {β : Type} (c : Option SecurityContext) (m : OnThread β) : OnThread β := do
  let saved := (← get).slot
  modify fun t => { t with slot := c }
  let result ← m
  modify fun t => { t with slot := saved }
  return result

/-- What the checks before a call give: the object's attributes and any substitute identity. -/
structure Token where
  attributes : List String
  runAs : Option Authentication
  deriving DecidableEq, Repr

def Token.isPublic (t : Token) : Bool := t.attributes.isEmpty

/-- A security interceptor for objects of type `α`. -/
structure Interceptor (α : Type) where
  attributesOf : α → Option (List String)
  describe : α → String
  manager : Authentication → α → List String → Except Error Unit
  runAs : Authentication → α → List String → Option Authentication
  observed : Bool
  rejectPublic : Bool

namespace Interceptor

variable {α : Type}

/-- The attributes guarding `o` or the refusal, with the observation of the decision. -/
def check (i : Interceptor α) (o : α) (auth : Option Authentication) :
    Except Error (List String) × Option Observation :=
  let attributes := (i.attributesOf o).getD []
  if attributes.isEmpty then
    if i.rejectPublic then
      let shown := i.describe o
      (.error (.accessDenied .publicRejected
        s!"Secure object invocation {shown} was denied as public invocations are not allowed"),
        none)
    else (.ok [], none)
  else
    match auth with
    | none =>
      (.error (.credentialsNotFound
        "An Authentication object was not found in the SecurityContext"), none)
    | some a =>
      let decision := i.manager a o attributes
      let seen := if i.observed then some (Observation.record (i.describe o) decision a attributes)
        else none
      (decision.map fun _ => attributes, seen)

/-- Appends an observation, if there is one, to the thread's trail. -/
def note (seen : Option Observation) : OnThread Unit :=
  modify fun t => { t with trail := t.trail ++ seen.toList }

/-- Decides whether `auth` may use `o`. -/
def authorize (i : Interceptor α) (o : α) (auth : Option Authentication) :
    OnThread (Except Error Unit) := do
  let (result, seen) := i.check o auth
  note seen
  return result.map fun _ => ()

/-- The checks before a call: the decision, then the substitute identity if any. -/
def beforeInvocation (i : Interceptor α) (o : α) (auth : Option Authentication) :
    OnThread (Except Error Token) := do
  let (result, seen) := i.check o auth
  note seen
  return result.map fun attributes =>
    let runAs := match auth with
      | some a => if attributes.isEmpty then none else i.runAs a o attributes
      | none => none
    { attributes, runAs }

/-- Calls `target` on `o` for the slot's authentication, under any substitute identity. -/
def invoke {β : Type} (i : Interceptor α) (o : α) (target : OnThread (Except Failure β)) :
    OnThread (Except Failure β) := do
  let token ← i.beforeInvocation o (← get).authentication
  match token with
  | .error e => return .error (.security e)
  | .ok t =>
    match t.runAs with
    | some r => onThreadWith (some (.holding r)) target
    | none => target

/-- Calls `target` on `o` for the task scope's authentication, under any substitute identity. -/
def invokeInTask {β : Type} (i : Interceptor α) (o : α) (target : InTask (Except Failure β)) :
    InTask (Except Failure β) := do
  let scope ← read
  let token ← i.beforeInvocation o (scope.bind (·.authentication))
  match token with
  | .error e => return .error (.security e)
  | .ok t =>
    match t.runAs with
    | some r => withReader (fun _ => some (.holding r)) target
    | none => target

end Interceptor

end Warden
