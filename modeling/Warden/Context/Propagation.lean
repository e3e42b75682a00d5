import Warden.Intercept

/-!
# Carrying a context to the thread that runs a task

A task wrapped with a context runs with it in the slot of any thread and puts the slot back
afterwards; an executor wraps tasks with its fixed context or the submitter's.
-/

namespace Warden

variable {β : Type}

/-- Work together with the context it runs with. -/
structure DelegatingTask (β : Type) where
  work : OnThread β
  context : Option SecurityContext

namespace DelegatingTask

/-- Wraps work with the context in the calling thread's slot. -/
def capture (work : OnThread β) : OnThread (DelegatingTask β) := do
  return ⟨work, (← get).slot⟩

/-- Runs the work with the task's context in the slot, then puts the old slot back. -/
def run (t : DelegatingTask β) : OnThread β := onThreadWith t.context t.work

end DelegatingTask

/-- The executor's fixed context when it has one, and otherwise the submitter's. -/
def executorContext (fixed submitter : Option SecurityContext) : Option SecurityContext :=
  fixed.or submitter

/-- Where an executor's delegate runs the tasks handed to it. -/
inductive Delegate where
  | inline
  | freshThread
  deriving DecidableEq, Repr

/-- An executor that wraps each task with a security context for its delegate. -/
structure ContextExecutor where
  delegate : Delegate
  fixed : Option SecurityContext

namespace ContextExecutor

/-- Wraps work with the executor's fixed context, or else the submitter's slot. -/
def wrap (e : ContextExecutor) (work : OnThread β) : OnThread (DelegatingTask β) := do
  return ⟨work, executorContext e.fixed (← get).slot⟩

/-- Wraps the work on the submitting thread and lets the delegate run it. -/
def execute (e : ContextExecutor) (work : OnThread β) : OnThread β := do
  let t ← e.wrap work
  match e.delegate with
  | .inline => t.run
  | .freshThread => return (t.run.run Thread.fresh).1

end ContextExecutor

end Warden
