import Warden.Context.Propagation
import Warden.Proofs.Intercept.Scope

/-! # Tasks run in the context they carry -/

namespace Warden

variable {β : Type}

namespace DelegatingTask

theorem run_run (t : DelegatingTask β) (th : Thread) :
    t.run.run th = ((t.work.run { th with slot := t.context }).1,
      { (t.work.run { th with slot := t.context }).2 with slot := th.slot }) :=
  Interceptor.onThreadWith_run t.context t.work th

theorem run_keepsSlot (t : DelegatingTask β) : KeepsSlot t.run := fun _ => rfl

theorem capture_run (work : OnThread β) (th : Thread) :
    (capture work).run th = (⟨work, th.slot⟩, th) := rfl

end DelegatingTask

namespace ContextExecutor

theorem wrap_run (e : ContextExecutor) (work : OnThread β) (th : Thread) :
    (e.wrap work).run th = (⟨work, executorContext e.fixed th.slot⟩, th) := rfl

theorem execute_inline_run (fixed : Option SecurityContext) (work : OnThread β) (th : Thread) :
    ((ContextExecutor.mk .inline fixed).execute work).run th =
      (DelegatingTask.run ⟨work, executorContext fixed th.slot⟩).run th := by
  rw [execute, OnThread.run_bind, wrap_run]

theorem execute_freshThread_run (fixed : Option SecurityContext) (work : OnThread β)
    (th : Thread) :
    ((ContextExecutor.mk .freshThread fixed).execute work).run th =
      (((DelegatingTask.run ⟨work, executorContext fixed th.slot⟩).run Thread.fresh).1, th) := by
  rw [execute, OnThread.run_bind, wrap_run]
  rfl

theorem execute_keepsSlot (e : ContextExecutor) (work : OnThread β) :
    KeepsSlot (e.execute work) := by
  obtain ⟨delegate, fixed⟩ := e
  intro th
  cases delegate with
  | inline => rw [execute_inline_run]; exact DelegatingTask.run_keepsSlot _ th
  | freshThread => rw [execute_freshThread_run]

end ContextExecutor

/-- A task runs in the context it carries, and the thread keeps its slot. -/
theorem run_in_carried_context (work : OnThread β) (th : Thread) :
    (∀ c s : Option SecurityContext,
      (DelegatingTask.run ⟨work, c⟩).run { th with slot := s } =
        ((work.run { th with slot := c }).1, { (work.run { th with slot := c }).2 with slot := s })) ∧
      (DelegatingTask.capture work).run th = (⟨work, th.slot⟩, th) ∧
      (∀ fixed, ((ContextExecutor.mk .inline fixed).execute work).run th =
        ((work.run { th with slot := fixed.or th.slot }).1,
          { (work.run { th with slot := fixed.or th.slot }).2 with slot := th.slot })) ∧
      ∀ fixed, ((ContextExecutor.mk .freshThread fixed).execute work).run th =
        ((work.run { Thread.fresh with slot := fixed.or th.slot }).1, th) := by
  refine ⟨fun c s => ?_, DelegatingTask.capture_run work th, fun fixed => ?_, fun fixed => ?_⟩
  · -- the work starts from the slot the task installs, so what it sees does not depend on `s`
    exact DelegatingTask.run_run ⟨work, c⟩ { th with slot := s }
  · rw [ContextExecutor.execute_inline_run, DelegatingTask.run_run]
    rfl
  · rw [ContextExecutor.execute_freshThread_run, DelegatingTask.run_run]
    rfl

end Warden
