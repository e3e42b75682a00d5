import Warden.Proofs.Intercept.Verdict

/-!
# Secured calls in a task

`Target.runsAs` is the simulation between a target run in a task and on a thread; its one real
step is the secured call (`RunsAs.invokeInTask`).
-/

namespace Warden

variable {α β : Type}

namespace Target

/-- Runs a target as a task whose nested calls are secured calls in the task. -/
def runInTask : {β : Type} → Target β → InTask (Except Failure β)
  | _, finish r => pure r
  | _, read k => do (k ((← readThe (Option SecurityContext)).bind (·.authentication))).runInTask
  | _, call i o t k => do
    match ← i.invokeInTask o t.runInTask with
    | .error .aborted => return .error .aborted
    | r => (k r).runInTask

/-- A target that reads the authentication at hand and returns what `body` makes of it. -/
def reading (body : Option Authentication → Except Failure β) : Target β :=
  read fun a => finish (body a)

theorem runInTask_read (k : Option Authentication → Target β) (c : Option SecurityContext)
    (th : Thread) :
    ((read k).runInTask.run c).run th = ((k (c.bind (·.authentication))).runInTask.run c).run th :=
  rfl

theorem runInTask_call {γ δ : Type} (i : Interceptor δ) (o : δ) (t : Target γ)
    (k : Except Failure γ → Target β) (c : Option SecurityContext) (th : Thread) :
    ((call i o t k).runInTask.run c).run th =
      match ((i.invokeInTask o t.runInTask).run c).run th with
      | (.error .aborted, th₁) => (.error .aborted, th₁)
      | (r, th₁) => ((k r).runInTask.run c).run th₁ := by
  simp only [runInTask, ReaderT.run_bind, OnThread.run_bind]
  rcases ((i.invokeInTask o t.runInTask).run c).run th with ⟨r, th₁⟩
  rcases r with (_ | _ | _) | _ <;> rfl

end Target

theorem Thread.authentication_mk (s : Option SecurityContext) (trail : List Observation) :
    (Thread.mk s trail).authentication = s.bind (·.authentication) := rfl

theorem Token.scope_authentication (tok : Token) (c : Option SecurityContext) :
    (tok.scope c).bind (·.authentication) = tok.runAs.or (c.bind (·.authentication)) := by
  rcases h : tok.runAs with _ | r
  · simp [Token.scope, h]
  · simp [Token.scope, h, SecurityContext.holding]

/-! ## A secured call in a task -/

namespace Interceptor

theorem invokeInTask_run_check (i : Interceptor α) (o : α) (n : InTask (Except Failure β))
    (c : Option SecurityContext) (th : Thread) :
    ((i.invokeInTask o n).run c).run th =
      match (i.check o (c.bind (·.authentication))).1.map
          (i.tokenOf o (c.bind (·.authentication))) with
      | .error e => (.error (.security e),
          { th with trail := th.trail ++ (i.check o (c.bind (·.authentication))).2.toList })
      | .ok tok => (n.run (tok.scope c)).run
          { th with trail := th.trail ++ (i.check o (c.bind (·.authentication))).2.toList } := by
  simp only [invokeInTask, ReaderT.run_bind, ReaderT.run_monadLift]
  rw [OnThread.run_bind]
  change StateT.run (i.beforeInvocation o (c.bind (·.authentication)) >>= _) th = _
  rw [OnThread.run_bind, beforeInvocation_run]
  rcases (i.check o (c.bind (·.authentication))).1.map
    (i.tokenOf o (c.bind (·.authentication))) with e | tok
  · rfl
  · -- a substitute is scoped to the target alone
    rcases h : tok.runAs with _ | r
    · simp only [h, Token.scope]
    · simp only [h, Token.scope]
      rfl

end Interceptor

/-! ## The two forms agree -/

/-- `n` in a task does what `m` does on a thread whose slot holds the task's scope. -/
def RunsAs (n : InTask β) (m : OnThread β) : Prop :=
  ∀ th s, (n.run th.slot).run { th with slot := s } =
    ((m.run th).1, { (m.run th).2 with slot := s })

theorem RunsAs.invokeInTask (i : Interceptor α) (o : α) {n : InTask (Except Failure β)}
    {m : OnThread (Except Failure β)} (hm : KeepsSlot m) (h : RunsAs n m) :
    RunsAs (i.invokeInTask o n) (i.invoke o m) := by
  intro th s
  rw [Interceptor.invokeInTask_run_check, Interceptor.invoke_run_check i o hm]
  -- both forms check the authentication of the same context
  change (match (i.check o th.authentication).1.map (i.tokenOf o th.authentication) with
    | .error e => _ | .ok tok => _) = _
  rcases (i.check o th.authentication).1.map (i.tokenOf o th.authentication) with e | tok
  · rfl
  · exact h ⟨tok.scope th.slot, th.trail ++ (i.check o th.authentication).2.toList⟩ s

namespace Target

theorem runsAs : {β : Type} → (t : Target β) → RunsAs t.runInTask t.run
  | _, finish _ => fun _ _ => rfl
  | _, read k => fun th s => by
    rw [runInTask_read, run_read]
    exact runsAs (k _) th s
  | _, call i o t k => fun th s => by
    have hcall := RunsAs.invokeInTask i o t.keepsSlot (runsAs t) th s
    have hslot := Interceptor.KeepsSlot.invoke i o t.keepsSlot th
    rw [runInTask_call, run_call, hcall]
    rcases hp : (i.invoke o t.run).run th with ⟨r, th₁⟩
    rw [hp] at hslot
    -- the call keeps the slot, so what comes after it reads the same context on both sides
    have hk : (((k r).runInTask.run th.slot).run { th₁ with slot := s }) =
        (((k r).run.run th₁).1, { ((k r).run.run th₁).2 with slot := s }) := by
      rw [← hslot]
      exact runsAs (k r) th₁ s
    rcases r with (_ | _ | _) | _
    · exact hk
    · exact hk
    · rfl
    · exact hk

end Target

/-- A secured call in a task agrees with the call on a thread. -/
theorem invokeInTask_agrees (i : Interceptor α) (o : α) (c : Option SecurityContext)
    (body : Option Authentication → Except Failure β) (th : Thread) :
    ((i.invokeInTask o (Target.reading body).runInTask).run c).run th =
      (((i.invoke o (Target.reading body).run).run { th with slot := c }).1,
        { ((i.invoke o (Target.reading body).run).run { th with slot := c }).2 with
          slot := th.slot }) ∧
    ((i.invoke o (Target.reading body).run).run { th with slot := c }).2.slot = c ∧
    ((i.invoke o (Target.reading body).run).run { th with slot := c }).1 =
      (match (i.check o (c.bind (·.authentication))).1.map
          (i.tokenOf o (c.bind (·.authentication))) with
        | .error e => .error (.security e)
        | .ok tok => body (tok.runAs.or (c.bind (·.authentication)))) ∧
    (((do let _ ← i.invokeInTask o (Target.reading body).runInTask; read).run c).run th).1 = c := by
  have hkeep := (Target.reading body).keepsSlot
  refine ⟨?_, Interceptor.KeepsSlot.invoke i o hkeep _, ?_, rfl⟩
  · exact RunsAs.invokeInTask i o hkeep (Target.reading body).runsAs { th with slot := c } th.slot
  · rw [Interceptor.invoke_run_check i o hkeep, Thread.authentication_mk]
    rcases (i.check o (c.bind (·.authentication))).1.map
      (i.tokenOf o (c.bind (·.authentication))) with e | tok
    · rfl
    · -- the target reads the token's scope
      change body ((tok.scope c).bind (·.authentication)) = _
      rw [Token.scope_authentication]

end Warden
