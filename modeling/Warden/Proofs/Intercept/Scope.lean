import Warden.Intercept

/-!
# The scope of a secured call on a thread

Targets are trees of reads, nested secured calls and ends; every target keeps the slot
(`KeepsSlot`), by induction on the target.
-/

namespace Warden

variable {α β : Type}

/-- A target of a secured call, as the tree of what it does. -/
inductive Target : Type → Type 1 where
  | finish {β : Type} (r : Except Failure β) : Target β
  | read {β : Type} (k : Option Authentication → Target β) : Target β
  | call {β γ δ : Type} (i : Interceptor δ) (o : δ) (t : Target γ)
      (k : Except Failure γ → Target β) : Target β

namespace Target

/-- Runs a target on the thread; a panic in a nested call ends the target too. -/
def run : {β : Type} → Target β → OnThread (Except Failure β)
  | _, finish r => pure r
  | _, read k => do (k (← get).authentication).run
  | _, call i o t k => do
    match ← i.invoke o t.run with
    | .error .aborted => return .error .aborted
    | r => (k r).run

end Target

/-- A computation that leaves the thread's slot as it found it. -/
def KeepsSlot (m : OnThread β) : Prop := ∀ th, (m.run th).2.slot = th.slot

/-- The slot a target runs with: the substitute identity, or the caller's slot `s`. -/
def Token.scope (t : Token) (s : Option SecurityContext) : Option SecurityContext :=
  match t.runAs with
  | some r => some (.holding r)
  | none => s

theorem KeepsSlot.run_eq {m : OnThread β} (hm : KeepsSlot m) (th : Thread) :
    m.run th = ((m.run th).1, { (m.run th).2 with slot := th.slot }) := by
  have hs := hm th
  generalize m.run th = p at hs ⊢
  obtain ⟨r, slot, trail⟩ := p
  simp only at hs
  simp [hs]

/-! ## One secured call -/

theorem OnThread.run_bind {γ : Type} (x : OnThread γ) (f : γ → OnThread β) (th : Thread) :
    (x >>= f).run th = (f (x.run th).1).run (x.run th).2 := rfl

namespace Interceptor

theorem beforeInvocation_keepsSlot (i : Interceptor α) (o : α) (auth : Option Authentication) :
    KeepsSlot (i.beforeInvocation o auth) := fun _ => rfl

theorem onThreadWith_run (c : Option SecurityContext) (m : OnThread β) (th : Thread) :
    (onThreadWith c m).run th =
      ((m.run { th with slot := c }).1, { (m.run { th with slot := c }).2 with slot := th.slot }) :=
  rfl

theorem invoke_run (i : Interceptor α) (o : α) {m : OnThread (Except Failure β)}
    (hm : KeepsSlot m) (th : Thread) :
    (i.invoke o m).run th =
      match (i.beforeInvocation o th.authentication).run th with
      | (.error e, th₁) => (.error (.security e), th₁)
      | (.ok tok, th₁) =>
        ((m.run { th₁ with slot := tok.scope th.slot }).1,
          { (m.run { th₁ with slot := tok.scope th.slot }).2 with slot := th.slot }) := by
  have hb := i.beforeInvocation_keepsSlot o th.authentication th
  simp only [invoke, OnThread.run_bind, StateT.run_get]
  rcases hr : (i.beforeInvocation o th.authentication).run th with ⟨_ | tok, th₁⟩
  · rfl
  · have h₁ : th₁.slot = th.slot := by rw [hr] at hb; exact hb
    rcases h : tok.runAs with _ | r
    · -- without a substitute the slot is never touched, so the target's own frame suffices
      simp only [h, Token.scope, ← h₁]
      exact hm.run_eq th₁
    · simp only [h, Token.scope, onThreadWith_run, h₁]

theorem KeepsSlot.invoke (i : Interceptor α) (o : α) {m : OnThread (Except Failure β)}
    (hm : KeepsSlot m) : KeepsSlot (i.invoke o m) := by
  intro th
  have hb := i.beforeInvocation_keepsSlot o th.authentication th
  rw [invoke_run i o hm]
  rcases hr : (i.beforeInvocation o th.authentication).run th with ⟨_ | tok, th₁⟩
  · rw [hr] at hb
    exact hb
  · rfl

end Interceptor

/-! ## Every target keeps the slot -/

namespace Target

theorem run_read (k : Option Authentication → Target β) (th : Thread) :
    (read k).run.run th = (k th.authentication).run.run th := rfl

theorem run_call {γ δ : Type} (i : Interceptor δ) (o : δ) (t : Target γ)
    (k : Except Failure γ → Target β) (th : Thread) :
    (call i o t k).run.run th =
      match (i.invoke o t.run).run th with
      | (.error .aborted, th₁) => (.error .aborted, th₁)
      | (r, th₁) => (k r).run.run th₁ := by
  simp only [run, OnThread.run_bind]
  rcases (i.invoke o t.run).run th with ⟨r, th₁⟩
  rcases r with (_ | _ | _) | _ <;> rfl

-- By induction on the target: a read leaves the thread alone, and a nested secured call keeps
-- the slot because its own target does (`KeepsSlot.invoke`).
theorem keepsSlot : {β : Type} → (t : Target β) → KeepsSlot t.run
  | _, finish _ => fun _ => rfl
  | _, read k => fun th => by rw [run_read]; exact keepsSlot (k _) th
  | _, call i o t k => fun th => by
    have hcall := Interceptor.KeepsSlot.invoke i o (keepsSlot t) th
    rw [run_call]
    rcases hp : (i.invoke o t.run).run th with ⟨r, th₁⟩
    rw [hp] at hcall
    -- a panic ends the target where the nested call left the thread; any other result goes on
    have hk : ((k r).run.run th₁).2.slot = th.slot := (keepsSlot (k r) th₁).trans hcall
    cases r with
    | ok _ => exact hk
    | error f =>
        cases f with
        | security _ => exact hk
        | target _ => exact hk
        | aborted => exact hcall

end Target

/-! ## The scope of a secured call -/

/-- A secured call runs its target exactly when the checks pass. -/
theorem invoke_scopes_target (i : Interceptor α) (o : α) (t : Target β) (th : Thread) :
    ((i.invoke o t.run).run th).2.slot = th.slot ∧
    (i.invoke o t.run).run th =
      match (i.beforeInvocation o th.authentication).run th with
      | (.error e, th₁) => (.error (.security e), th₁)
      | (.ok tok, th₁) =>
        ((t.run.run { th₁ with slot := tok.scope th.slot }).1,
          { (t.run.run { th₁ with slot := tok.scope th.slot }).2 with slot := th.slot }) :=
  ⟨Interceptor.KeepsSlot.invoke i o t.keepsSlot th, Interceptor.invoke_run i o t.keepsSlot th⟩

end Warden
