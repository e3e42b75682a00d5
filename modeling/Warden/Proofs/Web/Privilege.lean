import Warden.Proofs.Intercept.Verdict
import Warden.Web.Chain

/-! # The privilege check predicts enforcement -/

namespace Warden

open Web

variable {α β : Type}

theorem Error.isDenial_eq_true_iff (e : Error) :
    e.isDenial = true ↔ ∃ k reason, e = .accessDenied k reason := by
  cases e <;> simp [isDenial]

namespace Interceptor

/-- A secured call of `m` on `o` from the thread `th` runs its target. -/
def RunsTarget (i : Interceptor α) (o : α) (m : OnThread (Except Failure β)) (th : Thread) :
    Prop :=
  ∃ tok th₁, (i.beforeInvocation o th.authentication).run th = (.ok tok, th₁) ∧
    (i.invoke o m).run th = ((m.run { th₁ with slot := tok.scope th.slot }).1,
      { (m.run { th₁ with slot := tok.scope th.slot }).2 with slot := th.slot })

theorem runsTarget_iff (i : Interceptor α) (o : α) {m : OnThread (Except Failure β)}
    (hm : KeepsSlot m) (th : Thread) :
    i.RunsTarget o m th ↔ ∃ xs, (i.check o th.authentication).1 = .ok xs := by
  constructor
  · rintro ⟨tok, th₁, hb, -⟩
    rw [beforeInvocation_run] at hb
    cases hc : (i.check o th.authentication).1 with
    | error e =>
      rw [hc] at hb
      cases hb
    | ok xs => exact ⟨xs, rfl⟩
  · rintro ⟨xs, hc⟩
    have hb : (i.beforeInvocation o th.authentication).run th =
        (.ok (i.tokenOf o th.authentication xs),
          { th with trail := th.trail ++ (i.check o th.authentication).2.toList }) := by
      rw [beforeInvocation_run, hc]
      rfl
    refine ⟨_, _, hb, ?_⟩
    rw [invoke_run i o hm, hb]

theorem authorize_eq_ok_iff (i : Interceptor α) (o : α) (auth : Option Authentication)
    (th : Thread) :
    ((i.authorize o auth).run th).1 = .ok () ↔ ∃ xs, (i.check o auth).1 = .ok xs := by
  rw [authorize_run]
  cases (i.check o auth).1 <;> simp [Except.map]

/-! ## The privilege check -/

variable (i : Interceptor Request)

theorem allows_none_run (contextPath uri : String) (method : Option String) (th : Thread) :
    (i.allows contextPath uri method none).run th = (.ok false, th) := rfl

theorem allows_some_run (contextPath uri : String) (method : Option String) (a : Authentication)
    (th : Thread) :
    (i.allows contextPath uri method (some a)).run th =
      let p := (i.authorize (({ Request.get uri with contextPath }).withMethod
        (method.getD "GET")) (some a)).run th
      ((match p.1 with
        | .ok () => .ok true
        | .error e => if e.isDenial then .ok false else .error e), p.2) := by
  simp only [allows]
  rw [OnThread.run_bind]
  rcases (i.authorize _ (some a)).run th with ⟨e | u, th₁⟩ <;> rfl

section Answers

variable (contextPath uri : String) (method : Option String) (a : Authentication) (th : Thread)

theorem allows_eq_ok_true_iff :
    ((i.allows contextPath uri method (some a)).run th).1 = .ok true ↔
      ((i.authorize (({ Request.get uri with contextPath }).withMethod
        (method.getD "GET")) (some a)).run th).1 = .ok () := by
  rw [allows_some_run]
  generalize (i.authorize (({ Request.get uri with contextPath }).withMethod
    (method.getD "GET")) (some a)).run th = p
  rcases p with ⟨e | u, th₁⟩
  · cases h : e.isDenial <;> simp [h]
  · simp

theorem allows_eq_ok_false_iff :
    ((i.allows contextPath uri method (some a)).run th).1 = .ok false ↔
      ∃ k reason, ((i.authorize (({ Request.get uri with contextPath }).withMethod
        (method.getD "GET")) (some a)).run th).1 = .error (.accessDenied k reason) := by
  rw [allows_some_run]
  generalize (i.authorize (({ Request.get uri with contextPath }).withMethod
    (method.getD "GET")) (some a)).run th = p
  rcases p with ⟨e | u, th₁⟩
  · have hd := e.isDenial_eq_true_iff
    cases h : e.isDenial <;> simp_all
  · simp

theorem allows_eq_error_iff (e : Error) :
    ((i.allows contextPath uri method (some a)).run th).1 = .error e ↔
      ((i.authorize (({ Request.get uri with contextPath }).withMethod
        (method.getD "GET")) (some a)).run th).1 = .error e ∧
      ∀ k reason, e ≠ .accessDenied k reason := by
  rw [allows_some_run]
  generalize (i.authorize (({ Request.get uri with contextPath }).withMethod
    (method.getD "GET")) (some a)).run th = p
  rcases p with ⟨e' | u, th₁⟩
  · -- only a failure that is not a denial comes through, and then as it is
    have hd := e'.isDenial_eq_true_iff
    cases h : e'.isDenial
    · have hnd : ∀ k reason, e' ≠ .accessDenied k reason := by
        intro k reason he
        rw [hd.2 ⟨k, reason, he⟩] at h
        cases h
      simp only [h, Bool.false_eq_true, if_false, Except.error.injEq]
      constructor
      · rintro rfl
        exact ⟨rfl, hnd⟩
      · rintro ⟨rfl, -⟩
        rfl
    · obtain ⟨k, reason, rfl⟩ := hd.1 h
      simp only [h, if_true, Except.error.injEq]
      constructor
      · intro hc
        cases hc
      · rintro ⟨rfl, hne⟩
        exact absurd rfl (hne k reason)
  · simp

end Answers

/-- The privilege check says yes exactly when the secured call would run its target. -/
theorem allows_predicts_invoke (contextPath uri : String) (method : Option String) :
    (∀ th, (i.allows contextPath uri method none).run th = (.ok false, th)) ∧
    (∀ auth, i.allowsUri uri auth = i.allows "" uri none auth) ∧
    let r := ({ Request.get uri with contextPath }).withMethod (method.getD "GET")
    ∀ a th,
      (((i.allows contextPath uri method (some a)).run th).1 = .ok true ↔
        ((i.authorize r (some a)).run th).1 = .ok ()) ∧
      (((i.allows contextPath uri method (some a)).run th).1 = .ok false ↔
        ∃ k reason, ((i.authorize r (some a)).run th).1 = .error (.accessDenied k reason)) ∧
      (∀ e, ((i.allows contextPath uri method (some a)).run th).1 = .error e ↔
        ((i.authorize r (some a)).run th).1 = .error e ∧ ∀ k reason, e ≠ .accessDenied k reason) ∧
      ((i.allows contextPath uri method (some a)).run th).2 = ((i.authorize r (some a)).run th).2 ∧
      ∀ (β : Type) (t : Target β) (th' : Thread),
        (((i.allows contextPath uri method (some a)).run th).1 = .ok true ↔
          i.RunsTarget r t.run { th' with slot := some (.holding a) }) := by
  refine ⟨fun th => allows_none_run i contextPath uri method th, fun _ => rfl, ?_⟩
  intro r a th
  refine ⟨allows_eq_ok_true_iff i contextPath uri method a th,
    allows_eq_ok_false_iff i contextPath uri method a th,
    allows_eq_error_iff i contextPath uri method a th, ?_, fun β t th' => ?_⟩
  · rw [allows_some_run]
  · -- the call checks the same request for the same authentication as the privilege check
    rw [allows_eq_ok_true_iff, authorize_eq_ok_iff, runsTarget_iff i r t.keepsSlot]
    rfl

end Interceptor

end Warden
