import Warden.Proofs.Intercept.Scope

/-!
# What the checks before a secured call decide

The checks end in exactly one of four ways (`Interceptor.Verdict`), and each entry point
reports them in its own way.
-/

namespace Warden

variable {α β : Type}

namespace Interceptor

/-- The attributes guarding `o`; an unknown object has none. -/
def attributes (i : Interceptor α) (o : α) : List String := (i.attributesOf o).getD []

/-- The token the checks give when the attributes pass. -/
def tokenOf (i : Interceptor α) (o : α) (auth : Option Authentication)
    (attributes : List String) : Token :=
  { attributes,
    runAs := match auth with
      | some a => if attributes.isEmpty then none else i.runAs a o attributes
      | none => none }

/-- How the checks before a call on `o` end, and the observation recorded. -/
inductive Verdict (i : Interceptor α) (o : α) :
    Option Authentication → Except Error Token → Option Observation → Prop
  | publicRefused {auth : Option Authentication} (hp : i.attributes o = [])
      (hr : i.rejectPublic = true) :
      Verdict i o auth (.error (.accessDenied .publicRejected ("Secure object invocation " ++
        i.describe o ++ " was denied as public invocations are not allowed"))) none
  | publicPassed {auth : Option Authentication} (hp : i.attributes o = [])
      (hr : i.rejectPublic = false) :
      Verdict i o auth (.ok { attributes := [], runAs := none }) none
  | noAuthentication (hp : i.attributes o ≠ []) :
      Verdict i o none (.error (.credentialsNotFound
        "An Authentication object was not found in the SecurityContext")) none
  | decided {a : Authentication} (hp : i.attributes o ≠ []) :
      Verdict i o (some a)
        ((i.manager a o (i.attributes o)).map fun _ =>
          { attributes := i.attributes o, runAs := i.runAs a o (i.attributes o) })
        (if i.observed then
          some
            { object := i.describe o, outcome := Outcome.of (i.manager a o (i.attributes o)),
              principal := a.principal, authorities := a.authorities,
              attributes := i.attributes o }
        else none)

/-! ## The checks end in exactly one way -/

theorem verdict_check (i : Interceptor α) (o : α) (auth : Option Authentication) :
    i.Verdict o auth ((i.check o auth).1.map (i.tokenOf o auth)) (i.check o auth).2 := by
  by_cases hp : i.attributes o = []
  · have he : ((i.attributesOf o).getD []).isEmpty = true := by
      rw [List.isEmpty_iff]
      exact hp
    cases hr : i.rejectPublic
    · -- a public token carries no substitute, whatever the authentication
      have ht : i.tokenOf o auth [] = { attributes := [], runAs := none } := by
        cases auth <;> rfl
      simp only [check, he, hr, if_true, Bool.false_eq_true, if_false, Except.map, ht]
      exact .publicPassed hp hr
    · simp only [check, he, hr, if_true]
      exact .publicRefused hp hr
  · have he : ((i.attributesOf o).getD []).isEmpty = false := by
      rw [List.isEmpty_eq_false_iff]
      exact hp
    cases auth with
    | none =>
      simp only [check, he, Bool.false_eq_true, if_false]
      exact .noAuthentication hp
    | some a =>
      -- the token of a decided call carries the substitute, since the attributes are not empty
      have hd := Verdict.decided (i := i) (o := o) (a := a) hp
      simp only [attributes] at hd
      simp only [check, he, Bool.false_eq_true, if_false, Observation.record]
      cases hdec : i.manager a o ((i.attributesOf o).getD []) <;>
        simpa only [hdec, Except.map, tokenOf, he, Bool.false_eq_true, if_false] using hd

theorem Verdict.unique {i : Interceptor α} {o : α} {auth : Option Authentication}
    {v v' : Except Error Token} {seen seen' : Option Observation}
    (h : i.Verdict o auth v seen) (h' : i.Verdict o auth v' seen') : v = v' ∧ seen = seen' := by
  cases h with
  | publicRefused hp hr =>
    cases h' with
    | publicRefused => exact ⟨rfl, rfl⟩
    | publicPassed _ hr' => rw [hr] at hr'; cases hr'
    | noAuthentication hp' => exact absurd hp hp'
    | decided hp' => exact absurd hp hp'
  | publicPassed hp hr =>
    cases h' with
    | publicRefused _ hr' => rw [hr] at hr'; cases hr'
    | publicPassed => exact ⟨rfl, rfl⟩
    | noAuthentication hp' => exact absurd hp hp'
    | decided hp' => exact absurd hp hp'
  | noAuthentication hp =>
    cases h' with
    | publicRefused hp' => exact absurd hp' hp
    | publicPassed hp' => exact absurd hp' hp
    | noAuthentication => exact ⟨rfl, rfl⟩
  | decided hp =>
    cases h' with
    | publicRefused hp' => exact absurd hp' hp
    | publicPassed hp' => exact absurd hp' hp
    | decided => exact ⟨rfl, rfl⟩

/-- The checks end as the verdict says, and in no other way. -/
theorem verdict_iff (i : Interceptor α) (o : α) (auth : Option Authentication)
    (v : Except Error Token) (seen : Option Observation) :
    i.Verdict o auth v seen ↔ (i.check o auth).1.map (i.tokenOf o auth) = v ∧ (i.check o auth).2 = seen := by
  constructor
  · intro h
    obtain ⟨hv, hs⟩ := (i.verdict_check o auth).unique h
    exact ⟨hv, hs⟩
  · rintro ⟨rfl, rfl⟩
    exact i.verdict_check o auth

/-! ## How the entry points report the checks -/

theorem beforeInvocation_run (i : Interceptor α) (o : α) (auth : Option Authentication)
    (th : Thread) :
    (i.beforeInvocation o auth).run th =
      ((i.check o auth).1.map (i.tokenOf o auth),
        { th with trail := th.trail ++ (i.check o auth).2.toList }) := rfl

theorem authorize_run (i : Interceptor α) (o : α) (auth : Option Authentication) (th : Thread) :
    (i.authorize o auth).run th =
      ((i.check o auth).1.map fun _ => (), { th with trail := th.trail ++ (i.check o auth).2.toList }) :=
  rfl

theorem invoke_run_check (i : Interceptor α) (o : α) {m : OnThread (Except Failure β)}
    (hm : KeepsSlot m) (th : Thread) :
    (i.invoke o m).run th =
      match (i.check o th.authentication).1.map (i.tokenOf o th.authentication) with
      | .error e => (.error (.security e),
          { th with trail := th.trail ++ (i.check o th.authentication).2.toList })
      | .ok tok =>
        ((m.run ⟨tok.scope th.slot, th.trail ++ (i.check o th.authentication).2.toList⟩).1,
          { (m.run ⟨tok.scope th.slot, th.trail ++ (i.check o th.authentication).2.toList⟩).2 with
            slot := th.slot }) := by
  rw [invoke_run i o hm, beforeInvocation_run]
  cases (i.check o th.authentication).1.map (i.tokenOf o th.authentication) <;> rfl

end Interceptor

end Warden
