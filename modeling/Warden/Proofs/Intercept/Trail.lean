import Warden.Proofs.Intercept.Task

/-!
# The trail of observations

`Session.Records` says, rule by rule, what a session of calls returns and records on the trail;
its soundness and the existence of a record give the equivalence with running it.
-/

namespace Warden

variable {α β : Type}

namespace Target

/-- What a target ends with, and what its secured calls record. -/
inductive Records : {β : Type} → Target β → Option SecurityContext → Except Failure β →
    List Observation → Prop
  | finish {β : Type} {s : Option SecurityContext} (r : Except Failure β) : Records (finish r) s r []
  | read {β : Type} {s : Option SecurityContext} {k : Option Authentication → Target β}
      {r : Except Failure β} {obs : List Observation} :
      Records (k (s.bind (·.authentication))) s r obs → Records (read k) s r obs
  | refused {β γ δ : Type} {s : Option SecurityContext} {i : Interceptor δ} {o : δ} {t : Target γ}
      {k : Except Failure γ → Target β} {e : Error} {seen : Option Observation}
      {r : Except Failure β} {obs : List Observation} :
      i.Verdict o (s.bind (·.authentication)) (.error e) seen →
      Records (k (.error (.security e))) s r obs →
      Records (call i o t k) s r (seen.toList ++ obs)
  | aborted {β γ δ : Type} {s : Option SecurityContext} {i : Interceptor δ} {o : δ} {t : Target γ}
      {k : Except Failure γ → Target β} {tok : Token} {seen : Option Observation}
      {inner : List Observation} :
      i.Verdict o (s.bind (·.authentication)) (.ok tok) seen →
      Records t (tok.scope s) (.error .aborted) inner →
      Records (call i o t k) s (.error .aborted) (seen.toList ++ inner)
  | returned {β γ δ : Type} {s : Option SecurityContext} {i : Interceptor δ} {o : δ}
      {t : Target γ} {k : Except Failure γ → Target β} {tok : Token} {seen : Option Observation}
      {r₁ : Except Failure γ} {inner : List Observation} {r : Except Failure β}
      {obs : List Observation} :
      i.Verdict o (s.bind (·.authentication)) (.ok tok) seen →
      Records t (tok.scope s) r₁ inner → r₁ ≠ .error .aborted →
      Records (k r₁) s r obs →
      Records (call i o t k) s r (seen.toList ++ inner ++ obs)

end Target

namespace Interceptor

theorem invoke_run_of_refused (i : Interceptor α) (o : α) {m : OnThread (Except Failure β)}
    (hm : KeepsSlot m) (th : Thread) {e : Error} {seen : Option Observation}
    (hv : i.Verdict o th.authentication (.error e) seen) :
    (i.invoke o m).run th = (.error (.security e), { th with trail := th.trail ++ seen.toList }) := by
  obtain ⟨hc, rfl⟩ := (i.verdict_iff o _ _ seen).1 hv
  rw [i.invoke_run_check o hm th, hc]

theorem invoke_run_of_passed (i : Interceptor α) (o : α) {m : OnThread (Except Failure β)}
    (hm : KeepsSlot m) (th : Thread) {tok : Token} {seen : Option Observation}
    (hv : i.Verdict o th.authentication (.ok tok) seen) :
    (i.invoke o m).run th =
      ((m.run ⟨tok.scope th.slot, th.trail ++ seen.toList⟩).1,
        { (m.run ⟨tok.scope th.slot, th.trail ++ seen.toList⟩).2 with slot := th.slot }) := by
  obtain ⟨hc, rfl⟩ := (i.verdict_iff o _ _ seen).1 hv
  rw [i.invoke_run_check o hm th, hc]

end Interceptor

/-! ## What a target records -/

namespace Target

theorem run_call_aborted {γ δ : Type} {i : Interceptor δ} {o : δ} {t : Target γ}
    {k : Except Failure γ → Target β} {th th₁ : Thread}
    (h : (i.invoke o t.run).run th = (.error .aborted, th₁)) :
    (call i o t k).run.run th = (.error .aborted, th₁) := by
  rw [run_call, h]

theorem run_call_returned {γ δ : Type} {i : Interceptor δ} {o : δ} {t : Target γ}
    {k : Except Failure γ → Target β} {th th₁ : Thread} {r : Except Failure γ}
    (h : (i.invoke o t.run).run th = (r, th₁)) (hr : r ≠ .error .aborted) :
    (call i o t k).run.run th = (k r).run.run th₁ := by
  rw [run_call, h]
  rcases r with (_ | _ | _) | _
  · rfl
  · rfl
  · exact absurd rfl hr
  · rfl

theorem Records.run {t : Target β} {s : Option SecurityContext} {r : Except Failure β}
    {obs : List Observation} (h : t.Records s r obs) (th : Thread) (hs : th.slot = s) :
    t.run.run th = (r, { th with trail := th.trail ++ obs }) := by
  induction h generalizing th with
  | finish r =>
    simp only [List.append_nil]
    rfl
  | read _ ih =>
    subst hs
    rw [run_read]
    exact ih th rfl
  | @refused _ _ _ _ _ _ t _ _ seen _ _ hv _ ih =>
    subst hs
    rw [run_call_returned (Interceptor.invoke_run_of_refused _ _ (keepsSlot t) th hv)
      (by simp), ih ⟨th.slot, th.trail ++ seen.toList⟩ rfl, List.append_assoc]
  | @aborted _ _ _ _ _ _ t _ tok seen _ hv _ ih =>
    subst hs
    have hcall := Interceptor.invoke_run_of_passed _ _ (keepsSlot t) th hv
    rw [ih ⟨tok.scope th.slot, th.trail ++ seen.toList⟩ rfl] at hcall
    rw [run_call_aborted hcall]
    simp only [List.append_assoc]
  | @returned _ _ _ _ _ _ t _ tok seen _ inner _ _ hv _ hr _ ihT ihK =>
    subst hs
    -- the nested call ends with the target's result, its observations after the verdict's
    have hcall := Interceptor.invoke_run_of_passed _ _ (keepsSlot t) th hv
    rw [ihT ⟨tok.scope th.slot, th.trail ++ seen.toList⟩ rfl] at hcall
    rw [run_call_returned hcall hr, ihK ⟨th.slot, th.trail ++ seen.toList ++ inner⟩ rfl]
    simp only [List.append_assoc]

theorem records_exist : {β : Type} → (t : Target β) → (s : Option SecurityContext) →
    ∃ r obs, t.Records s r obs
  | _, finish r, _ => ⟨r, [], .finish r⟩
  | _, read k, s => by
    obtain ⟨r, obs, h⟩ := records_exist (k (s.bind (·.authentication))) s
    exact ⟨r, obs, .read h⟩
  | _, call i o t k, s => by
    have hv := i.verdict_check o (s.bind (·.authentication))
    generalize (i.check o _).1.map (i.tokenOf o _) = v, (i.check o _).2 = seen at hv
    cases v with
    | error e =>
      obtain ⟨r, obs, h⟩ := records_exist (k (.error (.security e))) s
      exact ⟨r, _, .refused hv h⟩
    | ok tok =>
      obtain ⟨r₁, inner, h₁⟩ := records_exist t (tok.scope s)
      by_cases ha : r₁ = .error .aborted
      · subst ha
        exact ⟨_, _, .aborted hv h₁⟩
      · obtain ⟨r, obs, h⟩ := records_exist (k r₁) s
        exact ⟨r, _, .returned hv h₁ ha h⟩

end Target

theorem Thread.outcome_unique {b b' : β} {th : Thread} {obs obs' : List Observation}
    (h : ((b, { th with trail := th.trail ++ obs }) : β × Thread) =
      (b', { th with trail := th.trail ++ obs' })) : b = b' ∧ obs = obs' := by
  simp only [Prod.mk.injEq, Thread.mk.injEq, true_and, List.append_cancel_left_eq] at h
  exact h

namespace Target

theorem run_eq_iff_records (t : Target β) (th : Thread) (r : Except Failure β)
    (obs : List Observation) :
    t.Records th.slot r obs ↔ t.run.run th = (r, { th with trail := th.trail ++ obs }) := by
  refine ⟨fun h => h.run th rfl, fun h => ?_⟩
  obtain ⟨r', obs', h'⟩ := records_exist t th.slot
  obtain ⟨rfl, rfl⟩ := Thread.outcome_unique (h.symm.trans (h'.run th rfl))
  exact h'

end Target

/-! ## One secured call -/

namespace Interceptor

/-- What a secured call of `t` on `o` ends with, and what it records. -/
inductive Invokes (i : Interceptor α) (o : α) (s : Option SecurityContext) (t : Target β) :
    Except Failure β → List Observation → Prop
  | refused {e : Error} {seen : Option Observation} :
      i.Verdict o (s.bind (·.authentication)) (.error e) seen →
      Invokes i o s t (.error (.security e)) seen.toList
  | ran {tok : Token} {seen : Option Observation} {r : Except Failure β}
      {inner : List Observation} :
      i.Verdict o (s.bind (·.authentication)) (.ok tok) seen →
      t.Records (tok.scope s) r inner →
      Invokes i o s t r (seen.toList ++ inner)

theorem Invokes.run {i : Interceptor α} {o : α} {s : Option SecurityContext} {t : Target β}
    {r : Except Failure β} {obs : List Observation} (h : i.Invokes o s t r obs) (th : Thread)
    (hs : th.slot = s) :
    (i.invoke o t.run).run th = (r, { th with trail := th.trail ++ obs }) := by
  subst hs
  cases h with
  | refused hv => rw [i.invoke_run_of_refused o t.keepsSlot th hv]
  | @ran tok _ _ _ hv ht =>
    rw [i.invoke_run_of_passed o t.keepsSlot th hv, ht.run ⟨tok.scope th.slot, th.trail ++ _⟩ rfl]
    simp only [List.append_assoc]

theorem Invokes.runInTask {i : Interceptor α} {o : α} {c : Option SecurityContext}
    {t : Target β} {r : Except Failure β} {obs : List Observation} (h : i.Invokes o c t r obs)
    (th : Thread) :
    ((i.invokeInTask o t.runInTask).run c).run th = (r, { th with trail := th.trail ++ obs }) := by
  have hsim := RunsAs.invokeInTask i o t.keepsSlot t.runsAs ⟨c, th.trail⟩ th.slot
  rw [h.run ⟨c, th.trail⟩ rfl] at hsim
  exact hsim

theorem invokes_exist (i : Interceptor α) (o : α) (s : Option SecurityContext) (t : Target β) :
    ∃ r obs, i.Invokes o s t r obs := by
  have hv := i.verdict_check o (s.bind (·.authentication))
  generalize (i.check o _).1.map (i.tokenOf o _) = v, (i.check o _).2 = seen at hv
  cases v with
  | error e => exact ⟨_, _, .refused hv⟩
  | ok tok =>
    obtain ⟨r, inner, ht⟩ := t.records_exist (tok.scope s)
    exact ⟨r, _, .ran hv ht⟩

end Interceptor

/-! ## Sessions -/

/-- A thread's calls on secured objects, each result deciding what comes next. -/
inductive Session (β : Type) : Type 1 where
  | done (b : β)
  | authorize {α : Type} (i : Interceptor α) (o : α) (auth : Option Authentication)
      (k : Except Error Unit → Session β)
  | beforeInvocation {α : Type} (i : Interceptor α) (o : α) (auth : Option Authentication)
      (k : Except Error Token → Session β)
  | invoke {α γ : Type} (i : Interceptor α) (o : α) (t : Target γ)
      (k : Except Failure γ → Session β)
  | invokeInTask {α γ : Type} (i : Interceptor α) (o : α) (scope : Option SecurityContext)
      (t : Target γ) (k : Except Failure γ → Session β)

namespace Session

def run : Session β → OnThread β
  | done b => pure b
  | authorize i o auth k => do (k (← i.authorize o auth)).run
  | beforeInvocation i o auth k => do (k (← i.beforeInvocation o auth)).run
  | invoke i o t k => do (k (← i.invoke o t.run)).run
  | invokeInTask i o scope t k => do (k (← (i.invokeInTask o t.runInTask).run scope)).run

/-- What a session ends with, and what its calls record, in order. -/
inductive Records : Session β → Option SecurityContext → β → List Observation → Prop
  | done (b : β) {s : Option SecurityContext} : Records (done b) s b []
  | authorize {α : Type} {i : Interceptor α} {o : α} {auth : Option Authentication}
      {k : Except Error Unit → Session β} {v : Except Error Token} {seen : Option Observation}
      {s : Option SecurityContext} {b : β} {obs : List Observation} :
      i.Verdict o auth v seen → Records (k (v.map fun _ => ())) s b obs →
      Records (authorize i o auth k) s b (seen.toList ++ obs)
  | beforeInvocation {α : Type} {i : Interceptor α} {o : α} {auth : Option Authentication}
      {k : Except Error Token → Session β} {v : Except Error Token} {seen : Option Observation}
      {s : Option SecurityContext} {b : β} {obs : List Observation} :
      i.Verdict o auth v seen → Records (k v) s b obs →
      Records (beforeInvocation i o auth k) s b (seen.toList ++ obs)
  | invoke {α γ : Type} {i : Interceptor α} {o : α} {t : Target γ}
      {k : Except Failure γ → Session β} {s : Option SecurityContext} {r : Except Failure γ}
      {inner : List Observation} {b : β} {obs : List Observation} :
      i.Invokes o s t r inner → Records (k r) s b obs →
      Records (invoke i o t k) s b (inner ++ obs)
  | invokeInTask {α γ : Type} {i : Interceptor α} {o : α} {scope : Option SecurityContext}
      {t : Target γ} {k : Except Failure γ → Session β} {s : Option SecurityContext}
      {r : Except Failure γ} {inner : List Observation} {b : β} {obs : List Observation} :
      i.Invokes o scope t r inner → Records (k r) s b obs →
      Records (invokeInTask i o scope t k) s b (inner ++ obs)

theorem run_after {γ : Type} {x : OnThread γ} {k : γ → Session β} {th : Thread} {r : γ}
    {obs₁ : List Observation} (hx : x.run th = (r, { th with trail := th.trail ++ obs₁ })) {b : β}
    {obs : List Observation}
    (hk : ∀ th' : Thread, th'.slot = th.slot →
      (k r).run.run th' = (b, { th' with trail := th'.trail ++ obs })) :
    (x >>= fun r => (k r).run).run th = (b, { th with trail := th.trail ++ (obs₁ ++ obs) }) := by
  rw [OnThread.run_bind, hx]
  exact (hk ⟨th.slot, th.trail ++ obs₁⟩ rfl).trans (by simp only [List.append_assoc])

theorem Records.run {ss : Session β} {s : Option SecurityContext} {b : β}
    {obs : List Observation} (h : ss.Records s b obs) (th : Thread) (hs : th.slot = s) :
    ss.run.run th = (b, { th with trail := th.trail ++ obs }) := by
  induction h generalizing th with
  | done b =>
    simp only [List.append_nil]
    rfl
  | @authorize _ i o auth _ v seen _ _ _ hv _ ih =>
    obtain ⟨hc, rfl⟩ := (i.verdict_iff o auth v seen).1 hv
    -- a decision alone reports the verdict without its token
    have hr : (i.check o auth).1.map (fun _ => ()) = v.map fun _ => () := by
      rw [← hc]
      cases (i.check o auth).1 <;> rfl
    have hx := i.authorize_run o auth th
    rw [hr] at hx
    exact run_after hx fun th' h' => ih th' (h'.trans hs)
  | @beforeInvocation _ i o auth _ v seen _ _ _ hv _ ih =>
    obtain ⟨hc, rfl⟩ := (i.verdict_iff o auth v seen).1 hv
    have hx := i.beforeInvocation_run o auth th
    rw [hc] at hx
    exact run_after hx fun th' h' => ih th' (h'.trans hs)
  | invoke hi _ ih => exact run_after (hi.run th hs) fun th' h' => ih th' (h'.trans hs)
  | invokeInTask hi _ ih => exact run_after (hi.runInTask th) fun th' h' => ih th' (h'.trans hs)

theorem records_exist : (ss : Session β) → (s : Option SecurityContext) →
    ∃ b obs, ss.Records s b obs
  | done b, _ => ⟨b, [], .done b⟩
  | authorize i o auth k, s => by
    obtain ⟨b, obs, h⟩ := records_exist (k (((i.check o auth).1.map (i.tokenOf o auth)).map
      fun _ => ())) s
    exact ⟨b, _, .authorize (i.verdict_check o auth) h⟩
  | beforeInvocation i o auth k, s => by
    obtain ⟨b, obs, h⟩ := records_exist (k ((i.check o auth).1.map (i.tokenOf o auth))) s
    exact ⟨b, _, .beforeInvocation (i.verdict_check o auth) h⟩
  | invoke i o t k, s => by
    obtain ⟨r, inner, hi⟩ := i.invokes_exist o s t
    obtain ⟨b, obs, h⟩ := records_exist (k r) s
    exact ⟨b, _, .invoke hi h⟩
  | invokeInTask i o scope t k, s => by
    obtain ⟨r, inner, hi⟩ := i.invokes_exist o scope t
    obtain ⟨b, obs, h⟩ := records_exist (k r) s
    exact ⟨b, _, .invokeInTask hi h⟩

/-- A session ends and records as its record says, and in no other way. -/
theorem records_iff_run (ss : Session β) (th : Thread) (b : β) (obs : List Observation) :
    ss.Records th.slot b obs ↔ ss.run.run th = (b, { th with trail := th.trail ++ obs }) := by
  refine ⟨fun h => h.run th rfl, fun h => ?_⟩
  obtain ⟨b', obs', h'⟩ := records_exist ss th.slot
  obtain ⟨rfl, rfl⟩ := Thread.outcome_unique (h.symm.trans (h'.run th rfl))
  exact h'

end Session

end Warden
