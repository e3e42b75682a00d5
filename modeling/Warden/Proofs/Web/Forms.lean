import Warden.Proofs.Intercept.Task
import Warden.Web.Chain

/-!
# A request on a thread and in a task

Both forms act in the same context (`Chain.scope`) and save the same one, so they agree.
-/

namespace Warden

variable {α β : Type}

theorem Interceptor.invoke_reading (i : Interceptor α) (o : α)
    (body : Option Authentication → Except Failure β) (th : Thread) :
    ((i.invoke o (Target.reading body).run).run th).1 =
      match (i.check o th.authentication).1.map (i.tokenOf o th.authentication) with
      | .error e => .error (.security e)
      | .ok tok => body (tok.runAs.or th.authentication) := by
  rw [i.invoke_run_check o (Target.reading body).keepsSlot]
  rcases (i.check o th.authentication).1.map (i.tokenOf o th.authentication) with e | tok
  · rfl
  · -- the target reads the token's scope, whose authentication is the substitute or the caller's
    change body ((tok.scope th.slot).bind (·.authentication)) = _
    rw [Token.scope_authentication]
    rfl

namespace Web

namespace AnonymousFilter

theorem apply_fst (f : AnonymousFilter) (c : Option SecurityContext) :
    (f.apply c).1 = some (f.resolve c) := by
  rcases c with _ | ⟨_ | a⟩ <;> rfl

theorem resolve_authentication (f : AnonymousFilter) (c : Option SecurityContext) :
    (f.resolve c).authentication = (c.bind (·.authentication)).or (some f.visitor) := by
  rcases c with _ | ⟨_ | a⟩ <;> rfl

end AnonymousFilter

namespace Chain

/-- The context a request acts in: the loaded one, or the visitor's when it is empty. -/
def scope (c : Chain) (loaded : Option SecurityContext) : Option SecurityContext :=
  match c.anonymous with
  | some f => some (f.resolve loaded)
  | none => loaded

theorem scope_authentication (c : Chain) (loaded : Option SecurityContext) :
    (c.scope loaded).bind (·.authentication) =
      match c.anonymous with
      | some f => (loaded.bind (·.authentication)).or (some f.visitor)
      | none => loaded.bind (·.authentication) := by
  unfold scope
  cases c.anonymous with
  | none => rfl
  | some f => exact f.resolve_authentication loaded

theorem filter_run (c : Chain) (r : Request) (m : OnThread (Except Failure β)) (site : Site) :
    (c.filter r m).run site =
      let p := (c.interceptor.invoke r m).run
        { site.thread with slot := c.scope (site.sessions.load r) }
      (p.1, { thread := { p.2 with slot := site.thread.slot },
              sessions := savedAfter p.1 site.sessions p.2.slot r }) := by
  -- the filled slot is the resolved context
  have hslot : (match c.anonymous with
      | some f => (f.apply (site.sessions.load r)).1
      | none => site.sessions.load r) = c.scope (site.sessions.load r) := by
    unfold scope
    cases c.anonymous with
    | none => rfl
    | some f => exact f.apply_fst _
  rw [← hslot]
  rfl

theorem filterInTask_run (c : Chain) (r : Request) (n : InTask (Except Failure β)) (site : Site) :
    (c.filterInTask r n).run site =
      let p := ((c.interceptor.invokeInTask r n).run (c.scope (site.sessions.load r))).run
        site.thread
      (p.1, { thread := p.2,
              sessions := savedAfter p.1 site.sessions (c.scope (site.sessions.load r)) r }) :=
  rfl

/-- On a thread the slot is given back, however the handler ends. -/
theorem filter_restores_slot (c : Chain) (r : Request) (m : OnThread (Except Failure β))
    (site : Site) : ((c.filter r m).run site).2.thread.slot = site.thread.slot := by
  rw [filter_run]

theorem filterInTask_run_eq (c : Chain) (r : Request) (t : Target β) (site : Site) :
    (c.filterInTask r t.runInTask).run site = (c.filter r t.run).run site := by
  -- the thread form makes the call on the site's thread with the request's context in the slot
  let th : Thread := { site.thread with slot := c.scope (site.sessions.load r) }
  have hcall : ((c.interceptor.invokeInTask r t.runInTask).run (c.scope (site.sessions.load r))).run
      site.thread = (((c.interceptor.invoke r t.run).run th).1,
        { ((c.interceptor.invoke r t.run).run th).2 with slot := site.thread.slot }) :=
    RunsAs.invokeInTask c.interceptor r t.keepsSlot t.runsAs th site.thread.slot
  have hslot : ((c.interceptor.invoke r t.run).run th).2.slot = c.scope (site.sessions.load r) :=
    Interceptor.KeepsSlot.invoke c.interceptor r t.keepsSlot th
  rw [filterInTask_run, filter_run]
  dsimp only
  rw [hcall, hslot]

/-- A request handled in a task agrees with the request on a thread. -/
theorem filterInTask_agrees (c : Chain) (r : Request)
    (body : Option Authentication → Except Failure β) (site : Site) :
    (c.filterInTask r (Target.reading body).runInTask).run site =
      (c.filter r (Target.reading body).run).run site ∧
    ((c.filter r (Target.reading body).run).run site).1 =
      (let seen := match c.anonymous with
          | some f => ((site.sessions.load r).bind (·.authentication)).or (some f.visitor)
          | none => (site.sessions.load r).bind (·.authentication)
       match (c.interceptor.check r seen).1.map (c.interceptor.tokenOf r seen) with
       | .error e => .error (.security e)
       | .ok tok => body (tok.runAs.or seen)) ∧
    ∀ m : OnThread (Except Failure β), ((c.filter r m).run site).2.thread.slot = site.thread.slot := by
  refine ⟨filterInTask_run_eq c r (Target.reading body) site, ?_, fun m => filter_restores_slot c r m site⟩
  rw [filter_run]
  dsimp only
  rw [Interceptor.invoke_reading, Thread.authentication_mk, scope_authentication]

end Chain

/-- A handler sees the run-as identity rather than the session's authentication. -/
theorem handler_sees_substitute :
    let user := Authentication.build (some "sam") (some "pw") ["ROLE_STAFF"]
    let i : Interceptor Request :=
      { attributesOf := fun _ => some ["ROLE_STAFF", "RUN_AS_REPORTING"],
        describe := Request.display, manager := (Manager.fixed (.ok ())).onObject,
        runAs := (RunAs.minting "run-as-key" "ROLE_").onObject, observed := false, rejectPublic := false }
    let c : Chain := { interceptor := i, anonymous := none }
    let r : Request := { Request.get "/reports/q1" with sessionId := some "s1" }
    let site : Site := ⟨Thread.fresh, ⟨[("s1", .holding user)]⟩⟩
    let stand := Authentication.mintRunAs "run-as-key" user ["ROLE_RUN_AS_REPORTING", "ROLE_STAFF"]
    site.sessions.load r = some (.holding user) ∧
    ((c.filter r (Target.reading fun seen => .ok seen).run).run site).1.toOption =
      some (some stand) ∧
    ((c.filterInTask r (Target.reading fun seen => .ok seen).runInTask).run site).1.toOption =
      some (some stand) ∧
    stand ≠ user := by
  decide +kernel

end Web

end Warden
