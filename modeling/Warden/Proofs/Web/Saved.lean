import Warden.Proofs.Web.Stored

/-!
# What a request saves for its session

A minted substitute makes the secured call put the caller's context back before the chain
saves, so what the handler did to the slot is lost.
-/

namespace Warden

variable {α β : Type}

namespace Interceptor

theorem invoke_run_of_token (i : Interceptor α) (o : α) (m : OnThread (Except Failure β))
    (th : Thread) {tok : Token}
    (htok : (i.check o th.authentication).1.map (i.tokenOf o th.authentication) = .ok tok) :
    ((i.invoke o m).run th).1 =
        (m.run ⟨tok.scope th.slot, th.trail ++ (i.check o th.authentication).2.toList⟩).1 ∧
      ((i.invoke o m).run th).2.slot = match tok.runAs with
        | some _ => th.slot
        | none => (m.run ⟨th.slot, th.trail ++ (i.check o th.authentication).2.toList⟩).2.slot := by
  have hb : (i.beforeInvocation o th.authentication).run th =
      (.ok tok, { th with trail := th.trail ++ (i.check o th.authentication).2.toList }) := by
    rw [beforeInvocation_run, htok]
  simp only [invoke, OnThread.run_bind, StateT.run_get]
  rcases hr : (i.beforeInvocation o th.authentication).run th with ⟨_ | tok', th₁⟩
  · rw [hb] at hr
    cases hr
  · rw [hb] at hr
    cases hr
    dsimp only
    unfold Token.scope
    cases tok.runAs <;> exact ⟨rfl, rfl⟩

end Interceptor

namespace Web

namespace Sessions

theorem lookup_putIn (id : String) (ctx : SecurityContext) (l : List (String × SecurityContext)) :
    (putIn id ctx l).lookup id = some ctx := by
  induction l with
  | nil =>
    rw [putIn]
    exact List.lookup_cons_self
  | cons kv rest ih =>
    obtain ⟨k, v⟩ := kv
    unfold putIn
    split
    · next hk =>
      subst hk
      exact List.lookup_cons_self
    · next hk =>
      have hne : (id == k) = false := by simpa using Ne.symm hk
      rw [List.lookup_cons, hne]
      exact ih

theorem lookup_filter_ne (id : String) (l : List (String × SecurityContext)) :
    (l.filter (·.1 ≠ id)).lookup id = none := by
  induction l with
  | nil => rfl
  | cons kv rest ih =>
    obtain ⟨k, v⟩ := kv
    by_cases hk : k = id
    · rw [List.filter_cons_of_neg (by simp [hk])]
      exact ih
    · -- the entry stays, but under another id
      have hne : (id == k) = false := by simpa using Ne.symm hk
      rw [List.filter_cons_of_pos (by simp [hk]), List.lookup_cons, hne]
      exact ih

theorem load_save (s : Sessions) (c : Option SecurityContext) {r : Request} {id : String}
    (hid : r.sessionId = some id) : (s.save c r).load r = keepable c := by
  unfold save load
  simp only [hid, Option.bind_some]
  cases keepable c with
  | some ctx => exact lookup_putIn id ctx s.entries
  | none => exact lookup_filter_ne id s.entries

@[simp]
theorem keepable_none : keepable none = none := rfl

theorem keepable_holding {a : Authentication} (h : a.isAnonymous = false) :
    keepable (some (.holding a)) = some (.holding a) := by
  simp [keepable, SecurityContext.holding, h]

end Sessions

namespace Chain

theorem savedAfter_of_ne {result : Except Failure β} (h : result ≠ .error .aborted)
    (s : Sessions) (c : Option SecurityContext) (r : Request) :
    savedAfter result s c r = s.save c r := by
  unfold savedAfter
  split
  · exact absurd rfl h
  · rfl

/-- The session keeps a handler's login or logout exactly when no substitute was minted. -/
theorem filter_saves_slot_context (c : Chain) {r : Request} {id : String}
    (hid : r.sessionId = some id) (m : OnThread (Except Failure β)) (after : Option SecurityContext)
    (hm : ∀ th, (m.run th).2.slot = after) (hok : ∀ th, (m.run th).1 ≠ .error .aborted)
    (site : Site) {tok : Token}
    (htok : (c.interceptor.check r ((c.scope (site.sessions.load r)).bind (·.authentication))).1.map
      (c.interceptor.tokenOf r ((c.scope (site.sessions.load r)).bind (·.authentication))) = .ok tok) :
    ((c.filter r m).run site).2.sessions.load r =
      Sessions.keepable (match tok.runAs with
        | some _ => c.scope (site.sessions.load r)
        | none => after) := by
  obtain ⟨hresult, hslot⟩ := c.interceptor.invoke_run_of_token r m
    { site.thread with slot := c.scope (site.sessions.load r) } htok
  have hsaved : ((c.interceptor.invoke r m).run
      { site.thread with slot := c.scope (site.sessions.load r) }).1 ≠ .error .aborted := by
    rw [hresult]
    exact hok _
  rw [filter_run]
  dsimp only
  rw [savedAfter_of_ne hsaved, Sessions.load_save _ _ hid, hslot]
  cases tok.runAs with
  | none => rw [hm]
  | some _ => rfl

theorem filter_saves_slot_context_login :
    let sam := Authentication.build (some "sam") (some "pw") ["ROLE_STAFF"]
    let alex := Authentication.build (some "alex") (some "pw2") ["ROLE_STAFF"]
    let i : Interceptor Request :=
      { attributesOf := fun _ => some ["ROLE_STAFF", "RUN_AS_REPORTING"],
        describe := Request.display, manager := (Manager.fixed (.ok ())).onObject,
        runAs := (RunAs.minting "run-as-key" "ROLE_").onObject, observed := false, rejectPublic := false }
    let c : Chain := { interceptor := i, anonymous := none }
    let r : Request := { Request.get "/reports/q1" with sessionId := some "s1" }
    let site : Site := ⟨Thread.fresh, ⟨[("s1", .holding sam)]⟩⟩
    let login : OnThread (Except Failure Unit) := do
      modify fun t => { t with slot := some (.holding alex) }
      return .ok ()
    ((c.filter r login).run site).2.sessions.load r = some (.holding sam) := by
  intro sam alex i c r site login
  have h := @filter_saves_slot_context Unit c r "s1" rfl login (some (.holding alex))
    (fun _ => rfl) (fun _ h => by cases h) site
    (i.tokenOf r (some sam) ["ROLE_STAFF", "RUN_AS_REPORTING"]) rfl
  rw [h]
  decide +kernel

end Chain

end Web

end Warden
