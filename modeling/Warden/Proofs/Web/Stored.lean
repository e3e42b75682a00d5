import Warden.Proofs.Web.Forms

/-!
# What the session store keeps

`Sessions.Standard`, every kept context holding an ordinary authentication, is kept by each
visit of the store (`Visit.standard_run`), hence by every run of visits.
-/

namespace Warden

variable {α β : Type}

/-- A context holding no substitute identity; it may hold no authentication at all. -/
def NoStandIn (c : Option SecurityContext) : Prop :=
  ∀ a, c.bind (·.authentication) = some a → a.isRunAs = false

/-- A computation that never puts a substitute identity in the slot. -/
def KeepsNoStandIn (m : OnThread β) : Prop :=
  ∀ th, NoStandIn th.slot → NoStandIn (m.run th).2.slot

theorem Authentication.isRunAs_of_isAnonymous {a : Authentication} (h : a.isAnonymous = true) :
    a.isRunAs = false := by
  unfold isAnonymous at h
  unfold isRunAs
  split at h
  · rename_i k hk
    rw [hk]
  · cases h

theorem Authentication.kind_eq_standard {a : Authentication} (hn : a.isAnonymous = false)
    (hr : a.isRunAs = false) : a.kind = .standard := by
  cases hk : a.kind with
  | standard => rfl
  | anonymous k => simp [isAnonymous, hk] at hn
  | runAs k => simp [isRunAs, hk] at hr

namespace Interceptor

theorem invoke_slot (i : Interceptor α) (o : α) (m : OnThread (Except Failure β)) (th : Thread) :
    ((i.invoke o m).run th).2.slot = th.slot ∨
      ∃ th', th'.slot = th.slot ∧ ((i.invoke o m).run th).2.slot = (m.run th').2.slot := by
  have hb := i.beforeInvocation_keepsSlot o th.authentication th
  simp only [invoke, OnThread.run_bind, StateT.run_get]
  rcases hr : (i.beforeInvocation o th.authentication).run th with ⟨_ | tok, th₁⟩
  · rw [hr] at hb
    exact .inl hb
  · have h₁ : th₁.slot = th.slot := by rw [hr] at hb; exact hb
    dsimp only
    rcases h : tok.runAs with _ | r
    · exact .inr ⟨th₁, h₁, rfl⟩
    · -- the substitute's frame puts the caller's slot back
      left
      exact h₁

end Interceptor

theorem KeepsNoStandIn.invoke (i : Interceptor α) (o : α) {m : OnThread (Except Failure β)}
    (hm : KeepsNoStandIn m) : KeepsNoStandIn (i.invoke o m) := by
  intro th h
  rcases i.invoke_slot o m th with hs | ⟨th', hslot, hs⟩
  · rw [hs]
    exact h
  · rw [hs]
    exact hm th' (hslot ▸ h)

namespace Web

/-- Every context kept for a session holds an ordinary authentication. -/
def Sessions.Standard (s : Sessions) : Prop :=
  ∀ e ∈ s.entries, ∃ a, e.2.authentication = some a ∧ a.kind = .standard

namespace Sessions

theorem mem_putIn {id : String} {c : SecurityContext} {l : List (String × SecurityContext)}
    {e : String × SecurityContext} (h : e ∈ putIn id c l) : e.2 = c ∨ e ∈ l := by
  induction l with
  | nil =>
    rw [putIn, List.mem_singleton] at h
    exact .inl (by rw [h])
  | cons kv rest ih =>
    unfold putIn at h
    split at h
    · rcases List.mem_cons.1 h with rfl | h
      · exact .inl rfl
      · exact .inr (List.mem_cons_of_mem _ h)
    · rcases List.mem_cons.1 h with rfl | h
      · exact .inr List.mem_cons_self
      · exact (ih h).imp_right (List.mem_cons_of_mem _)

theorem keepable_eq_some {c : Option SecurityContext} {ctx : SecurityContext}
    (h : keepable c = some ctx) :
    c = some ctx ∧ ∃ a, ctx.authentication = some a ∧ a.isAnonymous = false := by
  obtain ⟨rfl, hp⟩ := Option.filter_eq_some_iff.1 h
  refine ⟨rfl, ?_⟩
  cases ha : ctx.authentication with
  | none => simp [ha] at hp
  | some a => exact ⟨a, rfl, by simpa [ha] using hp⟩

theorem empty_standard : Sessions.empty.Standard := by
  intro e he
  cases he

theorem Standard.invalidate {s : Sessions} (h : s.Standard) (id : String) :
    (s.invalidate id).Standard :=
  fun e he => h e (List.mem_filter.1 he).1

theorem Standard.save {s : Sessions} (h : s.Standard) {c : Option SecurityContext}
    (hc : NoStandIn c) (r : Request) : (s.save c r).Standard := by
  unfold Sessions.save
  cases r.sessionId with
  | none => exact h
  | some id =>
    cases hk : keepable c with
    | none => exact h.invalidate id
    | some ctx =>
      obtain ⟨rfl, a, ha, hanon⟩ := keepable_eq_some hk
      have hrun : a.isRunAs = false := hc a (by simp [ha])
      intro e he
      rcases mem_putIn he with he | he
      · exact ⟨a, by rw [he, ha], Authentication.kind_eq_standard hanon hrun⟩
      · exact h e he

theorem Standard.load {s : Sessions} (h : s.Standard) (r : Request) : NoStandIn (s.load r) := by
  intro a ha
  unfold Sessions.load at ha
  cases hid : r.sessionId with
  | none => simp [hid] at ha
  | some id =>
    rw [hid, Option.bind_some] at ha
    cases hl : s.entries.lookup id with
    | none => simp [hl] at ha
    | some ctx =>
      obtain ⟨l₁, l₂, hs, -⟩ := List.lookup_eq_some_iff.1 hl
      obtain ⟨b, hb, hkind⟩ := h (id, ctx) (by rw [hs]; simp)
      rw [hl, Option.bind_some, hb, Option.some.injEq] at ha
      subst ha
      simp [Authentication.isRunAs, hkind]

end Sessions

theorem Chain.scope_noStandIn (c : Chain) {loaded : Option SecurityContext}
    (h : NoStandIn loaded) : NoStandIn (c.scope loaded) := by
  intro a ha
  rw [Chain.scope_authentication] at ha
  cases hf : c.anonymous with
  | none =>
    simp only [hf] at ha
    exact h a ha
  | some f =>
    simp only [hf] at ha
    cases hl : loaded.bind (·.authentication) with
    | none =>
      -- the visitor's authentication is a visitor's, not a substitute
      rw [hl, Option.none_or, Option.some.injEq] at ha
      rw [← ha]
      exact Authentication.isRunAs_of_isAnonymous f.minted
    | some b =>
      rw [hl, Option.some_or] at ha
      exact h a (hl.trans ha)

theorem Sessions.Standard.savedAfter {s : Sessions} (h : s.Standard) (result : Except Failure β)
    {c : Option SecurityContext} (hc : NoStandIn c) (r : Request) :
    (Chain.savedAfter result s c r).Standard := by
  unfold Chain.savedAfter
  split
  · exact h
  · exact h.save hc r

/-- The step: a request keeps the store's invariant. -/
theorem Sessions.Standard.filter {site : Site} (h : site.sessions.Standard) (c : Chain)
    (r : Request) {m : OnThread (Except Failure β)} (hm : KeepsNoStandIn m) :
    ((c.filter r m).run site).2.sessions.Standard := by
  rw [Chain.filter_run]
  exact h.savedAfter _ (hm.invoke c.interceptor r _ (c.scope_noStandIn (h.load r))) r

theorem Sessions.Standard.filterInTask {site : Site} (h : site.sessions.Standard) (c : Chain)
    (r : Request) (n : InTask (Except Failure β)) :
    ((c.filterInTask r n).run site).2.sessions.Standard := by
  rw [Chain.filterInTask_run]
  exact h.savedAfter _ (c.scope_noStandIn (h.load r)) r

/-- What can happen to a session store. -/
inductive Visit : Type 1 where
  | onThread {β : Type} (c : Chain) (r : Request) (handler : OnThread (Except Failure β))
  | inTask {β : Type} (c : Chain) (r : Request) (handler : InTask (Except Failure β))
  | save (ctx : Option SecurityContext) (r : Request)
  | invalidate (id : String)

namespace Visit

def run : Visit → Site → Site
  | onThread c r handler, site => ((c.filter r handler).run site).2
  | inTask c r handler, site => ((c.filterInTask r handler).run site).2
  | save ctx r, site => { site with sessions := site.sessions.save ctx r }
  | invalidate id, site => { site with sessions := site.sessions.invalidate id }

/-- A visit that puts no substitute identity anywhere. -/
def Fair : Visit → Prop
  | onThread _ _ handler => KeepsNoStandIn handler
  | inTask _ _ _ => True
  | save ctx _ => NoStandIn ctx
  | invalidate _ => True

theorem standard_run {v : Visit} (hv : v.Fair) {site : Site} (h : site.sessions.Standard) :
    (v.run site).sessions.Standard := by
  cases v with
  | onThread c r handler => exact h.filter c r hv
  | inTask c r handler => exact h.filterInTask c r handler
  | save ctx r => exact h.save hv r
  | invalidate id => exact h.invalidate id

end Visit

def runVisits (vs : List Visit) (site : Site) : Site := vs.foldl (fun s v => v.run s) site

-- By induction on the visits, each of which keeps the invariant.
theorem standard_runVisits {vs : List Visit} (hvs : ∀ v ∈ vs, v.Fair) {site : Site}
    (h : site.sessions.Standard) : (runVisits vs site).sessions.Standard := by
  induction vs generalizing site with
  | nil => exact h
  | cons v vs ih =>
    exact ih (fun w hw => hvs w (List.mem_cons_of_mem v hw))
      (Visit.standard_run (hvs v List.mem_cons_self) h)

/-- Sessions only ever keep ordinary authentications. -/
theorem sessions_keep_standard (vs : List Visit) (hvs : ∀ v ∈ vs, v.Fair) (th : Thread)
    (n : Nat) :
    ∀ e ∈ (runVisits (vs.take n) ⟨th, Sessions.empty⟩).sessions.entries,
      ∃ a, e.2.authentication = some a ∧ a.kind = .standard :=
  standard_runVisits (fun v hv => hvs v (List.mem_of_mem_take hv)) Sessions.empty_standard

theorem sessions_keep_standard_login :
    let user := Authentication.build (some "sam") (some "pw") ["ROLE_STAFF"]
    let login : OnThread (Except Failure Unit) := do
      modify fun t => { t with slot := some (.holding user) }
      return .ok ()
    let i : Interceptor Request :=
      { attributesOf := fun r => if r.path = "/login" then some [] else some ["RUN_AS_AUDIT"],
        describe := Request.display, manager := (Manager.fixed (.ok ())).onObject,
        runAs := (RunAs.minting "run-as-key" "ROLE_").onObject, observed := false, rejectPublic := false }
    let c : Chain := { interceptor := i, anonymous := none }
    let vs := [Visit.onThread c { Request.get "/login" with sessionId := some "s1" } login,
      Visit.inTask c { Request.get "/audit" with sessionId := some "s1" }
        (Target.reading fun seen => .ok seen).runInTask,
      Visit.invalidate "s2"]
    (∀ v ∈ vs, v.Fair) ∧
    ∀ e ∈ (runVisits (vs.take 3) ⟨Thread.fresh, Sessions.empty⟩).sessions.entries,
      ∃ a, e.2.authentication = some a ∧ a.kind = .standard := by
  intro user login i c vs
  -- the login leaves the user's context in the slot, which holds no substitute
  have hlogin : KeepsNoStandIn login := by
    intro th _ a ha
    have hu : some user = some a := ha
    cases hu
    rfl
  have hfair : ∀ v ∈ vs, v.Fair := by
    intro v hv
    simp only [vs, List.mem_cons, List.not_mem_nil, or_false] at hv
    rcases hv with rfl | rfl | rfl
    · exact hlogin
    · trivial
    · trivial
  exact ⟨hfair, sessions_keep_standard vs hfair Thread.fresh 3⟩

end Web

end Warden
