import Warden.Config.Build
import Warden.Proofs.Authentication.Made
import Warden.Proofs.Hierarchy.Acceptance

/-!
# Which settings build

Settings that pass their check (`Settings.Checked`) always build an interceptor, and a chain
unless the anonymous filter is enabled with an empty principal, which the check never reads.
-/

namespace Warden

variable {ε α β : Type}

theorem Except.bind_eq_ok {x : Except ε α} {f : α → Except ε β} {b : β} (h : x >>= f = .ok b) :
    ∃ a, x = .ok a ∧ f a = .ok b := by
  cases x with
  | error e => cases h
  | ok a => exact ⟨a, rfl, h⟩

/-- Concrete reads are checked through `toOption`, as `Except` has no decidable equality. -/
theorem Except.eq_ok_of_toOption {x : Except ε α} {a : α} (h : x.toOption = some a) :
    x = .ok a := by
  cases x with
  | error e => cases h
  | ok b => cases h; rfl

theorem Text.trim_empty : Text.trim "" = "" := rfl

namespace Config

/-! ## What the check guarantees -/

/-- What settings that pass their check guarantee the builders. -/
structure Settings.Checked (s : Settings) : Prop where
  anonymous : s.anonymous.enabled = true → s.anonymous.key ≠ "" ∧ s.anonymous.authorities ≠ []
  runAs : ∀ r, s.runAs = some r → r.key ≠ ""
  hierarchy : ∀ d, s.roleHierarchy = some d → ∃ g, RoleHierarchy.ofDeclaration d = .ok g
  patterns : ∀ rule ∈ s.rules, Text.trim rule.pattern ≠ ""

theorem AnonymousSettings.check_ok {a : AnonymousSettings} (h : a.check = .ok ()) :
    a.enabled = true → a.key ≠ "" ∧ a.authorities ≠ [] := by
  intro he
  unfold AnonymousSettings.check at h
  rw [if_pos he] at h
  by_cases hk : a.key = ""
  · rw [if_pos hk] at h
    cases h
  · rw [if_neg hk] at h
    by_cases hl : a.authorities = []
    · rw [if_pos hl] at h
      cases h
    · exact ⟨hk, hl⟩

theorem checkRunAs_ok {o : Option RunAsSettings} (h : checkRunAs o = .ok ()) :
    ∀ r, o = some r → r.key ≠ "" := by
  rintro r rfl hk
  rw [checkRunAs, if_pos hk] at h
  cases h

theorem checkHierarchy_ok {o : Option String} (h : checkHierarchy o = .ok ()) :
    ∀ d, o = some d → ∃ g, RoleHierarchy.ofDeclaration d = .ok g := by
  rintro d rfl
  rw [checkHierarchy] at h
  cases hg : RoleHierarchy.ofDeclaration d with
  | error e =>
    rw [hg] at h
    cases h
  | ok g => exact ⟨g, rfl⟩

theorem checkRules_ok {rules : List RuleSettings} (h : checkRules rules = .ok ()) :
    ∀ rule ∈ rules, Text.trim rule.pattern ≠ "" := by
  unfold checkRules at h
  cases hb : blankRule? rules with
  | some i =>
    rw [hb] at h
    cases h
  | none =>
    intro rule hr hblank
    have hnone := List.findIdx?_eq_none_iff.1 hb rule hr
    simp [hblank] at hnone

theorem checked_of_check {s : Settings} (h : s.check = .ok ()) : s.Checked := by
  obtain ⟨⟨⟩, ha, h⟩ := Except.bind_eq_ok h
  obtain ⟨⟨⟩, hr, h⟩ := Except.bind_eq_ok h
  obtain ⟨⟨⟩, hh, hrules⟩ := Except.bind_eq_ok h
  exact ⟨AnonymousSettings.check_ok ha, checkRunAs_ok hr, checkHierarchy_ok hh,
    checkRules_ok hrules⟩

theorem check_of_read {env : Environment} {text : String} {s : Settings}
    (h : Settings.read env text = .ok s) : s.check = .ok () := by
  unfold Settings.read at h
  obtain ⟨_, -, h⟩ := Except.bind_eq_ok h
  obtain ⟨_, -, h⟩ := Except.bind_eq_ok h
  obtain ⟨s', -, h⟩ := Except.bind_eq_ok h
  obtain ⟨⟨⟩, hc, h⟩ := Except.bind_eq_ok h
  cases h
  exact hc

/-! ## What the builders need -/

theorem requestTable_ok {s : Settings} (h : ∀ rule ∈ s.rules, rule.pattern ≠ "") :
    ∃ t, s.requestTable = .ok t := by
  have hrules : ∃ rules, s.rules.mapM (fun r : RuleSettings => do
      return (Web.Matcher.ant (← Web.AntMatcher.create r.pattern r.method), r.attributes)) =
        .ok rules := by
    rw [RoleHierarchy.mapM_ok_iff]
    intro rule hr
    rw [Web.AntMatcher.create, if_neg (h rule hr)]
    exact ⟨_, rfl⟩
  obtain ⟨rules, hrules⟩ := hrules
  exact ⟨⟨rules⟩, by rw [Settings.requestTable, hrules]; rfl⟩

theorem manager_ok {s : Settings} (h : s.Checked) : ∃ m, s.manager = .ok m := by
  unfold Settings.manager
  cases hd : s.roleHierarchy with
  | none => exact ⟨_, rfl⟩
  | some d =>
    obtain ⟨g, hg⟩ := h.hierarchy d hd
    -- two voters, so the manager is always built once the hierarchy is
    refine ⟨.voting s.strategy [.hierarchy g, .authenticated] s.allowIfAllAbstain s.allowIfEqual,
      ?_⟩
    dsimp only
    rw [hg]
    rfl

theorem interceptor_ok {s : Settings} (h : s.Checked) : ∃ i, s.interceptor = .ok i := by
  have hpatterns : ∀ rule ∈ s.rules, rule.pattern ≠ "" := fun rule hr hp =>
    h.patterns rule hr (by rw [hp]; exact Text.trim_empty)
  obtain ⟨t, ht⟩ := requestTable_ok hpatterns
  obtain ⟨m, hm⟩ := manager_ok h
  unfold Settings.interceptor
  rw [ht, hm]
  cases hr : s.runAs with
  | none => exact ⟨_, rfl⟩
  | some r =>
    refine ⟨{ attributesOf := t.attributes?, describe := Web.Request.display,
              manager := m.onObject, runAs := (RunAs.minting r.key r.rolePrefix).onObject,
              observed := false, rejectPublic := s.rejectPublic }, ?_⟩
    dsimp only
    rw [RunAs.withKey, if_neg (h.runAs r hr)]
    rfl

theorem AnonymousFilter.create_of_error {key principal : String} {authorities : List String}
    {e : Error} (h : Authentication.anonymous key principal authorities = .error e) :
    Web.AnonymousFilter.create key principal authorities = .error e := by
  unfold Web.AnonymousFilter.create
  split
  · rename_i a ha
    rw [h] at ha
    cases ha
  · rename_i e' he
    rw [h] at he
    cases he
    rfl

theorem AnonymousFilter.create_ok {key principal : String} {authorities : List String}
    (hk : key ≠ "") (hp : principal ≠ "") (hl : authorities ≠ []) :
    ∃ f, Web.AnonymousFilter.create key principal authorities = .ok f := by
  have hlist : Authority.list authorities ≠ [] := fun h => hl ((Authority.list_eq_nil_iff _).1 h)
  obtain ⟨a, ha⟩ := Authentication.anonymous_ok_iff.2 ⟨hk, hp, hlist⟩
  unfold Web.AnonymousFilter.create
  split
  · exact ⟨_, rfl⟩
  · rename_i e he
    rw [ha] at he
    cases he

/-- Every configuration text that is read builds an interceptor, and a chain unless refused. -/
theorem read_settings_build {env : Environment} {text : String} {s : Settings}
    (h : Settings.read env text = .ok s) :
    (∃ i, s.interceptor = .ok i) ∧
    (s.anonymous.enabled = true ∧ s.anonymous.principal = "" →
      s.chain = .error (.invalidArgument "Anonymous principal cannot be empty")) ∧
    (¬(s.anonymous.enabled = true ∧ s.anonymous.principal = "") → ∃ c, s.chain = .ok c) := by
  have hc := checked_of_check (check_of_read h)
  obtain ⟨i, hi⟩ := interceptor_ok hc
  refine ⟨⟨i, hi⟩, ?_, fun hp => ?_⟩
  · rintro ⟨he, hp⟩
    -- the key passed the check, so the principal is the first thing the filter refuses
    have hanon : Authentication.anonymous s.anonymous.key "" s.anonymous.authorities =
        .error (.invalidArgument "Anonymous principal cannot be empty") := by
      simp [Authentication.anonymous, (hc.anonymous he).1]
    unfold Settings.chain
    rw [hi, he, hp, AnonymousFilter.create_of_error hanon]
    rfl
  · unfold Settings.chain
    rw [hi]
    cases he : s.anonymous.enabled with
    | false => exact ⟨_, rfl⟩
    | true =>
      obtain ⟨hk, hl⟩ := hc.anonymous he
      obtain ⟨f, hf⟩ := AnonymousFilter.create_ok hk (fun hp' => hp ⟨he, hp'⟩) hl
      refine ⟨{ interceptor := i, anonymous := some f }, ?_⟩
      rw [hf]
      rfl

/-- An enabled anonymous section with an empty principal: read, but the chain is refused. -/
theorem read_settings_build_empty_principal :
    let s : Settings :=
      { rejectPublic := false, strategy := .affirmative, allowIfAllAbstain := false,
        allowIfEqual := true, roleHierarchy := none,
        anonymous := { enabled := true, key := "anon-key", principal := "",
                       authorities := ["ROLE_ANONYMOUS"] },
        runAs := none, rules := [] }
    Settings.read ⟨[]⟩ "[anonymous]\nenabled = true\nkey = \"anon-key\"\nprincipal = \"\"\n" =
        .ok s ∧ (∃ i, s.interceptor = .ok i) ∧
      s.chain = .error (.invalidArgument "Anonymous principal cannot be empty") := by
  intro s
  have hread : Settings.read ⟨[]⟩
      "[anonymous]\nenabled = true\nkey = \"anon-key\"\nprincipal = \"\"\n" = .ok s :=
    Except.eq_ok_of_toOption (by decide +kernel)
  obtain ⟨hi, hchain, -⟩ := read_settings_build hread
  exact ⟨hread, hi, hchain ⟨rfl, rfl⟩⟩

end Config

end Warden
