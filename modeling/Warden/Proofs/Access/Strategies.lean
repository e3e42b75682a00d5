import Warden.Access.Decision

/-!
# How the three strategies compare

The library's voters vote the strongest of their single votes, so unanimous grants are
consensus grants and consensus grants are affirmative ones; fixed voters are left out.
-/

namespace Warden

/-- The strongest of some votes: a grant over a denial over an abstention. -/
def Vote.strongest (vs : List Vote) : Vote :=
  if vs.contains .granted then .granted else if vs.contains .denied then .denied else .abstain

/-- Whether the voter is one of the library's own, as opposed to a voter with a fixed vote. -/
def Voter.builtIn : Voter → Bool
  | .constant _ _ => false
  | _ => true

namespace Vote

theorem eq_of_granted_abstain {v w : Vote} (hg : v = .granted ↔ w = .granted)
    (ha : v = .abstain ↔ w = .abstain) : v = w := by
  cases v <;> cases w <;> simp_all

theorem strongest_eq_granted {vs : List Vote} : strongest vs = .granted ↔ .granted ∈ vs := by
  rw [← List.contains_iff_mem]
  unfold strongest
  cases vs.contains .granted <;> cases vs.contains .denied <;> simp

theorem forall_abstain_iff {vs : List Vote} :
    (∀ v ∈ vs, v = .abstain) ↔ .granted ∉ vs ∧ .denied ∉ vs := by
  constructor
  · intro h
    exact ⟨fun hg => (nomatch h _ hg), fun hd => (nomatch h _ hd)⟩
  · rintro ⟨hg, hd⟩ v hv
    cases v with
    | granted => exact absurd hv hg
    | denied => exact absurd hv hd
    | abstain => rfl

theorem strongest_eq_abstain {vs : List Vote} :
    strongest vs = .abstain ↔ ∀ v ∈ vs, v = .abstain := by
  rw [forall_abstain_iff, ← List.contains_iff_mem, ← List.contains_iff_mem]
  unfold strongest
  cases vs.contains .granted <;> cases vs.contains .denied <;> simp

theorem strongest_ne_denied {vs : List Vote} (h : Vote.denied ∉ vs) : strongest vs ≠ .denied := by
  rw [← List.contains_iff_mem] at h
  unfold strongest
  cases vs.contains .granted <;> simp_all

end Vote

/-! ## A voter's vote on a list -/

namespace Voter

theorem tally_eq_granted {understands satisfied : String → Bool} {attributes : List String} :
    tally understands satisfied attributes = .granted ↔
      ∃ x ∈ attributes, understands x = true ∧ satisfied x = true := by
  unfold tally
  by_cases h : (attributes.filter understands).any satisfied = true
  · simp only [h, if_true, true_iff]
    obtain ⟨x, hx, hs⟩ := List.any_eq_true.1 h
    rw [List.mem_filter] at hx
    exact ⟨x, hx.1, hx.2, hs⟩
  · simp only [h, Bool.false_eq_true, if_false]
    constructor
    · intro hd
      split at hd <;> cases hd
    · rintro ⟨x, hx, hu, hs⟩
      exact absurd (List.any_eq_true.2 ⟨x, List.mem_filter.2 ⟨hx, hu⟩, hs⟩) h

theorem tally_eq_abstain {understands satisfied : String → Bool} {attributes : List String} :
    tally understands satisfied attributes = .abstain ↔
      ∀ x ∈ attributes, understands x = false := by
  unfold tally
  have hempty : (attributes.filter understands).isEmpty = true ↔
      ∀ x ∈ attributes, understands x = false := by
    simp [List.isEmpty_iff, List.filter_eq_nil_iff]
  by_cases h : (attributes.filter understands).any satisfied = true
  · simp only [h, if_true, reduceCtorEq, false_iff]
    intro hall
    obtain ⟨x, hx, _⟩ := List.any_eq_true.1 h
    rw [List.mem_filter] at hx
    rw [hall x hx.1] at hx
    cases hx.2
  · simp only [h, Bool.false_eq_true, if_false, ← hempty]
    cases (attributes.filter understands).isEmpty <;> simp

theorem tally_eq_strongest (understands satisfied : String → Bool) (attributes : List String) :
    tally understands satisfied attributes =
      Vote.strongest (attributes.map fun x => tally understands satisfied [x]) := by
  apply Vote.eq_of_granted_abstain
  · rw [tally_eq_granted, Vote.strongest_eq_granted, List.mem_map]
    constructor
    · rintro ⟨x, hx, hu, hs⟩
      exact ⟨x, hx, tally_eq_granted.2 ⟨x, List.mem_singleton_self x, hu, hs⟩⟩
    · rintro ⟨x, hx, hg⟩
      obtain ⟨y, hy, hu, hs⟩ := tally_eq_granted.1 hg
      rw [List.mem_singleton] at hy
      subst hy
      exact ⟨y, hx, hu, hs⟩
  · rw [tally_eq_abstain, Vote.strongest_eq_abstain, List.forall_mem_map]
    refine forall₂_congr fun x _ => ?_
    rw [tally_eq_abstain]
    simp

/-- A library voter votes the strongest of its votes on single attributes. -/
theorem vote_eq_strongest {v : Voter} (hv : v.builtIn = true) (a : Authentication)
    (attributes : List String) :
    v.vote a attributes = Vote.strongest (attributes.map fun x => v.vote a [x]) := by
  cases v with
  | role p => exact tally_eq_strongest _ _ attributes
  | hierarchy h => exact tally_eq_strongest _ _ attributes
  | authenticated => exact tally_eq_strongest _ _ attributes
  | constant _ _ => simp [builtIn] at hv

end Voter

/-! ## The strategies on votes -/

theorem affirmative_ok_of_consensus {allowIfAllAbstain allowIfEqual : Bool} {votes : List Vote}
    (h : consensus allowIfAllAbstain allowIfEqual votes = .ok ()) :
    affirmative allowIfAllAbstain votes = .ok () := by
  unfold affirmative
  by_cases hg : votes.contains .granted = true
  · rw [if_pos hg]
  · rw [if_neg hg]
    -- without a grant, consensus grants only when nobody denied either
    have hg0 : votes.count .granted = 0 :=
      List.count_eq_zero.2 fun hm => hg (List.contains_iff_mem.2 hm)
    unfold consensus at h
    simp only [hg0, Nat.not_lt_zero, if_false, Nat.lt_irrefl] at h
    by_cases hd : votes.contains .denied = true
    · rw [if_pos (List.count_pos_iff.2 (List.contains_iff_mem.1 hd))] at h
      cases h
    · have hd0 : votes.count .denied = 0 :=
        List.count_eq_zero.2 fun hm => hd (List.contains_iff_mem.2 hm)
      rw [if_neg hd]
      simpa only [hd0, Nat.lt_irrefl, if_false] using h

theorem rows_any_contains_iff {ι κ : Type} (voters : List ι) (attributes : List κ)
    (cell : ι → κ → Vote) (w : Vote) :
    (attributes.map fun x => voters.map fun v => cell v x).any (·.contains w) = true ↔
      ∃ x ∈ attributes, ∃ v ∈ voters, cell v x = w := by
  simp only [List.any_map, List.any_eq_true, Function.comp, List.contains_iff_mem, List.mem_map]

theorem consensus_ok_of_unanimous {ι κ : Type} {allowIfAllAbstain allowIfEqual : Bool}
    (voters : List ι) (attributes : List κ) (cell : ι → κ → Vote)
    (h : unanimous allowIfAllAbstain (attributes.map fun x => voters.map fun v => cell v x) =
      .ok ()) :
    consensus allowIfAllAbstain allowIfEqual
      (voters.map fun v => Vote.strongest (attributes.map (cell v))) = .ok () := by
  unfold unanimous at h
  simp only [rows_any_contains_iff] at h
  split at h
  · cases h
  · rename_i hd
    -- no voter denied any attribute, so no voter's strongest vote is a denial
    have hd0 : (voters.map fun v => Vote.strongest (attributes.map (cell v))).count .denied = 0 := by
      rw [List.count_eq_zero, List.mem_map]
      rintro ⟨v, hv, hs⟩
      refine Vote.strongest_ne_denied (fun hm => ?_) hs
      obtain ⟨x, hx, hc⟩ := List.mem_map.1 hm
      exact hd ⟨x, hx, v, hv, hc⟩
    unfold consensus
    simp only [hd0]
    split at h
    · -- some voter granted some attribute, so its strongest vote is a grant
      rename_i hg
      obtain ⟨x, hx, v, hv, hc⟩ := hg
      have hpos : 0 < (voters.map fun v => Vote.strongest (attributes.map (cell v))).count
          .granted := by
        rw [List.count_pos_iff, List.mem_map]
        exact ⟨v, hv, Vote.strongest_eq_granted.2 (List.mem_map.2 ⟨x, hx, hc⟩)⟩
      rw [if_pos hpos]
    · -- otherwise every vote is an abstention, and so is every strongest vote
      rename_i hg
      have hg0 : (voters.map fun v => Vote.strongest (attributes.map (cell v))).count
          .granted = 0 := by
        rw [List.count_eq_zero, List.mem_map]
        rintro ⟨v, hv, hs⟩
        have ha : Vote.strongest (attributes.map (cell v)) = .abstain := by
          rw [Vote.strongest_eq_abstain, List.forall_mem_map]
          intro x hx
          cases hc : cell v x with
          | granted => exact absurd ⟨x, hx, v, hv, hc⟩ hg
          | denied => exact absurd ⟨x, hx, v, hv, hc⟩ hd
          | abstain => rfl
        rw [ha] at hs
        cases hs
      rw [hg0, if_neg (by omega), if_neg (by omega), if_neg (by omega)]
      exact h

theorem affirmative_single (allowIfAllAbstain allowIfEqual : Bool) (v : Vote) :
    affirmative allowIfAllAbstain [v] = consensus allowIfAllAbstain allowIfEqual [v] := by
  cases v <;> rfl

theorem unanimous_single (allowIfAllAbstain : Bool) (v : Vote) :
    unanimous allowIfAllAbstain [[v]] = affirmative allowIfAllAbstain [v] := by
  cases v <;> rfl

/-! ## The strategies on the library's voters -/

/-- Unanimous grants are consensus grants, which are affirmative grants. -/
theorem strategies_nest (voters : List Voter) (hb : ∀ v ∈ voters, v.builtIn = true)
    (a : Authentication) (attributes : List String) (allowIfAllAbstain e₁ e₂ e₃ : Bool) :
    ((Manager.voting .unanimous voters allowIfAllAbstain e₁).decide a attributes = .ok () →
      (Manager.voting .consensus voters allowIfAllAbstain e₂).decide a attributes = .ok ()) ∧
    ((Manager.voting .consensus voters allowIfAllAbstain e₂).decide a attributes = .ok () →
      (Manager.voting .affirmative voters allowIfAllAbstain e₃).decide a attributes = .ok ()) ∧
    (∀ v, voters = [v] →
      (Manager.voting .affirmative voters allowIfAllAbstain e₃).decide a attributes =
        (Manager.voting .consensus voters allowIfAllAbstain e₂).decide a attributes) ∧
    (∀ v x, voters = [v] → attributes = [x] →
      (Manager.voting .unanimous voters allowIfAllAbstain e₁).decide a attributes =
        (Manager.voting .affirmative voters allowIfAllAbstain e₃).decide a attributes) := by
  refine ⟨fun h => ?_, affirmative_ok_of_consensus, ?_, ?_⟩
  · -- each voter's vote on the list is its strongest vote on the attributes alone
    have hvotes : (voters.map fun v => v.vote a attributes) =
        voters.map fun v => Vote.strongest (attributes.map fun x => v.vote a [x]) :=
      List.map_congr_left fun v hv => Voter.vote_eq_strongest (hb v hv) a attributes
    simp only [Manager.decide, hvotes]
    exact consensus_ok_of_unanimous voters attributes (fun v x => v.vote a [x]) h
  · rintro v rfl
    exact affirmative_single _ _ _
  · rintro v x rfl rfl
    exact unanimous_single _ _

theorem strategies_nest_roles :
    (∀ v ∈ [Voter.role "ROLE_", .authenticated], v.builtIn = true) ∧
    ((Manager.voting .unanimous [.role "ROLE_", .authenticated] false false).decide
        (.build (some "alice") none ["ROLE_USER"]) ["ROLE_USER", "IS_AUTHENTICATED_FULLY"] =
        .ok () →
      (Manager.voting .consensus [.role "ROLE_", .authenticated] false true).decide
        (.build (some "alice") none ["ROLE_USER"]) ["ROLE_USER", "IS_AUTHENTICATED_FULLY"] =
        .ok ()) ∧
    ((Manager.voting .consensus [.role "ROLE_", .authenticated] false true).decide
        (.build (some "alice") none ["ROLE_USER"]) ["ROLE_USER", "IS_AUTHENTICATED_FULLY"] =
        .ok () →
      (Manager.voting .affirmative [.role "ROLE_", .authenticated] false false).decide
        (.build (some "alice") none ["ROLE_USER"]) ["ROLE_USER", "IS_AUTHENTICATED_FULLY"] =
        .ok ()) ∧
    (∀ v, [Voter.role "ROLE_", .authenticated] = [v] →
      (Manager.voting .affirmative [.role "ROLE_", .authenticated] false false).decide
          (.build (some "alice") none ["ROLE_USER"]) ["ROLE_USER", "IS_AUTHENTICATED_FULLY"] =
        (Manager.voting .consensus [.role "ROLE_", .authenticated] false true).decide
          (.build (some "alice") none ["ROLE_USER"]) ["ROLE_USER", "IS_AUTHENTICATED_FULLY"]) ∧
    (∀ v x, [Voter.role "ROLE_", .authenticated] = [v] →
      ["ROLE_USER", "IS_AUTHENTICATED_FULLY"] = [x] →
      (Manager.voting .unanimous [.role "ROLE_", .authenticated] false false).decide
          (.build (some "alice") none ["ROLE_USER"]) ["ROLE_USER", "IS_AUTHENTICATED_FULLY"] =
        (Manager.voting .affirmative [.role "ROLE_", .authenticated] false false).decide
          (.build (some "alice") none ["ROLE_USER"]) ["ROLE_USER", "IS_AUTHENTICATED_FULLY"]) :=
  have hb : ∀ v ∈ [Voter.role "ROLE_", .authenticated], v.builtIn = true := by decide
  ⟨hb, strategies_nest _ hb _ _ false false true false⟩

end Warden
