import Mathlib
import Warden.Proofs.Access.Strategies

/-! # A voter's vote is the greatest of its single votes -/

namespace Warden

namespace Vote

/-- The strength of a vote: an abstention below a denial below a grant. -/
def rank : Vote → Nat
  | .abstain => 0
  | .denied => 1
  | .granted => 2

theorem rank_injective : Function.Injective rank := by
  intro v w h
  cases v <;> cases w <;> first | rfl | simp [rank] at h

instance : LinearOrder Vote := LinearOrder.lift' rank rank_injective

theorem strongest_cons (v : Vote) (vs : List Vote) :
    strongest (v :: vs) = max v (strongest vs) := by
  simp only [strongest, List.contains_cons]
  cases v <;> cases vs.contains .granted <;> cases vs.contains .denied <;> decide

theorem strongest_eq_foldr_max (vs : List Vote) : strongest vs = vs.foldr max .abstain := by
  induction vs with
  | nil => rfl
  | cons v vs ih => rw [strongest_cons, ih, List.foldr_cons]

end Vote

namespace Voter

theorem vote_eq_tally {v : Voter} (hv : v.builtIn = true) (a : Authentication)
    (attributes : List String) :
    v.vote a attributes = tally v.supports (v.satisfied a) attributes := by
  cases v with
  | constant _ _ => simp [builtIn] at hv
  | _ => rfl

theorem vote_single_eq_abstain {v : Voter} (hv : v.builtIn = true) (a : Authentication)
    (x : String) : v.vote a [x] = .abstain ↔ v.supports x = false := by
  rw [vote_eq_tally hv, tally_eq_abstain, List.forall_mem_singleton]

/-- A library voter's vote is the greatest of its single votes. -/
theorem vote_eq_max_of_singles {v : Voter} (hv : v.builtIn = true) (a : Authentication)
    (attributes : List String) :
    v.vote a attributes = (attributes.map fun x => v.vote a [x]).foldr max .abstain ∧
      v.vote a [] = .abstain ∧ ∀ x, v.supports x = true ↔ v.vote a [x] ≠ .abstain := by
  refine ⟨?_, vote_eq_strongest hv a [], fun x => ?_⟩
  · rw [← Vote.strongest_eq_foldr_max]
    exact vote_eq_strongest hv a attributes
  · rw [Ne, vote_single_eq_abstain hv, Bool.not_eq_false]

theorem vote_eq_max_of_singles_roles :
    (Voter.role "ROLE_").builtIn = true ∧
    ((Voter.role "ROLE_").vote (.build (some "alice") none ["ROLE_USER"])
        ["ROLE_ADMIN", "IS_ANONYMOUS", "ROLE_USER"] =
      (["ROLE_ADMIN", "IS_ANONYMOUS", "ROLE_USER"].map fun x =>
        (Voter.role "ROLE_").vote (.build (some "alice") none ["ROLE_USER"]) [x]).foldr max
        .abstain ∧
      (Voter.role "ROLE_").vote (.build (some "alice") none ["ROLE_USER"]) [] = .abstain ∧
      ∀ x, (Voter.role "ROLE_").supports x = true ↔
        (Voter.role "ROLE_").vote (.build (some "alice") none ["ROLE_USER"]) [x] ≠ .abstain) :=
  ⟨rfl, vote_eq_max_of_singles rfl _ _⟩

end Voter

end Warden
