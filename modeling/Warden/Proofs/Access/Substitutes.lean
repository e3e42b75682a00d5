import Warden.Proofs.Authentication.Made

/-! # The substitutes a run-as manager mints -/

namespace Warden.RunAs

theorem extraRoles_eq_nil_iff (rolePrefix : String) (attributes : List String) :
    extraRoles rolePrefix attributes = [] ↔ ∀ x ∈ attributes, runAsMark.isPrefixOf x = false := by
  simp [extraRoles, List.filter_eq_nil_iff]

theorem substitute_minting_eq_none_iff (key rolePrefix : String) (a : Authentication)
    (attributes : List String) :
    (minting key rolePrefix).substitute a attributes = none ↔
      extraRoles rolePrefix attributes = [] := by
  simp only [substitute]
  cases extraRoles rolePrefix attributes <;> simp

theorem minted_minting_iff (key rolePrefix : String) (a : Authentication) :
    (minting key rolePrefix).minted a = true ↔ a.kind = .runAs key := by
  cases h : a.kind <;>
    simp [minted, Authentication.isRunAs, Authentication.keyMatches, h]

/-- When a minting manager mints a substitute, and what it holds. -/
theorem substitute_stands_in_for_caller (key rolePrefix : String) (a : Authentication)
    (attributes : List String) :
    ((minting key rolePrefix).substitute a attributes = none ↔
      ∀ x ∈ attributes, runAsMark.isPrefixOf x = false) ∧
    (∀ r, (minting key rolePrefix).substitute a attributes = some r →
      r.authorities =
        dedup ((attributes.filter runAsMark.isPrefixOf).map (rolePrefix ++ ·) ++ a.authorities) ∧
      r.principal = a.principal ∧ r.credentials = a.credentials ∧ r.authenticated = true ∧
      r.kind = .runAs key ∧
      ∀ key' rolePrefix', (minting key' rolePrefix').minted r = true ↔ key' = key) ∧
    ((minting key rolePrefix).minted a = true ↔ a.kind = .runAs key) := by
  refine ⟨(substitute_minting_eq_none_iff key rolePrefix a attributes).trans
      (extraRoles_eq_nil_iff rolePrefix attributes), fun r hr => ?_,
    minted_minting_iff key rolePrefix a⟩
  rw [substitute_eq_some hr]
  refine ⟨rfl, rfl, rfl, rfl, rfl, fun key' rolePrefix' => ?_⟩
  rw [minted_minting_iff]
  simp [Authentication.mintRunAs, eq_comm]

end Warden.RunAs
