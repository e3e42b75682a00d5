import Warden.Sid
import Warden.Proofs.Authentication.Made

/-!
# Security identities of an authentication

The identities name the principal and then the granted authorities, none twice.
-/

namespace Warden

namespace RoleHierarchy

theorem nodup_reachable (h : RoleHierarchy) {held : List String} (hn : held.Nodup) :
    (h.reachable held).Nodup := by
  cases h with
  | flat => exact hn
  | declared reach => exact nodup_dedup _

theorem prefix_reachable (h : RoleHierarchy) {held : List String} (hn : held.Nodup) :
    held <+: h.reachable held := by
  cases h with
  | flat => exact List.prefix_refl held
  | declared reach =>
    have hpre := dedup_prefix_append held (held.flatMap fun a => (reach.lookup a).getD [])
    rwa [dedup_eq_self hn] at hpre

end RoleHierarchy

namespace Sid

theorem of_eq (hierarchy : Option RoleHierarchy) (a : Authentication) :
    Sid.of hierarchy a = (a.principal.map Sid.principal).toList ++
      ((hierarchy.map fun h => h.reachable a.authorities).getD a.authorities).map Sid.authority := by
  cases hierarchy <;> rfl

theorem nodup_principal_append {principal : Option String} {held : List String}
    (hn : held.Nodup) : ((principal.map Sid.principal).toList ++ held.map Sid.authority).Nodup := by
  refine List.nodup_append.2 ⟨?_, List.Pairwise.map Sid.authority
    (fun _ _ hne heq => hne (Sid.authority.inj heq)) hn, ?_⟩
  · cases principal <;> simp
  · intro x hx y hy
    cases principal <;> simp at hx
    obtain ⟨_, -, rfl⟩ := List.mem_map.1 hy
    subst hx
    exact Sid.noConfusion

theorem of_principal_then_authorities {a : Authentication} {names : List String}
    {o : Option Authentication} {erased : Bool} (hm : Made a names o erased)
    (hierarchy : Option RoleHierarchy) :
    Sid.of hierarchy a = (a.principal.map Sid.principal).toList ++
        ((hierarchy.map fun h => h.reachable a.authorities).getD a.authorities).map Sid.authority ∧
      (Sid.of hierarchy a).Nodup ∧
      a.authorities <+: (hierarchy.map fun h => h.reachable a.authorities).getD a.authorities := by
  -- the authentication holds each authority once, whichever constructor made it
  have hn : a.authorities.Nodup := hm.wellMade.authorities.nodup
  have hgranted : ((hierarchy.map fun h => h.reachable a.authorities).getD a.authorities).Nodup ∧
      a.authorities <+: (hierarchy.map fun h => h.reachable a.authorities).getD a.authorities := by
    cases hierarchy with
    | none => exact ⟨hn, List.prefix_refl _⟩
    | some h => exact ⟨h.nodup_reachable hn, h.prefix_reachable hn⟩
  refine ⟨of_eq hierarchy a, ?_, hgranted.2⟩
  rw [of_eq]
  exact nodup_principal_append hgranted.1

theorem of_principal_then_authorities_scott :
    let scott := (Authentication.Builder.run [.principal "scott", .authorities ["A", "B", "A"]]).build
    let staff : RoleHierarchy := .declared [("A", ["D"]), ("B", ["D"])]
    Made scott ["A", "B", "A"] none false ∧
      Sid.of (some staff) scott = [.principal "scott", .authority "A", .authority "B", .authority "D"] ∧
      (Sid.of (some staff) scott).Nodup ∧ scott.authorities <+: staff.reachable scott.authorities := by
  intro scott staff
  have hm : Made scott ["A", "B", "A"] none false := Made.built _
  obtain ⟨-, hnodup, hpre⟩ := of_principal_then_authorities hm (some staff)
  exact ⟨hm, by decide, hnodup, hpre⟩

end Sid

end Warden
