import Mathlib.Data.List.Forall2
import Warden.Access.Decision
import Warden.Access.RunAs
import Warden.Proofs.Authority.Lists

/-!
# Granting more never revokes access

Holding more (`Authentication.Within`) only moves votes up (`Vote.Rises`), and every strategy
keeps a grant when votes rise.
-/

namespace Warden

/-- `b` holds at least what `a` holds. -/
structure Authentication.Within (a b : Authentication) : Prop where
  authorities : ∀ x ∈ a.authorities, x ∈ b.authorities
  authenticated : a.authenticated = true → b.authenticated = true
  anonymous : b.isAnonymous = a.isAnonymous

/-- How holding more can change a vote: it stays, or a denial becomes a grant. -/
def Vote.Rises (v w : Vote) : Prop := w = v ∨ (v = .denied ∧ w = .granted)

/-! ## Ways of holding more -/

namespace Authentication

theorem Within.of_build {p c p' c' : Option String} {xs ys : List String}
    (h : ∀ x ∈ (build p c xs).authorities, x ∈ (build p' c' ys).authorities) :
    Within (build p c xs) (build p' c' ys) where
  authorities := h
  authenticated := by
    -- the flag says that some authority is held, and `b` holds every one of `a`'s
    simp only [build, Bool.not_eq_eq_eq_not, Bool.not_true, List.isEmpty_eq_false_iff]
    intro ha hb
    obtain ⟨x, hx⟩ := List.exists_mem_of_ne_nil _ ha
    simp only [build] at h
    exact absurd (h x hx) (by simp [hb])
  anonymous := rfl

theorem Within.of_substitute {a b : Authentication} {key rolePrefix : String}
    {attributes : List String} (ha : a.isAnonymous = false)
    (h : (RunAs.minting key rolePrefix).substitute a attributes = some b) : Within a b := by
  simp only [RunAs.substitute] at h
  split at h
  · cases h
  · cases h
    exact {
      authorities := fun x hx => by simp [mintRunAs, Authority.list, hx]
      authenticated := fun _ => rfl
      anonymous := by rw [ha]; rfl }

end Authentication

/-! ## Votes rise -/

theorem Vote.Rises.refl (v : Vote) : v.Rises v := Or.inl rfl

theorem Voter.tally_rises (understands : String → Bool) {sat sat' : String → Bool}
    (hsat : ∀ x, sat x = true → sat' x = true) (attributes : List String) :
    (tally understands sat attributes).Rises (tally understands sat' attributes) := by
  simp only [tally]
  generalize attributes.filter understands = understood
  cases understood with
  | nil => exact Vote.Rises.refl _
  | cons u us =>
    by_cases hg : (u :: us).any sat = true
    · have hg' : (u :: us).any sat' = true := by
        obtain ⟨x, hx, hs⟩ := List.any_eq_true.1 hg
        exact List.any_eq_true.2 ⟨x, hx, hsat x hs⟩
      simp only [hg, hg', if_true]
      exact Vote.Rises.refl _
    · -- `a` is denied: `b` is denied too, or granted
      simp only [hg, Bool.false_eq_true, if_false, List.isEmpty_cons]
      split
      · exact Or.inr ⟨rfl, rfl⟩
      · exact Vote.Rises.refl _

theorem Voter.satisfied_mono {a b : Authentication} (hab : a.Within b) (v : Voter)
    (x : String) (h : v.satisfied a x = true) : v.satisfied b x = true := by
  cases v with
  | role _ =>
    simp only [satisfied, List.contains_iff_mem] at h ⊢
    exact hab.authorities x h
  | hierarchy h' =>
    simp only [satisfied, List.contains_iff_mem] at h ⊢
    exact h'.reachable_mono hab.authorities h
  | authenticated =>
    simp only [satisfied, authenticatedBy] at h ⊢
    rw [hab.anonymous]
    by_cases h1 : x = fullyAuthenticated
    · rw [if_pos h1, Bool.and_eq_true] at h ⊢
      exact ⟨hab.authenticated h.1, h.2⟩
    · by_cases h2 : x = anonymouslyAuthenticated
      · rw [if_neg h1, if_pos h2, Bool.or_eq_true] at h ⊢
        exact h.imp_left hab.authenticated
      · rwa [if_neg h1, if_neg h2] at h ⊢
  | constant _ _ => simp [satisfied] at h

theorem Voter.vote_rises {a b : Authentication} (hab : a.Within b) (v : Voter)
    (attributes : List String) : (v.vote a attributes).Rises (v.vote b attributes) := by
  cases v with
  | constant _ _ => exact Vote.Rises.refl _
  | role _ => exact tally_rises _ (satisfied_mono hab _) attributes
  | hierarchy _ => exact tally_rises _ (satisfied_mono hab _) attributes
  | authenticated => exact tally_rises _ (satisfied_mono hab _) attributes

/-! ## Decisions stay granted -/

theorem Vote.count_rises {vs ws : List Vote} (h : List.Forall₂ Vote.Rises vs ws) :
    vs.count .granted ≤ ws.count .granted ∧ ws.count .denied ≤ vs.count .denied ∧
      ws.count .granted + ws.count .denied = vs.count .granted + vs.count .denied := by
  induction h with
  | nil => simp
  | cons hvw _ ih =>
    rcases hvw with rfl | ⟨rfl, rfl⟩
    · simp only [List.count_cons]
      omega
    · simp only [List.count_cons, beq_iff_eq, reduceCtorEq, ↓reduceIte]
      omega

theorem Vote.granted_mem_of_rises {vs ws : List Vote} (h : List.Forall₂ Vote.Rises vs ws)
    (hg : Vote.granted ∈ vs) : Vote.granted ∈ ws := by
  induction h with
  | nil => cases hg
  | cons hvw _ ih =>
    rcases List.mem_cons.1 hg with rfl | hg
    · rcases hvw with rfl | ⟨h, _⟩
      · exact List.mem_cons_self
      · cases h
    · exact List.mem_cons_of_mem _ (ih hg)

theorem Vote.eq_of_rises {vs ws : List Vote} (h : List.Forall₂ Vote.Rises vs ws)
    (hd : Vote.denied ∉ vs) : ws = vs := by
  induction h with
  | nil => rfl
  | cons hvw _ ih =>
    simp only [List.mem_cons, not_or] at hd
    rcases hvw with rfl | ⟨rfl, _⟩
    · rw [ih hd.2]
    · exact absurd rfl hd.1

theorem affirmative_ok_of_rises {vs ws : List Vote} (h : List.Forall₂ Vote.Rises vs ws)
    (allowIfAllAbstain : Bool) (hok : affirmative allowIfAllAbstain vs = .ok ()) :
    affirmative allowIfAllAbstain ws = .ok () := by
  unfold affirmative at hok ⊢
  by_cases hg : vs.contains .granted
  · rw [List.contains_iff_mem] at hg
    rw [if_pos (List.contains_iff_mem.2 (Vote.granted_mem_of_rises h hg))]
  · rw [if_neg hg] at hok
    split at hok
    · cases hok
    · rename_i hd
      rw [Vote.eq_of_rises h (fun hm => hd (List.contains_iff_mem.2 hm)), if_neg hg, if_neg hd]
      exact hok

theorem consensus_ok_of_rises {vs ws : List Vote} (h : List.Forall₂ Vote.Rises vs ws)
    (allowIfAllAbstain allowIfEqual : Bool)
    (hok : consensus allowIfAllAbstain allowIfEqual vs = .ok ()) :
    consensus allowIfAllAbstain allowIfEqual ws = .ok () := by
  obtain ⟨hg, hd, hsum⟩ := Vote.count_rises h
  unfold consensus at hok ⊢
  simp only at hok ⊢
  -- the grants can only grow and the denials only shrink, by the same amount
  by_cases h1 : vs.count .denied < vs.count .granted
  · rw [if_pos (by omega)]
  · rw [if_neg h1] at hok
    by_cases h2 : vs.count .granted < vs.count .denied
    · rw [if_pos h2] at hok
      cases hok
    · rw [if_neg h2] at hok
      by_cases h3 : ws.count .denied < ws.count .granted
      · rw [if_pos h3]
      · -- a tie stays the same tie
        have hg' : ws.count .granted = vs.count .granted := by omega
        rw [if_neg h3, if_neg (by omega), hg']
        exact hok

theorem unanimous_ok_of_rises {vss wss : List (List Vote)}
    (h : List.Forall₂ (List.Forall₂ Vote.Rises) vss wss) (allowIfAllAbstain : Bool)
    (hok : unanimous allowIfAllAbstain vss = .ok ()) :
    unanimous allowIfAllAbstain wss = .ok () := by
  unfold unanimous at hok
  split at hok
  · cases hok
  · rename_i hd
    -- with no denial on any attribute, every vote is the same
    have heq : wss = vss := by
      clear hok
      induction h with
      | nil => rfl
      | cons hvw _ ih =>
        simp only [List.any_cons, Bool.or_eq_true, not_or, List.contains_iff_mem] at hd
        rw [Vote.eq_of_rises hvw hd.1, ih (by simpa using hd.2)]
    rw [heq]
    unfold unanimous
    rw [if_neg hd]
    exact hok

theorem Voter.votes_rise {a b : Authentication} (hab : a.Within b) (voters : List Voter)
    (attributes : List String) :
    List.Forall₂ Vote.Rises (voters.map fun v => v.vote a attributes)
      (voters.map fun v => v.vote b attributes) := by
  rw [List.forall₂_map_left_iff, List.forall₂_map_right_iff, List.forall₂_same]
  exact fun v _ => v.vote_rises hab attributes

theorem Voter.votes_rise_each {a b : Authentication} (hab : a.Within b) (voters : List Voter)
    (attributes : List String) :
    List.Forall₂ (List.Forall₂ Vote.Rises)
      (attributes.map fun x => voters.map fun v => v.vote a [x])
      (attributes.map fun x => voters.map fun v => v.vote b [x]) := by
  rw [List.forall₂_map_left_iff, List.forall₂_map_right_iff, List.forall₂_same]
  exact fun x _ => votes_rise hab voters [x]

/-- No manager takes from `b` access it gives to `a` when `b` holds more. -/
theorem Manager.decide_ok_of_within {a b : Authentication} (hab : a.Within b) (m : Manager)
    (attributes : List String) (h : m.decide a attributes = .ok ()) :
    m.decide b attributes = .ok () := by
  cases m with
  | voting strategy voters allowIfAllAbstain allowIfEqual =>
    cases strategy with
    | affirmative =>
      exact affirmative_ok_of_rises (Voter.votes_rise hab voters attributes) _ h
    | consensus =>
      exact consensus_ok_of_rises (Voter.votes_rise hab voters attributes) _ _ h
    | unanimous =>
      exact unanimous_ok_of_rises (Voter.votes_rise_each hab voters attributes) _ h
  | fixed _ => exact h

/-- Granting more authorities never revokes access. -/
theorem decide_ok_of_more_granted (m : Manager) (attributes : List String) (a b : Authentication)
    (hab : (∃ p c xs p' c' ys, a = .build p c xs ∧ b = .build p' c' ys ∧
        ∀ x ∈ a.authorities, x ∈ b.authorities) ∨
      (a.isAnonymous = false ∧ ∃ key rolePrefix runAsAttributes,
        (RunAs.minting key rolePrefix).substitute a runAsAttributes = some b))
    (h : m.decide a attributes = .ok ()) : m.decide b attributes = .ok () := by
  refine m.decide_ok_of_within ?_ attributes h
  rcases hab with ⟨p, c, xs, p', c', ys, rfl, rfl, hsub⟩ | ⟨ha, key, rolePrefix, attrs, hs⟩
  · exact Authentication.Within.of_build hsub
  · exact Authentication.Within.of_substitute ha hs

theorem decide_ok_of_more_granted_admin :
    ((∃ p c xs p' c' ys,
        Authentication.build (some "alice") none ["ROLE_USER"] = .build p c xs ∧
        Authentication.build (some "alice") none ["ROLE_USER", "ROLE_ADMIN"] = .build p' c' ys ∧
        ∀ x ∈ (Authentication.build (some "alice") none ["ROLE_USER"]).authorities,
          x ∈ (Authentication.build (some "alice") none ["ROLE_USER", "ROLE_ADMIN"]).authorities) ∨
      ((Authentication.build (some "alice") none ["ROLE_USER"]).isAnonymous = false ∧
        ∃ key rolePrefix runAsAttributes, (RunAs.minting key rolePrefix).substitute
          (Authentication.build (some "alice") none ["ROLE_USER"]) runAsAttributes =
            some (Authentication.build (some "alice") none ["ROLE_USER", "ROLE_ADMIN"]))) ∧
    (Manager.voting .consensus [.role "ROLE_", .authenticated] false false).decide
      (.build (some "alice") none ["ROLE_USER"]) ["ROLE_USER", "IS_AUTHENTICATED_FULLY"] = .ok () ∧
    (Manager.voting .consensus [.role "ROLE_", .authenticated] false false).decide
      (.build (some "alice") none ["ROLE_USER", "ROLE_ADMIN"])
      ["ROLE_USER", "IS_AUTHENTICATED_FULLY"] = .ok () :=
  have hab := Or.inl ⟨_, _, _, _, _, _, rfl, rfl, by decide⟩
  have h : (Manager.voting .consensus [.role "ROLE_", .authenticated] false false).decide
      (.build (some "alice") none ["ROLE_USER"]) ["ROLE_USER", "IS_AUTHENTICATED_FULLY"] =
        .ok () := by decide +kernel
  ⟨hab, h, decide_ok_of_more_granted _ _ _ _ hab h⟩

end Warden
