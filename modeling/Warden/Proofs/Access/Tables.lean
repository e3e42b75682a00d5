import Warden.Proofs.Access.Strategies

/-!
# The decision tables of the three strategies

Each outcome's exact condition, for votes of any voters at all.
-/

namespace Warden

def Error.allAbstained : Error := .accessDenied .allAbstained "Access is denied"

theorem abstained_eq_ok_iff (f : Bool) : abstained f = .ok () ↔ f = true := by
  cases f <;> simp [abstained]

theorem abstained_ne_denied (f : Bool) : abstained f ≠ .error .denied := by
  cases f <;> simp [abstained, Error.denied]

theorem abstained_eq_allAbstained_iff (f : Bool) :
    abstained f = .error .allAbstained ↔ f = false := by
  cases f <;> simp [abstained, Error.allAbstained]

/-! ## The tables -/

/-- The outcome `r` of the affirmative strategy on `votes`, with abstention flag `f`. -/
structure AffirmativeTable (f : Bool) (votes : List Vote) (r : Except Error Unit) : Prop where
  ok_iff : r = .ok () ↔ .granted ∈ votes ∨ (.denied ∉ votes ∧ f = true)
  denied_iff : r = .error .denied ↔ .granted ∉ votes ∧ .denied ∈ votes
  abstained_iff : r = .error .allAbstained ↔ (∀ v ∈ votes, v = .abstain) ∧ f = false

/-- The outcome `r` of the consensus strategy on `g` grants and `d` denials. -/
structure ConsensusTable (f e : Bool) (g d : Nat) (r : Except Error Unit) : Prop where
  ok_iff : r = .ok () ↔ d < g ∨ (g = d ∧ 0 < g ∧ e = true) ∨ (g = 0 ∧ d = 0 ∧ f = true)
  denied_iff : r = .error .denied ↔ g < d ∨ (g = d ∧ 0 < g ∧ e = false)
  abstained_iff : r = .error .allAbstained ↔ g = 0 ∧ d = 0 ∧ f = false

/-- The outcome `r` of the unanimous strategy on one row of votes per attribute. -/
structure UnanimousTable (f : Bool) (votes : List (List Vote)) (r : Except Error Unit) : Prop where
  denied_iff : r = .error .denied ↔ ∃ row ∈ votes, .denied ∈ row
  ok_iff : r = .ok () ↔ (∀ row ∈ votes, .denied ∉ row) ∧ ((∃ row ∈ votes, .granted ∈ row) ∨ f = true)
  abstained_iff : r = .error .allAbstained ↔ (∀ row ∈ votes, ∀ v ∈ row, v = .abstain) ∧ f = false

variable (f e : Bool)

theorem affirmative_table (votes : List Vote) : AffirmativeTable f votes (affirmative f votes) := by
  have hall := @Vote.forall_abstain_iff votes
  unfold affirmative
  simp only [List.contains_iff_mem]
  by_cases hg : Vote.granted ∈ votes
  · -- one grant is enough, whatever else was cast
    rw [if_pos hg]
    exact ⟨by simp [hg], by simp [hg], by simp [hall, hg]⟩
  · by_cases hd : Vote.denied ∈ votes
    · rw [if_neg hg, if_pos hd]
      exact ⟨by simp [hg, hd], by simp [hg, hd],
        by simp [hall, hd, Error.denied, Error.allAbstained]⟩
    · rw [if_neg hg, if_neg hd]
      refine ⟨?_, iff_of_false (abstained_ne_denied f) (by simp [hd]), ?_⟩
      · simp [hg, hd, abstained_eq_ok_iff]
      · simp [hall, hg, hd, abstained_eq_allAbstained_iff]

theorem consensus_table (votes : List Vote) :
    ConsensusTable f e (votes.count .granted) (votes.count .denied) (consensus f e votes) := by
  simp only [consensus]
  generalize votes.count .granted = g
  generalize votes.count .denied = d
  -- the branches of the definition, tried in order
  by_cases h₁ : d < g
  · rw [if_pos h₁]
    refine ⟨by simp [h₁], ?_, ?_⟩
    · simp [Error.denied]
      omega
    · simp [Error.allAbstained]
      omega
  · by_cases h₂ : g < d
    · rw [if_neg h₁, if_pos h₂]
      refine ⟨?_, by simp [h₂], by simp [Error.denied, Error.allAbstained]; omega⟩
      simp
      omega
    · obtain rfl : g = d := by omega
      rw [if_neg h₁, if_neg h₂]
      by_cases h₃ : 0 < g
      · -- a tie with grants goes as the tie flag says
        rw [if_pos h₃]
        have hg0 : g ≠ 0 := by omega
        cases e
        · refine ⟨iff_of_false (by simp) ?_, by simp [h₃],
            by simp [Error.denied, Error.allAbstained, hg0]⟩
          rintro (h | ⟨-, -, h⟩ | ⟨h, -⟩)
          · exact h₁ h
          · cases h
          · exact hg0 h
        · exact ⟨by simp [h₃], by simp [Error.denied], by simp [hg0]⟩
      · obtain rfl : g = 0 := by omega
        rw [if_neg h₃]
        refine ⟨?_, iff_of_false (abstained_ne_denied f) (by simp), ?_⟩
        · simpa using abstained_eq_ok_iff f
        · simpa using abstained_eq_allAbstained_iff f

theorem unanimous_table (votes : List (List Vote)) :
    UnanimousTable f votes (unanimous f votes) := by
  have hall : (∀ row ∈ votes, ∀ v ∈ row, v = .abstain) ↔
      (∀ row ∈ votes, .denied ∉ row) ∧ ¬∃ row ∈ votes, .granted ∈ row := by
    simp only [Vote.forall_abstain_iff, not_exists, not_and]
    exact ⟨fun h => ⟨fun row hr => (h row hr).2, fun row hr => (h row hr).1⟩,
      fun h row hr => ⟨h.2 row hr, h.1 row hr⟩⟩
  have hany : ∀ w : Vote, votes.any (·.contains w) = true ↔ ∃ row ∈ votes, w ∈ row := by
    intro w
    simp
  unfold unanimous
  by_cases hd : ∃ row ∈ votes, Vote.denied ∈ row
  · -- a single denial on a single attribute denies
    rw [if_pos ((hany _).2 hd)]
    refine ⟨by simp [hd], ?_, ?_⟩
    · simp only [reduceCtorEq, false_iff, not_and]
      exact fun hnd => absurd hd (by simpa using hnd)
    · rw [hall]
      simp [Error.denied, Error.allAbstained]
      exact fun hnd => absurd hd (by simpa using hnd)
  · have hnd : ∀ row ∈ votes, .denied ∉ row := fun row hr h => hd ⟨row, hr, h⟩
    rw [if_neg (mt (hany _).1 hd)]
    by_cases hg : ∃ row ∈ votes, Vote.granted ∈ row
    · rw [if_pos ((hany _).2 hg)]
      exact ⟨by simpa using hd, iff_of_true rfl ⟨hnd, .inl hg⟩, by simp [hall, hg]⟩
    · rw [if_neg (mt (hany _).1 hg)]
      refine ⟨iff_of_false (abstained_ne_denied f) hd, ?_, ?_⟩
      · rw [abstained_eq_ok_iff]
        exact ⟨fun hf => ⟨hnd, .inr hf⟩, fun h => h.2.resolve_left hg⟩
      · rw [abstained_eq_allAbstained_iff, hall]
        exact ⟨fun hf => ⟨⟨hnd, hg⟩, hf⟩, And.right⟩

/-! ## The managers -/

theorem ofVoters_eq_ok_iff (s : Strategy) (voters : List Voter) (m : Manager) :
    Manager.ofVoters s voters f e = .ok m ↔ voters ≠ [] ∧ m = .voting s voters f e := by
  unfold Manager.ofVoters
  cases voters <;> simp [eq_comm]

/-- Every strategy decides as its table says. -/
theorem decisions_follow_tables (voters : List Voter) (a : Authentication) (attributes : List String) :
    AffirmativeTable f (voters.map fun v => v.vote a attributes)
        ((Manager.voting .affirmative voters f e).decide a attributes) ∧
      ConsensusTable f e ((voters.map fun v => v.vote a attributes).count .granted)
        ((voters.map fun v => v.vote a attributes).count .denied)
        ((Manager.voting .consensus voters f e).decide a attributes) ∧
      UnanimousTable f (attributes.map fun x => voters.map fun v => v.vote a [x])
        ((Manager.voting .unanimous voters f e).decide a attributes) ∧
      (Manager.voting .unanimous voters f e).decide a [] = abstained f ∧
      (∀ s m, Manager.ofVoters s voters f e = .ok m ↔ voters ≠ [] ∧ m = .voting s voters f e) ∧
      ∀ s, Manager.ofVoters s [] f e =
        .error (.invalidArgument "A list of AccessDecisionVoters is required") :=
  ⟨affirmative_table f _, consensus_table f e _, unanimous_table f _, rfl,
    fun s m => ofVoters_eq_ok_iff f e s voters m, fun _ => rfl⟩

end Warden
