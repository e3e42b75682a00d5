import Mathlib.Data.List.Basic
import Warden.Access.RunAs
import Warden.Proofs.Authority.Lists

/-!
# Authentications made through the public constructors

`Made` records how the constructors make an authentication, and `WellMade` what each one then
satisfies (`Made.wellMade`, by induction on `Made`).
-/

namespace Warden

/-! ## Authority lists keep first occurrences -/

/-- `held` lists the names of `names` once each, in the order of their first occurrences. -/
def FirstOccurrences (names held : List String) : Prop :=
  held.Pairwise (fun x y => names.idxOf x < names.idxOf y) ∧ ∀ x, x ∈ held ↔ x ∈ names

theorem FirstOccurrences.nodup {names held : List String} (h : FirstOccurrences names held) :
    held.Nodup :=
  h.1.imp fun hlt heq => by rw [heq] at hlt; exact Nat.lt_irrefl _ hlt

-- By induction on the list: what is kept after `a` is not `a`, so its index moves up by one.
theorem pairwise_dedupAfter (seen l : List String) :
    (dedupAfter seen l).Pairwise (fun x y => l.idxOf x < l.idxOf y) := by
  induction l generalizing seen with
  | nil => exact List.Pairwise.nil
  | cons a l ih =>
    have hshift : ∀ s, a ∈ s → (dedupAfter s l).Pairwise
        (fun x y => (a :: l).idxOf x < (a :: l).idxOf y) := by
      intro s ha
      refine (ih s).imp_of_mem @fun x y hx hy hxy => ?_
      have hxa : x ≠ a := fun h => ((mem_dedupAfter s l _).1 hx).2 (h ▸ ha)
      have hya : y ≠ a := fun h => ((mem_dedupAfter s l _).1 hy).2 (h ▸ ha)
      rw [List.idxOf_cons_ne l hxa.symm, List.idxOf_cons_ne l hya.symm]
      exact Nat.succ_lt_succ hxy
    by_cases ha : a ∈ seen
    · rw [dedupAfter, if_pos ha]
      exact hshift seen ha
    · rw [dedupAfter, if_neg ha, List.pairwise_cons]
      refine ⟨fun y hy => ?_, hshift (a :: seen) List.mem_cons_self⟩
      have hya : y ≠ a := fun h => ((mem_dedupAfter _ l _).1 hy).2 (h ▸ List.mem_cons_self)
      rw [List.idxOf_cons_self, List.idxOf_cons_ne l hya.symm]
      exact Nat.succ_pos _

theorem firstOccurrences_list (names : List String) :
    FirstOccurrences names (Authority.list names) :=
  ⟨pairwise_dedupAfter [] names, fun x => mem_dedup names x⟩

theorem Authority.list_eq_nil_iff (names : List String) : Authority.list names = [] ↔ names = [] := by
  constructor
  · intro h
    rw [List.eq_nil_iff_forall_not_mem]
    intro x hx
    have hmem : x ∈ Authority.list names := (mem_dedup names x).2 hx
    rw [h] at hmem
    cases hmem
  · rintro rfl
    rfl

namespace Authentication

/-! ## The builder -/

/-- The names of the builder's last `authorities` call, or `names` when there is none. -/
def Builder.namesAfter (names : List String) : List Builder.Call → List String
  | [] => names
  | .authorities l :: calls => namesAfter l calls
  | .principal _ :: calls => namesAfter names calls
  | .credentials _ :: calls => namesAfter names calls

theorem Builder.foldl_call_authorities (calls : List Builder.Call) {b : Builder}
    {names : List String} (h : b.authorities = Authority.list names) :
    (calls.foldl Builder.call b).authorities = Authority.list (namesAfter names calls) := by
  induction calls generalizing b names with
  | nil => exact h
  | cons c calls ih =>
    cases c with
    | principal p => exact ih h
    | credentials c => exact ih h
    | authorities l => exact ih rfl

theorem Builder.run_authorities (calls : List Builder.Call) :
    (Builder.run calls).authorities = Authority.list (Builder.namesAfter [] calls) :=
  Builder.foldl_call_authorities calls rfl

/-! ## The constructors that can fail -/

theorem anonymous_eq_ok_iff {key principal : String} {names : List String} {a : Authentication} :
    anonymous key principal names = .ok a ↔
      key ≠ "" ∧ principal ≠ "" ∧ Authority.list names ≠ [] ∧
        a = { principal := some principal, credentials := none,
              authorities := Authority.list names, authenticated := true,
              kind := .anonymous key } := by
  unfold anonymous
  by_cases hk : key = ""
  · simp [hk]
  · by_cases hp : principal = ""
    · simp [hk, hp]
    · by_cases hl : Authority.list names = []
      · simp [hk, hp, hl]
      · simp only [hk, hp, hl, if_false, ne_eq, not_false_eq_true, true_and]
        exact ⟨fun h => (Except.ok.inj h).symm, fun h => h ▸ rfl⟩

theorem anonymous_eq_error {key principal : String} {names : List String} {e : Error}
    (h : anonymous key principal names = .error e) : ∃ reason, e = .invalidArgument reason := by
  unfold anonymous at h
  dsimp only at h
  split at h
  · exact ⟨_, (Except.error.inj h).symm⟩
  · split at h
    · exact ⟨_, (Except.error.inj h).symm⟩
    · split at h
      · exact ⟨_, (Except.error.inj h).symm⟩
      · cases h

theorem runAs_eq_ok_iff {key : String} {o : Authentication} {names : List String}
    {a : Authentication} : runAs key o names = .ok a ↔ key ≠ "" ∧ a = mintRunAs key o names := by
  unfold runAs
  by_cases hk : key = ""
  · simp [hk]
  · simp only [hk, if_false, ne_eq, not_false_eq_true, true_and]
    exact ⟨fun h => (Except.ok.inj h).symm, fun h => h ▸ rfl⟩

theorem runAs_eq_error {key : String} {o : Authentication} {names : List String} {e : Error}
    (h : runAs key o names = .error e) : ∃ reason, e = .invalidArgument reason := by
  unfold runAs at h
  split at h
  · exact ⟨_, (Except.error.inj h).symm⟩
  · cases h

theorem anonymous_ok_iff {key principal : String} {names : List String} :
    (∃ a, anonymous key principal names = .ok a) ↔
      key ≠ "" ∧ principal ≠ "" ∧ Authority.list names ≠ [] := by
  constructor
  · rintro ⟨a, h⟩
    obtain ⟨hk, hp, hl, -⟩ := anonymous_eq_ok_iff.1 h
    exact ⟨hk, hp, hl⟩
  · rintro ⟨hk, hp, hl⟩
    exact ⟨_, anonymous_eq_ok_iff.2 ⟨hk, hp, hl, rfl⟩⟩

theorem runAs_ok_iff {key : String} {o : Authentication} {names : List String} :
    (∃ a, runAs key o names = .ok a) ↔ key ≠ "" := by
  constructor
  · rintro ⟨a, h⟩
    exact (runAs_eq_ok_iff.1 h).1
  · intro hk
    exact ⟨_, runAs_eq_ok_iff.2 ⟨hk, rfl⟩⟩

end Authentication

theorem Except.invalid_iff_not_ok {α : Type} {x : Except Error α}
    (hx : ∀ e, x = .error e → ∃ reason, e = .invalidArgument reason) :
    (∃ reason, x = .error (.invalidArgument reason)) ↔ ¬ ∃ a, x = .ok a := by
  constructor
  · rintro ⟨reason, rfl⟩ ⟨a, h⟩
    cases h
  · intro hn
    cases h : x with
    | error e =>
      obtain ⟨reason, rfl⟩ := hx e h
      exact ⟨reason, rfl⟩
    | ok a => exact absurd ⟨a, h⟩ hn

theorem RunAs.substitute_eq_some {key rolePrefix : String} {o a : Authentication}
    {attributes : List String} (h : (RunAs.minting key rolePrefix).substitute o attributes = some a) :
    a = Authentication.mintRunAs key o (RunAs.extraRoles rolePrefix attributes ++ o.authorities) := by
  simp only [substitute] at h
  cases hx : extraRoles rolePrefix attributes with
  | nil => simp [hx] at h
  | cons r rest =>
    simp only [hx, Option.some.injEq] at h
    exact h.symm

/-! ## Made and well made -/

/-- The authentications the public constructors make from `names`, erased or not. -/
inductive Made : Authentication → List String → Option Authentication → Bool → Prop
  | built (calls : List Authentication.Builder.Call) :
      Made (Authentication.Builder.run calls).build (Authentication.Builder.namesAfter [] calls)
        none false
  | anonymous {key principal : String} {names : List String} {a : Authentication} :
      Authentication.anonymous key principal names = .ok a → Made a names none false
  | runAs {key : String} {o : Authentication} {names : List String} {a : Authentication} :
      Authentication.runAs key o names = .ok a → Made a names (some o) false
  | substituted {key rolePrefix : String} {m : RunAs} {o : Authentication}
      {attributes : List String} {a : Authentication} :
      RunAs.withKey key rolePrefix = .ok m → m.substitute o attributes = some a →
      Made a (RunAs.extraRoles rolePrefix attributes ++ o.authorities) (some o) false
  | erased {a : Authentication} {names : List String} {o : Option Authentication} {e : Bool} :
      Made a names o e → Made a.eraseCredentials names o true

/-- What an authentication made from `names` satisfies. -/
structure WellMade (a : Authentication) (names : List String) (o : Option Authentication)
    (erased : Bool) : Prop where
  authorities : FirstOccurrences names a.authorities
  standard : a.kind = .standard → (a.authenticated = true ↔ a.authorities ≠ [])
  anonymous : a.isAnonymous = true →
    a.authenticated = true ∧ (∃ p, a.principal = some p ∧ p ≠ "") ∧ a.authorities ≠ []
  runAs : a.isRunAs = true → a.authenticated = true ∧ ∃ orig, o = some orig ∧
    a.principal = orig.principal ∧ a.credentials = if erased then none else orig.credentials
  erasedCredentials : erased = true → a.credentials = none

namespace WellMade

theorem of_built (calls : List Authentication.Builder.Call) :
    WellMade (Authentication.Builder.run calls).build (Authentication.Builder.namesAfter [] calls)
      none false where
  authorities := by
    rw [Authentication.Builder.build, Authentication.Builder.run_authorities]
    exact firstOccurrences_list _
  standard := fun _ => by simp [Authentication.Builder.build]
  anonymous := fun h => by cases h
  runAs := fun h => by cases h
  erasedCredentials := fun h => by cases h

theorem of_anonymous {key principal : String} {names : List String} {a : Authentication}
    (h : Authentication.anonymous key principal names = .ok a) : WellMade a names none false := by
  obtain ⟨-, hp, hl, rfl⟩ := Authentication.anonymous_eq_ok_iff.1 h
  exact { authorities := firstOccurrences_list names
          standard := fun h => by cases h
          anonymous := fun _ => ⟨rfl, ⟨principal, rfl, hp⟩, hl⟩
          runAs := fun h => by cases h
          erasedCredentials := fun h => by cases h }

theorem of_mintRunAs (key : String) (o : Authentication) (names : List String) :
    WellMade (Authentication.mintRunAs key o names) names (some o) false where
  authorities := firstOccurrences_list names
  standard := fun h => by cases h
  anonymous := fun h => by cases h
  runAs := fun _ => ⟨rfl, o, rfl, rfl, rfl⟩
  erasedCredentials := fun h => by cases h

theorem eraseCredentials {a : Authentication} {names : List String} {o : Option Authentication}
    {e : Bool} (h : WellMade a names o e) : WellMade a.eraseCredentials names o true where
  authorities := h.authorities
  standard := h.standard
  anonymous := h.anonymous
  runAs := fun hr => (h.runAs hr).imp_right fun ⟨orig, ho, hp, _⟩ => ⟨orig, ho, hp, rfl⟩
  erasedCredentials := fun _ => rfl

end WellMade

-- By induction on how the authentication was made, one constructor at a time.
theorem Made.wellMade {a : Authentication} {names : List String} {o : Option Authentication}
    {e : Bool} (h : Made a names o e) : WellMade a names o e := by
  induction h with
  | built calls => exact WellMade.of_built calls
  | anonymous h => exact WellMade.of_anonymous h
  | runAs h =>
    obtain ⟨-, rfl⟩ := Authentication.runAs_eq_ok_iff.1 h
    exact WellMade.of_mintRunAs _ _ _
  | @substituted key rolePrefix m o attributes a hm hs =>
    have hm' : m = .minting key rolePrefix := by
      unfold RunAs.withKey at hm
      split at hm
      · cases hm
      · exact (Except.ok.inj hm).symm
    subst hm'
    rw [RunAs.substitute_eq_some hs]
    exact WellMade.of_mintRunAs _ _ _
  | erased _ ih => exact ih.eraseCredentials

/-- What every authentication the public constructors make satisfies. -/
theorem made_authentications_sound :
    (∀ {a : Authentication} {names : List String} {o : Option Authentication} {erased : Bool},
      Made a names o erased → a.authorities.Nodup ∧ WellMade a names o erased) ∧
    (∀ key principal names,
      (∃ reason, Authentication.anonymous key principal names = .error (.invalidArgument reason)) ↔
        key = "" ∨ principal = "" ∨ Authority.list names = []) ∧
    (∀ key principal names, (∃ a, Authentication.anonymous key principal names = .ok a) ↔
      key ≠ "" ∧ principal ≠ "" ∧ Authority.list names ≠ []) ∧
    (∀ key o names,
      (∃ reason, Authentication.runAs key o names = .error (.invalidArgument reason)) ↔ key = "") ∧
    (∀ key o names, (∃ a, Authentication.runAs key o names = .ok a) ↔ key ≠ "") ∧
    (∀ a : Authentication, { a.eraseCredentials with credentials := a.credentials } = a) := by
  refine ⟨fun h => ⟨h.wellMade.authorities.nodup, h.wellMade⟩, ?_, ?_, ?_, ?_, fun _ => rfl⟩
  · intro key principal names
    rw [Except.invalid_iff_not_ok (fun _ => Authentication.anonymous_eq_error),
      Authentication.anonymous_ok_iff]
    -- the three checks fail together exactly when one of them fails
    by_cases hk : key = "" <;> by_cases hp : principal = "" <;>
      by_cases hl : Authority.list names = [] <;> simp [hk, hp, hl]
  · intro key principal names
    exact Authentication.anonymous_ok_iff
  · intro key o names
    rw [Except.invalid_iff_not_ok (fun _ => Authentication.runAs_eq_error),
      Authentication.runAs_ok_iff, ne_eq, Classical.not_not]
  · intro key o names
    exact Authentication.runAs_ok_iff

theorem made_authentications_sound_visitor :
    let visitor : Authentication :=
      { principal := some "anonymousUser", credentials := none, authorities := ["ROLE_ANONYMOUS"],
        authenticated := true, kind := .anonymous "anon-key" }
    Made visitor.eraseCredentials ["ROLE_ANONYMOUS"] none true ∧
      visitor.eraseCredentials.authorities.Nodup ∧
      WellMade visitor.eraseCredentials ["ROLE_ANONYMOUS"] none true := by
  intro visitor
  have hm : Made visitor.eraseCredentials ["ROLE_ANONYMOUS"] none true :=
    Made.erased (@Made.anonymous "anon-key" "anonymousUser" _ _ rfl)
  exact ⟨hm, made_authentications_sound.1 hm⟩

/-- An erased run-as identity loses its original's credentials too. -/
theorem erased_runAs_drops_original_credentials :
    let user := (Authentication.Builder.run
      [.principal "sam", .credentials "pw", .authorities ["ROLE_STAFF"]]).build
    let stand := Authentication.mintRunAs "run-as-key" user ["ROLE_AUDIT"]
    Made stand.eraseCredentials ["ROLE_AUDIT"] (some user) true ∧
      stand.eraseCredentials.isRunAs = true ∧
      stand.eraseCredentials.credentials ≠ user.credentials := by
  intro user stand
  exact ⟨Made.erased (@Made.runAs "run-as-key" _ _ _ rfl), rfl, by decide⟩

end Warden
