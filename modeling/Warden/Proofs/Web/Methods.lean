import Warden.Config.Build
import Warden.Proofs.Hierarchy.Acceptance
import Warden.Proofs.Web.Subtree

/-!
# Method restrictions of ant matchers

A request's method is normalised, a rule's is only uppercased, so the two agree only on
methods with no blank at either end.
-/

namespace Warden.Text

/-- Neither end of the characters is a blank. -/
def Framed (cs : List Char) : Prop :=
  (∀ c ∈ cs.head?, isBlank c = false) ∧ ∀ c ∈ cs.getLast?, isBlank c = false

/-! ## Uppercasing keeps blanks -/

theorem isBlank_letter {c : Char} (h₁ : 65 ≤ c.toNat) (h₂ : c.toNat ≤ 122) :
    isBlank c = false := by
  dsimp only [isBlank]
  generalize c.toNat = n at h₁ h₂ ⊢
  simp only [Bool.or_eq_false_iff, Bool.and_eq_false_iff, decide_eq_false_iff_not,
    beq_eq_false_iff_ne]
  omega

theorem toUpper_toNat {c : Char} (h₁ : 97 ≤ c.toNat) (h₂ : c.toNat ≤ 122) :
    c.toUpper.toNat = c.toNat - 32 := by
  have hc : c.toNat = c.val.toNat := rfl
  unfold Char.toUpper
  rw [dif_pos ⟨(UInt32.le_iff_toNat_le).2 (by rw [← hc]; exact h₁),
    (UInt32.le_iff_toNat_le).2 (by rw [← hc]; exact h₂)⟩]
  show (c.val + ('A'.val - 'a'.val)).toNat = c.toNat - 32
  -- the offset is `'A' - 'a'` taken modulo 2³²
  have hd : ('A'.val - 'a'.val).toNat = 4294967264 := rfl
  rw [UInt32.toNat_add, hd, hc]
  omega

theorem toUpper_of_not_lower {c : Char} (h : ¬(97 ≤ c.toNat ∧ c.toNat ≤ 122)) :
    c.toUpper = c := by
  have hc : c.toNat = c.val.toNat := rfl
  unfold Char.toUpper
  rw [dif_neg]
  rintro ⟨h₁, h₂⟩
  rw [UInt32.le_iff_toNat_le] at h₁ h₂
  exact h ⟨by rw [hc]; exact h₁, by rw [hc]; exact h₂⟩

@[simp]
theorem isBlank_toUpper (c : Char) : isBlank c.toUpper = isBlank c := by
  by_cases h : 97 ≤ c.toNat ∧ c.toNat ≤ 122
  · -- a lowercase letter becomes an uppercase one, and neither is blank
    have hu := toUpper_toNat h.1 h.2
    rw [isBlank_letter (by omega) (by omega), isBlank_letter (by omega) (by omega)]
  · rw [toUpper_of_not_lower h]

theorem framed_map_toUpper {cs : List Char} : Framed (cs.map Char.toUpper) ↔ Framed cs := by
  simp only [Framed, List.head?_map, List.getLast?_map]
  cases cs.head? <;> cases cs.getLast? <;> simp

theorem asciiUpper_toList (s : String) : (asciiUpper s).toList = s.toList.map Char.toUpper := by
  simp [asciiUpper]

/-! ## Trimming -/

theorem not_isBlank_head?_dropWhile (cs : List Char) :
    ∀ c ∈ (cs.dropWhile isBlank).head?, isBlank c = false := by
  intro c hc
  have h := List.head?_dropWhile_not isBlank cs
  rw [Option.mem_def.1 hc] at h
  exact h

theorem trimChars_eq_self {cs : List Char} (h : Framed cs) : trimChars cs = cs := by
  have hfront : cs.dropWhile isBlank = cs := by
    cases cs with
    | nil => rfl
    | cons c cs => exact List.dropWhile_cons_of_neg (by simpa using h.1 c rfl)
  have hback : cs.reverse.dropWhile isBlank = cs.reverse := by
    cases hr : cs.reverse with
    | nil => rfl
    | cons c cs' =>
      have hc : cs.getLast? = some c := by rw [← List.head?_reverse, hr]; rfl
      exact List.dropWhile_cons_of_neg (by simpa using h.2 c hc)
  rw [trimChars, hfront, hback, List.reverse_reverse]

theorem framed_trimChars (cs : List Char) : Framed (trimChars cs) := by
  unfold trimChars
  generalize hY : cs.dropWhile isBlank = Y
  generalize hX : Y.reverse.dropWhile isBlank = X
  refine ⟨?_, ?_⟩
  · -- the first character kept is the one the front trim stopped at
    rw [List.head?_reverse]
    by_cases hX0 : X = []
    · simp [hX0]
    have hsplit : Y.reverse = Y.reverse.takeWhile isBlank ++ X := by
      rw [← hX, List.takeWhile_append_dropWhile]
    have hlast : X.getLast? = Y.head? := by
      rw [← List.getLast?_reverse, hsplit, List.getLast?_append]
      cases h : X.getLast? with
      | none => exact absurd (List.getLast?_eq_none_iff.1 h) hX0
      | some x => rfl
    rw [hlast, ← hY]
    exact not_isBlank_head?_dropWhile cs
  · rw [List.getLast?_reverse, ← hX]
    exact not_isBlank_head?_dropWhile _

theorem toList_trim (s : String) : (trim s).toList = trimChars s.toList := by
  simp [trim]

theorem trim_eq_self_iff {s : String} : trim s = s ↔ Framed s.toList := by
  constructor
  · intro h
    have hcs : trimChars s.toList = s.toList := by
      rw [← toList_trim, h]
    rw [← hcs]
    exact framed_trimChars _
  · intro h
    rw [trim, trimChars_eq_self h, String.ofList_toList]

end Warden.Text

namespace Warden.Web

open Text

/-! ## Normal methods -/

theorem framed_normalMethod (m : String) : Framed (normalMethod m).toList ∧ normalMethod m ≠ "" := by
  dsimp only [normalMethod]
  split
  · rw [show "GET".toList = ['G', 'E', 'T'] from rfl]
    exact ⟨⟨fun c hc => by cases hc; decide, fun c hc => by cases hc; decide⟩, by decide⟩
  · next ht =>
    refine ⟨?_, ?_⟩
    · rw [asciiUpper_toList, framed_map_toUpper, toList_trim]
      exact framed_trimChars m.toList
    · intro h
      have hnil : (trim m).toList = [] := by
        simpa [asciiUpper_toList] using congrArg String.toList h
      exact ht (String.toList_eq_nil_iff.1 hnil)

theorem normalMethod_of_trim_eq {m : String} (ht : trim m = m) (hm : m ≠ "") :
    normalMethod m = asciiUpper m := by
  simp only [normalMethod, ht, if_neg hm]

theorem trim_eq_of_asciiUpper_eq_normalMethod {m r : String}
    (h : asciiUpper m = normalMethod r) : trim m = m ∧ m ≠ "" := by
  obtain ⟨hframed, hne⟩ := framed_normalMethod r
  rw [← h, asciiUpper_toList, framed_map_toUpper] at hframed
  refine ⟨trim_eq_self_iff.2 hframed, ?_⟩
  rintro rfl
  exact hne (by rw [← h]; rfl)

/-! ## Matchers restricted to a method -/

@[simp]
theorem url_withMethod (q : Request) (m : String) : (q.withMethod m).url = q.url := by
  dsimp only [Request.withMethod, Request.url]

@[simp]
theorem method_withMethod (q : Request) (m : String) : (q.withMethod m).method = normalMethod m := by
  -- `rfl` would unfold `normalMethod` first and is slow
  dsimp only [Request.withMethod]

theorem create_picks_withMethod (p m r : String) (q : Request) :
    ((AntMatcher.create p (some m)).map fun am => am.picks (q.withMethod r)) =
      (AntMatcher.create p none).map fun am =>
        am.picks q && asciiUpper m == normalMethod r := by
  unfold AntMatcher.create
  split
  · rfl
  · simp [Except.map, AntMatcher.picks, Bool.and_comm]

theorem requestTable_rules {s : Config.Settings} {t : RequestTable}
    (h : s.requestTable = .ok t) :
    List.Forall₂ (fun rule entry => ∃ am, AntMatcher.create rule.pattern rule.method = .ok am ∧
      entry = (Matcher.ant am, rule.attributes)) s.rules t.rules := by
  simp only [Config.Settings.requestTable, bind, Except.bind, pure, Except.pure] at h
  split at h
  · cases h
  · next rules hm =>
    cases h
    refine (RoleHierarchy.mapM_forall₂ hm).imp ?_
    intro rule entry he
    split at he
    · cases he
    · next am hc =>
      cases he
      exact ⟨am, hc, rfl⟩

/-- A method restriction compares the uppercased method with the request's. -/
theorem method_restriction_picks (p m r : String) (q : Request) :
    ((AntMatcher.create p (some m)).map fun am => am.picks (q.withMethod r)) =
        ((AntMatcher.create p none).map fun am =>
          am.picks q && asciiUpper m == normalMethod r) ∧
      (asciiUpper m = normalMethod m ↔ trim m = m ∧ m ≠ "") ∧
      ((∃ r', asciiUpper m = normalMethod r') ↔ trim m = m ∧ m ≠ "") ∧
      ∀ (s : Config.Settings) (t : RequestTable), s.requestTable = .ok t →
        List.Forall₂ (fun rule entry =>
          ∃ am, AntMatcher.create rule.pattern rule.method = .ok am ∧
            entry = (Matcher.ant am, rule.attributes)) s.rules t.rules := by
  refine ⟨create_picks_withMethod p m r q, ?_, ?_, fun _ _ h => requestTable_rules h⟩
  · exact ⟨trim_eq_of_asciiUpper_eq_normalMethod,
      fun h => (normalMethod_of_trim_eq h.1 h.2).symm⟩
  · exact ⟨fun hr => hr.elim fun _ => trim_eq_of_asciiUpper_eq_normalMethod,
      fun h => ⟨m, (normalMethod_of_trim_eq h.1 h.2).symm⟩⟩

/-- A rule method ` post` keeps its blank, so `POST /api/x` is refused. -/
theorem method_restriction_picks_padded :
    let s : Config.Settings :=
      { rejectPublic := false, strategy := .affirmative, allowIfAllAbstain := false,
        allowIfEqual := true, roleHierarchy := none, anonymous := Config.AnonymousSettings.default,
        runAs := none,
        rules := [{ pattern := "/api/**", method := some " post", attributes := ["ROLE_ADMIN"] }] }
    let t : RequestTable :=
      ⟨[(.ant { pattern := "/api/**", method := some " POST", pieces := compile "/api/**".toList },
        ["ROLE_ADMIN"])]⟩
    s.requestTable = .ok t ∧
      List.Forall₂ (fun rule entry =>
        ∃ am, AntMatcher.create rule.pattern rule.method = .ok am ∧
          entry = (Matcher.ant am, rule.attributes)) s.rules t.rules ∧
      normalMethod " post" = normalMethod "POST" ∧
      ((AntMatcher.create "/api/**" none).map fun am => am.picks (Request.get "/api/x")) =
        .ok true ∧
      ((AntMatcher.create "/api/**" (some " post")).map fun am =>
        am.picks ((Request.get "/api/x").withMethod "POST")) = .ok false := by
  intro s t
  have ht : s.requestTable = .ok t := rfl
  have hrestrict := method_restriction_picks "/api/**" " post" "POST" (Request.get "/api/x")
  obtain ⟨m, hm, hpicks⟩ := AntMatcher.subtree_picks "/api" (by decide) (by decide)
  have hpattern : "/api" ++ "/**" = "/api/**" := by decide
  rw [hpattern] at hm
  have hx : m.picks (Request.get "/api/x") = true :=
    ((hpicks _).2 "x" (by decide +kernel)).2 (by decide)
  have hne : (asciiUpper " post" == normalMethod "POST") = false := by decide +kernel
  refine ⟨ht, hrestrict.2.2.2 s t ht, by decide +kernel, ?_, ?_⟩
  · rw [hm]
    simp [Except.map, hx]
  · rw [hrestrict.1, hm]
    simp [Except.map, hne]

end Warden.Web
