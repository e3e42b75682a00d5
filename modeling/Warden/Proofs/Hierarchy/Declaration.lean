import Warden.Authority.Hierarchy

/-! # The graph a hierarchy declaration declares -/

namespace Warden.RoleHierarchy

/-- The roles named on a line: its parts between `>`, trimmed. -/
def rolesOn (line : String) : List String := (line.splitOn ">").map Text.trim

/-- A line names at least two roles, none of them empty or holding a blank. -/
def LineOk (line : String) : Prop :=
  2 ≤ (rolesOn line).length ∧ ∀ r ∈ rolesOn line, r ≠ "" ∧ ∀ c ∈ r.toList, Text.isBlank c = false

/-- Every line of the declaration that holds something names a proper chain. -/
def WellFormed (d : String) : Prop := ∀ line ∈ declaredLines d, LineOk line

/-- The declaration has an edge from `a` to `b`: `b` comes right after `a` on some line. -/
def Declares (d : String) (a b : String) : Prop :=
  ∃ line ∈ declaredLines d, [a, b] <:+: rolesOn line

namespace Edges

def Includes (g : Edges) (a b : String) : Prop := b ∈ g.children a

/-! ## Adding edges -/

theorem children_cons (p : String) (cs : List String) (rest : List (String × List String))
    (a : String) : children ⟨(p, cs) :: rest⟩ a = if a = p then cs else children ⟨rest⟩ a := by
  by_cases h : a = p
  · subst h
    simp [children]
  · simp [children, List.lookup_cons, beq_false_of_ne h, h]

theorem mem_parents_of_includes {g : Edges} {a b : String} (h : g.Includes a b) :
    a ∈ g.parents := by
  obtain ⟨l⟩ := g
  induction l with
  | nil => simp [Includes, children] at h
  | cons e rest ih =>
    obtain ⟨p, cs⟩ := e
    simp only [Includes, children_cons] at h
    by_cases ha : a = p
    · simp [parents, ha]
    · simp only [ha, if_false] at h
      simp [parents, List.mem_map] at ih ⊢
      exact Or.inr (ih h)

theorem includes_linkIn (p c : String) (l : List (String × List String)) (a b : String) :
    Includes ⟨linkIn p c l⟩ a b ↔ Includes ⟨l⟩ a b ∨ (a = p ∧ b = c) := by
  unfold Includes
  induction l with
  | nil =>
    rw [linkIn, children_cons]
    by_cases h : a = p <;> simp [h, children]
  | cons e rest ih =>
    obtain ⟨q, cs⟩ := e
    by_cases hq : q = p
    · subst hq
      by_cases ha : a = q
      · subst ha
        by_cases hc : c ∈ cs
        · simp only [linkIn, if_true, hc, children_cons, true_and]
          exact ⟨Or.inl, fun h => h.elim id fun hb => hb ▸ hc⟩
        · simp [linkIn, children_cons, hc]
      · simp [linkIn, children_cons, ha]
    · by_cases ha : a = q
      · subst ha
        simp [linkIn, children_cons, hq]
      · simp [linkIn, children_cons, hq, ha, ih]

theorem pair_infix_cons_cons {a b x y : String} {rest : List String} :
    [a, b] <:+: x :: y :: rest ↔ (a = x ∧ b = y) ∨ [a, b] <:+: y :: rest := by
  rw [List.infix_cons_iff]
  simp

theorem includes_linkChain (g : Edges) (rs : List String) (a b : String) :
    (g.linkChain rs).Includes a b ↔ g.Includes a b ∨ [a, b] <:+: rs := by
  fun_induction linkChain g rs with
  | case1 g x y rest ih =>
    rw [ih, pair_infix_cons_cons, link, includes_linkIn, or_assoc]
  | case2 rs g hshort =>
    have : ¬[a, b] <:+: rs := by
      intro h
      have hlen := h.length_le
      match rs, hshort with
      | [], _ => simp at hlen
      | [_], _ => simp at hlen
      | x :: y :: rest, h => exact absurd rfl (h x y rest)
    simp [this]

end Edges

/-! ## Reading the lines -/

theorem validRole_iff (r : String) :
    validRole r = true ↔ r ≠ "" ∧ ∀ c ∈ r.toList, Text.isBlank c = false := by
  simp [validRole, Text.hasBlank]

theorem lineRoles_ok_iff (line : String) (rs : List String) :
    lineRoles line = .ok rs ↔ LineOk line ∧ rs = rolesOn line := by
  dsimp only [lineRoles, LineOk, rolesOn]
  split
  · rename_i h
    simp only [List.all_eq_true, validRole_iff] at h
    simp only [Except.ok.injEq]
    exact ⟨fun e => ⟨h, e.symm⟩, fun ⟨_, e⟩ => e.symm⟩
  · rename_i h
    simp only [List.all_eq_true, validRole_iff] at h
    simp only [reduceCtorEq, false_iff, not_and]
    exact fun hok _ => h hok

theorem lineRoles_error (line : String) (e : Error) (h : lineRoles line = .error e) :
    ¬LineOk line ∧ ∃ m, e = .invalidArgument m := by
  dsimp only [lineRoles] at h
  split at h
  · cases h
  · rename_i hbad
    simp only [List.all_eq_true, validRole_iff] at hbad
    cases h
    exact ⟨hbad, _, rfl⟩

/-- One line read into the graph: its chain of roles is linked in, or the line is refused. -/
def linkLine (g : Edges) (line : String) : Except Error Edges := return g.linkChain (← lineRoles line)

theorem edgesOf_eq (d : String) : edgesOf d = (declaredLines d).foldlM linkLine ⟨[]⟩ := rfl

theorem linkLine_ok_iff (g g' : Edges) (line : String) :
    linkLine g line = .ok g' ↔ LineOk line ∧ g' = g.linkChain (rolesOn line) := by
  unfold linkLine
  cases h : lineRoles line with
  | error e =>
    have hbad := (lineRoles_error line e h).1
    simp only [bind, Except.bind, reduceCtorEq, false_iff, not_and]
    exact fun hok => absurd hok hbad
  | ok rs =>
    obtain ⟨hok, rfl⟩ := (lineRoles_ok_iff line rs).1 h
    simp only [bind, Except.bind, pure, Except.pure, Except.ok.injEq]
    exact ⟨fun e => ⟨hok, e.symm⟩, fun ⟨_, e⟩ => e.symm⟩

theorem linkLine_error {g : Edges} {line : String} {e : Error} (h : linkLine g line = .error e) :
    ¬LineOk line ∧ ∃ m, e = .invalidArgument m := by
  unfold linkLine at h
  cases hl : lineRoles line with
  | error e' =>
    rw [hl] at h
    cases h
    exact lineRoles_error line e hl
  | ok rs =>
    rw [hl] at h
    cases h

theorem foldlM_linkLine_ok {ls : List String} {g₀ g : Edges}
    (h : ls.foldlM linkLine g₀ = .ok g) :
    (∀ line ∈ ls, LineOk line) ∧
      ∀ a b, g.Includes a b ↔ g₀.Includes a b ∨ ∃ line ∈ ls, [a, b] <:+: rolesOn line := by
  induction ls generalizing g₀ with
  | nil =>
    cases h
    simp
  | cons line ls ih =>
    rw [List.foldlM_cons] at h
    cases hl : linkLine g₀ line with
    | error e =>
      rw [hl] at h
      cases h
    | ok g₁ =>
      rw [hl] at h
      obtain ⟨hok, rfl⟩ := (linkLine_ok_iff g₀ g₁ line).1 hl
      obtain ⟨hrest, hedges⟩ := ih h
      refine ⟨fun l hl' => ?_, fun a b => ?_⟩
      · rcases List.mem_cons.1 hl' with rfl | hl'
        · exact hok
        · exact hrest l hl'
      · rw [hedges, Edges.includes_linkChain]
        simp only [List.mem_cons, exists_eq_or_imp, or_assoc]

theorem foldlM_linkLine_exists {ls : List String} (hls : ∀ line ∈ ls, LineOk line) (g₀ : Edges) :
    ∃ g, ls.foldlM linkLine g₀ = .ok g := by
  induction ls generalizing g₀ with
  | nil => exact ⟨g₀, rfl⟩
  | cons line ls ih =>
    have hl := (linkLine_ok_iff g₀ _ line).2 ⟨hls line List.mem_cons_self, rfl⟩
    obtain ⟨g, hg⟩ := ih (fun l h => hls l (List.mem_cons_of_mem _ h)) (g₀.linkChain (rolesOn line))
    exact ⟨g, by rw [List.foldlM_cons, hl]; exact hg⟩

theorem foldlM_linkLine_error {ls : List String} {g₀ : Edges} {e : Error}
    (h : ls.foldlM linkLine g₀ = .error e) :
    (∃ line ∈ ls, ¬LineOk line) ∧ ∃ m, e = .invalidArgument m := by
  induction ls generalizing g₀ with
  | nil => cases h
  | cons line ls ih =>
    rw [List.foldlM_cons] at h
    cases hl : linkLine g₀ line with
    | error e' =>
      rw [hl] at h
      cases h
      obtain ⟨hbad, hm⟩ := linkLine_error hl
      exact ⟨⟨line, List.mem_cons_self, hbad⟩, hm⟩
    | ok g₁ =>
      rw [hl] at h
      obtain ⟨⟨l, hl', hbad⟩, hm⟩ := ih h
      exact ⟨⟨l, List.mem_cons_of_mem _ hl', hbad⟩, hm⟩

/-! ## The graph of a declaration -/

theorem edgesOf_ok_iff (d : String) : (∃ g, edgesOf d = .ok g) ↔ WellFormed d := by
  rw [edgesOf_eq]
  exact ⟨fun ⟨_, h⟩ => (foldlM_linkLine_ok h).1, fun h => foldlM_linkLine_exists h _⟩

theorem includes_iff_declares {d : String} {g : Edges} (h : edgesOf d = .ok g) (a b : String) :
    g.Includes a b ↔ Declares d a b := by
  rw [edgesOf_eq] at h
  rw [(foldlM_linkLine_ok h).2 a b]
  simp [Edges.Includes, Edges.children, Declares]

theorem edgesOf_error {d : String} {e : Error} (h : edgesOf d = .error e) :
    ¬WellFormed d ∧ ∃ m, e = .invalidArgument m := by
  rw [edgesOf_eq] at h
  obtain ⟨⟨line, hl, hbad⟩, hm⟩ := foldlM_linkLine_error h
  exact ⟨fun hwf => hbad (hwf line hl), hm⟩

end Warden.RoleHierarchy
