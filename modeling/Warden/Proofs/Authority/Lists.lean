import Warden.Authority.Hierarchy

/-! # Membership in authority lists -/

namespace Warden

theorem mem_dedupAfter {α : Type} [DecidableEq α] (seen l : List α) (x : α) :
    x ∈ dedupAfter seen l ↔ x ∈ l ∧ x ∉ seen := by
  induction l generalizing seen with
  | nil => simp [dedupAfter]
  | cons a l ih =>
    by_cases ha : a ∈ seen
    · simp only [dedupAfter, ha, if_true, ih, List.mem_cons]
      constructor
      · exact fun ⟨hl, hs⟩ => ⟨Or.inr hl, hs⟩
      · rintro ⟨rfl | hl, hs⟩
        · exact absurd ha hs
        · exact ⟨hl, hs⟩
    · simp only [dedupAfter, ha, if_false, List.mem_cons, ih, not_or]
      by_cases hx : x = a
      · subst hx
        simp [ha]
      · simp [hx]

@[simp] theorem mem_dedup {α : Type} [DecidableEq α] (l : List α) (x : α) :
    x ∈ dedup l ↔ x ∈ l := by
  simp [dedup, mem_dedupAfter]

section Dedup

variable {α : Type} [DecidableEq α]

/-! ## Keeping first occurrences -/

theorem dedupAfter_congr {seen seen' : List α} (h : ∀ x, x ∈ seen ↔ x ∈ seen') (l : List α) :
    dedupAfter seen l = dedupAfter seen' l := by
  induction l generalizing seen seen' with
  | nil => rfl
  | cons a l ih =>
    have hcons : ∀ x, x ∈ a :: seen ↔ x ∈ a :: seen' := by simp [h]
    by_cases ha : a ∈ seen
    · rw [dedupAfter, if_pos ha, dedupAfter, if_pos ((h a).1 ha), ih h]
    · rw [dedupAfter, if_neg ha, dedupAfter, if_neg (mt (h a).2 ha), ih hcons]

theorem dedupAfter_append (seen l m : List α) :
    dedupAfter seen (l ++ m) = dedupAfter seen l ++ dedupAfter (dedupAfter seen l ++ seen) m := by
  induction l generalizing seen with
  | nil => rfl
  | cons a l ih =>
    by_cases ha : a ∈ seen
    · simp only [List.cons_append, dedupAfter, if_pos ha, ih]
    · simp only [List.cons_append, dedupAfter, if_neg ha, ih, List.cons.injEq, true_and]
      -- `a` was kept, so it joins the elements seen by `m` at the front instead of the back
      exact congrArg _ (dedupAfter_congr (fun x => by simp [or_left_comm]) m)

theorem nodup_dedupAfter (seen l : List α) : (dedupAfter seen l).Nodup := by
  induction l generalizing seen with
  | nil => exact List.nodup_nil
  | cons a l ih =>
    by_cases ha : a ∈ seen
    · rw [dedupAfter, if_pos ha]
      exact ih seen
    · rw [dedupAfter, if_neg ha, List.nodup_cons, mem_dedupAfter]
      exact ⟨fun h => h.2 List.mem_cons_self, ih (a :: seen)⟩

theorem dedupAfter_eq_nil {seen l : List α} (h : ∀ x ∈ l, x ∈ seen) : dedupAfter seen l = [] := by
  refine List.eq_nil_iff_forall_not_mem.2 fun x hx => ?_
  obtain ⟨hl, hs⟩ := (mem_dedupAfter seen l x).1 hx
  exact hs (h x hl)

theorem dedupAfter_eq_self {seen l : List α} (hl : l.Nodup) (hs : ∀ x ∈ l, x ∉ seen) :
    dedupAfter seen l = l := by
  induction l generalizing seen with
  | nil => rfl
  | cons a l ih =>
    rw [List.nodup_cons] at hl
    rw [dedupAfter, if_neg (hs a List.mem_cons_self)]
    refine congrArg (a :: ·) (ih hl.2 fun x hx hmem => ?_)
    rcases List.mem_cons.1 hmem with rfl | hmem
    · exact hl.1 hx
    · exact hs x (List.mem_cons_of_mem a hx) hmem

theorem nodup_dedup (l : List α) : (dedup l).Nodup := nodup_dedupAfter [] l

theorem dedup_eq_self {l : List α} (hl : l.Nodup) : dedup l = l :=
  dedupAfter_eq_self hl fun _ _ => List.not_mem_nil

theorem dedup_append (l m : List α) : dedup (l ++ m) = dedup l ++ dedupAfter (dedup l) m := by
  rw [dedup, dedupAfter_append, List.append_nil]
  rfl

theorem dedup_prefix_append (l m : List α) : dedup l <+: dedup (l ++ m) := by
  rw [dedup_append]
  exact List.prefix_append _ _

theorem dedup_append_of_subset {l m : List α} (h : ∀ x ∈ m, x ∈ l) : dedup (l ++ m) = dedup l := by
  rw [dedup_append, dedupAfter_eq_nil fun x hx => (mem_dedup l x).2 (h x hx), List.append_nil]

theorem dedup_append_singleton (l : List α) (c : α) :
    dedup (l ++ [c]) = if c ∈ l then dedup l else dedup l ++ [c] := by
  rw [dedup_append]
  by_cases hc : c ∈ l
  · rw [if_pos hc, dedupAfter, if_pos ((mem_dedup l c).2 hc), dedupAfter, List.append_nil]
  · rw [if_neg hc, dedupAfter, if_neg (mt (mem_dedup l c).1 hc), dedupAfter]

end Dedup

namespace RoleHierarchy

theorem mem_reachable (h : RoleHierarchy) (held : List String) (x : String) :
    x ∈ h.reachable held ↔ x ∈ held ∨ ∃ reach, h = .declared reach ∧
      ∃ a ∈ held, x ∈ (reach.lookup a).getD [] := by
  cases h with
  | flat => simp [reachable]
  | declared reach => simp [reachable]

theorem reachable_mono (h : RoleHierarchy) {held held' : List String}
    (hsub : ∀ y ∈ held, y ∈ held') {x : String} (hx : x ∈ h.reachable held) :
    x ∈ h.reachable held' := by
  rw [mem_reachable] at hx ⊢
  rcases hx with hx | ⟨reach, rfl, a, ha, hxa⟩
  · exact Or.inl (hsub x hx)
  · exact Or.inr ⟨reach, rfl, a, hsub a ha, hxa⟩

end RoleHierarchy

end Warden
