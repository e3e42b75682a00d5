import Warden.Proofs.Hierarchy.Search

/-!
# The closure loop ends, pushes each role's children once, and searches depth first

`Turn` is one turn of the loop that does not end it, `Turns` a run of them and `Ends` where the
loop ends; every turn lowers the walk's measure.
-/

namespace Warden.RoleHierarchy.Edges

open Relation

/-- Where the closure loop stands: its stack, top first, and the roles it has listed. -/
structure Frame where
  stack : List String
  order : List String

/-- The loop from `root` starts with the children of `root` on its stack and nothing listed. -/
def start (g : Edges) (root : String) : Frame := ⟨g.children root, []⟩

/-- A turn of the loop from `root` that does not end it, with the roles it pushes. -/
inductive Turn (g : Edges) (root : String) : Frame → List String → Frame → Prop
  | pass {next : String} {stack order : List String} :
      next ≠ root → next ∈ order → Turn g root ⟨next :: stack, order⟩ [] ⟨stack, order⟩
  | visit {next : String} {stack order : List String} :
      next ≠ root → next ∉ order →
      Turn g root ⟨next :: stack, order⟩ (g.children next)
        ⟨g.children next ++ stack, order ++ [next]⟩

/-- Turns one after another, with every role they push, in order. -/
inductive Turns (g : Edges) (root : String) : Frame → List String → Frame → Prop
  | refl (s : Frame) : Turns g root s [] s
  | head {s t u : Frame} {ps qs : List String} :
      Turn g root s ps t → Turns g root t qs u → Turns g root s (ps ++ qs) u

/-- Where the loop from `root` ends, and what it answers there. -/
inductive Ends (root : String) : Frame → Except Error (List String) → Prop
  | done (order : List String) : Ends root ⟨[], order⟩ (.ok order)
  | cycle (stack order : List String) : Ends root ⟨root :: stack, order⟩ (.error (.cycle root))

variable {g : Edges} {root : String}

/-! ## One turn -/

theorem Turn.progress (g : Edges) (root : String) (s : Frame) :
    (∃ r, Ends root s r) ∨ ∃ ps t, Turn g root s ps t := by
  obtain ⟨stack, order⟩ := s
  cases stack with
  | nil => exact .inl ⟨_, .done order⟩
  | cons next stack =>
    by_cases hroot : next = root
    · subst hroot
      exact .inl ⟨_, .cycle stack order⟩
    · by_cases hseen : next ∈ order
      · exact .inr ⟨_, _, .pass hroot hseen⟩
      · exact .inr ⟨_, _, .visit hroot hseen⟩

theorem Turn.measure_lt {s t : Frame} {ps : List String} (h : Turn g root s ps t) :
    g.walkMeasure t.stack t.order < g.walkMeasure s.stack s.order := by
  cases h with
  | pass _ _ => exact g.walkMeasure_pop _ _ _
  | visit _ hnew => exact g.walkMeasure_expand hnew _

theorem Turn.run_eq {s t : Frame} {ps : List String} (h : Turn g root s ps t) :
    g.run root s.stack s.order = g.run root t.stack t.order := by
  cases h with
  | pass hroot hseen => exact run_seen _ _ hroot hseen
  | visit hroot hnew => exact run_new _ _ hroot hnew

theorem Turn.pushes {s t : Frame} {ps : List String} (h : Turn g root s ps t)
    (hs : (root :: s.order).Nodup) :
    ∃ listed, t.order = s.order ++ listed ∧ ps = listed.flatMap g.children ∧
      (root :: t.order).Nodup := by
  cases h with
  | pass _ _ => exact ⟨[], by simp, rfl, hs⟩
  | @visit next _ order hroot hnew =>
    refine ⟨[next], rfl, by simp, ?_⟩
    have hnext : next ∉ root :: order := by simp [hroot, hnew]
    rw [← List.cons_append, ← List.concat_eq_append]
    exact hs.concat hnext

theorem Ends.run_eq (g : Edges) {s : Frame} {r : Except Error (List String)}
    (h : Ends root s r) :
    g.run root s.stack s.order = r := by
  cases h with
  | done order => exact run_nil order
  | cycle stack order => exact walk_root _ stack order

/-! ## Runs of turns -/

/-- Every turn lowers the walk's measure, so no run of the loop goes on forever. -/
theorem turn_wellFounded (g : Edges) (root : String) :
    WellFounded fun t s => ∃ ps, Turn g root s ps t :=
  Subrelation.wf (by rintro t s ⟨_, h⟩; exact h.measure_lt)
    (measure fun s : Frame => g.walkMeasure s.stack s.order).wf

theorem Turns.exists_end (g : Edges) (root : String) (s : Frame) :
    ∃ ps t r, Turns g root s ps t ∧ Ends root t r := by
  induction s using (turn_wellFounded g root).induction with
  | _ s ih =>
    rcases Turn.progress g root s with ⟨r, hr⟩ | ⟨ps, t, ht⟩
    · exact ⟨[], s, r, .refl s, hr⟩
    · obtain ⟨qs, u, r, hu, hr⟩ := ih t ⟨ps, ht⟩
      exact ⟨ps ++ qs, u, r, .head ht hu, hr⟩

theorem Turns.run_eq {s t : Frame} {ps : List String} (h : Turns g root s ps t) :
    g.run root s.stack s.order = g.run root t.stack t.order := by
  induction h with
  | refl _ => rfl
  | head ht _ ih => rw [ht.run_eq, ih]

theorem Turns.pushes {s t : Frame} {ps : List String} (h : Turns g root s ps t)
    (hs : (root :: s.order).Nodup) :
    ∃ listed, t.order = s.order ++ listed ∧ ps = listed.flatMap g.children ∧
      (root :: t.order).Nodup := by
  induction h with
  | refl _ => exact ⟨[], by simp, rfl, hs⟩
  | @head s t u ps qs ht _ ih =>
    obtain ⟨l₁, ho₁, hp₁, hn₁⟩ := ht.pushes hs
    obtain ⟨l₂, ho₂, hp₂, hn₂⟩ := ih hn₁
    have ho : u.order = s.order ++ (l₁ ++ l₂) := by rw [ho₂, ho₁, List.append_assoc]
    have hp : ps ++ qs = (l₁ ++ l₂).flatMap g.children := by
      rw [hp₁, hp₂, List.flatMap_append]
    exact ⟨l₁ ++ l₂, ho, hp, hn₂⟩

theorem Turns.pushed_from_start {t : Frame} {ps : List String}
    (h : Turns g root (g.start root) ps t) :
    g.children root ++ ps = (root :: t.order).flatMap g.children ∧ (root :: t.order).Nodup := by
  obtain ⟨listed, ho, hp, hn⟩ := h.pushes (List.nodup_singleton root)
  simp only [start, List.nil_append] at ho
  rw [ho, hp, List.flatMap_cons]
  rw [ho] at hn
  exact ⟨rfl, hn⟩

/-! ## The number of edges bounds the pushes -/

theorem size_cons (p : String) (cs : List String) (rest : List (String × List String)) :
    size ⟨(p, cs) :: rest⟩ = cs.length + size ⟨rest⟩ := by
  simp [size]

theorem flatMap_children_length_le_size {D : List String} (hD : D.Nodup) :
    (D.flatMap g.children).length ≤ g.size := by
  obtain ⟨l⟩ := g
  induction l generalizing D with
  | nil => simp [children, size]
  | cons e rest ih =>
    obtain ⟨p, cs⟩ := e
    -- the entry of `p` counts once at most, and the roles other than `p` read the rest
    have hfirst : (D.flatMap (children ⟨(p, cs) :: rest⟩)).length ≤
        cs.length + ((D.erase p).flatMap (children ⟨(p, cs) :: rest⟩)).length := by
      by_cases hp : p ∈ D
      · have hperm := (List.perm_cons_erase hp).flatMap_right (children ⟨(p, cs) :: rest⟩)
        have hcount : (D.flatMap (children ⟨(p, cs) :: rest⟩)).length =
            cs.length + ((D.erase p).flatMap (children ⟨(p, cs) :: rest⟩)).length := by
          rw [hperm.length_eq, List.flatMap_cons, List.length_append, children_cons, if_pos rfl]
        exact Nat.le_of_eq hcount
      · rw [List.erase_of_not_mem hp]
        omega
    have hrest : (D.erase p).flatMap (children ⟨(p, cs) :: rest⟩) =
        (D.erase p).flatMap (children ⟨rest⟩) := by
      refine List.flatMap_congr fun x hx => ?_
      rw [children_cons, if_neg ((hD.mem_erase_iff.1 hx).1)]
    have hle := ih (hD.erase p)
    rw [size_cons]
    rw [hrest] at hfirst
    omega

/-! ## Where the run from the start ends -/

theorem closure_ends (g : Edges) (root : String) :
    ∃ ps t, Turns g root (g.start root) ps t ∧ Ends root t (closure g root) := by
  obtain ⟨ps, t, r, hrun, hend⟩ := Turns.exists_end g root (g.start root)
  have hr : closure g root = r := by
    rw [closure_eq_run, ← hend.run_eq g]
    exact hrun.run_eq
  exact ⟨ps, t, hrun, hr ▸ hend⟩

/-- The closure loop from any role ends, and answers what `closure` returns. -/
theorem closure_loop_terminates (g : Edges) (root : String) :
    WellFounded (fun t s => ∃ ps, Turn g root s ps t) ∧
    (∀ ps t, Turns g root (g.start root) ps t →
      g.children root ++ ps = (root :: t.order).flatMap g.children ∧ (root :: t.order).Nodup ∧
        (g.children root ++ ps).length ≤ g.size) ∧
    (∃ ps t, Turns g root (g.start root) ps t ∧ Ends root t (closure g root)) ∧
    (¬TransGen g.Includes root root →
      ∃ p, closure g root = .ok p ∧ VisitOrder g.children root p ∧ (root :: p).Nodup) ∧
    (TransGen g.Includes root root → closure g root = .error (.cycle root)) := by
  refine ⟨turn_wellFounded g root, fun ps t h => ?_, closure_ends g root, fun hc => ?_,
    fun hc => ?_⟩
  · obtain ⟨hpushed, hnodup⟩ := h.pushed_from_start
    refine ⟨hpushed, hnodup, ?_⟩
    rw [hpushed]
    exact flatMap_children_length_le_size hnodup
  · obtain ⟨p, hp⟩ := exists_visitOrder g root
    exact ⟨p, (closure_eq_ok_iff hc p).2 hp, hp, hp.nodup⟩
  · obtain ⟨e, he⟩ := (closure_error_iff g root).2 hc
    rw [he, closure_error he]

end Warden.RoleHierarchy.Edges
