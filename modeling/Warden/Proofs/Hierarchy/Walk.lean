import Warden.Proofs.Hierarchy.Declaration

/-!
# The depth-first walk finds exactly the cycles through its root

Every role on the stack is reachable from the root, and `WalkInv` keeps the children of listed
roles listed or on the stack; `walkMeasure` bounds the steps.
-/

namespace Warden.RoleHierarchy.Edges

open Relation

/-! ## The measure of a walk -/

/-- The children of the entries whose role is not in `order`: what the walk may still push. -/
def pendingIn (order : List String) : List (String × List String) → Nat
  | [] => 0
  | (p, cs) :: rest => (if p ∈ order then 0 else cs.length) + pendingIn order rest

/-- The roles on the stack and the children the walk may still push. -/
def walkMeasure (g : Edges) (stack order : List String) : Nat :=
  stack.length + pendingIn order g.toList

theorem pendingIn_nil (l : List (String × List String)) :
    pendingIn [] l = (l.flatMap (·.2)).length := by
  induction l with
  | nil => rfl
  | cons e rest ih =>
    obtain ⟨p, cs⟩ := e
    simp [pendingIn, ih]

theorem pendingIn_mono {order order' : List String} (h : ∀ x ∈ order, x ∈ order')
    (l : List (String × List String)) : pendingIn order' l ≤ pendingIn order l := by
  induction l with
  | nil => exact Nat.le_refl _
  | cons e rest ih =>
    obtain ⟨p, cs⟩ := e
    by_cases hp : p ∈ order
    · simp [pendingIn, hp, h p hp, ih]
    · simp only [pendingIn, hp, if_false]
      split <;> omega

theorem pendingIn_expand {order : List String} {next : String} (hnext : next ∉ order)
    (l : List (String × List String)) :
    pendingIn (order ++ [next]) l + (children ⟨l⟩ next).length ≤ pendingIn order l := by
  induction l with
  | nil => simp [pendingIn, children]
  | cons e rest ih =>
    obtain ⟨p, cs⟩ := e
    have hmono : pendingIn (order ++ [next]) rest ≤ pendingIn order rest :=
      pendingIn_mono (fun x hx => List.mem_append_left _ hx) rest
    rw [children_cons]
    by_cases hp : p = next
    · subst hp
      simp [pendingIn, hnext]
      omega
    · by_cases ho : p ∈ order
      · simp [pendingIn, ho, Ne.symm hp, ih]
      · simp [pendingIn, ho, hp, Ne.symm hp]
        omega

theorem children_length_le_size (g : Edges) (r : String) : (g.children r).length ≤ g.size := by
  obtain ⟨l⟩ := g
  induction l with
  | nil => simp [children, size]
  | cons e rest ih =>
    obtain ⟨p, cs⟩ := e
    simp only [size, children_cons, List.flatMap_cons, List.length_append] at ih ⊢
    split <;> omega

theorem walkMeasure_start (g : Edges) (root : String) :
    g.walkMeasure (g.children root) [] ≤ 2 * g.size := by
  have h := g.children_length_le_size root
  simp only [walkMeasure, pendingIn_nil, size] at h ⊢
  omega

theorem walkMeasure_pop (g : Edges) (next : String) (stack order : List String) :
    g.walkMeasure stack order < g.walkMeasure (next :: stack) order := by
  simp [walkMeasure]

theorem walkMeasure_expand (g : Edges) {next : String} {order : List String} (hnew : next ∉ order)
    (stack : List String) :
    g.walkMeasure (g.children next ++ stack) (order ++ [next]) <
      g.walkMeasure (next :: stack) order := by
  have h := pendingIn_expand hnew g.toList
  simp only [walkMeasure, List.length_cons, List.length_append]
  simp only [children] at h ⊢
  omega

/-! ## One step of the walk -/

theorem walk_root {g : Edges} {root : String} (n : Nat) (stack order : List String) :
    walk g root (n + 1) (root :: stack) order = .error (.cycle root) := by
  simp [walk]

theorem walk_seen {g : Edges} {root next : String} (n : Nat) (stack order : List String)
    (hroot : next ≠ root) (hseen : next ∈ order) :
    walk g root (n + 1) (next :: stack) order = walk g root n stack order := by
  simp [walk, hroot, hseen]

theorem walk_new {g : Edges} {root next : String} (n : Nat) (stack order : List String)
    (hroot : next ≠ root) (hnew : next ∉ order) :
    walk g root (n + 1) (next :: stack) order =
      walk g root n (g.children next ++ stack) (order ++ [next]) := by
  simp [walk, hroot, hnew]

/-! ## Meeting the root means a cycle -/

theorem walk_error {g : Edges} {root : String} {n : Nat} {stack order : List String} {e : Error}
    (hs : ∀ x ∈ stack, TransGen g.Includes root x) (h : walk g root n stack order = .error e) :
    e = .cycle root ∧ TransGen g.Includes root root := by
  induction n generalizing stack order with
  | zero => simp [walk] at h
  | succ n ih =>
    match stack, hs with
    | [], _ => simp [walk] at h
    | next :: stack, hs =>
      have hnext := hs next List.mem_cons_self
      have hrest : ∀ x ∈ stack, TransGen g.Includes root x :=
        fun x hx => hs x (List.mem_cons_of_mem _ hx)
      by_cases hroot : next = root
      · subst hroot
        rw [walk_root] at h
        cases h
        exact ⟨rfl, hnext⟩
      · by_cases hseen : next ∈ order
        · rw [walk_seen n stack order hroot hseen] at h
          exact ih hrest h
        · rw [walk_new n stack order hroot hseen] at h
          -- the children pushed are one edge further from `root`
          refine ih (fun x hx => ?_) h
          rcases List.mem_append.1 hx with hx | hx
          · exact hnext.tail hx
          · exact hrest x hx

/-! ## A cycle through the root is met -/

/-- The invariant of the walk from `root`. -/
structure WalkInv (g : Edges) (root : String) (stack order : List String) : Prop where
  root_not_mem : root ∉ order
  closed : ∀ x, (x = root ∨ x ∈ order) → ∀ y, g.Includes x y → y ∈ order ∨ y ∈ stack

theorem WalkInv.start (g : Edges) (root : String) : WalkInv g root (g.children root) [] where
  root_not_mem := List.not_mem_nil
  closed := by
    rintro x (rfl | hx) y hy
    · exact Or.inr hy
    · cases hx

theorem WalkInv.pop_seen {g : Edges} {root next : String} {stack order : List String}
    (h : WalkInv g root (next :: stack) order) (hseen : next ∈ order) :
    WalkInv g root stack order where
  root_not_mem := h.root_not_mem
  closed x hx y hy := by
    rcases h.closed x hx y hy with hy | hy
    · exact Or.inl hy
    · rcases List.mem_cons.1 hy with rfl | hy
      · exact Or.inl hseen
      · exact Or.inr hy

theorem WalkInv.pop_new {g : Edges} {root next : String} {stack order : List String}
    (h : WalkInv g root (next :: stack) order) (hroot : next ≠ root) :
    WalkInv g root (g.children next ++ stack) (order ++ [next]) where
  root_not_mem := by
    simp only [List.mem_append, List.mem_singleton, not_or]
    exact ⟨h.root_not_mem, Ne.symm hroot⟩
  closed x hx y hy := by
    simp only [List.mem_append, List.mem_singleton] at hx ⊢
    rw [← or_assoc] at hx
    rcases hx with hx | rfl
    · -- what was closed before stays closed: `next` moves from the stack to the list
      rcases h.closed x hx y hy with hy | hy
      · exact Or.inl (Or.inl hy)
      · rcases List.mem_cons.1 hy with rfl | hy
        · exact Or.inl (Or.inr rfl)
        · exact Or.inr (Or.inr hy)
    · exact Or.inr (Or.inl hy)

theorem WalkInv.reach_mem {g : Edges} {root : String} {order : List String}
    (h : WalkInv g root [] order) {y : String} (hy : TransGen g.Includes root y) : y ∈ order := by
  induction hy with
  | single hxy => simpa using h.closed root (Or.inl rfl) _ hxy
  | tail _ hxy ih => simpa using h.closed _ (Or.inr ih) _ hxy

/-- With enough fuel the walk meets `root` whenever `root` reaches itself. -/
theorem walk_finds_cycle {g : Edges} {root : String} {n : Nat} {stack order : List String}
    (hinv : WalkInv g root stack order) (hfuel : g.walkMeasure stack order < n)
    (hc : TransGen g.Includes root root) : walk g root n stack order = .error (.cycle root) := by
  induction n generalizing stack order with
  | zero => omega
  | succ n ih =>
    match stack, hinv, hfuel with
    | [], hinv, _ => exact absurd (hinv.reach_mem hc) hinv.root_not_mem
    | next :: stack, hinv, hfuel =>
      by_cases hroot : next = root
      · subst hroot
        exact walk_root n stack order
      · by_cases hseen : next ∈ order
        · rw [walk_seen n stack order hroot hseen]
          have hpop := g.walkMeasure_pop next stack order
          exact ih (hinv.pop_seen hseen) (by omega)
        · rw [walk_new n stack order hroot hseen]
          have hexp := g.walkMeasure_expand hseen stack
          exact ih (hinv.pop_new hroot) (by omega)

/-! ## The closure of a role -/

/-- The closure of `root` fails exactly when `root` reaches itself. -/
theorem closure_error_iff (g : Edges) (root : String) :
    (∃ e, closure g root = .error e) ↔ TransGen g.Includes root root := by
  constructor
  · rintro ⟨e, h⟩
    exact (walk_error (fun x hx => .single hx) h).2
  · intro hc
    have hstart := g.walkMeasure_start root
    exact ⟨_, walk_finds_cycle (WalkInv.start g root) (by omega) hc⟩

theorem closure_error {g : Edges} {root : String} {e : Error} (h : closure g root = .error e) :
    e = .cycle root :=
  (walk_error (fun _ hx => .single hx) h).1

end Warden.RoleHierarchy.Edges
