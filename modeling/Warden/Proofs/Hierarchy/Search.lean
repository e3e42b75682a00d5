import Mathlib.Data.List.Nodup
import Mathlib.Logic.Relation
import Warden.Proofs.Hierarchy.Walk

/-!
# The closure walk is a recursive depth-first search

`Dfs` is the recursive search; on a root that reaches no cycle through itself the walk lists
the roles in the order of `VisitOrder`.
-/

namespace Warden.RoleHierarchy

open Relation

/-! ## The recursive search -/

/-- `b` is one of the roles that `next` lists after `a`. -/
def Successor (next : String → List String) (a b : String) : Prop := b ∈ next a

/-- The recursive depth-first search over the successor lists `next`. -/
inductive Dfs (next : String → List String) : List String → List String → List String → Prop
  | nil (seen : List String) : Dfs next [] seen seen
  | visited {r : String} {todo seen seen' : List String} :
      r ∈ seen → Dfs next todo seen seen' → Dfs next (r :: todo) seen seen'
  | descend {r : String} {todo seen mid seen' : List String} :
      r ∉ seen → Dfs next (next r) (seen ++ [r]) mid → Dfs next todo mid seen' →
      Dfs next (r :: todo) seen seen'

/-- The roles the recursive search from `a` visits, in order, `a` itself excluded. -/
def VisitOrder (next : String → List String) (a : String) (p : List String) : Prop :=
  Dfs next (next a) [a] (a :: p)

variable {next : String → List String}

namespace Dfs

theorem unique {todo seen s₁ s₂ : List String} (h₁ : Dfs next todo seen s₁)
    (h₂ : Dfs next todo seen s₂) : s₁ = s₂ := by
  induction h₁ generalizing s₂ with
  | nil => cases h₂; rfl
  | visited hr _ ih =>
    cases h₂ with
    | visited _ h₂ => exact ih h₂
    | descend hr' _ _ => exact absurd hr hr'
  | descend hr _ _ ih₁ ih₂ =>
    cases h₂ with
    | visited hr' _ => exact absurd hr' hr
    | descend _ below rest =>
      obtain rfl := ih₁ below
      exact ih₂ rest

theorem appends {todo seen seen' : List String} (h : Dfs next todo seen seen') : seen <+: seen' := by
  induction h with
  | nil => exact List.prefix_refl _
  | visited _ _ ih => exact ih
  | descend _ _ _ ih₁ ih₂ => exact ((List.prefix_append _ _).trans ih₁).trans ih₂

theorem nodup {todo seen seen' : List String} (h : Dfs next todo seen seen') (hs : seen.Nodup) :
    seen'.Nodup := by
  induction h with
  | nil => exact hs
  | visited _ _ ih => exact ih hs
  | descend hr _ _ ih₁ ih₂ =>
    refine ih₂ (ih₁ ?_)
    rw [List.nodup_append]
    refine ⟨hs, List.nodup_singleton _, fun x hx y hy => ?_⟩
    rw [List.mem_singleton] at hy
    subst hy
    exact fun e => hr (e ▸ hx)

theorem mem_sound {todo seen seen' : List String} (h : Dfs next todo seen seen') :
    ∀ x ∈ seen', x ∈ seen ∨ ∃ t ∈ todo, ReflTransGen (Successor next) t x := by
  induction h with
  | nil => exact fun x hx => .inl hx
  | visited _ _ ih =>
    intro x hx
    exact (ih x hx).imp_right fun ⟨t, ht, hp⟩ => ⟨t, List.mem_cons_of_mem _ ht, hp⟩
  | @descend r todo seen mid seen' _ _ _ ih₁ ih₂ =>
    intro x hx
    rcases ih₂ x hx with hmid | ⟨t, ht, hp⟩
    · rcases ih₁ x hmid with hs | ⟨t, ht, hp⟩
      · rcases List.mem_append.1 hs with hs | hs
        · exact .inl hs
        · rw [List.mem_singleton] at hs
          exact .inr ⟨r, List.mem_cons_self, hs ▸ ReflTransGen.refl⟩
      · -- below `r` through its successor `t`
        exact .inr ⟨r, List.mem_cons_self, ReflTransGen.head ht hp⟩
    · exact .inr ⟨t, List.mem_cons_of_mem _ ht, hp⟩

/-- What the search leaves closed. -/
theorem closed {todo seen seen' : List String} (h : Dfs next todo seen seen') :
    (∀ t ∈ todo, t ∈ seen') ∧ ∀ x ∈ seen', x ∉ seen → ∀ y ∈ next x, y ∈ seen' := by
  induction h with
  | nil => exact ⟨fun _ ht => (nomatch ht), fun _ hx hn => absurd hx hn⟩
  | @visited r todo seen seen' hr rest ih =>
    refine ⟨fun t ht => ?_, ih.2⟩
    rcases List.mem_cons.1 ht with rfl | ht
    · exact rest.appends.subset hr
    · exact ih.1 t ht
  | @descend r todo seen mid seen' hr below rest ih₁ ih₂ =>
    have hmid : ∀ x ∈ mid, x ∈ seen' := fun x hx => rest.appends.subset hx
    refine ⟨fun t ht => ?_, fun x hx hn y hy => ?_⟩
    · rcases List.mem_cons.1 ht with rfl | ht
      · exact hmid t (below.appends.subset (List.mem_append_right _ List.mem_cons_self))
      · exact ih₂.1 t ht
    · by_cases hxm : x ∈ mid
      · by_cases hxr : x = r
        · -- the successors of `r` are the roles the inner search was asked to visit
          subst hxr
          exact hmid y (ih₁.1 y hy)
        · have hxs : x ∉ seen ++ [r] := by simp [hn, hxr]
          exact hmid y (ih₁.2 x hxm hxs y hy)
      · exact ih₂.2 x hx hxm y hy

def unvisited (nodes seen : List String) : Nat := (nodes.filter (· ∉ seen)).length

theorem unvisited_le {nodes seen seen' : List String} (h : ∀ x ∈ seen, x ∈ seen') :
    unvisited nodes seen' ≤ unvisited nodes seen := by
  unfold unvisited
  induction nodes with
  | nil => exact Nat.le_refl _
  | cons x rest ih =>
    simp only [List.filter_cons, decide_not] at ih ⊢
    by_cases hx : x ∈ seen
    · simpa [hx, h x hx] using ih
    · by_cases hx' : x ∈ seen' <;> simp [hx, hx'] <;> omega

theorem unvisited_lt {nodes seen seen' : List String} (h : ∀ x ∈ seen, x ∈ seen') {c : String}
    (hc : c ∈ nodes) (hcs : c ∉ seen) (hcs' : c ∈ seen') :
    unvisited nodes seen' < unvisited nodes seen := by
  unfold unvisited
  induction nodes with
  | nil => cases hc
  | cons x rest ih =>
    have hle := @unvisited_le rest _ _ h
    unfold unvisited at hle
    simp only [List.filter_cons, decide_not] at ih hle ⊢
    rcases List.mem_cons.1 hc with rfl | hc
    · simp [hcs, hcs']
      omega
    · have hlt := ih hc
      by_cases hx : x ∈ seen
      · simpa [hx, h x hx] using hlt
      · by_cases hx' : x ∈ seen' <;> simp [hx, hx'] <;> omega

theorem exists_of_mem {nodes : List String} (hnodes : ∀ r, ∀ y ∈ next r, y ∈ nodes) :
    ∀ n todo seen, unvisited nodes seen < n → (∀ t ∈ todo, t ∈ nodes) →
      ∃ seen', Dfs next todo seen seen' := by
  intro n
  induction n with
  | zero => exact fun _ _ h => absurd h (Nat.not_lt_zero _)
  | succ n ih =>
    intro todo
    induction todo with
    | nil => exact fun seen _ _ => ⟨seen, .nil seen⟩
    | cons r todo ihtodo =>
      intro seen hn ht
      have htodo : ∀ t ∈ todo, t ∈ nodes := fun t h => ht t (List.mem_cons_of_mem _ h)
      by_cases hr : r ∈ seen
      · obtain ⟨s', h'⟩ := ihtodo seen hn htodo
        exact ⟨s', .visited hr h'⟩
      · -- visiting `r` lowers the number of unvisited roles
        have hsub : ∀ x ∈ seen, x ∈ seen ++ [r] := fun x hx => List.mem_append_left _ hx
        have hlt := unvisited_lt hsub (ht r List.mem_cons_self) hr (by simp)
        obtain ⟨mid, below⟩ := ih (next r) (seen ++ [r]) (by omega) (hnodes r)
        have hle := @unvisited_le nodes _ _ fun x hx => below.appends.subset hx
        obtain ⟨s', rest⟩ := ih todo mid (by omega) htodo
        exact ⟨s', .descend hr below rest⟩

end Dfs

namespace VisitOrder

theorem unique {a : String} {p q : List String} (hp : VisitOrder next a p)
    (hq : VisitOrder next a q) : p = q :=
  (List.cons.inj (Dfs.unique hp hq)).2

theorem nodup {a : String} {p : List String} (hp : VisitOrder next a p) : (a :: p).Nodup :=
  Dfs.nodup hp (List.nodup_singleton a)

/-- The search from `a` visits exactly the roles other than `a` that `a` reaches. -/
theorem mem_iff {a : String} {p : List String} (hp : VisitOrder next a p) (x : String) :
    x ∈ p ↔ TransGen (Successor next) a x ∧ x ≠ a := by
  have hna : a ∉ p := (List.nodup_cons.1 hp.nodup).1
  constructor
  · intro hx
    have hxa : x ≠ a := fun e => hna (e ▸ hx)
    rcases Dfs.mem_sound hp x (List.mem_cons_of_mem a hx) with hs | ⟨t, ht, hpath⟩
    · exact absurd (List.mem_singleton.1 hs) hxa
    · exact ⟨TransGen.head' ht hpath, hxa⟩
  · rintro ⟨hreach, hxa⟩
    obtain ⟨htodo, hclosed⟩ := Dfs.closed hp
    -- every role that `a` reaches is among the visited roles `a :: p`
    have hall : ∀ y, TransGen (Successor next) a y → y ∈ a :: p := by
      intro y hy
      induction hy with
      | single hab => exact htodo _ hab
      | @tail b c _ hbc ih =>
        by_cases hb : b = a
        · subst hb
          exact htodo c hbc
        · exact hclosed b ih (by simpa using hb) c hbc
    exact (List.mem_cons.1 (hall x hreach)).resolve_left hxa

end VisitOrder

namespace Edges

/-! ## The walk with enough fuel -/

theorem walk_fuel {g : Edges} {root : String} {n m : Nat} {stack order : List String}
    (hn : g.walkMeasure stack order < n) (hm : g.walkMeasure stack order < m) :
    walk g root n stack order = walk g root m stack order := by
  induction n generalizing m stack order with
  | zero => omega
  | succ n ih =>
    obtain ⟨m, rfl⟩ : ∃ k, m = k + 1 := ⟨m - 1, by omega⟩
    match stack with
    | [] => simp [walk]
    | next :: stack =>
      by_cases hroot : next = root
      · subst hroot
        rw [walk_root, walk_root]
      · by_cases hseen : next ∈ order
        · have hpop := g.walkMeasure_pop next stack order
          rw [walk_seen n stack order hroot hseen, walk_seen m stack order hroot hseen]
          exact ih (by omega) (by omega)
        · have hexp := g.walkMeasure_expand hseen stack
          rw [walk_new n stack order hroot hseen, walk_new m stack order hroot hseen]
          exact ih (by omega) (by omega)

/-- The walk given more steps than it can take. -/
def run (g : Edges) (root : String) (stack order : List String) : Except Error (List String) :=
  walk g root (g.walkMeasure stack order + 1) stack order

variable {g : Edges} {root : String}

theorem walk_eq_run {n : Nat} {stack order : List String} (h : g.walkMeasure stack order < n) :
    walk g root n stack order = g.run root stack order :=
  walk_fuel h (Nat.lt_succ_self _)

theorem run_nil (order : List String) : g.run root [] order = .ok order := by
  simp [run, walk]

theorem run_seen {next : String} (stack order : List String) (hroot : next ≠ root)
    (hseen : next ∈ order) : g.run root (next :: stack) order = g.run root stack order := by
  rw [run, walk_seen _ stack order hroot hseen]
  exact walk_eq_run (g.walkMeasure_pop next stack order)

theorem run_new {next : String} (stack order : List String) (hroot : next ≠ root)
    (hnew : next ∉ order) :
    g.run root (next :: stack) order = g.run root (g.children next ++ stack) (order ++ [next]) := by
  rw [run, walk_new _ stack order hroot hnew]
  exact walk_eq_run (g.walkMeasure_expand hnew stack)

theorem closure_eq_run (g : Edges) (root : String) :
    closure g root = g.run root (g.children root) [] := by
  have hstart := g.walkMeasure_start root
  exact walk_eq_run (by omega)

/-! ## The walk follows the search -/

theorem run_of_dfs (hc : ¬TransGen g.Includes root root) {todo seen seen' : List String}
    (h : Dfs g.children todo seen seen') :
    ∀ order, seen = root :: order → (∀ t ∈ todo, TransGen g.Includes root t) →
      ∃ order', seen' = root :: order' ∧
        ∀ rest, g.run root (todo ++ rest) order = g.run root rest order' := by
  induction h with
  | nil seen => exact fun order hs _ => ⟨order, hs, fun _ => rfl⟩
  | @visited r todo seen seen' hr _ ih =>
    intro order hs ht
    have hne : r ≠ root := fun e => hc (e ▸ ht r List.mem_cons_self)
    have hro : r ∈ order := by
      rw [hs] at hr
      exact (List.mem_cons.1 hr).resolve_left hne
    obtain ⟨o', hs', hrun⟩ := ih order hs fun t h => ht t (List.mem_cons_of_mem _ h)
    exact ⟨o', hs', fun rest => by rw [List.cons_append, run_seen _ _ hne hro, hrun]⟩
  | @descend r todo seen mid seen' hr _ _ ih₁ ih₂ =>
    intro order hs ht
    have hreach := ht r List.mem_cons_self
    have hne : r ≠ root := fun e => hc (e ▸ hreach)
    have hro : r ∉ order := fun h => hr (hs ▸ List.mem_cons_of_mem root h)
    -- the successors of `r` are one edge further from `root`
    obtain ⟨o₁, hmid, hrun₁⟩ := ih₁ (order ++ [r]) (by rw [hs]; rfl)
      fun t h => hreach.tail h
    obtain ⟨o₂, hs', hrun₂⟩ := ih₂ o₁ hmid fun t h => ht t (List.mem_cons_of_mem _ h)
    exact ⟨o₂, hs', fun rest => by
      rw [List.cons_append, run_new _ _ hne hro, hrun₁, hrun₂]⟩

theorem mem_flatMap_of_includes {a b : String} (h : g.Includes a b) : b ∈ g.toList.flatMap (·.2) := by
  unfold Includes children at h
  cases hl : g.toList.lookup a with
  | none => simp [hl] at h
  | some cs =>
    rw [hl, Option.getD_some] at h
    obtain ⟨l₁, l₂, hs, -⟩ := List.lookup_eq_some_iff.1 hl
    rw [List.mem_flatMap]
    exact ⟨(a, cs), by rw [hs]; simp, h⟩

theorem exists_visitOrder (g : Edges) (a : String) : ∃ p, VisitOrder g.children a p := by
  obtain ⟨s, hs⟩ := Dfs.exists_of_mem (fun r y h => @mem_flatMap_of_includes g r y h)
    (Dfs.unvisited (g.toList.flatMap (·.2)) [a] + 1) (g.children a) [a] (Nat.lt_succ_self _)
    fun t h => mem_flatMap_of_includes h
  obtain ⟨p, rfl⟩ := hs.appends
  exact ⟨p, hs⟩

/-- An acyclic closure is the order of the recursive search. -/
theorem closure_eq_ok_iff (hc : ¬TransGen g.Includes root root) (p : List String) :
    closure g root = .ok p ↔ VisitOrder g.children root p := by
  obtain ⟨q, hq⟩ := exists_visitOrder g root
  obtain ⟨o, ho, hrun⟩ := run_of_dfs hc hq [] rfl fun t h => .single h
  obtain rfl : q = o := (List.cons.inj ho).2
  have hclosure : closure g root = .ok q := by
    have h := hrun []
    rw [List.append_nil, run_nil] at h
    rw [closure_eq_run, h]
  rw [hclosure, Except.ok.injEq]
  exact ⟨fun e => e ▸ hq, fun hp => VisitOrder.unique hq hp⟩

end Edges

end Warden.RoleHierarchy
