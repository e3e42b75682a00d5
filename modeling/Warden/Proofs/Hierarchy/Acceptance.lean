import Mathlib.Data.List.Forall2
import Warden.Proofs.Hierarchy.Walk

/-!
# Which declarations make a hierarchy

A cycle is caught although each closure only looks for its own root, because every role on a
cycle is a declared parent.
-/

namespace Warden

open Relation

/-- The errors that report an invalid argument, a cycle included. -/
def Error.IsInvalidArgument : Error → Prop
  | .invalidArgument _ => True
  | .cycle _ => True
  | _ => False

namespace RoleHierarchy

/-- No role reaches itself along the declared edges. -/
def Acyclic (d : String) : Prop := ∀ a, ¬TransGen (Declares d) a a

/-! ## Closures over a list of roles -/

theorem mapM_ok_iff {α β ε : Type} (f : α → Except ε β) (l : List α) :
    (∃ ys, l.mapM f = .ok ys) ↔ ∀ x ∈ l, ∃ y, f x = .ok y := by
  induction l with
  | nil => simp [pure, Except.pure]
  | cons x l ih =>
    rw [List.mapM_cons, List.forall_mem_cons, ← ih]
    cases f x with
    | error e => simp [bind, Except.bind]
    | ok y => cases l.mapM f <;> simp [bind, Except.bind, pure, Except.pure]

theorem mapM_cons_ok {α β ε : Type} {f : α → Except ε β} {x : α} {l : List α} {ys : List β}
    (h : (x :: l).mapM f = .ok ys) :
    ∃ y ys', f x = .ok y ∧ l.mapM f = .ok ys' ∧ ys = y :: ys' := by
  rw [List.mapM_cons] at h
  cases hx : f x with
  | error e => simp [hx, bind, Except.bind] at h
  | ok y =>
    cases hl : l.mapM f with
    | error e => simp [hx, hl, bind, Except.bind] at h
    | ok ys' =>
      simp only [hx, hl, bind, Except.bind, pure, Except.pure, Except.ok.injEq] at h
      exact ⟨y, ys', rfl, rfl, h.symm⟩

theorem mapM_forall₂ {α β ε : Type} {f : α → Except ε β} {l : List α} {ys : List β}
    (h : l.mapM f = .ok ys) : List.Forall₂ (fun x y => f x = .ok y) l ys := by
  induction l generalizing ys with
  | nil =>
    cases h
    exact .nil
  | cons x l ih =>
    obtain ⟨y, ys', hx, hl, rfl⟩ := mapM_cons_ok h
    exact .cons hx (ih hl)

theorem mapM_error {α β ε : Type} {f : α → Except ε β} {l : List α} {e : ε}
    (h : l.mapM f = .error e) : ∃ x ∈ l, f x = .error e := by
  induction l with
  | nil => cases h
  | cons x l ih =>
    rw [List.mapM_cons] at h
    cases hx : f x with
    | error e' =>
      simp only [bind, Except.bind, hx, Except.error.injEq] at h
      exact ⟨x, List.mem_cons_self, h ▸ hx⟩
    | ok y =>
      cases hl : l.mapM f with
      | error e' =>
        simp only [bind, Except.bind, hx, hl, Except.error.injEq] at h
        obtain ⟨z, hz, hfz⟩ := ih (h ▸ hl)
        exact ⟨z, List.mem_cons_of_mem _ hz, hfz⟩
      | ok ys => simp [bind, Except.bind, hx, hl, pure, Except.pure] at h

theorem closures_ok_iff (g : Edges) (keys : List String) :
    (∃ reach, keys.mapM (fun r => return (r, ← closure g r)) = .ok reach) ↔
      ∀ r ∈ keys, ¬TransGen g.Includes r r := by
  rw [mapM_ok_iff]
  refine forall₂_congr fun r _ => ?_
  rw [← g.closure_error_iff r]
  cases closure g r <;> simp [bind, Except.bind, pure, Except.pure]

/-! ## The declared graph -/

theorem exists_includes_of_transGen {g : Edges} {a c : String} (h : TransGen g.Includes a c) :
    ∃ b, g.Includes a b := by
  induction h with
  | single hab => exact ⟨_, hab⟩
  | tail _ _ ih => exact ih

theorem acyclic_iff_parents {d : String} {g : Edges} (h : edgesOf d = .ok g) :
    Acyclic d ↔ ∀ r ∈ g.parents, ¬TransGen g.Includes r r := by
  have hg : g.Includes = Declares d := funext fun a => funext fun b =>
    propext (includes_iff_declares h a b)
  rw [hg]
  refine ⟨fun hac r _ => hac r, fun hpar a hc => ?_⟩
  -- a role that reaches itself has a child, so the closure of that parent fails
  rw [← hg] at hc
  obtain ⟨b, hab⟩ := exists_includes_of_transGen hc
  exact hpar a (Edges.mem_parents_of_includes hab) (hg ▸ hc)

theorem ofDeclaration_of_edgesOf {d : String} {g : Edges} (h : edgesOf d = .ok g) :
    ofDeclaration d = (do
      let reach ← g.parents.mapM fun r => return (r, ← closure g r)
      return .declared reach) := by
  rw [ofDeclaration, h]
  rfl

/-- The closures of the declared parents succeed exactly when the graph is acyclic. -/
theorem closures_ok_iff_acyclic {d : String} {g : Edges} (hg : edgesOf d = .ok g)
    (keys : List String) (hkeys : ∀ r, r ∈ keys ↔ r ∈ g.parents) :
    (∃ reach, keys.mapM (fun r => return (r, ← closure g r)) = .ok reach) ↔ Acyclic d := by
  rw [closures_ok_iff, acyclic_iff_parents hg]
  exact forall_congr' fun r => imp_congr_left (hkeys r)

theorem closures_error {g : Edges} {keys : List String} {e : Error}
    (h : keys.mapM (fun r => return (r, ← closure g r)) = .error e) : ∃ r, e = .cycle r := by
  obtain ⟨r, -, hr⟩ := mapM_error h
  cases hc : closure g r with
  | error e' =>
    simp only [hc, bind, Except.bind, Except.error.injEq] at hr
    exact ⟨r, hr ▸ Edges.closure_error hc⟩
  | ok o => simp [hc, bind, Except.bind, pure, Except.pure] at hr

/-! ## Which declarations are accepted -/

theorem ofDeclaration_accepts (d : String) :
    (∃ h, ofDeclaration d = .ok h) ↔ WellFormed d ∧ Acyclic d := by
  cases hd : edgesOf d with
  | error e =>
    have hbad := (edgesOf_error hd).1
    simp [ofDeclaration, hd, bind, Except.bind, hbad]
  | ok g =>
    have hwf := (edgesOf_ok_iff d).1 ⟨g, hd⟩
    rw [ofDeclaration_of_edgesOf hd, ← closures_ok_iff_acyclic hd g.parents fun _ => Iff.rfl]
    cases g.parents.mapM fun r => return (r, ← closure g r) <;>
      simp [bind, Except.bind, pure, Except.pure, hwf]

theorem ofDeclaration_error {d : String} {e : Error} (he : ofDeclaration d = .error e) :
    e.IsInvalidArgument := by
  cases hd : edgesOf d with
  | error e' =>
    rw [ofDeclaration, hd] at he
    cases he
    obtain ⟨m, rfl⟩ := (edgesOf_error hd).2
    trivial
  | ok g =>
    rw [ofDeclaration_of_edgesOf hd] at he
    cases hm : g.parents.mapM fun r => return (r, ← closure g r) with
    | error e' =>
      rw [hm] at he
      cases he
      obtain ⟨r, rfl⟩ := closures_error hm
      trivial
    | ok reach =>
      rw [hm] at he
      cases he

/-- A declaration makes a hierarchy exactly when it is well formed and acyclic. -/
theorem ofDeclaration_ok_iff (d : String) :
    ((∃ h, ofDeclaration d = .ok h) ↔ WellFormed d ∧ Acyclic d) ∧
    (∀ e, ofDeclaration d = .error e → e.IsInvalidArgument) ∧
    ∀ g, edgesOf d = .ok g → ∀ keys : List String, (∀ r, r ∈ keys ↔ r ∈ g.parents) →
      ((∃ reach, keys.mapM (fun r => return (r, ← closure g r)) = .ok reach) ↔ Acyclic d) :=
  ⟨ofDeclaration_accepts d, fun _ => ofDeclaration_error,
    fun _ hg keys hkeys => closures_ok_iff_acyclic hg keys hkeys⟩

end RoleHierarchy

end Warden
