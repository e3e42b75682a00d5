import Mathlib
import Warden.Proofs.Authority.Lists
import Warden.Proofs.Hierarchy.Acceptance
import Warden.Proofs.Hierarchy.Search

/-!
# What a declared hierarchy grants

`declaredChildren` states the children's order on the declaration's text; a hierarchy grants
the held authorities followed by the search orders from them.
-/

namespace Warden.RoleHierarchy

open Relation

/-! ## Children in order of declaration -/

/-- The roles that come right after `a` on a chain, in order. -/
def successorsOn (a : String) : List String → List String
  | x :: y :: rest => (if x = a then [y] else []) ++ successorsOn a (y :: rest)
  | _ => []

/-- The roles that `a` directly includes by the declaration, in order of declaration. -/
def declaredChildren (d a : String) : List String :=
  dedup ((declaredLines d).flatMap fun line => successorsOn a (rolesOn line))

theorem not_pair_infix_of_short {a b : String} {rs : List String}
    (h : ∀ x y rest, rs = x :: y :: rest → False) : ¬[a, b] <:+: rs := by
  intro hab
  have hlen := hab.length_le
  match rs, h with
  | [], _ => simp at hlen
  | [_], _ => simp at hlen
  | x :: y :: rest, h => exact h x y rest rfl

theorem mem_successorsOn (a b : String) (rs : List String) :
    b ∈ successorsOn a rs ↔ [a, b] <:+: rs := by
  fun_induction successorsOn a rs with
  | case1 x y rest ih =>
    rw [List.mem_append, ih, Edges.pair_infix_cons_cons]
    by_cases hx : x = a
    · simp [hx]
    · simp [hx, Ne.symm hx]
  | case2 rs hshort =>
    simp only [List.not_mem_nil, false_iff]
    exact not_pair_infix_of_short hshort

theorem successor_declaredChildren (d : String) : Successor (declaredChildren d) = Declares d := by
  funext a b
  simp [Successor, declaredChildren, mem_successorsOn, Declares]

namespace Edges

theorem children_link (g : Edges) (p c a : String) :
    (g.link p c).children a =
      if a = p then (if c ∈ g.children a then g.children a else g.children a ++ [c])
      else g.children a := by
  obtain ⟨l⟩ := g
  induction l with
  | nil =>
    simp only [link, linkIn]
    rw [children_cons]
    by_cases h : a = p <;> simp [h, children]
  | cons e rest ih =>
    obtain ⟨q, cs⟩ := e
    simp only [link] at ih ⊢
    by_cases hq : q = p
    · subst hq
      by_cases ha : a = q
      · subst ha
        simp [linkIn, children_cons]
      · simp [linkIn, children_cons, ha]
    · by_cases ha : a = q
      · subst ha
        simp [linkIn, children_cons, hq]
      · simp [linkIn, children_cons, hq, ha, ih]

theorem children_link_dedup {g : Edges} {p c a : String} {L : List String}
    (h : g.children a = dedup L) :
    (g.link p c).children a = dedup (L ++ if p = a then [c] else []) := by
  rw [children_link]
  by_cases ha : a = p
  · subst ha
    simp only [if_true, h, dedup_append_singleton, mem_dedup]
  · rw [if_neg ha, if_neg (Ne.symm ha), List.append_nil, h]

theorem children_linkChain (g : Edges) (rs : List String) (a : String) {L : List String}
    (h : g.children a = dedup L) :
    (g.linkChain rs).children a = dedup (L ++ successorsOn a rs) := by
  fun_induction linkChain g rs generalizing L with
  | case1 g x y rest ih =>
    rw [ih (children_link_dedup h), successorsOn, List.append_assoc]
  | case2 rs g hshort =>
    -- a chain of fewer than two roles adds no edge
    have hnil : successorsOn a rs = [] := by
      rcases rs with _ | ⟨x, _ | ⟨y, rest⟩⟩
      · rfl
      · rfl
      · exact absurd rfl (hshort x y rest)
    rw [hnil, List.append_nil]
    exact h

end Edges

theorem foldlM_linkLine_children {ls : List String} {g₀ g : Edges}
    (h : ls.foldlM linkLine g₀ = .ok g) (a : String) (L : List String)
    (h₀ : g₀.children a = dedup L) :
    g.children a = dedup (L ++ ls.flatMap fun line => successorsOn a (rolesOn line)) := by
  induction ls generalizing g₀ L with
  | nil =>
    cases h
    simpa using h₀
  | cons line ls ih =>
    rw [List.foldlM_cons] at h
    cases hl : linkLine g₀ line with
    | error e =>
      rw [hl] at h
      cases h
    | ok g₁ =>
      rw [hl] at h
      obtain ⟨-, rfl⟩ := (linkLine_ok_iff g₀ g₁ line).1 hl
      rw [ih h _ (Edges.children_linkChain g₀ _ a h₀), List.flatMap_cons, List.append_assoc]

theorem children_eq_declaredChildren {d : String} {g : Edges} (h : edgesOf d = .ok g) :
    g.children = declaredChildren d := by
  funext a
  rw [edgesOf_eq] at h
  simpa [declaredChildren] using foldlM_linkLine_children h a [] rfl

/-! ## The closures computed for an accepted declaration -/

theorem lookup_closures {g : Edges} {keys : List String} {reach : List (String × List String)}
    (h : keys.mapM (fun r => return (r, ← closure g r)) = .ok reach) (a : String) :
    (a ∈ keys → ∃ p, reach.lookup a = some p ∧ closure g a = .ok p) ∧
      (a ∉ keys → reach.lookup a = none) := by
  induction keys generalizing reach with
  | nil =>
    cases h
    exact ⟨fun ha => absurd ha List.not_mem_nil, fun _ => rfl⟩
  | cons r keys ih =>
    obtain ⟨e, reach', he, hrest, rfl⟩ := mapM_cons_ok h
    cases hc : closure g r with
    | error err => simp [hc, bind, Except.bind] at he
    | ok c =>
      simp only [hc, bind, Except.bind, pure, Except.pure, Except.ok.injEq] at he
      subst he
      by_cases ha : a = r
      · subst ha
        exact ⟨fun _ => ⟨c, by simp, hc⟩, fun hn => absurd List.mem_cons_self hn⟩
      · have hne : (a == r) = false := beq_false_of_ne ha
        simp only [List.lookup_cons, hne, List.mem_cons, ha, false_or]
        exact ih hrest

theorem children_eq_nil {g : Edges} {a : String} (h : a ∉ g.parents) : g.children a = [] := by
  rw [List.eq_nil_iff_forall_not_mem]
  exact fun b hb => h (Edges.mem_parents_of_includes hb)

/-- An accepted declaration lists, for each role, the search order from it. -/
theorem ofDeclaration_ok {d : String} {h : RoleHierarchy} (hd : ofDeclaration d = .ok h) :
    Acyclic d ∧ ∃ reach, h = .declared reach ∧
      ∀ a, VisitOrder (declaredChildren d) a ((reach.lookup a).getD []) := by
  have hac : Acyclic d := ((ofDeclaration_accepts d).1 ⟨h, hd⟩).2
  refine ⟨hac, ?_⟩
  cases he : edgesOf d with
  | error e =>
    rw [ofDeclaration, he] at hd
    cases hd
  | ok g =>
    have hrel : g.Includes = Declares d :=
      funext fun a => funext fun b => propext (includes_iff_declares he a b)
    rw [ofDeclaration_of_edgesOf he] at hd
    cases hm : g.parents.mapM (fun r => return (r, ← closure g r)) with
    | error e =>
      rw [hm] at hd
      cases hd
    | ok reach =>
      rw [hm] at hd
      cases hd
      refine ⟨reach, rfl, fun a => ?_⟩
      rw [← children_eq_declaredChildren he]
      by_cases ha : a ∈ g.parents
      · obtain ⟨p, hl, hp⟩ := (lookup_closures hm a).1 ha
        rw [hl, Option.getD_some]
        exact (Edges.closure_eq_ok_iff (fun hc => hac a (hrel ▸ hc)) p).1 hp
      · -- a role without declared children reaches nothing
        rw [(lookup_closures hm a).2 ha, Option.getD_none]
        unfold VisitOrder
        rw [children_eq_nil ha]
        exact .nil [a]

/-! ## What the hierarchy grants -/

section Declared

variable {d : String} {reach : List (String × List String)}

theorem mem_reachable_declared (hac : Acyclic d)
    (hv : ∀ a, VisitOrder (declaredChildren d) a ((reach.lookup a).getD []))
    (held : List String) (x : String) :
    x ∈ (RoleHierarchy.declared reach).reachable held ↔
      x ∈ held ∨ ∃ a ∈ held, TransGen (Declares d) a x := by
  simp only [reachable, mem_dedup, List.mem_append, List.mem_flatMap]
  refine or_congr Iff.rfl (exists_congr fun a => and_congr Iff.rfl ?_)
  rw [(hv a).mem_iff, successor_declaredChildren]
  -- no role reaches itself, so the search from `a` never meets `a` again
  refine ⟨And.left, fun hx => ⟨hx, fun e => ?_⟩⟩
  subst e
  exact hac x hx

theorem reachable_declared_eq (hv : ∀ a, VisitOrder (declaredChildren d) a ((reach.lookup a).getD []))
    {held : List String} {pres : List (List String)}
    (hp : List.Forall₂ (VisitOrder (declaredChildren d)) held pres) :
    (RoleHierarchy.declared reach).reachable held = dedup (held ++ pres.flatten) := by
  have hflat : held.flatMap (fun a => (reach.lookup a).getD []) = pres.flatten := by
    induction hp with
    | nil => rfl
    | @cons a p held pres hap _ ih =>
      rw [List.flatMap_cons, List.flatten_cons, ih, VisitOrder.unique (hv a) hap]
  simp only [reachable, hflat]

/-- Granting the grants again grants nothing more. -/
theorem reachable_declared_idem (hac : Acyclic d)
    (hv : ∀ a, VisitOrder (declaredChildren d) a ((reach.lookup a).getD [])) (held : List String) :
    (RoleHierarchy.declared reach).reachable ((RoleHierarchy.declared reach).reachable held) =
      (RoleHierarchy.declared reach).reachable held := by
  have hmem := mem_reachable_declared hac hv
  set R := (RoleHierarchy.declared reach).reachable held with hR
  have hclosed : ∀ x ∈ R.flatMap fun a => (reach.lookup a).getD [], x ∈ R := by
    intro x hx
    obtain ⟨r, hr, hrx⟩ := List.mem_flatMap.1 hx
    have hreach : TransGen (Declares d) r x := by
      rw [← successor_declaredChildren]
      exact (((hv r).mem_iff x).1 hrx).1
    rw [hmem] at hr ⊢
    rcases hr with hr | ⟨a, ha, har⟩
    · exact .inr ⟨r, hr, hreach⟩
    · exact .inr ⟨a, ha, har.trans hreach⟩
  change dedup (R ++ _) = R
  rw [dedup_append_of_subset hclosed, hR, reachable]
  exact dedup_eq_self (nodup_dedup _)

end Declared

/-- What a hierarchy read from the declaration `d` grants, role by role. -/
structure Expands (d : String) (h : RoleHierarchy) : Prop where
  visitOrder_exists : ∀ a, ∃ p, VisitOrder (declaredChildren d) a p
  visitOrder_unique : ∀ a p q, VisitOrder (declaredChildren d) a p →
    VisitOrder (declaredChildren d) a q → p = q
  reachable_eq : ∀ held pres, List.Forall₂ (VisitOrder (declaredChildren d)) held pres →
    h.reachable held = dedup (held ++ pres.flatten)
  nodup : ∀ held, (h.reachable held).Nodup
  held_first : ∀ held, dedup held <+: h.reachable held
  mem_iff : ∀ held x, x ∈ h.reachable held ↔ x ∈ held ∨ ∃ a ∈ held, TransGen (Declares d) a x
  idempotent : ∀ held, h.reachable (h.reachable held) = h.reachable held

/-- An accepted hierarchy grants the held roles, then the search orders from them. -/
theorem reachable_follows_search {d : String} {h : RoleHierarchy} (hd : ofDeclaration d = .ok h) :
    Expands d h := by
  obtain ⟨hac, reach, rfl, hv⟩ := ofDeclaration_ok hd
  exact
    { visitOrder_exists := fun a => ⟨_, hv a⟩
      visitOrder_unique := fun _ _ _ hp hq => VisitOrder.unique hp hq
      reachable_eq := fun _ _ hp => reachable_declared_eq hv hp
      nodup := fun _ => nodup_dedup _
      held_first := fun held => dedup_prefix_append held _
      mem_iff := mem_reachable_declared hac hv
      idempotent := reachable_declared_idem hac hv }

theorem reachable_follows_search_edge :
    ofDeclaration "A>B" = .ok (.declared [("A", ["B"])]) ∧
      Expands "A>B" (.declared [("A", ["B"])]) :=
  have hd : ofDeclaration "A>B" = .ok (.declared [("A", ["B"])]) := by cbv
  ⟨hd, reachable_follows_search hd⟩

end Warden.RoleHierarchy
