import Warden.Access.Metadata
import Warden.Proofs.Authority.Lists
import Mathlib.Data.List.Induction

/-!
# Tables of named objects

`Coherent` (the order holds each name of the map once) is kept by every insertion, and gives
what a sequence of insertions builds.
-/

namespace Warden.ObjectTable

/-- The order holds each name of the map exactly once, and no other name. -/
structure Coherent (t : ObjectTable) : Prop where
  nodup : t.order.Nodup
  mem_iff : ∀ o, o ∈ t.order ↔ (t.entries o).isSome

@[simp] theorem insert_entries (t : ObjectTable) (object : String) (xs : List String)
    (o : String) :
    (t.insert object xs).entries o = if o = object then some xs else t.entries o := rfl

theorem insertAll_append_singleton (t : ObjectTable) (ops : List (String × List String))
    (e : String × List String) : t.insertAll (ops ++ [e]) = (t.insertAll ops).insert e.1 e.2 := by
  simp only [insertAll, List.foldl_append, List.foldl_cons, List.foldl_nil]

theorem Coherent.insert_order {t : ObjectTable} (h : t.Coherent) (object : String)
    (xs : List String) :
    (t.insert object xs).order = if object ∈ t.order then t.order else t.order ++ [object] := by
  have hmem := h.mem_iff object
  by_cases ho : object ∈ t.order
  · have hsome : (t.entries object).isNone = false := by
      rw [Option.isNone_eq_false_iff]
      exact hmem.1 ho
    simp only [ObjectTable.insert, hsome, if_pos ho, Bool.false_eq_true, if_false]
  · have hnone : (t.entries object).isNone = true := by
      rw [Option.isNone_iff_eq_none, ← Option.not_isSome_iff_eq_none]
      exact mt hmem.2 ho
    simp only [ObjectTable.insert, hnone, if_neg ho, if_true]

theorem Coherent.empty : empty.Coherent :=
  ⟨List.nodup_nil, fun _ => by simp [ObjectTable.empty]⟩

/-- The step: an insertion keeps the order and the map in agreement. -/
theorem Coherent.insert {t : ObjectTable} (h : t.Coherent) (object : String)
    (xs : List String) : (t.insert object xs).Coherent := by
  constructor
  · rw [h.insert_order]
    by_cases ho : object ∈ t.order
    · rw [if_pos ho]
      exact h.nodup
    · rw [if_neg ho, List.nodup_append]
      refine ⟨h.nodup, by simp, fun a ha b hb hab => ?_⟩
      rw [List.mem_singleton.1 hb] at hab
      exact ho (hab ▸ ha)
  · intro o
    rw [h.insert_order, insert_entries]
    by_cases hoe : o = object
    · subst hoe
      by_cases ho : o ∈ t.order <;> simp [ho]
    · -- another name is in the order, and in the map, exactly as before
      by_cases ho : object ∈ t.order <;> simp [ho, hoe, h.mem_iff o]

/-- The run: insertions from a coherent table give a coherent one. -/
theorem Coherent.insertAll {t : ObjectTable} (h : t.Coherent) (ops : List (String × List String)) :
    (t.insertAll ops).Coherent := by
  induction ops using List.reverseRecOn with
  | nil => exact h
  | append_singleton ops e ih =>
    rw [insertAll_append_singleton]
    exact ih.insert e.1 e.2

/-! ## What a sequence of insertions builds -/

theorem entries_insertAll (ops : List (String × List String)) (o : String) :
    (empty.insertAll ops).entries o = ops.reverse.lookup o := by
  induction ops using List.reverseRecOn with
  | nil => rfl
  | append_singleton ops e ih =>
    obtain ⟨k, xs⟩ := e
    rw [insertAll_append_singleton, insert_entries, ih, List.reverse_append,
      List.reverse_singleton, List.singleton_append]
    by_cases hok : o = k
    · rw [if_pos hok, hok, List.lookup_cons_self]
    · rw [if_neg hok, List.lookup_cons, beq_false_of_ne hok]

theorem order_insertAll (ops : List (String × List String)) :
    (empty.insertAll ops).order = dedup (ops.map Prod.fst) := by
  induction ops using List.reverseRecOn with
  | nil => rfl
  | append_singleton ops e ih =>
    rw [insertAll_append_singleton, (Coherent.empty.insertAll ops).insert_order, ih,
      List.map_append, List.map_singleton, dedup_append_singleton]
    simp only [mem_dedup]

theorem allAttributes_eq (t : ObjectTable) :
    t.allAttributes = dedup (t.order.flatMap fun o => (t.attributes? o).getD []) := by
  rw [allAttributes]
  congr 1
  induction t.order with
  | nil => rfl
  | cons o rest ih =>
    rw [List.filterMap_cons, List.flatMap_cons, ← ih, attributes?]
    cases t.entries o <;> rfl

/-- What any sequence of insertions builds. -/
theorem insertions_describe_table (ops : List (String × List String)) :
    (empty.insertAll ops).order.Nodup ∧
    (∀ o, o ∈ (empty.insertAll ops).order ↔ ((empty.insertAll ops).entries o).isSome) ∧
    (empty.insertAll ops).order = dedup (ops.map Prod.fst) ∧
    (∀ o, (empty.insertAll ops).attributes? o = ops.reverse.lookup o) ∧
    (∀ o, (empty.insertAll ops).attributes? o = none ↔ o ∉ ops.map Prod.fst) ∧
    (empty.insertAll ops).allAttributes =
      dedup ((dedup (ops.map Prod.fst)).flatMap fun o => (ops.reverse.lookup o).getD []) ∧
    ∀ o ∈ (empty.insertAll ops).order, ∀ xs,
      ((empty.insertAll ops).insert o xs).order = (empty.insertAll ops).order ∧
      ((empty.insertAll ops).insert o xs).attributes? o = some xs := by
  have h := Coherent.empty.insertAll ops
  have hlast : ∀ o, (empty.insertAll ops).attributes? o = ops.reverse.lookup o :=
    entries_insertAll ops
  refine ⟨h.nodup, h.mem_iff, order_insertAll ops, hlast, fun o => ?_, ?_, fun o ho xs => ?_⟩
  · rw [hlast, List.lookup_eq_none_iff]
    simp only [List.mem_reverse, bne_iff_ne, ne_eq, List.mem_map, not_exists, not_and]
    exact ⟨fun h p hp hpo => h p hp hpo.symm, fun h p hp hop => h p hp hop.symm⟩
  · rw [allAttributes_eq, order_insertAll]
    simp only [hlast]
  · rw [h.insert_order, if_pos ho]
    exact ⟨rfl, by simp [attributes?]⟩

example :
    (empty.insertAll [("b", ["ROLE_B", "ROLE_SHARED"]), ("a", ["ROLE_SHARED", "ROLE_A"])]).allAttributes =
      ["ROLE_B", "ROLE_SHARED", "ROLE_A"] := by
  decide +kernel

end Warden.ObjectTable
