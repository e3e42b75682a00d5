import Warden.Text.Case

/-!
# Converted texts are stable

The case tables are `Closed`, checked once by evaluation, so a converted text converts to
itself.
-/

namespace Warden.Text

namespace CaseRun

def covers (r : CaseRun) (n : Nat) : Bool :=
  Nat.ble r.lo n && Nat.ble n r.hi && (n - r.lo) % r.step == 0

def points (r : CaseRun) : List Nat :=
  (List.range ((r.hi - r.lo) / r.step + 1)).map fun k => r.lo + k * r.step

def target (r : CaseRun) (n : Nat) : Nat := ((n : Int) + r.shift).toNat

def avoids (r r' : CaseRun) : Bool :=
  Nat.blt r'.hi (r.target r.lo) || Nat.blt (r.target r.hi) r'.lo ||
    r.points.all fun c => !r'.covers (r.target c)

def misses (r : CaseRun) (x : Nat) : Bool :=
  Nat.blt x (r.target r.lo) || Nat.blt (r.target r.hi) x || r.points.all fun c => r.target c != x

theorem covers_iff {r : CaseRun} {n : Nat} :
    r.covers n = true ↔ r.lo ≤ n ∧ n ≤ r.hi ∧ (n - r.lo) % r.step = 0 := by
  simp [covers, Nat.ble_eq, and_assoc]

theorem mem_points {r : CaseRun} {n : Nat} (h : r.covers n = true) : n ∈ r.points := by
  obtain ⟨hlo, hhi, hmod⟩ := covers_iff.1 h
  refine List.mem_map.2 ⟨(n - r.lo) / r.step, List.mem_range.2 ?_, ?_⟩
  · exact Nat.lt_succ_of_le (Nat.div_le_div_right (by omega))
  · have := Nat.div_add_mod (n - r.lo) r.step
    rw [hmod, Nat.add_zero, Nat.mul_comm] at this
    omega

theorem target_mono {r : CaseRun} {m n : Nat} (h : m ≤ n) : r.target m ≤ r.target n := by
  unfold target
  omega

theorem target_between {r : CaseRun} {n : Nat} (h : r.covers n = true) :
    r.target r.lo ≤ r.target n ∧ r.target n ≤ r.target r.hi := by
  obtain ⟨hlo, hhi, -⟩ := covers_iff.1 h
  exact ⟨target_mono hlo, target_mono hhi⟩

theorem covers_target_eq_false {r r' : CaseRun} {n : Nat} (ha : r.avoids r' = true)
    (h : r.covers n = true) : r'.covers (r.target n) = false := by
  obtain ⟨hlo, hhi⟩ := target_between h
  simp only [avoids, Bool.or_eq_true, Nat.blt_eq, List.all_eq_true, Bool.not_eq_true'] at ha
  rcases ha with (ha | ha) | ha
  · exact Bool.eq_false_iff.2 fun hc => by have := covers_iff.1 hc; omega
  · exact Bool.eq_false_iff.2 fun hc => by have := covers_iff.1 hc; omega
  · exact ha n (mem_points h)

theorem target_ne {r : CaseRun} {x n : Nat} (hm : r.misses x = true) (h : r.covers n = true) :
    r.target n ≠ x := by
  obtain ⟨hlo, hhi⟩ := target_between h
  simp only [misses, Bool.or_eq_true, Nat.blt_eq, List.all_eq_true, bne_iff_ne] at hm
  rcases hm with (hm | hm) | hm
  · omega
  · omega
  · exact hm n (mem_points h)

theorem image?_eq_some {c n : Nat} {runs : List CaseRun} (h : CaseRun.image? c runs = some n) :
    ∃ r ∈ runs, r.covers c = true ∧ n = r.target c := by
  induction runs with
  | nil => cases h
  | cons r rs ih =>
    unfold CaseRun.image? at h
    split at h
    · next hc =>
      exact ⟨r, List.mem_cons_self, covers_iff.2 hc, (Option.some.inj h).symm⟩
    · obtain ⟨r', hr', hc, rfl⟩ := ih h
      exact ⟨r', List.mem_cons_of_mem r hr', hc, rfl⟩

theorem image?_eq_none {c : Nat} {runs : List CaseRun} (h : ∀ r ∈ runs, r.covers c = false) :
    CaseRun.image? c runs = none := by
  induction runs with
  | nil => rfl
  | cons r rs ih =>
    have hc : ¬ (r.lo ≤ c ∧ c ≤ r.hi ∧ (c - r.lo) % r.step = 0) := fun hc =>
      Bool.false_ne_true ((h r List.mem_cons_self).symm.trans (covers_iff.2 hc))
    rw [CaseRun.image?, if_neg hc]
    exact ih fun r' hr' => h r' (List.mem_cons_of_mem r hr')

end CaseRun

def unmapped (runs : List CaseRun) (special : List (Nat × List Nat)) (m : Nat) : Bool :=
  special.all (·.1 != m) && runs.all (!·.covers m)

/-- Every target of a table is left alone by the tables, and nothing maps to nothing. -/
def Closed (runs : List CaseRun) (special : List (Nat × List Nat)) : Bool :=
  runs.all (fun r => (r.target r.hi < 0xD800 || 0xDFFF < r.target r.lo && r.target r.hi < 0x110000) &&
      runs.all r.avoids && special.all (r.misses ·.1)) &&
    special.all fun e => !e.2.isEmpty && e.2.all fun m => decide m.isValidChar && unmapped runs special m

section Tables

variable {runs : List CaseRun} {special : List (Nat × List Nat)}

theorem mapChar_of_unmapped {m : Nat} (hv : m.isValidChar) (hu : unmapped runs special m = true) :
    mapChar runs special (Char.ofNat m) = [Char.ofNat m] := by
  have hm : (Char.ofNat m).toNat = m := by
    rw [Char.ofNat, dif_pos hv]
    rfl
  simp only [unmapped, Bool.and_eq_true, List.all_eq_true, bne_iff_ne, Bool.not_eq_true'] at hu
  have hs : special.lookup m = none :=
    List.lookup_eq_none_iff.2 fun p hp => bne_iff_ne.2 (hu.1 p hp).symm
  rw [mapChar, hm, hs, CaseRun.image?_eq_none hu.2]

theorem target_unmapped (h : Closed runs special = true) {r : CaseRun} (hr : r ∈ runs) {c : Nat}
    (hc : r.covers c = true) :
    (r.target c).isValidChar ∧ unmapped runs special (r.target c) = true := by
  simp only [Closed, Bool.and_eq_true, List.all_eq_true] at h
  obtain ⟨⟨hvalid, havoid⟩, hmiss⟩ := h.1 r hr
  obtain ⟨hlo, hhi⟩ := CaseRun.target_between hc
  refine ⟨?_, ?_⟩
  · simp only [Bool.or_eq_true, Bool.and_eq_true, decide_eq_true_eq] at hvalid
    unfold Nat.isValidChar
    omega
  · simp only [unmapped, Bool.and_eq_true, List.all_eq_true, bne_iff_ne, Bool.not_eq_true']
    exact ⟨fun e he => (CaseRun.target_ne (hmiss e he) hc).symm,
      fun r' hr' => CaseRun.covers_target_eq_false (havoid r' hr') hc⟩

theorem output_unmapped (h : Closed runs special = true) {x : Nat} {out : List Nat}
    (he : (x, out) ∈ special) {m : Nat} (hm : m ∈ out) :
    m.isValidChar ∧ unmapped runs special m = true := by
  simp only [Closed, Bool.and_eq_true, List.all_eq_true, decide_eq_true_eq] at h
  exact (h.2 (x, out) he).2 m hm

theorem lookup_mem {c : Nat} {out : List Nat} (h : special.lookup c = some out) :
    (c, out) ∈ special := by
  obtain ⟨l₁, l₂, rfl, -⟩ := List.lookup_eq_some_iff.1 h
  simp

/-- Every character a closed table pair produces maps to itself. -/
theorem mapChar_fixed (h : Closed runs special = true) (c : Char) :
    ∀ d ∈ mapChar runs special c, mapChar runs special d = [d] := by
  intro d hd
  unfold mapChar at hd
  cases hs : special.lookup c.toNat with
  | some out =>
    rw [hs] at hd
    obtain ⟨m, hm, rfl⟩ := List.mem_map.1 hd
    obtain ⟨hv, hu⟩ := output_unmapped h (lookup_mem hs) hm
    exact mapChar_of_unmapped hv hu
  | none =>
    rw [hs] at hd
    cases hi : CaseRun.image? c.toNat runs with
    | some n =>
      rw [hi, List.mem_singleton] at hd
      subst hd
      obtain ⟨r, hr, hc, rfl⟩ := CaseRun.image?_eq_some hi
      obtain ⟨hv, hu⟩ := target_unmapped h hr hc
      exact mapChar_of_unmapped hv hu
    | none =>
      rw [hi, List.mem_singleton] at hd
      subst hd
      rw [mapChar, hs, hi]

theorem mapChar_ne_nil (h : Closed runs special = true) (c : Char) : mapChar runs special c ≠ [] := by
  unfold mapChar
  cases hs : special.lookup c.toNat with
  | some out =>
    simp only [Closed, Bool.and_eq_true, List.all_eq_true, Bool.not_eq_true',
      List.isEmpty_eq_false_iff] at h
    simpa using (h.2 (c.toNat, out) (lookup_mem hs)).1
  | none =>
    cases CaseRun.image? c.toNat runs <;> simp

end Tables

theorem upperTables_closed : Closed upperRuns upperSpecial = true := by decide +kernel

theorem lowerTables_closed : Closed lowerRuns lowerSpecial = true := by decide +kernel

theorem flatMap_fixed {f : Char → List Char} {cs : List Char} (h : ∀ d ∈ cs, f d = [d]) :
    cs.flatMap f = cs := by
  induction cs with
  | nil => rfl
  | cons d cs ih =>
    rw [List.flatMap_cons, h d List.mem_cons_self, ih fun e he => h e (List.mem_cons_of_mem d he)]
    rfl

/-! ## Upper case -/

theorem upperChar_fixed (c : Char) : ∀ d ∈ upperChar c, upperChar d = [d] :=
  mapChar_fixed upperTables_closed c

theorem upper_append (a b : String) : upper (a ++ b) = upper a ++ upper b := by
  apply String.toList_inj.1
  simp [upper, List.flatMap_append]

theorem upper_upper (s : String) : upper (upper s) = upper s := by
  apply String.toList_inj.1
  simp only [upper, String.toList_ofList]
  refine flatMap_fixed fun d hd => ?_
  obtain ⟨c, -, hc⟩ := List.mem_flatMap.1 hd
  exact upperChar_fixed c d hc

theorem upper_append_upper {p : String} (hp : upper p = p) (n : String) :
    upper (p ++ upper n) = p ++ upper n := by
  rw [upper_append, hp, upper_upper]

theorem upper_eq_empty_iff (s : String) : upper s = "" ↔ s = "" := by
  rw [← String.toList_eq_nil_iff, ← String.toList_eq_nil_iff, upper, String.toList_ofList,
    List.flatMap_eq_nil_iff]
  constructor
  · intro h
    cases hs : s.toList with
    | nil => rfl
    | cons c cs => exact absurd (h c (hs ▸ List.mem_cons_self)) (mapChar_ne_nil upperTables_closed c)
  · intro h c hc
    rw [h] at hc
    cases hc

/-! ## Lower case

No lowercased character is capital sigma, so a lowercased text lowercases character by character.
-/

theorem lowerChar_fixed (c : Char) : ∀ d ∈ lowerChar c, lowerChar d = [d] :=
  mapChar_fixed lowerTables_closed c

theorem lowerChar_sigmas : lowerChar 'Σ' = ['σ'] ∧ lowerChar 'σ' = ['σ'] ∧ lowerChar 'ς' = ['ς'] := by
  decide

theorem lowerFrom_eq_flatMap {xs : List Char} (h : 'Σ' ∉ xs) (before : List Char) :
    lowerFrom before xs = xs.flatMap lowerChar := by
  induction xs generalizing before with
  | nil => rfl
  | cons c xs ih =>
    have hc : c ≠ 'Σ' := fun hc => h (hc ▸ List.mem_cons_self)
    rw [lowerFrom, if_neg hc, ih (fun hx => h (List.mem_cons_of_mem c hx)), List.flatMap_cons]

/-- What lowercasing produces is left alone by lowercasing. -/
theorem fixed_of_mem_lowerFrom {before xs : List Char} {d : Char} (h : d ∈ lowerFrom before xs) :
    lowerChar d = [d] ∧ d ≠ 'Σ' := by
  induction xs generalizing before with
  | nil => cases h
  | cons c xs ih =>
    rw [lowerFrom, List.mem_append] at h
    rcases h with h | h
    · split at h
      · rw [List.mem_singleton] at h
        split at h <;> subst h
        · exact ⟨lowerChar_sigmas.2.2, by decide⟩
        · exact ⟨lowerChar_sigmas.2.1, by decide⟩
      · have hd := lowerChar_fixed c d h
        refine ⟨hd, fun hsig => ?_⟩
        rw [hsig, lowerChar_sigmas.1] at hd
        exact absurd hd (by decide)
    · exact ih h

theorem lower_lower (s : String) : lower (lower s) = lower s := by
  apply String.toList_inj.1
  simp only [lower, String.toList_ofList]
  rw [lowerFrom_eq_flatMap (fun h => (fixed_of_mem_lowerFrom h).2 rfl),
    flatMap_fixed fun d hd => (fixed_of_mem_lowerFrom hd).1]

theorem lower_append_lower {p : String} (hp : lower p = p) (n : String) :
    lower (p ++ lower n) = p ++ lower n := by
  have hp' : lowerFrom [] p.toList = p.toList := by
    simpa [lower] using congrArg String.toList hp
  -- neither part holds capital sigma, so the whole lowercases character by character
  have hpsig : 'Σ' ∉ p.toList := fun h => (fixed_of_mem_lowerFrom (hp'.symm ▸ h)).2 rfl
  have hnsig : 'Σ' ∉ lowerFrom [] n.toList := fun h => (fixed_of_mem_lowerFrom h).2 rfl
  apply String.toList_inj.1
  simp only [lower, String.toList_append, String.toList_ofList]
  rw [lowerFrom_eq_flatMap (by simp [hpsig, hnsig]), List.flatMap_append, ← lowerFrom_eq_flatMap hpsig [],
    hp', flatMap_fixed fun d hd => (fixed_of_mem_lowerFrom hd).1]

theorem lowerFrom_eq_nil_iff (before xs : List Char) : lowerFrom before xs = [] ↔ xs = [] := by
  cases xs with
  | nil => simp [lowerFrom]
  | cons c xs =>
    simp only [lowerFrom, List.append_eq_nil_iff, reduceCtorEq, iff_false, not_and]
    intro hhere
    split at hhere
    · cases hhere
    · exact absurd hhere (mapChar_ne_nil lowerTables_closed c)

theorem lower_eq_empty_iff (s : String) : lower s = "" ↔ s = "" := by
  rw [← String.toList_eq_nil_iff, ← String.toList_eq_nil_iff, lower, String.toList_ofList,
    lowerFrom_eq_nil_iff]

end Warden.Text
