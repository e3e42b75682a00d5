import Warden.Authority.Mapper
import Warden.Proofs.Text.Converted
import Warden.Proofs.Authentication.Made

/-!
# Mapping names to authorities twice

The conversion comes before the prefix test, so mapping twice agrees with mapping once exactly
when the conversion leaves the prefix as it is.
-/

namespace Warden.Authority

theorem String.isPrefixOf_iff {p s : String} : p.isPrefixOf s = true ↔ p.toList <+: s.toList :=
  String.startsWith_string_iff

namespace Mapper

variable (m : Mapper)

theorem map_eq_ok (hone : ¬ (m.toUpper = true ∧ m.toLower = true))
    (hdef : m.defaultAuthority = none) (names : List String) :
    m.map names = .ok (dedup (names.map m.mapOne)) := by
  rw [map, if_neg hone, hdef]

theorem convert_cases : m.convert = Text.upper ∨ m.convert = Text.lower ∨ m.convert = id := by
  unfold convert
  cases m.toUpper <;> cases m.toLower <;> simp [funext_iff]

theorem convert_convert (s : String) : m.convert (m.convert s) = m.convert s := by
  rcases convert_cases m with h | h | h <;> rw [h]
  · exact Text.upper_upper s
  · exact Text.lower_lower s
  · rfl

theorem convert_append_convert {p : String} (hp : m.convert p = p) (s : String) :
    m.convert (p ++ m.convert s) = p ++ m.convert s := by
  rcases convert_cases m with h | h | h <;> rw [h] at hp ⊢
  · exact Text.upper_append_upper hp s
  · exact Text.lower_append_lower hp s
  · rfl

theorem convert_eq_empty_iff (s : String) : m.convert s = "" ↔ s = "" := by
  rcases convert_cases m with h | h | h <;> rw [h]
  · exact Text.upper_eq_empty_iff s
  · exact Text.lower_eq_empty_iff s
  · rfl

theorem prefix_mapOne (name : String) : m.rolePrefix.toList <+: (m.mapOne name).toList := by
  dsimp only [mapOne]
  split
  · rw [String.toList_append]
    exact List.prefix_append _ _
  · next h =>
    by_cases hp : m.rolePrefix = ""
    · rw [hp, String.toList_empty]
      exact List.nil_prefix
    · exact String.isPrefixOf_iff.1 (by simpa [hp] using h)

theorem mapOne_of_convert_eq {name : String} (hc : m.convert name = name)
    (hp : m.rolePrefix.toList <+: name.toList) : m.mapOne name = name := by
  have hpre : m.rolePrefix.isPrefixOf name = true := String.isPrefixOf_iff.2 hp
  simp [mapOne, hc, hpre]

theorem mapOne_mapOne (hp : m.convert m.rolePrefix = m.rolePrefix) (name : String) :
    m.mapOne (m.mapOne name) = m.mapOne name := by
  refine mapOne_of_convert_eq m ?_ (prefix_mapOne m name)
  dsimp only [mapOne]
  split
  · exact convert_append_convert m hp name
  · exact convert_convert m name

/-- Mapping the mapped names again gives them back. -/
theorem map_map (hone : ¬ (m.toUpper = true ∧ m.toLower = true)) (hdef : m.defaultAuthority = none)
    (hp : m.convert m.rolePrefix = m.rolePrefix) (names : List String) :
    (m.map names >>= m.map) = m.map names := by
  rw [map_eq_ok m hone hdef]
  show m.map (dedup (names.map m.mapOne)) = _
  rw [map_eq_ok m hone hdef]
  -- each mapped name maps to itself, and a list without repeats keeps all of it
  have hfix : ∀ o ∈ dedup (names.map m.mapOne), m.mapOne o = o := by
    intro o ho
    obtain ⟨n, -, rfl⟩ := List.mem_map.1 ((mem_dedup _ _).1 ho)
    exact mapOne_mapOne m hp n
  have hmap : (dedup (names.map m.mapOne)).map m.mapOne = dedup (names.map m.mapOne) := by
    conv_rhs => rw [← List.map_id (dedup (names.map m.mapOne))]
    exact List.map_congr_left hfix
  rw [hmap, dedup_eq_self (nodup_dedup _)]

theorem eq_empty_of_append_eq {p s : String} (h : p ++ s = p) : s = "" := by
  have := congrArg String.toList h
  rw [String.toList_append] at this
  exact String.toList_eq_nil_iff.1 (List.append_cancel_left (this.trans (List.append_nil _).symm))

theorem convert_prefix_of_map_map (hone : ¬ (m.toUpper = true ∧ m.toLower = true))
    (hdef : m.defaultAuthority = none) (h : ∀ names, (m.map names >>= m.map) = m.map names) :
    m.convert m.rolePrefix = m.rolePrefix := by
  have hc : m.convert "" = "" := (convert_eq_empty_iff m "").2 rfl
  by_cases hp : m.rolePrefix = ""
  · rw [hp]
    exact hc
  have hnot : m.rolePrefix.isPrefixOf "" = false := by
    refine Bool.eq_false_iff.2 fun hpre => hp ?_
    have := String.isPrefixOf_iff.1 hpre
    rw [String.toList_empty, List.prefix_nil] at this
    exact String.toList_eq_nil_iff.1 this
  have hempty : m.mapOne "" = m.rolePrefix := by
    simp [mapOne, hc, hp, hnot]
  have htwice := h [""]
  rw [map_eq_ok m hone hdef] at htwice
  change m.map (dedup [m.mapOne ""]) = _ at htwice
  rw [map_eq_ok m hone hdef, hempty] at htwice
  have hself : m.mapOne m.rolePrefix = m.rolePrefix := by
    simpa [dedup, dedupAfter, hempty] using htwice
  dsimp only [mapOne] at hself
  split at hself
  · exact absurd ((convert_eq_empty_iff m _).1 (eq_empty_of_append_eq hself)) hp
  · exact hself

theorem map_settles_iff (hone : ¬ (m.toUpper = true ∧ m.toLower = true))
    (hdef : m.defaultAuthority = none) :
    (∀ names, ∃ out, m.map names = .ok out ∧ FirstOccurrences (names.map m.mapOne) out ∧
        ∀ x ∈ out, m.rolePrefix.toList <+: x.toList) ∧
      ((∀ names, (m.map names >>= m.map) = m.map names) ↔
        m.convert m.rolePrefix = m.rolePrefix) := by
  refine ⟨fun names => ⟨_, map_eq_ok m hone hdef names, firstOccurrences_list _, fun x hx => ?_⟩,
    convert_prefix_of_map_map m hone hdef, map_map m hone hdef⟩
  obtain ⟨n, -, rfl⟩ := List.mem_map.1 ((mem_dedup _ _).1 hx)
  exact prefix_mapOne m n

/-- Upper casing settles after one mapping; lowercasing maps `ROLE_x` to `ROLE_role_x`. -/
theorem map_settles_upper_not_lower :
    let up : Mapper := { toUpper := true }
    let low : Mapper := { toLower := true }
    ¬ (up.toUpper = true ∧ up.toLower = true) ∧ up.defaultAuthority = none ∧
      up.convert up.rolePrefix = up.rolePrefix ∧
      (∀ names, (up.map names >>= up.map) = up.map names) ∧
    ¬ (low.toUpper = true ∧ low.toLower = true) ∧ low.defaultAuthority = none ∧
      low.convert low.rolePrefix ≠ low.rolePrefix ∧
      ¬ (∀ names, (low.map names >>= low.map) = low.map names) ∧
      low.map ["ROLE_x"] = .ok ["ROLE_role_x"] := by
  intro up low
  have hup : ¬ (up.toUpper = true ∧ up.toLower = true) := by decide
  have hlow : ¬ (low.toUpper = true ∧ low.toLower = true) := by decide
  have hp : up.convert up.rolePrefix = up.rolePrefix := by decide +kernel
  have hq : low.convert low.rolePrefix ≠ low.rolePrefix := by decide +kernel
  have hrole : low.mapOne "ROLE_x" = "ROLE_role_x" := by decide +kernel
  have hrun : low.map ["ROLE_x"] = .ok ["ROLE_role_x"] := by
    rw [map_eq_ok low hlow rfl]
    simp [hrole, dedup, dedupAfter]
  exact ⟨hup, rfl, hp, (map_settles_iff up hup rfl).2.2 hp, hlow, rfl, hq,
    fun h => hq ((map_settles_iff low hlow rfl).2.1 h), hrun⟩

end Mapper

end Warden.Authority
