import Mathlib.Data.List.Forall2
import Warden.Config.Environment

/-!
# Expanding environment references

`Scan` reads a line into characters and leftmost references in one way only; the expansion
replaces the references outside comments and stops at the first unset variable.
-/

namespace Warden.Config

/-- A piece of a line: a character standing for itself, or a reference to a variable. -/
inductive Segment where
  | char (c : Char)
  | ref (name : List Char)
  deriving DecidableEq, Repr

namespace Segment

def text : Segment → List Char
  | char c => [c]
  | ref name => '$' :: '{' :: name ++ ['}']

end Segment

/-- A reference starts the text: `${`, a non-empty name without `}`, then `}`. -/
def StartsReference (cs : List Char) : Prop :=
  ∃ name rest, name ≠ [] ∧ '}' ∉ name ∧ cs = '$' :: '{' :: (name ++ '}' :: rest)

/-- `Scan line segs`: `segs` reads `line` from the left, taking a reference wherever one starts. -/
inductive Scan : List Char → List Segment → Prop
  | nil : Scan [] []
  | char {c : Char} {cs : List Char} {segs : List Segment} :
      ¬ StartsReference (c :: cs) → Scan cs segs → Scan (c :: cs) (.char c :: segs)
  | ref {name rest : List Char} {segs : List Segment} :
      name ≠ [] → '}' ∉ name → Scan rest segs →
        Scan ('$' :: '{' :: (name ++ '}' :: rest)) (.ref name :: segs)

/-- The names of the references outside the comment, in order. -/
def liveNames : Bool → List Segment → List (List Char)
  | _, [] => []
  | live, .char c :: segs => liveNames (live && c != '#') segs
  | live, .ref name :: segs =>
    (if live then [name] else []) ++ liveNames (live && !name.contains '#') segs

/-- The line with each reference outside the comment replaced by its variable's value. -/
def substitute (env : Environment) : Bool → List Segment → List Char
  | _, [] => []
  | live, .char c :: segs => c :: substitute env (live && c != '#') segs
  | live, .ref name :: segs =>
    (if live then ((env.lookup (String.ofList name)).getD "").toList else (Segment.ref name).text) ++
      substitute env (live && !name.contains '#') segs

/-- The expansion's result: the first unset name of `names` stops it, else `value`. -/
def outcome {α : Type} (env : Environment) (names : List (List Char)) (value : α) :
    Except ConfigError α :=
  match names.find? fun n => (env.lookup (String.ofList n)).isNone with
  | some n => .error (.missingVariable (String.ofList n))
  | none => .ok value

/-! ## The reading of a line -/

theorem split_first_close {cs : List Char} (h : '}' ∈ cs) :
    ∃ name rest, '}' ∉ name ∧ cs = name ++ '}' :: rest := by
  induction cs with
  | nil => cases h
  | cons c cs ih =>
    by_cases hc : c = '}'
    · exact ⟨[], cs, List.not_mem_nil, by rw [hc]; rfl⟩
    · obtain ⟨name, rest, hname, rfl⟩ := ih ((List.mem_cons.1 h).resolve_left (Ne.symm hc))
      refine ⟨c :: name, rest, ?_, rfl⟩
      simp [hc, hname, eq_comm]

theorem close_split_unique {n₁ n₂ r₁ r₂ : List Char} (h₁ : '}' ∉ n₁) (h₂ : '}' ∉ n₂)
    (h : n₁ ++ '}' :: r₁ = n₂ ++ '}' :: r₂) : n₁ = n₂ ∧ r₁ = r₂ := by
  induction n₁ generalizing n₂ with
  | nil =>
    cases n₂ with
    | nil => exact ⟨rfl, List.cons.inj h |>.2⟩
    | cons c n₂ => exact absurd (List.cons.inj h).1.symm (fun hc => h₂ (hc ▸ List.mem_cons_self))
  | cons c n₁ ih =>
    cases n₂ with
    | nil => exact absurd (List.cons.inj h).1 (fun hc => h₁ (hc ▸ List.mem_cons_self))
    | cons d n₂ =>
      rw [List.cons_append, List.cons_append] at h
      obtain ⟨rfl, htail⟩ := List.cons.inj h
      obtain ⟨rfl, rfl⟩ := ih (fun hm => h₁ (List.mem_cons_of_mem c hm))
        (fun hm => h₂ (List.mem_cons_of_mem c hm)) htail
      exact ⟨rfl, rfl⟩

theorem startsReference_ref {name rest : List Char} (hn : name ≠ []) (hc : '}' ∉ name) :
    StartsReference ('$' :: '{' :: (name ++ '}' :: rest)) :=
  ⟨name, rest, hn, hc, rfl⟩

-- By recursion on the length: a reference, when one starts, is read whole.
theorem Scan.exists (line : List Char) : ∃ segs, Scan line segs := by
  by_cases hs : StartsReference line
  · obtain ⟨name, rest, hn, hc, rfl⟩ := hs
    obtain ⟨segs, hsegs⟩ := Scan.exists rest
    exact ⟨_, Scan.ref hn hc hsegs⟩
  · cases line with
    | nil => exact ⟨[], Scan.nil⟩
    | cons c cs =>
      obtain ⟨segs, hsegs⟩ := Scan.exists cs
      exact ⟨_, Scan.char hs hsegs⟩
termination_by line.length
decreasing_by all_goals (subst_vars; simp only [List.length_cons, List.length_append]; omega)

theorem Scan.unique {line : List Char} {segs segs' : List Segment} (h : Scan line segs)
    (h' : Scan line segs') : segs' = segs := by
  induction h generalizing segs' with
  | nil => cases h'; rfl
  | @char c cs segs hns _ ih =>
    generalize hl : c :: cs = l at h'
    cases h' with
    | nil => cases hl
    | char _ h' =>
      obtain ⟨rfl, rfl⟩ := List.cons.inj hl
      rw [ih h']
    | ref hn hc _ => exact absurd (hl ▸ startsReference_ref hn hc) hns
  | @ref name rest segs hn hc _ ih =>
    generalize hl : '$' :: '{' :: (name ++ '}' :: rest) = l at h'
    cases h' with
    | nil => cases hl
    | char hns _ => exact absurd (hl ▸ startsReference_ref hn hc) hns
    | ref hn' hc' h' =>
      obtain ⟨rfl, rfl⟩ := close_split_unique hc hc' (List.cons.inj (List.cons.inj hl).2).2
      rw [ih h']

/-! ## The scanner, step by step -/

section Steps

variable (env : Environment) (k : Nat)

theorem expandChars_dead {pos : Nat} (h : k ≤ pos) (r : List Char) :
    expandChars env k pos none r = .ok r := by
  induction r generalizing pos with
  | nil => rfl
  | cons c cs ih =>
    by_cases ho : c = '$' ∧ ∃ rest, cs = '{' :: rest
    · obtain ⟨rfl, rest, rfl⟩ := ho
      rw [expandChars.eq_3, if_pos h]
    · rw [expandChars.eq_4 _ _ _ _ _ fun rest hc hr => ho ⟨hc, rest, hr⟩, ih (by omega)]
      rfl

theorem expandChars_name {name : List Char} (hc : '}' ∉ name) (pos : Nat) (acc r : List Char) :
    expandChars env k pos (some acc) (name ++ r) =
      expandChars env k (pos + name.length) (some (name.reverse ++ acc)) r := by
  induction name generalizing pos acc with
  | nil => rfl
  | cons c name ih =>
    have hc' : c ≠ '}' := fun h => hc (h ▸ List.mem_cons_self)
    rw [List.cons_append, expandChars.eq_7 _ _ _ _ _ _ (fun _ h => hc' h) hc',
      ih (fun h => hc (List.mem_cons_of_mem c h))]
    simp only [List.length_cons, List.reverse_cons, List.append_assoc, List.singleton_append]
    congr 1
    omega

theorem expandChars_unclosed {r : List Char} (hr : '}' ∉ r) (pos : Nat) (acc : List Char) :
    expandChars env k pos (some acc) r = .ok ('$' :: '{' :: acc.reverse ++ r) := by
  have := expandChars_name env k hr pos acc []
  rw [List.append_nil] at this
  rw [this, expandChars.eq_2]
  simp

theorem expandChars_plain {r : List Char} (hr : '}' ∉ r) (pos : Nat) :
    expandChars env k pos none r = .ok r := by
  induction r generalizing pos with
  | nil => rfl
  | cons c cs ih =>
    have hcs : '}' ∉ cs := fun h => hr (List.mem_cons_of_mem c h)
    by_cases ho : c = '$' ∧ ∃ rest, cs = '{' :: rest
    · obtain ⟨rfl, rest, rfl⟩ := ho
      rw [expandChars.eq_3]
      split
      · rfl
      · rw [expandChars_unclosed env k (fun h => hcs (List.mem_cons_of_mem '{' h))]
        rfl
    · rw [expandChars.eq_4 _ _ _ _ _ fun rest hc hr => ho ⟨hc, rest, hr⟩, ih hcs]
      rfl

theorem expandChars_open {rest : List Char} (hns : ¬ StartsReference ('$' :: '{' :: rest))
    {pos : Nat} (hlive : ¬ k ≤ pos) :
    expandChars env k pos none ('$' :: '{' :: rest) =
      ('$' :: ·) <$> expandChars env k (pos + 1) none ('{' :: rest) := by
  rw [expandChars.eq_3, if_neg hlive]
  by_cases hr : '}' ∈ rest
  · -- the first `}` closes an empty name
    obtain ⟨name, after, hname, rfl⟩ := split_first_close hr
    cases name with
    | cons c name => exact absurd ⟨c :: name, after, List.cons_ne_nil c name, hname, rfl⟩ hns
    | nil =>
      rw [List.nil_append, expandChars.eq_5, expandChars.eq_4 _ _ _ _ _ (by simp),
        expandChars.eq_4 _ _ _ _ _ (by simp)]
      cases expandChars env k (pos + 1 + 1 + 1) none after <;> rfl
  · rw [expandChars_unclosed env k hr, expandChars_plain env k (by simp [hr])]
    rfl

theorem expandChars_char {c : Char} {cs : List Char} (hns : ¬ StartsReference (c :: cs))
    {pos : Nat} (hlive : c = '$' → ¬ k ≤ pos) :
    expandChars env k pos none (c :: cs) = (c :: ·) <$> expandChars env k (pos + 1) none cs := by
  by_cases ho : c = '$' ∧ ∃ rest, cs = '{' :: rest
  · obtain ⟨rfl, rest, rfl⟩ := ho
    exact expandChars_open env k hns (hlive rfl)
  · exact expandChars.eq_4 _ _ _ _ _ fun rest hc hr => ho ⟨hc, rest, hr⟩

theorem expandChars_ref {name rest : List Char} (hn : name ≠ []) (hc : '}' ∉ name) {pos : Nat}
    (hlive : ¬ k ≤ pos) :
    expandChars env k pos none ('$' :: '{' :: (name ++ '}' :: rest)) =
      (env.lookup (String.ofList name)).elim (.error (.missingVariable (String.ofList name)))
        fun value => (value.toList ++ ·) <$> expandChars env k (pos + name.length + 3) none rest := by
  rw [expandChars.eq_3, if_neg hlive, expandChars_name env k hc, List.append_nil,
    expandChars.eq_6 _ _ _ _ _ (by simpa using hn), List.reverse_reverse]
  have hpos : pos + 2 + name.length + 1 = pos + name.length + 3 := by omega
  rewrite [hpos]
  cases env.lookup (String.ofList name) <;> rfl

end Steps

/-! ## What a line expands to -/

section Outcome

variable {α : Type} (env : Environment)

theorem outcome_map {β : Type} (f : α → β) (names : List (List Char)) (value : α) :
    f <$> outcome env names value = outcome env names (f value) := by
  unfold outcome
  split <;> rfl

theorem outcome_cons_set {name : List Char} {x : String}
    (h : env.lookup (String.ofList name) = some x) (names : List (List Char)) (value : α) :
    outcome env (name :: names) value = outcome env names value := by
  simp [outcome, h]

theorem outcome_cons_unset {name : List Char} (h : env.lookup (String.ofList name) = none)
    (names : List (List Char)) (value : α) :
    outcome env (name :: names) value = .error (.missingVariable (String.ofList name)) := by
  simp [outcome, h]

theorem outcome_cons_seq (names names' : List (List Char)) (value : α) (values : List α) :
    (do let v ← outcome env names value; let vs ← outcome env names' values; pure (v :: vs)) =
      outcome env (names ++ names') (value :: values) := by
  unfold outcome
  rw [List.find?_append]
  cases names.find? fun n => (env.lookup (String.ofList n)).isNone <;>
    cases names'.find? fun n => (env.lookup (String.ofList n)).isNone <;> rfl

theorem outcome_bind_pure {β : Type} (names : List (List Char)) (value : α) (f : α → β) :
    (outcome env names value >>= fun v => pure (f v)) = outcome env names (f value) := by
  unfold outcome
  split <;> rfl

end Outcome

theorem liveNames_false (segs : List Segment) : liveNames false segs = [] := by
  induction segs with
  | nil => rfl
  | cons seg segs ih => cases seg <;> simpa [liveNames] using ih

theorem substitute_false (env : Environment) {line : List Char} {segs : List Segment}
    (h : Scan line segs) : substitute env false segs = line := by
  induction h with
  | nil => rfl
  | char _ _ ih => simp [substitute, ih]
  | ref _ _ _ ih => simp [substitute, Segment.text, ih]

theorem idxOf_le_of_mem_start {line pre : List Char} (hpre : pre <+: line) (h : '#' ∈ pre) :
    line.idxOf '#' ≤ pre.length := by
  obtain ⟨r, rfl⟩ := hpre
  rw [List.idxOf_append, if_pos h]
  exact Nat.le_of_lt (List.idxOf_lt_length_of_mem h)

theorem length_lt_idxOf {pre rest : List Char} (h : '#' ∉ pre) :
    pre.length < (pre ++ '$' :: rest).idxOf '#' := by
  rw [List.idxOf_append, if_neg h, List.idxOf_cons]
  have : ('$' == '#') = false := by decide
  rw [this, cond_false]
  omega

-- By induction on the reading of the rest `r` of a line whose first part `pre` holds no `#`;
-- the comment's position is that of the whole line.
theorem expandChars_scan_live (env : Environment) {r : List Char} {segs : List Segment}
    (h : Scan r segs) (pre : List Char) (hpre : '#' ∉ pre) :
    expandChars env ((pre ++ r).idxOf '#') pre.length none r =
      outcome env (liveNames true segs) (substitute env true segs) := by
  induction h generalizing pre with
  | nil => rfl
  | @char c cs segs hns hs ih =>
    have hlive : c = '$' → ¬ (pre ++ c :: cs).idxOf '#' ≤ pre.length := by
      rintro rfl
      exact Nat.not_le.2 (length_lt_idxOf hpre)
    rw [expandChars_char env _ hns hlive]
    by_cases hhash : c = '#'
    · -- the comment starts here: the rest is kept as written
      subst hhash
      have hk : (pre ++ '#' :: cs).idxOf '#' ≤ pre.length + 1 := by
        have := @idxOf_le_of_mem_start (pre ++ '#' :: cs) (pre ++ ['#']) ⟨cs, by simp⟩
          (List.mem_append_right pre (List.mem_singleton_self '#'))
        simpa using this
      rw [expandChars_dead env _ hk]
      simp [liveNames, substitute, liveNames_false, substitute_false env hs]
      rfl
    · have hpre' : '#' ∉ pre ++ [c] := by simp [hpre, Ne.symm hhash]
      have := ih (pre ++ [c]) hpre'
      rw [List.append_assoc, List.singleton_append, List.length_append,
        List.length_singleton] at this
      rw [this, outcome_map]
      have hc : (c != '#') = true := bne_iff_ne.2 hhash
      simp [liveNames, substitute, hc]
  | @ref name rest segs hn hnc hs ih =>
    rw [expandChars_ref env _ hn hnc (Nat.not_le.2 (length_lt_idxOf hpre))]
    cases hv : env.lookup (String.ofList name) with
    | none => simp [liveNames, outcome_cons_unset env hv]
    | some v =>
      simp only [liveNames, substitute, if_true, Bool.true_and, List.singleton_append,
        outcome_cons_set env hv, hv, Option.elim_some, Option.getD_some]
      by_cases hhash : '#' ∈ name
      · -- the comment starts inside the name: the rest of the line is kept as written
        have hk : (pre ++ '$' :: '{' :: (name ++ '}' :: rest)).idxOf '#' ≤
            pre.length + name.length + 3 := by
          have := @idxOf_le_of_mem_start (pre ++ '$' :: '{' :: (name ++ '}' :: rest))
            (pre ++ '$' :: '{' :: name) ⟨'}' :: rest, by simp⟩ (by simp [hhash])
          simp at this
          omega
        rw [expandChars_dead env _ hk, List.contains_iff_mem.2 hhash, Bool.not_true,
          liveNames_false, substitute_false env hs]
        rfl
      · have hpre' : '#' ∉ pre ++ '$' :: '{' :: (name ++ ['}']) := by simp [hpre, hhash]
        have := ih (pre ++ '$' :: '{' :: (name ++ ['}'])) hpre'
        have hl : pre ++ '$' :: '{' :: (name ++ ['}']) ++ rest =
            pre ++ '$' :: '{' :: (name ++ '}' :: rest) := by simp
        have hlen : (pre ++ '$' :: '{' :: (name ++ ['}'])).length =
            pre.length + name.length + 3 := by simp; omega
        rw [hl, hlen] at this
        rw [this, outcome_map, Bool.eq_false_iff.2 fun h' => hhash (List.contains_iff_mem.1 h'),
          Bool.not_false]

/-- A line expands to its reading, each live reference replaced. -/
theorem expandLine_scan (env : Environment) {line : List Char} {segs : List Segment}
    (h : Scan line segs) :
    expandLine env line = outcome env (liveNames true segs) (substitute env true segs) :=
  expandChars_scan_live env h [] List.not_mem_nil

/-! ## Lines of a text -/

theorem mapM_expandLine (env : Environment) {lines : List (List Char)} {segs : List (List Segment)}
    (h : List.Forall₂ Scan lines segs) :
    lines.mapM (expandLine env) =
      outcome env (segs.flatMap (liveNames true)) (segs.map (substitute env true)) := by
  induction h with
  | nil => rfl
  | cons hl _ ih => rw [List.mapM_cons, expandLine_scan env hl, ih, outcome_cons_seq]; rfl

theorem intercalate_append_singleton {x : Char} {P : List (List Char)} (hP : P ≠ []) (l : List Char) :
    [x].intercalate (P ++ [l]) = [x].intercalate P ++ x :: l := by
  induction P with
  | nil => exact absurd rfl hP
  | cons a P ih =>
    cases P with
    | nil => simp
    | cons b P =>
      have := ih (List.cons_ne_nil b P)
      rw [List.cons_append] at this
      rw [List.cons_append, List.cons_append, List.intercalate_cons_cons, this,
        List.intercalate_cons_cons]
      simp

theorem not_mem_of_mem_splitOn {cs p : List Char} (hp : p ∈ cs.splitOn '\n') : '\n' ∉ p := by
  induction cs generalizing p with
  | nil =>
    rw [List.splitOn_nil, List.mem_singleton] at hp
    subst hp
    exact List.not_mem_nil
  | cons c cs ih =>
    rw [List.splitOn_cons_eq_if_modifyHead] at hp
    split at hp
    · rcases List.mem_cons.1 hp with rfl | hp
      · exact List.not_mem_nil
      · exact ih hp
    · next hc =>
      obtain ⟨q, qs, hq⟩ := List.exists_cons_of_ne_nil (List.splitOn_ne_nil '\n' cs)
      rw [hq, List.modifyHead_cons, List.mem_cons] at hp
      rcases hp with rfl | hp
      · intro hm
        rcases List.mem_cons.1 hm with h | h
        · exact hc (by rw [← h]; rfl)
        · exact ih (hq ▸ List.mem_cons_self) h
      · exact ih (hq ▸ List.mem_cons_of_mem q hp)

theorem getLast?_ne_of_mem_dropLast {L : List (List Char)}
    (h : ¬ ['\r', '\n'] <:+: ['\n'].intercalate L) : ∀ p ∈ L.dropLast, p.getLast? ≠ some '\r' := by
  induction L with
  | nil => intro p hp; cases hp
  | cons a L ih =>
    cases L with
    | nil => intro p hp; cases hp
    | cons b L =>
      rw [List.intercalate_cons_cons] at h
      intro p hp
      rw [List.dropLast_cons_cons, List.mem_cons] at hp
      rcases hp with rfl | hp
      · intro hr
        obtain ⟨a', rfl⟩ := List.getLast?_eq_some_iff.1 hr
        exact h ⟨a', ['\n'].intercalate (b :: L), by simp⟩
      · exact ih (fun hi => h (hi.trans (List.suffix_append _ _).isInfix)) p hp

/-- A text without CR before LF is its lines joined with LF. -/
theorem join_textLines {cs : List Char} (h : ¬ ['\r', '\n'] <:+: cs) :
    (if cs.getLast? = some '\n' then ['\n'].intercalate (textLines cs) ++ ['\n']
      else ['\n'].intercalate (textLines cs)) = cs := by
  have hcs : ['\n'].intercalate (cs.splitOn '\n') = cs := List.intercalate_splitOn '\n'
  have hlf : ∀ p ∈ cs.splitOn '\n', '\n' ∉ p := fun _ hp => not_mem_of_mem_splitOn hp
  obtain ⟨P, last, hpieces⟩ := List.eq_nil_or_concat (cs.splitOn '\n') |>.resolve_left
    (List.splitOn_ne_nil '\n' cs)
  rw [List.concat_eq_append] at hpieces
  unfold textLines
  rw [hpieces] at hcs hlf ⊢
  subst hcs
  -- no line but the last loses a carriage return
  have hdrop : P.map (fun l => if l.getLast? = some '\r' then l.dropLast else l) = P := by
    conv_rhs => rw [← List.map_id P]
    refine List.map_congr_left fun l hl => ?_
    have := getLast?_ne_of_mem_dropLast h l (by rwa [List.dropLast_concat])
    rw [if_neg this]
    rfl
  simp only [List.dropLast_concat, List.getLast?_concat, hdrop]
  cases last with
  | nil =>
    -- the text ends in a line feed, or is empty
    by_cases hP : P = []
    · subst hP
      rfl
    · rw [intercalate_append_singleton hP]
      simp
  | cons c l =>
    -- the last line is not empty and holds no line feed, so the text does not end in one
    have hend : (['\n'].intercalate (P ++ [c :: l])).getLast? ≠ some '\n' := by
      have hlast : (['\n'].intercalate (P ++ [c :: l])).getLast? = (c :: l).getLast? := by
        by_cases hP : P = []
        · subst hP
          simp
        · rw [intercalate_append_singleton hP, List.getLast?_append_of_ne_nil _ (List.cons_ne_nil '\n' _),
            List.getLast?_cons_cons]
      rw [hlast]
      intro hget
      exact hlf (c :: l) (by simp) (List.mem_of_getLast? hget)
    rw [if_neg hend]

theorem substitute_of_liveNames_eq_nil (env : Environment) {line : List Char} {segs : List Segment}
    (h : Scan line segs) {live : Bool} (hn : liveNames live segs = []) :
    substitute env live segs = line := by
  induction h generalizing live with
  | nil => rfl
  | char _ _ ih => simp only [substitute, ih hn]
  | ref _ _ hs ih =>
    cases live with
    | true => simp [liveNames] at hn
    | false =>
      simp only [liveNames_false] at hn
      simp [substitute, Segment.text, substitute_false env hs]

theorem map_substitute_of_liveNames_eq_nil (env : Environment) {lines : List (List Char)}
    {segs : List (List Segment)} (h : List.Forall₂ Scan lines segs)
    (hn : ∀ seg ∈ segs, liveNames true seg = []) : segs.map (substitute env true) = lines := by
  induction h with
  | nil => rfl
  | cons hseg _ ih =>
    rw [List.map_cons, substitute_of_liveNames_eq_nil env hseg (hn _ List.mem_cons_self),
      ih fun seg hseg' => hn seg (List.mem_cons_of_mem _ hseg')]

theorem Scan.forall₂_exists (lines : List (List Char)) : ∃ segs, List.Forall₂ Scan lines segs := by
  induction lines with
  | nil => exact ⟨[], List.Forall₂.nil⟩
  | cons line lines ih =>
    obtain ⟨seg, hseg⟩ := Scan.exists line
    obtain ⟨segs, hsegs⟩ := ih
    exact ⟨seg :: segs, List.Forall₂.cons hseg hsegs⟩

theorem Scan.forall₂_unique {lines : List (List Char)} {segs segs' : List (List Segment)}
    (h : List.Forall₂ Scan lines segs) (h' : List.Forall₂ Scan lines segs') : segs' = segs := by
  induction h generalizing segs' with
  | nil => cases h'; rfl
  | cons hseg _ ih =>
    cases h' with
    | cons hseg' hsegs' => rw [hseg.unique hseg', ih hsegs']

/-- The expansion of a text replaces each live reference by its value. -/
theorem expand_replaces_references (env : Environment) (s : String) :
    ∃ segs, List.Forall₂ Scan (textLines s.toList) segs ∧
      (∀ segs', List.Forall₂ Scan (textLines s.toList) segs' → segs' = segs) ∧
      expand env s = outcome env (segs.flatMap (liveNames true))
        (String.ofList (if s.toList.getLast? = some '\n'
          then ['\n'].intercalate (segs.map (substitute env true)) ++ ['\n']
          else ['\n'].intercalate (segs.map (substitute env true)))) ∧
      (¬ ['\r', '\n'] <:+: s.toList → segs.flatMap (liveNames true) = [] → expand env s = .ok s) := by
  obtain ⟨segs, hscan⟩ := Scan.forall₂_exists (textLines s.toList)
  have hexp : expand env s = outcome env (segs.flatMap (liveNames true))
      (String.ofList (if s.toList.getLast? = some '\n'
        then ['\n'].intercalate (segs.map (substitute env true)) ++ ['\n']
        else ['\n'].intercalate (segs.map (substitute env true)))) := by
    dsimp only [expand]
    rw [mapM_expandLine env hscan]
    exact outcome_bind_pure env _ _ _
  refine ⟨segs, hscan, fun _ h' => Scan.forall₂_unique hscan h', hexp, fun hcrlf hnames => ?_⟩
  -- with no live reference every line is kept, and the lines join back into the text
  have hlines : segs.map (substitute env true) = textLines s.toList :=
    map_substitute_of_liveNames_eq_nil env hscan (List.flatMap_eq_nil_iff.1 hnames)
  rw [hexp, hnames, hlines, join_textLines hcrlf, String.ofList_toList]
  rfl

end Warden.Config
