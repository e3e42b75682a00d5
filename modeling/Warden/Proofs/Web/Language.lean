import Warden.Proofs.Web.Subtree

/-!
# The paths a pattern describes

`Describes` and `Covers` read a pattern's text from the left; its compiled pieces spell what it
describes, and the matcher accepts what its pieces spell.
-/

namespace Warden.Web

/-- Nothing, or `/` then a run without a line break. -/
def SubpathRun (u : List Char) : Prop := u = [] ∨ ∃ w, u = '/' :: w ∧ '\n' ∉ w

/-- `Describes body s`: the pattern text `body`, read from the left, describes the path `s`. -/
inductive Describes : List Char → List Char → Prop
  | nil : Describes [] []
  | directories {rest u v : List Char} (hu : SubpathRun u) (h : Describes ('/' :: rest) v) :
      Describes ('/' :: '*' :: '*' :: '/' :: rest) (u ++ v)
  | anyRun {rest w v : List Char} (hw : '\n' ∉ w) (h : Describes rest v) :
      Describes ('*' :: '*' :: rest) (w ++ v)
  | segment {rest w v : List Char} (hr : ¬ ['*'] <+: rest) (hw : '/' ∉ w)
      (h : Describes rest v) : Describes ('*' :: rest) (w ++ v)
  | one {rest v : List Char} {c : Char} (hc : c ≠ '/') (h : Describes rest v) :
      Describes ('?' :: rest) (c :: v)
  | literal {c : Char} {rest v : List Char} (hs : c ≠ '*') (hq : c ≠ '?')
      (hd : ¬ (c = '/' ∧ ['*', '*', '/'] <+: rest)) (h : Describes rest v) :
      Describes (c :: rest) (c :: v)

/-- `Covers p s`: the whole pattern `p` describes the path `s`. -/
inductive Covers : List Char → List Char → Prop
  | subtree {body u v : List Char} (h : Describes body u) (hv : SubpathRun v) :
      Covers (body ++ ['/', '*', '*']) (u ++ v)
  | plain {p s : List Char} (hp : ¬ ['/', '*', '*'] <:+ p) (h : Describes p s) : Covers p s

/-! ## What pieces spell -/

/-- The runs a piece stands for. -/
def Piece.Stands : Piece → List Char → Prop
  | .char c, u => u = [c]
  | .one, u => ∃ c, c ≠ '/' ∧ u = [c]
  | .segment, u => '/' ∉ u
  | .any, u => '\n' ∉ u
  | .subtree, u => SubpathRun u

/-- The paths a list of pieces spells: one run for each piece, one after another. -/
inductive Spells : List Piece → List Char → Prop
  | nil : Spells [] []
  | cons {p : Piece} {ps : List Piece} {u v : List Char} (hp : p.Stands u) (h : Spells ps v) :
      Spells (p :: ps) (u ++ v)

theorem spells_cons_iff {p : Piece} {ps : List Piece} {s : List Char} :
    Spells (p :: ps) s ↔ ∃ u v, s = u ++ v ∧ p.Stands u ∧ Spells ps v := by
  constructor
  · rintro (_ | ⟨hp, h⟩)
    exact ⟨_, _, rfl, hp, h⟩
  · rintro ⟨u, v, rfl, hp, h⟩
    exact .cons hp h

theorem spells_append_iff {ps qs : List Piece} {s : List Char} :
    Spells (ps ++ qs) s ↔ ∃ u v, s = u ++ v ∧ Spells ps u ∧ Spells qs v := by
  induction ps generalizing s with
  | nil =>
    constructor
    · intro h
      exact ⟨[], s, rfl, .nil, h⟩
    · rintro ⟨u, v, rfl, (_ | _), h⟩
      exact h
  | cons p ps ih =>
    rw [List.cons_append, spells_cons_iff]
    constructor
    · rintro ⟨u, w, rfl, hp, hw⟩
      obtain ⟨v₁, v₂, rfl, h₁, h₂⟩ := ih.1 hw
      exact ⟨u ++ v₁, v₂, (List.append_assoc _ _ _).symm, .cons hp h₁, h₂⟩
    · rintro ⟨u, v, rfl, hu, hv⟩
      obtain ⟨u₁, u₂, rfl, hp, h₁⟩ := spells_cons_iff.1 hu
      exact ⟨u₁, u₂ ++ v, List.append_assoc _ _ _, hp, ih.2 ⟨u₂, v, rfl, h₁, hv⟩⟩

theorem spells_subtree_iff {v : List Char} : Spells [.subtree] v ↔ SubpathRun v := by
  rw [spells_cons_iff]
  constructor
  · rintro ⟨u, w, rfl, hu, (_ | _)⟩
    rw [List.append_nil]
    exact hu
  · intro hv
    exact ⟨v, [], by simp, hv, .nil⟩

/-! ## The matcher accepts what its pieces spell -/

theorem matchPieces_star {p : Piece} {z : Char}
    (hnil : ∀ ps, matchPieces (p :: ps) [] = matchPieces ps [])
    (hcons : ∀ ps x xs, matchPieces (p :: ps) (x :: xs) =
      (matchPieces ps (x :: xs) || (x != z && matchPieces (p :: ps) xs)))
    (ps : List Piece) (s : List Char) :
    matchPieces (p :: ps) s = true ↔ ∃ u v, s = u ++ v ∧ z ∉ u ∧ matchPieces ps v = true := by
  induction s with
  | nil =>
    rw [hnil]
    constructor
    · intro h
      exact ⟨[], [], rfl, List.not_mem_nil, h⟩
    · rintro ⟨u, v, huv, -, h⟩
      obtain ⟨rfl, rfl⟩ := List.append_eq_nil_iff.1 huv.symm
      exact h
  | cons x xs ih =>
    rw [hcons, Bool.or_eq_true, Bool.and_eq_true, bne_iff_ne, ih]
    constructor
    · rintro (h | ⟨hx, u, v, rfl, hu, h⟩)
      · exact ⟨[], x :: xs, rfl, List.not_mem_nil, h⟩
      · refine ⟨x :: u, v, rfl, ?_, h⟩
        rw [List.mem_cons, not_or]
        exact ⟨Ne.symm hx, hu⟩
    · rintro ⟨u, v, huv, hu, h⟩
      cases u with
      | nil =>
        rw [List.nil_append] at huv
        exact .inl (huv ▸ h)
      | cons y u =>
        -- the run starts with the path's first character, which cannot be `z`
        rw [List.cons_append, List.cons.injEq] at huv
        obtain ⟨rfl, rfl⟩ := huv
        rw [List.mem_cons, not_or] at hu
        exact .inr ⟨Ne.symm hu.1, u, v, rfl, hu.2, h⟩

theorem matchPieces_segment_iff (ps : List Piece) (s : List Char) :
    matchPieces (.segment :: ps) s = true ↔
      ∃ u v, s = u ++ v ∧ '/' ∉ u ∧ matchPieces ps v = true :=
  matchPieces_star (fun _ => by simp [matchPieces]) (fun _ _ _ => by simp [matchPieces]) ps s

theorem matchPieces_anyRun_iff (ps : List Piece) (s : List Char) :
    matchPieces (.any :: ps) s = true ↔
      ∃ u v, s = u ++ v ∧ '\n' ∉ u ∧ matchPieces ps v = true :=
  matchPieces_star (fun _ => by simp [matchPieces]) (fun _ _ _ => by simp [matchPieces]) ps s

theorem matchPieces_cons_iff (p : Piece) (ps : List Piece) (s : List Char) :
    matchPieces (p :: ps) s = true ↔ ∃ u v, s = u ++ v ∧ p.Stands u ∧ matchPieces ps v = true := by
  cases p with
  | char c =>
    cases s with
    | nil => simp [matchPieces, Piece.Stands]
    | cons x xs =>
      simp only [matchPieces, Bool.and_eq_true, beq_iff_eq, Piece.Stands]
      constructor
      · rintro ⟨rfl, h⟩
        exact ⟨[x], xs, rfl, rfl, h⟩
      · rintro ⟨u, v, huv, rfl, h⟩
        rw [List.singleton_append, List.cons.injEq] at huv
        obtain ⟨rfl, rfl⟩ := huv
        exact ⟨rfl, h⟩
  | one =>
    cases s with
    | nil => simp [matchPieces, Piece.Stands]
    | cons x xs =>
      simp only [matchPieces, Bool.and_eq_true, bne_iff_ne, Piece.Stands]
      constructor
      · rintro ⟨hx, h⟩
        exact ⟨[x], xs, rfl, ⟨x, hx, rfl⟩, h⟩
      · rintro ⟨u, v, huv, ⟨c, hc, rfl⟩, h⟩
        rw [List.singleton_append, List.cons.injEq] at huv
        obtain ⟨rfl, rfl⟩ := huv
        exact ⟨hc, h⟩
  | segment => exact matchPieces_segment_iff ps s
  | any => exact matchPieces_anyRun_iff ps s
  | subtree =>
    cases s with
    | nil =>
      simp only [matchPieces, Piece.Stands, SubpathRun]
      constructor
      · intro h
        exact ⟨[], [], rfl, .inl rfl, h⟩
      · rintro ⟨u, v, huv, -, h⟩
        obtain ⟨rfl, rfl⟩ := List.append_eq_nil_iff.1 huv.symm
        exact h
    | cons x xs =>
      simp only [matchPieces, Bool.or_eq_true, Bool.and_eq_true, beq_iff_eq,
        matchPieces_anyRun_iff, Piece.Stands, SubpathRun]
      constructor
      · rintro (h | ⟨rfl, w, v, rfl, hw, h⟩)
        · exact ⟨[], x :: xs, rfl, .inl rfl, h⟩
        · exact ⟨'/' :: w, v, rfl, .inr ⟨w, rfl, hw⟩, h⟩
      · rintro ⟨u, v, huv, rfl | ⟨w, rfl, hw⟩, h⟩
        · exact .inl (huv ▸ h)
        · rw [List.cons_append, List.cons.injEq] at huv
          obtain ⟨rfl, rfl⟩ := huv
          exact .inr ⟨rfl, w, v, rfl, hw, h⟩

/-- The matcher accepts exactly the paths its pieces spell. -/
theorem matchPieces_iff_spells (ps : List Piece) (s : List Char) :
    matchPieces ps s = true ↔ Spells ps s := by
  induction ps generalizing s with
  | nil =>
    simp only [matchPieces, List.isEmpty_iff]
    constructor
    · rintro rfl
      exact .nil
    · rintro (_ | _)
      rfl
  | cons p ps ih =>
    rw [matchPieces_cons_iff, spells_cons_iff]
    simp only [ih]

/-! ## The pieces of a pattern spell what it describes -/

theorem piecesOf_segment {rest : List Char} (hr : ¬ ['*'] <+: rest) :
    piecesOf ('*' :: rest) = .segment :: piecesOf rest := by
  rw [piecesOf]
  rintro rest' rfl
  exact hr (List.prefix_append _ _)

theorem piecesOf_literal_cons {c : Char} {rest : List Char} (hs : c ≠ '*') (hq : c ≠ '?')
    (hd : ¬ (c = '/' ∧ ['*', '*', '/'] <+: rest)) : piecesOf (c :: rest) = .char c :: piecesOf rest := by
  rw [piecesOf]
  · rintro rest' hc rfl
    exact hd ⟨hc, List.prefix_append _ _⟩
  · rintro _ hc -
    exact hs hc
  · exact hs
  · exact hq

theorem describes_of_spells {body s : List Char} (h : Spells (piecesOf body) s) :
    Describes body s := by
  induction body using piecesOf.induct generalizing s with
  | case1 rest ih =>
    rw [piecesOf, spells_cons_iff] at h
    obtain ⟨u, v, rfl, hu, hv⟩ := h
    exact .directories hu (ih hv)
  | case2 rest ih =>
    rw [piecesOf, spells_cons_iff] at h
    obtain ⟨w, v, rfl, hw, hv⟩ := h
    exact .anyRun hw (ih hv)
  | case3 rest hr ih =>
    have hr' : ¬ ['*'] <+: rest := by
      rintro ⟨rest', hp⟩
      exact hr rest' hp.symm
    rw [piecesOf_segment hr', spells_cons_iff] at h
    obtain ⟨w, v, rfl, hw, hv⟩ := h
    exact .segment hr' hw (ih hv)
  | case4 rest ih =>
    rw [piecesOf, spells_cons_iff] at h
    obtain ⟨u, v, rfl, ⟨c, hc, rfl⟩, hv⟩ := h
    exact .one hc (ih hv)
  | case5 c rest hd _ hs hq ih =>
    have hd' : ¬ (c = '/' ∧ ['*', '*', '/'] <+: rest) := by
      rintro ⟨hc, rest', hp⟩
      exact hd rest' hc hp.symm
    rw [piecesOf_literal_cons hs hq hd', spells_cons_iff] at h
    obtain ⟨u, v, rfl, rfl, hv⟩ := h
    exact .literal hs hq hd' (ih hv)
  | case6 =>
    rw [piecesOf] at h
    rcases h with _ | _
    exact .nil

theorem spells_of_describes {body s : List Char} (h : Describes body s) :
    Spells (piecesOf body) s := by
  induction h with
  | nil =>
    rw [piecesOf]
    exact .nil
  | directories hu _ ih =>
    rw [piecesOf]
    exact .cons hu ih
  | anyRun hw _ ih =>
    rw [piecesOf]
    exact .cons hw ih
  | segment hr hw _ ih =>
    rw [piecesOf_segment hr]
    exact .cons hw ih
  | @one _ _ c hc _ ih =>
    rw [piecesOf]
    exact Spells.cons (show Piece.one.Stands [c] from ⟨c, hc, rfl⟩) ih
  | @literal c _ _ hs hq hd _ ih =>
    rw [piecesOf_literal_cons hs hq hd]
    exact Spells.cons (show (Piece.char c).Stands [c] from rfl) ih

theorem describes_iff_spells (body s : List Char) : Describes body s ↔ Spells (piecesOf body) s :=
  ⟨spells_of_describes, describes_of_spells⟩

theorem covers_subtree_iff {body s : List Char} :
    Covers (body ++ ['/', '*', '*']) s ↔ ∃ u v, s = u ++ v ∧ Describes body u ∧ SubpathRun v := by
  constructor
  · intro h
    generalize hq : body ++ ['/', '*', '*'] = p at h
    cases h with
    | subtree h hv =>
      obtain rfl := List.append_cancel_right hq.symm
      exact ⟨_, _, rfl, h, hv⟩
    | plain hp _ => exact absurd (hq ▸ List.suffix_append _ _) hp
  · rintro ⟨u, v, rfl, h, hv⟩
    exact .subtree h hv

/-- A whole pattern covers exactly what its compiled pieces spell. -/
theorem covers_iff_spells (p s : List Char) : Covers p s ↔ Spells (compile p) s := by
  by_cases hp : ['/', '*', '*'] <:+ p
  · -- the final `/**` is taken off and compiled to a subtree piece
    obtain ⟨body, rfl⟩ := hp
    rw [covers_subtree_iff, compile_subtree, spells_append_iff]
    constructor
    · rintro ⟨u, v, rfl, h, hv⟩
      exact ⟨_, _, rfl, spells_of_describes h, spells_subtree_iff.2 hv⟩
    · rintro ⟨u, v, rfl, hu, hv⟩
      exact ⟨_, _, rfl, describes_of_spells hu, spells_subtree_iff.1 hv⟩
  · have hc : compile p = piecesOf p := by
      rw [compile, if_neg (fun h => hp (List.isSuffixOf_iff_suffix.1 h))]
    rw [hc]
    constructor
    · rintro (⟨h, -⟩ | ⟨-, h⟩)
      · exact absurd (List.suffix_append _ _) hp
      · exact spells_of_describes h
    · intro h
      exact .plain hp (describes_of_spells h)

/-! ## Matchers -/

theorem Request.url_query (r : Request) (u q : String) (hu : '?' ∉ u.toList) :
    ({ r with path := u ++ "?" ++ q } : Request).url = ({ r with path := u } : Request).url := by
  have hpre : ∀ a ∈ u.toList, (decide (a ≠ '?')) = true := fun a ha =>
    decide_eq_true fun (h : a = '?') => hu (h ▸ ha)
  have hwith : (u ++ "?" ++ q).toList.takeWhile (· ≠ '?') = u.toList := by
    rw [String.toList_append, String.toList_append, List.append_assoc,
      List.takeWhile_append_of_pos hpre]
    simp
  have hwithout : u.toList.takeWhile (· ≠ '?') = u.toList := by
    simpa using @List.takeWhile_append_of_pos _ _ u.toList [] hpre
  simp only [Request.url, hwith, hwithout]

/-- A non-empty pattern's matcher picks exactly the requests with a covered URL and its method. -/
theorem antMatcher_covers (p : String) (hp : p ≠ "") (method : Option String) :
    ∃ m, AntMatcher.create p method = .ok m ∧ m.method = method.map Text.asciiUpper ∧
      ∀ r : Request,
        (m.picks r = true ↔
          (m.method = none ∨ m.method = some r.method) ∧ Covers p.toList r.url.toList) ∧
        ∀ u q, '?' ∉ u.toList →
          m.picks { r with path := u ++ "?" ++ q } = m.picks { r with path := u } := by
  refine ⟨_, AntMatcher.create_ok hp method, rfl, fun r => ⟨?_, fun u q hu => ?_⟩⟩
  · -- the method restriction and the pattern are checked one after the other
    rw [covers_iff_spells, ← matchPieces_iff_spells]
    cases method <;> simp [AntMatcher.picks]
  · simp only [AntMatcher.picks, Request.url_query r u q hu]

theorem antMatcher_covers_directories :
    "/foo/**/**/end" ≠ "" ∧
    ∃ m, AntMatcher.create "/foo/**/**/end" (some "post") = .ok m ∧
      m.method = (some "post").map Text.asciiUpper ∧
      ∀ r : Request,
        (m.picks r = true ↔
          (m.method = none ∨ m.method = some r.method) ∧
            Covers "/foo/**/**/end".toList r.url.toList) ∧
        ∀ u q, '?' ∉ u.toList →
          m.picks { r with path := u ++ "?" ++ q } = m.picks { r with path := u } :=
  ⟨by decide, antMatcher_covers "/foo/**/**/end" (by decide) (some "post")⟩

end Warden.Web
