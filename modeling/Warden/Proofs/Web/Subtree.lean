import Warden.Web.Matcher

/-!
# Subtree patterns

`b/**` covers `b` and what lies below it, except the paths with a line break after `b/`.
-/

namespace Warden.Web

/-! ## Pieces of a literal pattern -/

theorem piecesOf_cons_char {c : Char} {rest : List Char} (hc : c ≠ '*') (hq : c ≠ '?')
    (hr : rest.head? ≠ some '*') : piecesOf (c :: rest) = .char c :: piecesOf rest := by
  rw [piecesOf]
  · rintro _ - rfl
    exact hr rfl
  · rintro _ h -
    exact hc h
  · exact hc
  · exact hq

theorem piecesOf_literal {cs : List Char} (hs : '*' ∉ cs) (hq : '?' ∉ cs) :
    piecesOf cs = cs.map .char := by
  induction cs with
  | nil => simp [piecesOf]
  | cons c rest ih =>
    simp only [List.mem_cons, not_or] at hs hq
    have hr : rest.head? ≠ some '*' := fun h => hs.2 (List.mem_of_head? h)
    rw [piecesOf_cons_char (Ne.symm hs.1) (Ne.symm hq.1) hr, ih hs.2 hq.2, List.map_cons]

theorem compile_subtree (b : List Char) :
    compile (b ++ ['/', '*', '*']) = piecesOf b ++ [.subtree] := by
  have h : ['/', '*', '*'].isSuffixOf (b ++ ['/', '*', '*']) = true :=
    List.isSuffixOf_iff_suffix.2 (List.suffix_append _ _)
  simp only [compile, h, if_true, List.length_append]
  simp

/-! ## Matching -/

theorem matchPieces_chars (cs : List Char) (ps : List Piece) (xs : List Char) :
    matchPieces (cs.map .char ++ ps) (cs ++ xs) = matchPieces ps xs := by
  induction cs with
  | nil => rfl
  | cons c cs ih => simp [matchPieces, ih]

theorem matchPieces_any (xs : List Char) : matchPieces [.any] xs = true ↔ '\n' ∉ xs := by
  induction xs with
  | nil => simp [matchPieces]
  | cons x xs ih =>
    simp only [matchPieces, List.isEmpty_cons, Bool.false_or, Bool.and_eq_true, bne_iff_ne, ne_eq,
      ih, List.mem_cons, not_or]
    exact ⟨And.imp_left Ne.symm, And.imp_left Ne.symm⟩

theorem matchPieces_subtree_nil : matchPieces [.subtree] [] = true := by simp [matchPieces]

theorem matchPieces_subtree_slash (xs : List Char) :
    matchPieces [.subtree] ('/' :: xs) = true ↔ '\n' ∉ xs := by
  simp [matchPieces, matchPieces_any]

/-! ## Matchers -/

namespace AntMatcher

theorem create_ok {p : String} (hp : p ≠ "") (method : Option String) :
    create p method =
      .ok { pattern := p, method := method.map Text.asciiUpper, pieces := compile p.toList } := by
  simp [create, hp]

theorem picks_of_method_none {m : AntMatcher} (hm : m.method = none) (r : Request) :
    m.picks r = matchPieces m.pieces r.url.toList := by
  simp [picks, hm]

/-- The matcher of `b/**`, for a literal `b`, covers `b` and `b/s` for `s` without a line break. -/
theorem subtree_picks (b : String) (hs : '*' ∉ b.toList) (hq : '?' ∉ b.toList) :
    ∃ m, create (b ++ "/**") none = .ok m ∧ ∀ r : Request,
      (r.url = b → m.picks r = true) ∧
      ∀ s, r.url = b ++ "/" ++ s → (m.picks r = true ↔ '\n' ∉ s.toList) := by
  have hlist : (b ++ "/**").toList = b.toList ++ ['/', '*', '*'] := by
    rw [String.toList_append]
    rfl
  have hne : b ++ "/**" ≠ "" := by
    intro h
    have := congrArg String.toList h
    simp [hlist] at this
  refine ⟨_, create_ok hne none, fun r => ⟨fun hr => ?_, fun s hr => ?_⟩⟩
  · have hpieces := matchPieces_chars b.toList [.subtree] []
    rw [picks_of_method_none rfl, hlist, compile_subtree, piecesOf_literal hs hq, hr]
    simpa [matchPieces_subtree_nil] using hpieces
  · have hurl : r.url.toList = b.toList ++ '/' :: s.toList := by
      rw [hr, String.toList_append, String.toList_append, List.append_assoc]
      rfl
    rw [picks_of_method_none rfl, hlist, compile_subtree, piecesOf_literal hs hq, hurl,
      matchPieces_chars, matchPieces_subtree_slash]

theorem catchAll_picks : ∃ m, create "/**" none = .ok m ∧ ∀ r : Request, (∃ s, r.url = "/" ++ s) →
    (m.picks r = true ↔ '\n' ∉ r.url.toList) := by
  obtain ⟨m, hm, hpicks⟩ := subtree_picks "" (by simp) (by simp)
  refine ⟨m, hm, fun r ⟨s, hr⟩ => ?_⟩
  have hurl : r.url.toList = '/' :: s.toList := by
    rw [hr, String.toList_append]
    rfl
  rw [(hpicks r).2 s (by rw [hr]; rfl), hurl, List.mem_cons, not_or]
  exact ⟨fun h => ⟨by decide, h⟩, fun h => h.2⟩

end AntMatcher

namespace RequestTable

theorem attributes?_append_isSome (rules : List (Matcher × List String))
    (last : Matcher × List String) (r : Request) :
    ((RequestTable.mk (rules ++ [last])).attributes? r).isSome ↔
      (∃ rule ∈ rules, rule.1.picks r = true) ∨ last.1.picks r = true := by
  simp [attributes?, List.find?_append, List.find?_isSome]

end RequestTable

/-- A pattern `b/**` covers `b` and the paths `b/s` without a line break. -/
theorem subtree_patterns_cover (b : String) (hs : '*' ∉ b.toList) (hq : '?' ∉ b.toList) :
    (∃ m, AntMatcher.create (b ++ "/**") none = .ok m ∧ ∀ r : Request,
      (r.url = b → m.picks r = true) ∧
      ∀ s, r.url = b ++ "/" ++ s → (m.picks r = true ↔ '\n' ∉ s.toList)) ∧
    ∃ m, AntMatcher.create "/**" none = .ok m ∧ ∀ r : Request, (∃ s, r.url = "/" ++ s) →
      (m.picks r = true ↔ '\n' ∉ r.url.toList) ∧
      ∀ rules attributes,
        ((RequestTable.mk (rules ++ [(.ant m, attributes)])).attributes? r).isSome ↔
          (∃ rule ∈ rules, rule.1.picks r = true) ∨ '\n' ∉ r.url.toList := by
  refine ⟨AntMatcher.subtree_picks b hs hq, ?_⟩
  obtain ⟨m, hm, hpicks⟩ := AntMatcher.catchAll_picks
  refine ⟨m, hm, fun r hr => ⟨hpicks r hr, fun rules attributes => ?_⟩⟩
  rw [RequestTable.attributes?_append_isSome]
  exact or_congr Iff.rfl (hpicks r hr)

theorem subtree_patterns_cover_admin :
    ('*' ∉ "/admin".toList ∧ '?' ∉ "/admin".toList) ∧
    (∃ m, AntMatcher.create ("/admin" ++ "/**") none = .ok m ∧ ∀ r : Request,
      (r.url = "/admin" → m.picks r = true) ∧
      ∀ s, r.url = "/admin" ++ "/" ++ s → (m.picks r = true ↔ '\n' ∉ s.toList)) ∧
    ∃ m, AntMatcher.create "/**" none = .ok m ∧ ∀ r : Request, (∃ s, r.url = "/" ++ s) →
      (m.picks r = true ↔ '\n' ∉ r.url.toList) ∧
      ∀ rules attributes,
        ((RequestTable.mk (rules ++ [(.ant m, attributes)])).attributes? r).isSome ↔
          (∃ rule ∈ rules, rule.1.picks r = true) ∨ '\n' ∉ r.url.toList :=
  ⟨⟨by decide, by decide⟩, subtree_patterns_cover "/admin" (by decide) (by decide)⟩

end Warden.Web
