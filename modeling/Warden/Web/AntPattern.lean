/-!
# Ant path patterns

`?` stands for a character other than `/`, `*` for a run without `/`, `**` for a run without a
line break, `/**/` and a final `/**` for nothing or `/` and such a run; a pattern describes
whole paths.
-/

namespace Warden.Web

/-- One piece of a compiled pattern: a character, `?`, `*`, `**`, or a subtree. -/
inductive Piece where
  | char (c : Char)
  | one
  | segment
  | any
  | subtree
  deriving DecidableEq, Repr

/-- The pieces of a pattern body, read from the left. -/
def piecesOf : List Char → List Piece
  | '/' :: '*' :: '*' :: '/' :: rest => .subtree :: piecesOf ('/' :: rest)
  | '*' :: '*' :: rest => .any :: piecesOf rest
  | '*' :: rest => .segment :: piecesOf rest
  | '?' :: rest => .one :: piecesOf rest
  | c :: rest => .char c :: piecesOf rest
  | [] => []
termination_by cs => cs.length

/-- The pieces of a whole pattern: a final `/**` is a subtree. -/
def compile (pattern : List Char) : List Piece :=
  if ['/', '*', '*'].isSuffixOf pattern then
    piecesOf (pattern.take (pattern.length - 3)) ++ [.subtree]
  else piecesOf pattern

/-- Whether the pieces describe exactly the characters `cs`. -/
def matchPieces : List Piece → List Char → Bool
  | [], cs => cs.isEmpty
  | .char c :: ps, x :: xs => x == c && matchPieces ps xs
  | .char _ :: _, [] => false
  | .one :: ps, x :: xs => x != '/' && matchPieces ps xs
  | .one :: _, [] => false
  | .segment :: ps, [] => matchPieces ps []
  | .segment :: ps, x :: xs => matchPieces ps (x :: xs) || (x != '/' && matchPieces (.segment :: ps) xs)
  | .any :: ps, [] => matchPieces ps []
  | .any :: ps, x :: xs => matchPieces ps (x :: xs) || (x != '\n' && matchPieces (.any :: ps) xs)
  | .subtree :: ps, [] => matchPieces ps []
  | .subtree :: ps, x :: xs => matchPieces ps (x :: xs) || (x == '/' && matchPieces (.any :: ps) xs)
termination_by ps cs => (cs.length, ps.length)

def antMatches (pattern path : String) : Bool :=
  matchPieces (compile pattern.toList) path.toList

end Warden.Web
