import Warden.Text.Items

/-!
# Authority lists

An authority list keeps the first occurrence of each name, in order.
-/

namespace Warden

/-- Keeps the first occurrence of each element, in order, after the elements `seen`. -/
def dedupAfter {α : Type} [DecidableEq α] (seen : List α) : List α → List α
  | [] => []
  | a :: l => if a ∈ seen then dedupAfter seen l else a :: dedupAfter (a :: seen) l

/-- Keeps the first occurrence of each element, in order. -/
def dedup {α : Type} [DecidableEq α] (l : List α) : List α := dedupAfter [] l

namespace Authority

/-- An authority list built from names: repeats are dropped, first occurrences kept. -/
def list (names : List String) : List String := dedup names

def commaSeparated (s : String) : List String := dedup (Text.commaItems s)

end Authority

end Warden
