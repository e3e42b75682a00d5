import Warden.Text.Blank

/-! # Comma-separated items -/

namespace Warden.Text

/-- The trimmed, non-empty pieces of a text cut at its commas, in order. -/
def commaItems (s : String) : List String :=
  ((s.splitOn ",").map trim).filter (· ≠ "")

end Warden.Text
