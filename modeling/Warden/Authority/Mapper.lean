import Warden.Authority.Basic
import Warden.Error
import Warden.Text.Case

/-!
# Authority mapping

Names from outside are case-converted, prefixed unless they already carry the prefix, freed of
repeats, and completed with a default authority.
-/

namespace Warden.Authority

/-- The settings of an authority mapper. -/
structure Mapper where
  rolePrefix : String := "ROLE_"
  toUpper : Bool := false
  toLower : Bool := false
  defaultAuthority : Option String := none

namespace Mapper

/-- A name in the case the mapper converts to; upper case wins when both are asked for. -/
def convert (m : Mapper) (name : String) : String :=
  if m.toUpper then Text.upper name else if m.toLower then Text.lower name else name

/-- The authority a name maps to: converted, then prefixed unless it already starts so. -/
def mapOne (m : Mapper) (name : String) : String :=
  let converted := m.convert name
  if m.rolePrefix ≠ "" ∧ ¬ m.rolePrefix.isPrefixOf converted then m.rolePrefix ++ converted
  else converted

def map (m : Mapper) (names : List String) : Except Error (List String) :=
  if m.toUpper ∧ m.toLower then
    .error (.invalidArgument
      "Either convert_to_upper_case or convert_to_lower_case can be set, not both")
  else
    let mapped := dedup (names.map m.mapOne)
    match m.defaultAuthority with
    | some d => .ok (if d ∈ mapped then mapped else mapped ++ [d])
    | none => .ok mapped

end Mapper

/-- The distinct names of a list, in code point order. -/
def mappable (names : List String) : List String :=
  (dedup names).mergeSort fun a b => decide (a ≤ b)

end Warden.Authority
