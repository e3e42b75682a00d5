import Warden.Access.Vote

/-!
# Access decisions

A voting manager combines its voters' votes: affirmative (one grant suffices), consensus (the
majority, ties by the tie flag) or unanimous (each attribute alone, one denial denies); when
nobody grants or denies, the abstention flag decides. A fixed manager always decides alike.
-/

namespace Warden

/-- The decision when every voter abstained. -/
def abstained (allowIfAllAbstain : Bool) : Except Error Unit :=
  if allowIfAllAbstain then .ok () else .error (.accessDenied .allAbstained "Access is denied")

def affirmative (allowIfAllAbstain : Bool) (votes : List Vote) : Except Error Unit :=
  if votes.contains .granted then .ok ()
  else if votes.contains .denied then .error .denied
  else abstained allowIfAllAbstain

def consensus (allowIfAllAbstain allowIfEqual : Bool) (votes : List Vote) :
    Except Error Unit :=
  let grants := votes.count .granted
  let denials := votes.count .denied
  if denials < grants then .ok ()
  else if grants < denials then .error .denied
  else if 0 < grants then (if allowIfEqual then .ok () else .error .denied)
  else abstained allowIfAllAbstain

/-- The unanimous decision on the votes cast on each attribute alone. -/
def unanimous (allowIfAllAbstain : Bool) (votes : List (List Vote)) : Except Error Unit :=
  if votes.any (·.contains .denied) then .error .denied
  else if votes.any (·.contains .granted) then .ok ()
  else abstained allowIfAllAbstain

/-- How a voting manager combines votes. -/
inductive Strategy where
  | affirmative
  | consensus
  | unanimous
  deriving DecidableEq, Repr

def Strategy.text : Strategy → String
  | .affirmative => "affirmative"
  | .consensus => "consensus"
  | .unanimous => "unanimous"

inductive Manager where
  | voting (strategy : Strategy) (voters : List Voter) (allowIfAllAbstain allowIfEqual : Bool)
  | fixed (decision : Except Error Unit)

namespace Manager

/-- A voting manager, refused without voters. -/
def ofVoters (strategy : Strategy) (voters : List Voter) (allowIfAllAbstain allowIfEqual : Bool) :
    Except Error Manager :=
  if voters.isEmpty then .error (.invalidArgument "A list of AccessDecisionVoters is required")
  else .ok (.voting strategy voters allowIfAllAbstain allowIfEqual)

def decide : Manager → Authentication → List String → Except Error Unit
  | .voting .affirmative voters abstain _, a, attributes =>
    affirmative abstain (voters.map fun v => v.vote a attributes)
  | .voting .consensus voters abstain equal, a, attributes =>
    consensus abstain equal (voters.map fun v => v.vote a attributes)
  | .voting .unanimous voters abstain _, a, attributes =>
    unanimous abstain (attributes.map fun x => voters.map fun v => v.vote a [x])
  | .fixed decision, _, _ => decision

/-- The manager asked about a call on an object, which the library's managers never read. -/
def onObject {α : Type} (m : Manager) (a : Authentication) (_ : α) (attributes : List String) :
    Except Error Unit :=
  m.decide a attributes

/-- Whether some voter understands the attribute; a fixed manager understands every one. -/
def supports : Manager → String → Bool
  | .voting _ voters _ _, attr => voters.any (·.supports attr)
  | .fixed _, _ => true

end Manager

end Warden
