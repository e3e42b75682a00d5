import Warden.Authority.Basic
import Warden.Error
import Warden.Web.AntPattern
import Warden.Web.Request

/-!
# Request matchers and the request table

The request table gives the attributes of the first rule whose matcher picks the request.
-/

namespace Warden.Web

/-- Picks requests by URL pattern and, optionally, by method. -/
structure AntMatcher where
  pattern : String
  method : Option String
  pieces : List Piece

namespace AntMatcher

/-- A matcher for a non-empty pattern; a method is kept uppercased in ASCII, untrimmed. -/
def create (pattern : String) (method : Option String) : Except Error AntMatcher :=
  if pattern = "" then .error (.invalidArgument "Pattern cannot be empty")
  else .ok { pattern, method := method.map Text.asciiUpper, pieces := compile pattern.toList }

def picks (m : AntMatcher) (r : Request) : Bool :=
  (match m.method with
   | some method => method == r.method
   | none => true) &&
  matchPieces m.pieces r.url.toList

end AntMatcher

inductive Matcher where
  | anyRequest
  | ant (m : AntMatcher)

def Matcher.picks : Matcher → Request → Bool
  | .anyRequest, _ => true
  | .ant m, r => m.picks r

/-- Rules guarding requests, tried in order. -/
structure RequestTable where
  rules : List (Matcher × List String)

namespace RequestTable

/-- The attributes of the first rule that picks the request, if any does. -/
def attributes? (t : RequestTable) (r : Request) : Option (List String) :=
  (t.rules.find? fun rule => rule.1.picks r).map (·.2)

/-- Every attribute of the rules, in order and without repeats. -/
def allAttributes (t : RequestTable) : List String := dedup (t.rules.flatMap (·.2))

end RequestTable

end Warden.Web
