import Warden.Text.CaseTable

/-!
# Case conversion

Full Unicode case conversion, where a character may become several (`ß` to `SS`) and capital
sigma lowercases to `ς` at the end of a word; and ASCII uppercasing for request methods.
-/

namespace Warden.Text

/-- The image of a code point under the first run that covers it. -/
def CaseRun.image? (c : Nat) : List CaseRun → Option Nat
  | [] => none
  | r :: rs =>
    if r.lo ≤ c ∧ c ≤ r.hi ∧ (c - r.lo) % r.step = 0 then some (c + r.shift).toNat
    else CaseRun.image? c rs

/-- Maps a character through a table of runs and a table of expanding mappings. -/
def mapChar (runs : List CaseRun) (special : List (Nat × List Nat)) (c : Char) : List Char :=
  match special.lookup c.toNat with
  | some out => out.map Char.ofNat
  | none =>
    match CaseRun.image? c.toNat runs with
    | some n => [Char.ofNat n]
    | none => [c]

def inRanges (n : Nat) (ranges : List (Nat × Nat)) : Bool :=
  ranges.any fun r => r.1 ≤ n && n ≤ r.2

/-- The Case_Ignorable property. -/
def isCaseIgnorable (c : Char) : Bool := inRanges c.toNat caseIgnorableRanges

/-- The Cased property, for characters that are not case-ignorable. -/
def isCased (c : Char) : Bool := inRanges c.toNat casedRanges

/-- Whether the first character that is not case-ignorable is cased. -/
def ignorableThenCased (cs : List Char) : Bool :=
  match cs.dropWhile isCaseIgnorable with
  | c :: _ => isCased c
  | [] => false

/-- Full uppercase of one character. -/
def upperChar (c : Char) : List Char := mapChar upperRuns upperSpecial c

/-- Full lowercase of one character outside any context. -/
def lowerChar (c : Char) : List Char := mapChar lowerRuns lowerSpecial c

/-- Uppercases a text character by character. -/
def upper (s : String) : String :=
  String.ofList (s.toList.flatMap upperChar)

/-- Lowercases `rest`, with `before` holding the characters passed, nearest first. -/
def lowerFrom : List Char → List Char → List Char
  | _, [] => []
  | before, c :: after =>
    let here :=
      if c = 'Σ' then
        [if ignorableThenCased before && !ignorableThenCased after then 'ς' else 'σ']
      else lowerChar c
    here ++ lowerFrom (c :: before) after

/-- Lowercases a text, with the final form of sigma at the end of a word. -/
def lower (s : String) : String :=
  String.ofList (lowerFrom [] s.toList)

/-- Uppercases the ASCII letters of a text and keeps every other character. -/
def asciiUpper (s : String) : String :=
  String.ofList (s.toList.map Char.toUpper)

end Warden.Text
