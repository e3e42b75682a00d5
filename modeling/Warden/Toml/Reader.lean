import Warden.Toml.Value

/-!
# Reading TOML

TOML 1.0 for everything a configuration holds: keys, the four kinds of strings, booleans,
arrays, inline tables and headers. Numbers and dates are refused, since no setting takes one.
-/

namespace Warden.Toml

/-- Whether a character may stand in a comment or a literal string. -/
def isTextChar (c : Char) : Bool :=
  c == '\t' || (0x20 ≤ c.toNat && c.toNat ≤ 0x7E) || 0x80 ≤ c.toNat

def isBareKeyChar (c : Char) : Bool := c.isAlphanum || c == '-' || c == '_'

def isBlankChar (c : Char) : Bool := c == ' ' || c == '\t'

def skipBlanks (cs : List Char) : List Char := cs.dropWhile isBlankChar

def skipComment : List Char → Except String (List Char)
  | [] => .ok []
  | '\n' :: rest => .ok ('\n' :: rest)
  | '\r' :: '\n' :: rest => .ok ('\r' :: '\n' :: rest)
  | c :: rest => if isTextChar c then skipComment rest else .error "control character in a comment"

/-- Ends a line: blanks, an optional comment, then a newline or the end of the text. -/
def endLine (cs : List Char) : Except String (List Char) := do
  let cs := skipBlanks cs
  let cs ← match cs with
    | '#' :: rest => skipComment rest
    | _ => pure cs
  match cs with
  | [] => .ok []
  | '\n' :: rest => .ok rest
  | '\r' :: '\n' :: rest => .ok rest
  | _ => .error "expected the end of the line"

def hexDigit (c : Char) : Option Nat :=
  if '0' ≤ c ∧ c ≤ '9' then some (c.toNat - '0'.toNat)
  else if 'a' ≤ c ∧ c ≤ 'f' then some (c.toNat - 'a'.toNat + 10)
  else if 'A' ≤ c ∧ c ≤ 'F' then some (c.toNat - 'A'.toNat + 10)
  else none

/-- The character with the code point the hexadecimal digits write, if any. -/
def unicodeEscape (digits : List Char) : Option Char := do
  let n ← digits.foldlM (fun acc c => (hexDigit c).map (acc * 16 + ·)) 0
  if n < 0xD800 ∨ (0xDFFF < n ∧ n ≤ 0x10FFFF) then some (Char.ofNat n) else none

/-- The quotes before a closing delimiter that belong to the content, and what follows it. -/
def closingRun (q : Char) (rest : List Char) : Option (List Char × List Char) :=
  let run := (rest.takeWhile (· == q)).length + 1
  if run < 3 then none
  else
    let taken := min run 5
    some (List.replicate (taken - 3) q, rest.drop (taken - 1))

/-- The state of reading a basic string. -/
inductive StringState where
  | reading
  | lineEscape
  | trimming
  deriving DecidableEq

/-- Reads a basic string after its opening quotes, through its closing quotes. -/
def basicBody (multi : Bool) : StringState → List Char → List Char → Except String (String × List Char)
  | _, [], _ => .error "unterminated string"
  | .lineEscape, '\r' :: '\n' :: rest, acc => basicBody multi .trimming rest acc
  | .lineEscape, c :: rest, acc =>
    if isBlankChar c then basicBody multi .lineEscape rest acc
    else if c == '\n' then basicBody multi .trimming rest acc
    else .error "invalid escape"
  | .trimming, '\r' :: '\n' :: rest, acc => basicBody multi .trimming rest acc
  | .trimming, ' ' :: rest, acc => basicBody multi .trimming rest acc
  | .trimming, '\t' :: rest, acc => basicBody multi .trimming rest acc
  | .trimming, '\n' :: rest, acc => basicBody multi .trimming rest acc
  -- past the blanks and newlines, a trimming string reads on as a reading one does
  | _, '"' :: rest, acc =>
    if multi then
      match closingRun '"' rest with
      | some (extra, r) => .ok (String.ofList (extra ++ acc).reverse, r)
      | none => basicBody multi .reading rest ('"' :: acc)
    else .ok (String.ofList acc.reverse, rest)
  | _, '\\' :: 'b' :: r, acc => basicBody multi .reading r ('\x08' :: acc)
  | _, '\\' :: 't' :: r, acc => basicBody multi .reading r ('\t' :: acc)
  | _, '\\' :: 'n' :: r, acc => basicBody multi .reading r ('\n' :: acc)
  | _, '\\' :: 'f' :: r, acc => basicBody multi .reading r ('\x0c' :: acc)
  | _, '\\' :: 'r' :: r, acc => basicBody multi .reading r ('\r' :: acc)
  | _, '\\' :: '"' :: r, acc => basicBody multi .reading r ('"' :: acc)
  | _, '\\' :: '\\' :: r, acc => basicBody multi .reading r ('\\' :: acc)
  | _, '\\' :: 'u' :: a :: b :: c :: d :: r, acc =>
    match unicodeEscape [a, b, c, d] with
    | some ch => basicBody multi .reading r (ch :: acc)
    | none => .error "invalid unicode escape"
  | _, '\\' :: 'U' :: a :: b :: c :: d :: e :: f :: g :: h :: r, acc =>
    match unicodeEscape [a, b, c, d, e, f, g, h] with
    | some ch => basicBody multi .reading r (ch :: acc)
    | none => .error "invalid unicode escape"
  | _, '\\' :: c :: r, acc =>
    if multi && (isBlankChar c || c == '\n' || c == '\r') then
      basicBody multi .lineEscape (c :: r) acc
    else .error "invalid escape"
  | _, '\n' :: r, acc =>
    if multi then basicBody multi .reading r ('\n' :: acc) else .error "newline in a string"
  | _, '\r' :: '\n' :: r, acc =>
    if multi then basicBody multi .reading r ('\n' :: acc) else .error "newline in a string"
  | _, c :: r, acc =>
    if c != '\\' && c != '\r' && isTextChar c then basicBody multi .reading r (c :: acc)
    else .error "invalid character in a string"

/-- Reads a literal string after its opening quotes, through its closing quotes. -/
def literalBody (multi : Bool) : List Char → List Char → Except String (String × List Char)
  | [], _ => .error "unterminated string"
  | '\'' :: rest, acc =>
    if multi then
      match closingRun '\'' rest with
      | some (extra, r) => .ok (String.ofList (extra ++ acc).reverse, r)
      | none => literalBody multi rest ('\'' :: acc)
    else .ok (String.ofList acc.reverse, rest)
  | '\n' :: r, acc =>
    if multi then literalBody multi r ('\n' :: acc) else .error "newline in a string"
  | '\r' :: '\n' :: r, acc =>
    if multi then literalBody multi r ('\n' :: acc) else .error "newline in a string"
  | c :: r, acc =>
    if isTextChar c then literalBody multi r (c :: acc) else .error "invalid character in a string"

/-- Drops the newline that may follow the opening quotes of a multi-line string. -/
def dropFirstNewline : List Char → List Char
  | '\n' :: r => r
  | '\r' :: '\n' :: r => r
  | cs => cs

/-- Skips blanks, comments and newlines between the items of an array. -/
def skipLayout (inComment : Bool) : List Char → Except String (List Char)
  | [] => .ok []
  | '\n' :: r => skipLayout false r
  | '\r' :: '\n' :: r => skipLayout false r
  | c :: r =>
    if inComment then
      if isTextChar c then skipLayout true r else .error "control character in a comment"
    else if isBlankChar c then skipLayout false r
    else if c == '#' then skipLayout true r
    else .ok (c :: r)

/-- Reads one part of a key: bare, or a single-line quoted string. -/
def simpleKey : List Char → Except String (String × List Char)
  | '"' :: rest => basicBody false .reading rest []
  | '\'' :: rest => literalBody false rest []
  | cs =>
    match cs.takeWhile isBareKeyChar with
    | [] => .error "expected a key"
    | k => .ok (String.ofList k, cs.drop k.length)

/-- Reads a key of parts joined by dots; at most `fuel` parts. -/
def dottedKey : Nat → List Char → Except String (List String × List Char)
  | 0, _ => .error "key too long"
  | fuel + 1, cs => do
    let (k, rest) ← simpleKey cs
    match skipBlanks rest with
    | '.' :: more =>
      let (ks, r) ← dottedKey fuel (skipBlanks more)
      return (k :: ks, r)
    | _ => return ([k], rest)

mutual

/-- Reads a value; `fuel` bounds the nesting of arrays and inline tables. -/
def readValue : Nat → List Char → Except String (Value × List Char)
  | 0, _ => .error "value nested too deeply"
  | fuel + 1, cs =>
    match cs with
    | '"' :: '"' :: '"' :: rest => do
      let (s, r) ← basicBody true .reading (dropFirstNewline rest) []
      return (.string s, r)
    | '"' :: rest => do
      let (s, r) ← basicBody false .reading rest []
      return (.string s, r)
    | '\'' :: '\'' :: '\'' :: rest => do
      let (s, r) ← literalBody true (dropFirstNewline rest) []
      return (.string s, r)
    | '\'' :: rest => do
      let (s, r) ← literalBody false rest []
      return (.string s, r)
    | 't' :: 'r' :: 'u' :: 'e' :: rest => .ok (.boolean true, rest)
    | 'f' :: 'a' :: 'l' :: 's' :: 'e' :: rest => .ok (.boolean false, rest)
    | '[' :: rest => readArray fuel rest []
    | '{' :: rest =>
      match skipBlanks rest with
      | '}' :: r => .ok (.table [], r)
      | r => readInline fuel r []
    | _ => .error "unsupported value"

/-- Reads the items of an array after its opening bracket. -/
def readArray : Nat → List Char → List Value → Except String (Value × List Char)
  | 0, _, _ => .error "value nested too deeply"
  | fuel + 1, cs, acc => do
    match ← skipLayout false cs with
    | ']' :: rest => return (.array acc.reverse, rest)
    | cs => do
      let (v, rest) ← readValue fuel cs
      match ← skipLayout false rest with
      | ',' :: more => readArray fuel more (v :: acc)
      | ']' :: more => return (.array (v :: acc).reverse, more)
      | _ => .error "expected a comma or the end of the array"

/-- Reads the pairs of an inline table after its opening brace. -/
def readInline : Nat → List Char → List (List String × Value) → Except String (Value × List Char)
  | 0, _, _ => .error "value nested too deeply"
  | fuel + 1, cs, acc => do
    let (keys, r) ← dottedKey (cs.length + 1) (skipBlanks cs)
    match skipBlanks r with
    | '=' :: r => do
      let (v, r) ← readValue fuel (skipBlanks r)
      match skipBlanks r with
      | ',' :: more => readInline fuel more ((keys, v) :: acc)
      | '}' :: more => return (← inlineTable ((keys, v) :: acc).reverse, more)
      | _ => .error "expected a comma or the end of the inline table"
    | _ => .error "expected an equals sign"

end

/-- Reads the lines of a document into the builder; at most `fuel` lines. -/
def readLines : Nat → List Char → Builder → Except String Builder
  | 0, _, _ => .error "document too long"
  | fuel + 1, cs, b =>
    match skipBlanks cs with
    | [] => .ok b
    | '\n' :: rest => readLines fuel rest b
    | '\r' :: '\n' :: rest => readLines fuel rest b
    | '#' :: rest => do
      readLines fuel (← endLine (← skipComment rest)) b
    | '[' :: '[' :: rest => do
      let (path, r) ← dottedKey (rest.length + 1) (skipBlanks rest)
      match skipBlanks r with
      | ']' :: ']' :: r => readLines fuel (← endLine r) (← b.arrayHeader path)
      | _ => .error "expected the end of an array header"
    | '[' :: rest => do
      let (path, r) ← dottedKey (rest.length + 1) (skipBlanks rest)
      match skipBlanks r with
      | ']' :: r => readLines fuel (← endLine r) (← b.header path)
      | _ => .error "expected the end of a table header"
    | line => do
      let (keys, r) ← dottedKey (line.length + 1) line
      match skipBlanks r with
      | '=' :: r => do
        let (v, r) ← readValue (r.length + 1) (skipBlanks r)
        readLines fuel (← endLine r) (← b.pair keys v)
      | _ => .error "expected an equals sign"

/-- Reads a document into its root table. A byte order mark at the start is passed over. -/
def read (text : String) : Except String Value := do
  let cs := match text.toList with
    | '\uFEFF' :: rest => rest
    | cs => cs
  return (← readLines (cs.length + 1) cs Builder.start).finish

end Warden.Toml
