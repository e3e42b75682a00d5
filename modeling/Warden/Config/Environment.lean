import Warden.Config.Error

/-!
# Environment references

Each `${NAME}` before a line's first `#` is replaced by the variable's value; an unset variable
stops the expansion. Lines end at LF or CRLF, and come out with LF.
-/

namespace Warden.Config

/-- Environment variables, in the order they were set. -/
structure Environment where
  vars : List (String × String)
  deriving DecidableEq, Repr

namespace Environment

/-- The rest of the first `NAME=VALUE` entry for `name`; a name holding NUL finds nothing. -/
def lookup (env : Environment) (name : String) : Option String :=
  if name.toList.contains '\x00' then none
  else env.vars.findSome? fun (k, v) =>
    let entry := (k ++ "=" ++ v).toList
    let wanted := (name ++ "=").toList
    if wanted.isPrefixOf entry then some (String.ofList (entry.drop wanted.length)) else none

end Environment

/-- Expands the references of a line; `comment` is the position of its first `#`. -/
def expandChars (env : Environment) (comment : Nat) :
    Nat → Option (List Char) → List Char → Except ConfigError (List Char)
  | _, none, [] => .ok []
  | _, some name, [] => .ok ('$' :: '{' :: name.reverse)
  | pos, none, '$' :: '{' :: rest =>
    if comment ≤ pos then .ok ('$' :: '{' :: rest)
    else expandChars env comment (pos + 2) (some []) rest
  | pos, none, c :: rest => (c :: ·) <$> expandChars env comment (pos + 1) none rest
  | pos, some [], '}' :: rest =>
    ('$' :: '{' :: '}' :: ·) <$> expandChars env comment (pos + 1) none rest
  | pos, some name, '}' :: rest =>
    let key := String.ofList name.reverse
    match env.lookup key with
    | some value => (value.toList ++ ·) <$> expandChars env comment (pos + 1) none rest
    | none => .error (.missingVariable key)
  | pos, some name, c :: rest => expandChars env comment (pos + 1) (some (c :: name)) rest

def expandLine (env : Environment) (line : List Char) : Except ConfigError (List Char) :=
  expandChars env (line.idxOf '#') 0 none line

/-- The lines of a text, cut at each LF with a CR right before it dropped. -/
def textLines (cs : List Char) : List (List Char) :=
  let pieces := cs.splitOn '\n'
  let ended := pieces.dropLast.map fun l => if l.getLast? = some '\r' then l.dropLast else l
  match pieces.getLast? with
  | some [] => ended
  | some last => ended ++ [last]
  | none => ended

/-- Expands every reference of a configuration text. -/
def expand (env : Environment) (text : String) : Except ConfigError String := do
  let cs := text.toList
  let lines ← (textLines cs).mapM (expandLine env)
  let joined := List.intercalate ['\n'] lines
  return String.ofList (if cs.getLast? = some '\n' then joined ++ ['\n'] else joined)

end Warden.Config
