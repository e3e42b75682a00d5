import Warden.Authority.Basic
import Warden.Error

/-!
# Role hierarchies

Declared one chain per line, `ROLE_ADMIN > ROLE_STAFF > ROLE_USER`; a role grants every role
it reaches, listed in depth-first order. Malformed lines and cycles are refused.
-/

namespace Warden

/-- The roles each role directly includes, parents and children in order of declaration. -/
structure RoleHierarchy.Edges where
  toList : List (String × List String)

/-- Which roles a holder of some authorities may act as. -/
inductive RoleHierarchy where
  | flat
  | declared (reach : List (String × List String))

namespace RoleHierarchy

namespace Edges

def children (g : Edges) (r : String) : List String := (g.toList.lookup r).getD []

/-- The roles declared with children, in order of first declaration. -/
def parents (g : Edges) : List String := g.toList.map (·.1)

def size (g : Edges) : Nat := (g.toList.flatMap (·.2)).length

/-- Adds the edge from `parent` to `child` unless it is already declared. -/
def linkIn (parent child : String) : List (String × List String) → List (String × List String)
  | [] => [(parent, [child])]
  | (p, cs) :: rest =>
    if p = parent then (p, if child ∈ cs then cs else cs ++ [child]) :: rest
    else (p, cs) :: linkIn parent child rest

def link (g : Edges) (parent child : String) : Edges := ⟨linkIn parent child g.toList⟩

/-- Adds the edges of one chain, each role to the next. -/
def linkChain (g : Edges) : List String → Edges
  | a :: b :: rest => linkChain (g.link a b) (b :: rest)
  | _ => g

end Edges

/-- The lines of a declaration that hold something, trimmed. -/
def declaredLines (d : String) : List String :=
  ((d.splitOn "\n").map Text.trim).filter (· ≠ "")

/-- Whether a role name can stand in a declaration: not empty and without blanks. -/
def validRole (r : String) : Bool := r != "" && !Text.hasBlank r

/-- The chain of roles on one declared line, or the error refusing the line. -/
def lineRoles (line : String) : Except Error (List String) :=
  let roles := (line.splitOn ">").map Text.trim
  if 2 ≤ roles.length ∧ roles.all validRole then .ok roles
  else .error (.invalidArgument s!"Invalid role hierarchy declaration '{line}'")

/-- The edges of a declaration, or the error refusing its first malformed line. -/
def edgesOf (d : String) : Except Error Edges :=
  (declaredLines d).foldlM (fun g line => return g.linkChain (← lineRoles line)) ⟨[]⟩

/-- A depth-first walk from `root` with an explicit stack, at most `fuel` steps long. -/
def walk (g : Edges) (root : String) : Nat → List String → List String → Except Error (List String)
  | 0, _, order => .ok order
  | _, [], order => .ok order
  | fuel + 1, next :: stack, order =>
    if next = root then .error (.cycle root)
    else if next ∈ order then walk g root fuel stack order
    else walk g root fuel (g.children next ++ stack) (order ++ [next])

/-- The roles `root` reaches in depth-first order, or the cycle through `root`. -/
def closure (g : Edges) (root : String) : Except Error (List String) :=
  walk g root (2 * g.size + 1) (g.children root) []

def ofDeclaration (d : String) : Except Error RoleHierarchy := do
  let g ← edgesOf d
  let reach ← g.parents.mapM fun r => return (r, ← closure g r)
  return .declared reach

/-- The held authorities, without repeats, then the roles each of them reaches in turn. -/
def reachable : RoleHierarchy → List String → List String
  | .flat, held => held
  | .declared reach, held => dedup (held ++ held.flatMap fun a => (reach.lookup a).getD [])

end RoleHierarchy

end Warden
