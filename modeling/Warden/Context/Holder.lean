import Warden.Authentication

/-!
# The thread's context slot

Entering a context opens a guard that puts the slot's old value back when it is closed; guards
may be closed in any order.
-/

namespace Warden

/-- A thread's slot and the guards open on it, oldest first. -/
structure Holder where
  slot : Option SecurityContext
  guards : List (Option SecurityContext)
  deriving DecidableEq, Repr

namespace Holder

def fresh : Holder := ⟨none, []⟩

def authentication (h : Holder) : Option Authentication := h.slot.bind (·.authentication)

/-- Puts a context in the slot without a guard. -/
def set (h : Holder) (c : Option SecurityContext) : Holder := { h with slot := c }

/-- Puts `c` in the slot and opens a guard holding the value it replaces. -/
def enter (h : Holder) (c : Option SecurityContext) : Holder :=
  { slot := c, guards := h.guards ++ [h.slot] }

/-- Closes the guard at position `i`, restoring what it replaced. -/
def exit? (h : Holder) (i : Nat) : Option Holder :=
  (h.guards[i]?).map fun saved => { slot := saved, guards := h.guards.eraseIdx i }

/-- The slot once every open guard is closed, the newest first. -/
def close (h : Holder) : Option SecurityContext :=
  match h.guards with
  | [] => h.slot
  | first :: _ => first

end Holder

end Warden
