import Warden.Context.Holder
import Warden.Proofs.Intercept.Scope

/-! # Running with a context is entering a guard and closing it -/

namespace Warden

variable {β : Type}

namespace Holder

theorem exit?_enter (h : Holder) (c s : Option SecurityContext) :
    ((h.enter c).set s).exit? h.guards.length = some h := by
  simp only [exit?, enter, set, List.getElem?_concat_length, Option.map_some]
  rw [List.eraseIdx_append_of_length_le (Nat.le_refl _)]
  simp

end Holder

/-- Running with a context is entering a guard and closing it. -/
theorem onThreadWith_follows_guard (h : Holder) (c : Option SecurityContext) (m : OnThread β)
    (th : Thread) :
    ((h.enter c).set (m.run { th with slot := (h.enter c).slot }).2.slot).exit? h.guards.length =
        some h ∧
      (onThreadWith c m).run { th with slot := h.slot } =
        ((m.run { th with slot := (h.enter c).slot }).1,
          { (m.run { th with slot := (h.enter c).slot }).2 with slot := h.slot }) :=
  ⟨h.exit?_enter c _, Interceptor.onThreadWith_run c m _⟩

end Warden
