import CardHealth.Proofs.Outcome
import CardHealth.Validation

/-!
# Outcomes of checks

The fault of an outcome is all that a refusal says of it, so it does not matter in which type the
outcome is told.
-/

namespace CardHealth

variable {α β : Type}

theorem faultOf?_map (wrap : α → β) (outcome : Except Fault α) :
    faultOf? (outcome.map wrap) = faultOf? outcome := by
  cases outcome <;> rfl

theorem faultOf?_eq_some_iff {outcome : Except Fault α} {fault : Fault} :
    faultOf? outcome = some fault ↔ outcome = .error fault := by
  cases outcome <;> simp [faultOf?]

end CardHealth
