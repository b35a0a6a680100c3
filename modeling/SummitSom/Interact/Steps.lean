import Mathlib.Tactic.Common

set_option autoImplicit false

namespace Interact

-- The runs of a system whose next state an event decides, taken by events that
-- their state admits. An event that cannot happen has no next state.
inductive Run {S V : Type} (step : S → V → Option S) (admits : S → V → Prop) (origin : S) : S → Prop where
  | start : Run step admits origin origin
  | next (s t : S) (event : V) (before : Run step admits origin s) (admitted : admits s event)
      (stepped : step s event = some t) : Run step admits origin t

theorem run_keeps {S V : Type} (step : S → V → Option S) (admits : S → V → Prop) (origin : S) (held : S → Prop)
    (begins : held origin)
    (steps : ∀ s t event, held s → admits s event → step s event = some t → held t) (s : S)
    (run : Run step admits origin s) : held s := by
  induction run with
  | start => exact begins
  | next s t event _ admitted stepped ih => exact steps s t event ih admitted stepped

end Interact
