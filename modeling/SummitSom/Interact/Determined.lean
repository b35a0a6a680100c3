import SummitSom.Interact.Program

set_option autoImplicit false

namespace Interact

section Determined

variable {C : Type} {R : C → Type} {E A S : Type} (handler : S → (cmd : C) → R cmd × S)

-- A world that a handler determines. Nothing happens while a command is under way.
def World.determined : World C R S where
  midst s _ t := t = s
  reply s cmd answer t := answer = (handler s cmd).1 ∧ t = (handler s cmd).2

-- The states between the commands, the last one included.
def trace : Prog C R E A → S → List S
  | .done _, s => [s]
  | .stop _, s => [s]
  | .call cmd rest, s => s :: trace (rest (handler s cmd).1) (handler s cmd).2

theorem trace_safe (kept : S → Prop) (program : Prog C R E A) (s : S) (within : ∀ t ∈ trace handler program s, kept t) :
    Safe (World.determined handler) kept (fun _ _ => True) program s := by
  induction program generalizing s with
  | done value => exact ⟨within s (.head _), trivial⟩
  | stop code => exact ⟨within s (.head _), trivial⟩
  | call cmd rest ih =>
      have start := within s (.head _)
      refine ⟨start, ?_, ?_⟩
      · intro t during
        exact during ▸ start
      · intro answer t answered
        rw [answered.1, answered.2]
        exact ih _ _ fun u inside => within u (.tail _ inside)

theorem seen_trace (program : Prog C R E A) (s t : S) :
    Seen (World.determined handler) program s t ↔ t ∈ trace handler program s := by
  constructor
  · intro seen
    exact safe_seen _ _ _ program s t (trace_safe handler (fun u => u ∈ trace handler program s) program s fun _ => id) seen
  · intro inside
    induction program generalizing s with
    | done value =>
        rw [List.mem_singleton.mp inside]
        exact seen_start _ _ s
    | stop code =>
        rw [List.mem_singleton.mp inside]
        exact seen_start _ _ s
    | call cmd rest ih =>
        cases inside with
        | head => exact seen_start _ _ _
        | tail _ later => exact seen_call _ cmd rest _ s _ t ⟨rfl, rfl⟩ (ih _ _ later)

theorem ends_determined (program : Prog C R E A) (s t : S) (result : Except E A) :
    Ends (World.determined handler) program s result t ↔ (result, t) = eval handler program s := by
  constructor
  · intro ended
    induction program generalizing s with
    | done value =>
        obtain ⟨same, stays⟩ := ended_done _ value s t result ended
        rw [same, stays, eval]
    | stop code =>
        obtain ⟨same, stays⟩ := ended_stop _ code s t result ended
        rw [same, stays, eval]
    | call cmd rest ih =>
        obtain ⟨answer, u, answered, onward⟩ := ended_call _ cmd rest s t result ended
        rw [answered.1, answered.2] at onward
        exact ih _ _ onward
  · intro same
    have ran := ends_eval (World.determined handler) handler program s fun _ _ => ⟨rfl, rfl⟩
    rw [← same] at ran
    exact ran

end Determined

end Interact
