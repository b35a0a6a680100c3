import Mathlib.Tactic.Common
import Mathlib.Algebra.Ring.Nat

set_option autoImplicit false

namespace Interact

section Measured

-- The events of a kind all lessen what is left to do, where the state is held.
variable {S V : Type} (step : S → V → Option S) (held : S → Prop) (kind : V → Prop) (left : S → Nat)
  (lessens : ∀ s t event, held s → kind event → step s event = some t → held t ∧ left t < left s)

include lessens

theorem measured_run (events : List V) (s last : S) (begins : held s) (kinds : ∀ event ∈ events, kind event)
    (ran : events.foldlM step s = some last) : held last ∧ events.length + left last ≤ left s := by
  induction events generalizing s with
  | nil =>
      cases ran
      exact ⟨begins, Nat.le_of_eq (Nat.zero_add _)⟩
  | cons event events ih =>
      rw [List.foldlM_cons] at ran
      obtain ⟨t, stepped, later⟩ := Option.bind_eq_some_iff.mp ran
      obtain ⟨keeps, less⟩ := lessens s t event begins (kinds event List.mem_cons_self) stepped
      obtain ⟨ends, most⟩ := ih t keeps (fun other inside => kinds other (List.mem_cons_of_mem event inside)) later
      refine ⟨ends, ?_⟩
      rw [List.length_cons]
      omega

-- When there always is a next event until the end, the end is reached.
theorem measured_finish (finished : S → Prop)
    (moves : ∀ s, held s → ¬ finished s → ∃ event t, kind event ∧ step s event = some t) (s : S) (begins : held s) :
    ∃ (events : List V) (last : S), (∀ event ∈ events, kind event) ∧ events.foldlM step s = some last ∧ finished last := by
  induction size : left s using Nat.strong_induction_on generalizing s with
  | h size ih =>
      by_cases ended : finished s
      · exact ⟨[], s, fun event inside => absurd inside List.not_mem_nil, rfl, ended⟩
      · obtain ⟨event, t, known, stepped⟩ := moves s begins ended
        obtain ⟨keeps, less⟩ := lessens s t event begins known stepped
        obtain ⟨events, last, kinds, ran, ends⟩ := ih (left t) (size ▸ less) t keeps rfl
        refine ⟨event :: events, last, ?_, ?_, ends⟩
        · intro other inside
          cases List.mem_cons.mp inside with
          | inl first => exact first ▸ known
          | inr later => exact kinds other later
        · rw [List.foldlM_cons, stepped]
          exact ran

end Measured

end Interact
