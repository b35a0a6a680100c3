import Mathlib.Order.Lattice
import Mathlib.Data.List.Range

set_option autoImplicit false

namespace Lookup

section Thresholds

variable {V : Type} [LinearOrder V] (table : Nat → V) (top : Nat)

def Increasing : Prop := ∀ i j, i < j → j ≤ top → table i < table j

structure Largest (value : V) (index : Nat) : Prop where
  inside : index ≤ top
  reached : table index ≤ value
  last : ∀ other, other ≤ top → table other ≤ value → other ≤ index

-- The first interval that has the value strictly inside.
def between (value : V) : Option Nat :=
  (List.range top).find? fun i => decide (table i < value) && decide (value < table (i + 1))

theorem largest_unique (value : V) (i j : Nat) (first : Largest table top value i) (second : Largest table top value j) :
    i = j :=
  Nat.le_antisymm (second.last i first.inside first.reached) (first.last j second.inside second.reached)

theorem largest_mono (small great : V) (i j : Nat) (below : small ≤ great) (first : Largest table top small i)
    (second : Largest table top great j) : i ≤ j :=
  second.last i first.inside (le_trans first.reached below)

theorem largest_top (value : V) (reached : table top ≤ value) : Largest table top value top :=
  ⟨Nat.le_refl top, reached, fun _ inside _ => inside⟩

theorem largest_entry (increasing : Increasing table top) (index : Nat) (inside : index ≤ top) :
    Largest table top (table index) index := by
  refine ⟨inside, le_refl _, ?_⟩
  intro other below reached
  by_contra beyond
  exact absurd reached (not_le_of_gt (increasing index other (Nat.lt_of_not_le beyond) below))

theorem largest_exists (value : V) (reached : table 0 ≤ value) : ∃ index, Largest table top value index := by
  induction top with
  | zero => exact ⟨0, largest_top table 0 value reached⟩
  | succ top ih =>
      by_cases higher : table (top + 1) ≤ value
      · exact ⟨top + 1, largest_top table (top + 1) value higher⟩
      · obtain ⟨index, found⟩ := ih
        refine ⟨index, Nat.le_succ_of_le found.inside, found.reached, ?_⟩
        intro other inside below
        cases Nat.lt_or_eq_of_le inside with
        | inl lower => exact found.last other (Nat.le_of_lt_succ lower) below
        | inr last => exact absurd (last ▸ below) higher

theorem between_some (value : V) (index : Nat) (found : between table top value = some index) :
    index < top ∧ table index < value ∧ value < table (index + 1) := by
  have inside := List.mem_range.mp (List.mem_of_find?_eq_some found)
  have strict := List.find?_some found
  rw [Bool.and_eq_true, decide_eq_true_eq, decide_eq_true_eq] at strict
  exact ⟨inside, strict⟩

theorem between_largest (increasing : Increasing table top) (value : V) (index : Nat)
    (found : between table top value = some index) : Largest table top value index := by
  obtain ⟨inside, above, below⟩ := between_some table top value index found
  refine ⟨Nat.le_of_lt inside, le_of_lt above, ?_⟩
  intro other bound reached
  by_contra beyond
  cases Nat.lt_or_eq_of_le (Nat.lt_of_not_le beyond) with
  | inl later => exact absurd (lt_of_lt_of_le (lt_trans below (increasing _ other later bound)) reached) (lt_irrefl _)
  | inr next => exact absurd (lt_of_lt_of_le (next ▸ below) reached) (lt_irrefl _)

-- Between two thresholds there is an interval, on a threshold there is none.
theorem between_inside (increasing : Increasing table top) (value : V) (index : Nat) (largest : Largest table top value index)
    (below : index < top) (off : table index ≠ value) : between table top value = some index := by
  have strict : table index < value := lt_of_le_of_ne largest.reached off
  have next : value < table (index + 1) := by
    by_contra reached
    have later := largest.last (index + 1) below (le_of_not_gt reached)
    omega
  cases found : between table top value with
  | none =>
      have nothing := List.find?_eq_none.mp found index (List.mem_range.mpr below)
      rw [decide_eq_true strict, decide_eq_true next] at nothing
      exact absurd rfl nothing
  | some other => rw [largest_unique table top value other index (between_largest table top increasing value other found) largest]

theorem between_entry (increasing : Increasing table top) (index : Nat) (inside : index ≤ top) :
    between table top (table index) = none := by
  cases found : between table top (table index) with
  | none => rfl
  | some other =>
      have same := largest_unique table top _ other index (between_largest table top increasing _ other found)
        (largest_entry table top increasing index inside)
      obtain ⟨_, above, _⟩ := between_some table top _ other found
      rw [same] at above
      exact absurd above (lt_irrefl _)

end Thresholds

end Lookup
