import Mathlib.Tactic.Common
import Mathlib.Tactic.Linarith

set_option autoImplicit false

namespace Clock

-- A source divided by so many units. The divider for a wanted rate is the same
-- division the other way round.
def rate (source unit divider : Nat) : Nat := source / (unit * divider)

-- What a counter divides by that starts at the low eight bits of bias - steps
-- and overflows at bias.
def reload (bias steps : Nat) : Nat := (((bias : Int) - steps) % 256).toNat

def reloaded (bias steps : Nat) : Nat := bias - reload bias steps

section Rate

variable (source unit : Nat)

theorem rate_cross (one other : Nat) (unit_positive : 0 < unit) (positive : 0 < other) :
    rate source unit one * one < (rate source unit other + 1) * other := by
  have low := Nat.div_mul_le_self source (unit * one)
  have high := Nat.lt_mul_div_succ source (Nat.mul_pos unit_positive positive)
  apply Nat.lt_of_mul_lt_mul_left (a := unit)
  calc unit * (rate source unit one * one) = rate source unit one * (unit * one) := Nat.mul_left_comm _ _ _
    _ < unit * other * (rate source unit other + 1) := Nat.lt_of_le_of_lt low high
    _ = unit * ((rate source unit other + 1) * other) := by rw [Nat.mul_assoc, Nat.mul_comm other]

theorem rate_multiple (factor wanted divider : Nat) (unit_positive : 0 < unit) (divider_positive : 0 < divider)
    (small : factor * divider ≤ rate source unit wanted) : factor * wanted ≤ rate source unit divider := by
  rw [rate, Nat.le_div_iff_mul_le (Nat.mul_pos unit_positive divider_positive)]
  calc factor * wanted * (unit * divider) = factor * divider * (unit * wanted) := by ac_rfl
    _ ≤ rate source unit wanted * (unit * wanted) := Nat.mul_le_mul_right _ small
    _ ≤ source := Nat.div_mul_le_self source (unit * wanted)

end Rate

section Reload

variable (bias steps : Nat)

theorem reloaded_range : bias - 255 ≤ reloaded bias steps ∧ reloaded bias steps ≤ bias := by
  simp only [reloaded, reload]
  omega

theorem reloaded_inside (wide : 256 ≤ bias) (low : bias - 255 ≤ steps) (high : steps ≤ bias) :
    reloaded bias steps = steps := by
  simp only [reloaded, reload]
  omega

theorem reloaded_below (wide : 256 ≤ bias) (low : steps < bias - 255) : steps + 256 ≤ reloaded bias steps := by
  simp only [reloaded, reload]
  omega

theorem reloaded_above (wide : 256 ≤ bias) (high : bias < steps) : reloaded bias steps + 256 ≤ steps := by
  simp only [reloaded, reload]
  omega

end Reload

end Clock
