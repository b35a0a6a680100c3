import Mathlib.Data.BitVec

set_option autoImplicit false

namespace Clock

variable {w : Nat}

-- A counter of w bits that shows how many ticks have passed, and the order of
-- two of its values by the sign of their difference.
def shown (ticks : Nat) : BitVec w := BitVec.ofNat w ticks

def later (time other : BitVec w) : Bool := decide ((other - time).toInt < 0)

theorem shown_difference (time other : Nat) :
    (shown time - shown other : BitVec w).toInt = ((time : Int) - other).bmod (2 ^ w) := by
  rw [shown, shown, BitVec.toInt_sub, BitVec.toInt_ofNat', BitVec.toInt_ofNat', Int.bmod_sub_bmod, Int.sub_bmod_bmod]

-- Values that are less than half a round apart are ordered as their times, also
-- when the other one has been moved back.
theorem later_back (time other span : Nat) (order : other ≤ time) (near : 2 * (time + span - other) < 2 ^ w) :
    later (shown time : BitVec w) (shown other - shown span) = true ↔ other < time + span := by
  have difference : (shown other - shown span - shown time : BitVec w).toInt = (other : Int) - (time + span : Nat) := by
    have together : (shown other - shown span - shown time : BitVec w) = shown other - shown (time + span) := by
      have sum : (shown (time + span) : BitVec w) = shown time + shown span := BitVec.ofNat_add time span
      rw [sum, BitVec.sub_sub, BitVec.add_comm]
    rw [together, shown_difference]
    have bound : (2 * (time + span - other) : Nat) < (2 ^ w : Nat) := near
    exact Int.bmod_eq_of_le_mul_two (by omega) (by omega)
  rw [later, difference, decide_eq_true_iff]
  omega

theorem later_within (time other : Nat) (order : other ≤ time) (near : 2 * (time - other) < 2 ^ w) :
    later (shown time : BitVec w) (shown other) = true ↔ other < time := by
  simpa [shown] using later_back time other 0 order near

-- Moving the other value back and forth by the same span changes nothing.
theorem later_moved (time other span : BitVec w) : later time (other - span + span) = later time other := by
  rw [BitVec.sub_add_cancel]

example : later (3 : BitVec 8) 250 = true ∧ later (7 : BitVec 8) 7 = false := by decide

end Clock
