import Mathlib.Tactic.Common

set_option autoImplicit false

namespace Crc

section Reflected

variable {w : Nat} (poly : BitVec w)

-- One step of the register that shifts right: the bit that falls out decides
-- whether the polynomial is taken off.
def bitStep (crc : BitVec w) : BitVec w := if crc.getLsbD 0 then (crc >>> 1) ^^^ poly else crc >>> 1

def bitSteps : Nat → BitVec w → BitVec w
  | 0, crc => crc
  | count + 1, crc => bitSteps count (bitStep poly crc)

def low (count : Nat) (crc : BitVec w) : BitVec w := (crc.setWidth count).setWidth w

theorem bit_step_xor (x y : BitVec w) : bitStep poly (x ^^^ y) = bitStep poly x ^^^ bitStep poly y := by
  have shifted : (x ^^^ y) >>> 1 = (x >>> 1) ^^^ (y >>> 1) := BitVec.ushiftRight_xor_distrib x y 1
  rw [bitStep, bitStep, bitStep, BitVec.getLsbD_xor, shifted]
  cases x.getLsbD 0 with
  | true =>
      cases y.getLsbD 0 with
      | true =>
          change (x >>> 1) ^^^ (y >>> 1) = ((x >>> 1) ^^^ poly) ^^^ ((y >>> 1) ^^^ poly)
          rw [BitVec.xor_assoc (x >>> 1), BitVec.xor_comm poly, BitVec.xor_assoc (y >>> 1), BitVec.xor_self, BitVec.xor_zero]
      | false =>
          change ((x >>> 1) ^^^ (y >>> 1)) ^^^ poly = ((x >>> 1) ^^^ poly) ^^^ (y >>> 1)
          rw [BitVec.xor_assoc, BitVec.xor_assoc, BitVec.xor_comm poly]
  | false =>
      cases y.getLsbD 0 with
      | true => exact BitVec.xor_assoc ..
      | false => rfl

theorem bit_steps_xor (count : Nat) (x y : BitVec w) :
    bitSteps poly count (x ^^^ y) = bitSteps poly count x ^^^ bitSteps poly count y := by
  induction count generalizing x y with
  | zero => rfl
  | succ count ih =>
      rw [bitSteps, bitSteps, bitSteps, bit_step_xor, ih]

-- While no bit falls out, the steps only shift.
theorem clear_low_shifts (count : Nat) (x : BitVec w) (clear : ∀ i, i < count → x.getLsbD i = false) :
    bitSteps poly count x = x >>> count := by
  induction count generalizing x with
  | zero => exact (BitVec.ushiftRight_zero x).symm
  | succ count ih =>
      have stepped : bitStep poly x = x >>> 1 := by rw [bitStep, clear 0 (Nat.succ_pos count), if_neg Bool.false_ne_true]
      rw [bitSteps, stepped, ih, ← BitVec.shiftRight_add, Nat.add_comm]
      intro i below
      rw [BitVec.getLsbD_ushiftRight]
      exact clear (1 + i) (by omega)

theorem low_bit (count : Nat) (x : BitVec w) (i : Nat) :
    (low count x).getLsbD i = (decide (i < count) && x.getLsbD i) := by
  rw [low, BitVec.getLsbD_setWidth, BitVec.getLsbD_setWidth]
  cases inside : decide (i < w) with
  | true => rw [Bool.true_and]
  | false =>
      rw [BitVec.getLsbD_of_ge x i (by simpa using inside), Bool.false_and, Bool.and_false]

-- A table over the low bits does the steps at once.
theorem bit_steps_table (count : Nat) (x : BitVec w) :
    bitSteps poly count x = bitSteps poly count (low count x) ^^^ (x >>> count) := by
  have split : x = low count x ^^^ (x ^^^ low count x) := by
    rw [BitVec.xor_comm x, ← BitVec.xor_assoc, BitVec.xor_self, BitVec.zero_xor]
  have high : bitSteps poly count (x ^^^ low count x) = x >>> count := by
    rw [clear_low_shifts]
    · apply BitVec.eq_of_getLsbD_eq
      intro i _
      have outside : decide (count + i < count) = false := by simp
      rw [BitVec.getLsbD_ushiftRight, BitVec.getLsbD_ushiftRight, BitVec.getLsbD_xor, low_bit, outside, Bool.false_and,
        Bool.xor_false]
    · intro i below
      rw [BitVec.getLsbD_xor, low_bit, decide_eq_true below, Bool.true_and, Bool.xor_self]
  calc bitSteps poly count x
      = bitSteps poly count (low count x ^^^ (x ^^^ low count x)) := by rw [← split]
    _ = bitSteps poly count (low count x) ^^^ bitSteps poly count (x ^^^ low count x) := bit_steps_xor poly count _ _
    _ = bitSteps poly count (low count x) ^^^ (x >>> count) := by rw [high]

end Reflected

end Crc
