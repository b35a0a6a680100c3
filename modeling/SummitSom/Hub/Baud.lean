import SummitSom.Hub.Control
import SummitSom.Clock.Divider

set_option autoImplicit false

namespace SummitSom.Hub

open Clock Interact
open Cstr (Long)

structure UartRegs where
  bySerialPortMode : Nat
  byBD : Nat
  bySMOD : Nat
  byTH1 : Nat
  wS0REL : Nat
deriving DecidableEq

def crystalFrequency : Nat := 60000000

def source (bySMOD : Nat) : Nat := 2 ^ bySMOD * crystalFrequency

def deviceError (dwActualBaudRate dwDesiredBaudRate : Nat) : Nat :=
  if dwDesiredBaudRate > dwActualBaudRate then 100 * (dwDesiredBaudRate - dwActualBaudRate) / dwDesiredBaudRate
  else 100 * (dwActualBaudRate - dwDesiredBaudRate) / dwDesiredBaudRate

-- The rate of the setting that a mode gives, and its registers. S0REL is cast
-- to a byte as TH1 is.
def deviceRate (long : Long) (byMode : Nat) (regs : UartRegs) (dwDesiredBaudRate : Nat) : Except Undefined (Nat × UartRegs) :=
  let divisor (unit : Nat) := unit * dwDesiredBaudRate % long.modulus
  match byMode with
  | 0 => .ok (crystalFrequency / 12, regs)
  | 2 => .ok (if regs.bySMOD = 0 then crystalFrequency / 64 else crystalFrequency / 32, regs)
  | 1 | 3 =>
      if regs.byBD = 0 then
        if divisor 384 = 0 then .error .dividesByZero
        else
          let byTH1 := reload 256 (source regs.bySMOD / divisor 384)
          .ok (rate (source regs.bySMOD) 384 (256 - byTH1), { regs with byTH1 := byTH1 })
      else if divisor 64 = 0 then .error .dividesByZero
      else
        let wS0REL := reload 1024 (source regs.bySMOD / divisor 64)
        if wS0REL > 1023 then .ok (0, regs)
        else .ok (rate (source regs.bySMOD) 64 (1024 - wS0REL), { regs with wS0REL := wS0REL })
  | _ => .ok (0, regs)

def calculateDeviceUARTRegisterSettings (long : Long) (byMode : Nat) (regs : UartRegs) (dwDesiredBaudRate : Nat) :
    Except Undefined (Bool × UartRegs) :=
  match deviceRate long byMode regs dwDesiredBaudRate with
  | .error code => .error code
  | .ok (dwActualBaudRate, set) =>
      if dwDesiredBaudRate = 0 then .error .dividesByZero
      else .ok (deviceError dwActualBaudRate dwDesiredBaudRate ≤ 2, set)

def UartRegs.bytes (regs : UartRegs) : List UInt8 :=
  [UInt8.ofNat regs.bySerialPortMode, UInt8.ofNat regs.byBD, UInt8.ofNat regs.bySMOD, UInt8.ofNat regs.byTH1,
    UInt8.ofNat regs.wS0REL, UInt8.ofNat (regs.wS0REL / 256)]

def setDeviceUARTRegisters (regs : UartRegs) : Control := ⟨0x41, 0x40, 0, 0, 6, regs.bytes⟩

def combination (k : Nat) : UartRegs := ⟨1, (k &&& 2) >>> 1, k &&& 1, 0, 0⟩

def tryCombinations (long : Long) (BaudRate : Nat) : List Nat → Int → Exchange Int
  | [], bRetVal => pure bRetVal
  | k :: rest, _ =>
      match calculateDeviceUARTRegisterSettings long 1 (combination k) BaudRate with
      | .error code => .stop code
      | .ok (false, _) => tryCombinations long BaudRate rest FALSE
      | .ok (true, regs) => do
          let bRet ← issue (setDeviceUARTRegisters regs)
          if bRet < 0 then tryCombinations long BaudRate rest FALSE else pure TRUE

def mchpUsbSetUARTBaudrate (long : Long) (BaudRate : UInt32) : Exchange Int :=
  tryCombinations long BaudRate.toNat [0, 1, 2, 3] FALSE

-- The device's view of a download of registers.
def readRegisters (control : Control) : Option UartRegs :=
  match control.data with
  | [mode, bd, smod, th1, low, high] =>
      some ⟨mode.toNat, bd.toNat, smod.toNat, th1.toNat, low.toNat + 256 * high.toNat⟩
  | _ => none

def WithinTwoPercent (frequency divider baud : Nat) : Prop :=
  98 * (divider * baud) ≤ 100 * frequency ∧ 100 * frequency ≤ 102 * (divider * baud)

-- A setting in range whose rate is near enough to the request.
def UartRegs.Serves (regs : UartRegs) (baud : Nat) : Prop :=
  regs.byTH1 ≤ 255 ∧ regs.wS0REL ≤ 1023 ∧
    if regs.byBD = 0 then WithinTwoPercent (source regs.bySMOD) (384 * (256 - regs.byTH1)) baud
    else WithinTwoPercent (source regs.bySMOD) (64 * (1024 - regs.wS0REL)) baud

def TimerServes (bySMOD baud : Nat) : Prop :=
  ∃ byTH1 : Nat, byTH1 ≤ 255 ∧ (byTH1 : Int) = 256 - rate (source bySMOD) 384 baud ∧
    WithinTwoPercent (source bySMOD) (384 * (256 - byTH1)) baud

def GeneratorServes (bySMOD baud : Nat) : Prop :=
  ∃ wS0REL : Nat, wS0REL ≤ 1023 ∧ (wS0REL : Int) = 1024 - rate (source bySMOD) 64 baud ∧
    WithinTwoPercent (source bySMOD) (64 * (1024 - wS0REL)) baud

def Selected (baud : Nat) : Except Undefined Int × List Control → Prop
  | (.error _, _) => False
  | (.ok bRetVal, issued) =>
      (∀ control ∈ issued, ∃ regs, readRegisters control = some regs ∧ regs.Serves baud) ∧
        ((∃ bySMOD < 2, TimerServes bySMOD baud ∨ GeneratorServes bySMOD baud) → bRetVal = TRUE)

theorem device_error_small (actual baud : Nat) (positive : 0 < baud) :
    deviceError actual baud ≤ 2 ↔ 100 * (baud - actual) < 3 * baud ∧ 100 * (actual - baud) < 3 * baud := by
  rw [deviceError]
  split
  · rw [← Nat.lt_succ_iff, Nat.div_lt_iff_lt_mul positive]
    omega
  · rw [← Nat.lt_succ_iff, Nat.div_lt_iff_lt_mul positive]
    omega

section Setting

variable (bias unit frequency baud : Nat)

-- Below the range the rate is far too low.
theorem error_below (wide : 256 ≤ bias ∧ bias ≤ 1024) (unit_positive : 0 < unit) (positive : 0 < baud)
    (low : rate frequency unit baud < bias - 255) :
    ¬ deviceError (rate frequency unit (reloaded bias (rate frequency unit baud))) baud ≤ 2 := by
  have range := reloaded_range bias (rate frequency unit baud)
  have below := reloaded_below bias (rate frequency unit baud) wide.1 low
  have cross := rate_cross frequency unit (reloaded bias (rate frequency unit baud)) baud unit_positive positive
  generalize rate frequency unit baud = steps at *
  generalize reloaded bias steps = divider at *
  generalize rate frequency unit divider = actual at *
  rw [device_error_small actual baud positive]
  rintro ⟨near, _⟩
  have scaled : (steps + 1) * baud + 255 * baud ≤ divider * baud := by
    rw [← Nat.add_mul]
    exact Nat.mul_le_mul_right baud (by omega)
  have gap : (baud - actual) * divider ≤ (baud - actual) * 1024 := Nat.mul_le_mul_left _ (by omega)
  rw [Nat.sub_mul, Nat.mul_comm baud divider] at gap
  omega

-- Above it the rate is far too high.
theorem error_above (wide : 256 ≤ bias ∧ bias ≤ 1024) (unit_positive : 0 < unit) (positive : 0 < baud)
    (plenty : baud < 5 → 2 * bias ≤ rate frequency unit baud) (high : bias < rate frequency unit baud) :
    ¬ deviceError (rate frequency unit (reloaded bias (rate frequency unit baud))) baud ≤ 2 := by
  have range := reloaded_range bias (rate frequency unit baud)
  have above := reloaded_above bias (rate frequency unit baud) wide.1 high
  rw [device_error_small _ baud positive]
  rintro ⟨_, near⟩
  by_cases few : baud < 5
  · have twice := rate_multiple frequency unit 2 baud (reloaded bias (rate frequency unit baud)) unit_positive
      (by omega) (by have := plenty few; omega)
    omega
  · have cross := rate_cross frequency unit baud (reloaded bias (rate frequency unit baud)) unit_positive (by omega)
    generalize rate frequency unit baud = steps at *
    generalize reloaded bias steps = divider at *
    generalize rate frequency unit divider = actual at *
    have scaled : divider * baud + 256 * baud ≤ steps * baud := by
      rw [← Nat.add_mul]
      exact Nat.mul_le_mul_right baud above
    have gap : (actual + 1 - baud) * divider ≤ (actual + 1 - baud) * 1024 := Nat.mul_le_mul_left _ (by omega)
    rw [Nat.sub_mul, Nat.mul_comm baud divider] at gap
    omega

theorem setting_accepted (wide : 256 ≤ bias ∧ bias ≤ 1024) (unit_positive : 0 < unit) (positive : 0 < baud)
    (plenty : baud < 5 → 2 * bias ≤ rate frequency unit baud) :
    deviceError (rate frequency unit (reloaded bias (rate frequency unit baud))) baud ≤ 2 ↔
      bias - 255 ≤ rate frequency unit baud ∧ rate frequency unit baud ≤ bias ∧
        100 * (rate frequency unit (rate frequency unit baud) - baud) < 3 * baud := by
  by_cases low : rate frequency unit baud < bias - 255
  · have refused := error_below bias unit frequency baud wide unit_positive positive low
    simp only [refused, false_iff]
    omega
  by_cases high : bias < rate frequency unit baud
  · have refused := error_above bias unit frequency baud wide unit_positive positive plenty high
    simp only [refused, false_iff]
    omega
  · rw [reloaded_inside bias _ wide.1 (by omega) (by omega), device_error_small _ baud positive]
    have least := rate_multiple frequency unit 1 baud (rate frequency unit baud) unit_positive (by omega) (by omega)
    omega

-- Requests from 2^20 on are out of reach, whatever the product wraps to.
theorem setting_refused (steps : Nat) (unit_positive : 0 < unit) (wide : 256 ≤ bias)
    (slow : frequency < 524288 * (unit * (bias - 255))) (fast : 1048576 ≤ baud) :
    ¬ deviceError (rate frequency unit (reloaded bias steps)) baud ≤ 2 ∧ ¬ bias - 255 ≤ rate frequency unit baud := by
  have range := reloaded_range bias steps
  have lowest := Nat.mul_pos unit_positive (by omega : 0 < bias - 255)
  have bounded : rate frequency unit (bias - 255) < 524288 := (Nat.div_lt_iff_lt_mul lowest).mpr slow
  have slower : rate frequency unit (reloaded bias steps) ≤ rate frequency unit (bias - 255) :=
    Nat.div_le_div_left (Nat.mul_le_mul_left unit range.1) lowest
  constructor
  · rw [device_error_small _ baud (by omega)]
    omega
  · intro reached
    have least := rate_multiple frequency unit 1 baud (bias - 255) unit_positive (by omega) (by omega)
    omega

theorem wrapped_accepted (modulus : Nat) (wide : 256 ≤ bias ∧ bias ≤ 1024) (unit_positive : 0 < unit) (positive : 0 < baud)
    (plenty : baud < 5 → 2 * bias ≤ rate frequency unit baud) (slow : frequency < 524288 * (unit * (bias - 255)))
    (room : unit * 1048576 ≤ modulus) :
    deviceError (rate frequency unit (reloaded bias (frequency / (unit * baud % modulus)))) baud ≤ 2 ↔
      bias - 255 ≤ rate frequency unit baud ∧ rate frequency unit baud ≤ bias ∧
        100 * (rate frequency unit (rate frequency unit baud) - baud) < 3 * baud := by
  by_cases fast : 1048576 ≤ baud
  · obtain ⟨refused, few⟩ := setting_refused bias unit frequency baud _ unit_positive wide.1 slow fast
    exact iff_of_false refused fun near => few near.1
  · have small : unit * baud < modulus :=
      Nat.lt_of_lt_of_le ((Nat.mul_lt_mul_left unit_positive).mpr (by omega)) room
    rw [Nat.mod_eq_of_lt small]
    exact setting_accepted bias unit frequency baud wide unit_positive positive plenty

end Setting

-- A setting of Timer 1 whose rate, as the code truncates it, is less than 3
-- percent too high, and one that is at most 2 percent too high.
def TimerNear (bySMOD baud : Nat) : Prop :=
  1 ≤ rate (source bySMOD) 384 baud ∧ rate (source bySMOD) 384 baud ≤ 256 ∧
    100 * (rate (source bySMOD) 384 (rate (source bySMOD) 384 baud) - baud) < 3 * baud

instance (bySMOD baud : Nat) : Decidable (TimerNear bySMOD baud) := inferInstanceAs (Decidable (_ ∧ _ ∧ _))

def TimerClose (bySMOD baud : Nat) : Prop :=
  100 * source bySMOD ≤ 102 * (384 * rate (source bySMOD) 384 baud * baud)

-- The generator's reload value fits the byte that it is cast to.
def GeneratorNear (bySMOD baud : Nat) : Prop :=
  769 ≤ rate (source bySMOD) 64 baud ∧ rate (source bySMOD) 64 baud ≤ 1024

instance (bySMOD baud : Nat) : Decidable (GeneratorNear bySMOD baud) := inferInstanceAs (Decidable (_ ∧ _))

def GeneratorClose (bySMOD baud : Nat) : Prop :=
  rate (source bySMOD) 64 baud ≠ 0 ∧ 100 * source bySMOD ≤ 102 * (64 * rate (source bySMOD) 64 baud * baud)

structure Selectable (long : Long) (baud : Nat) : Prop where
  divides : 384 * baud % long.modulus ≠ 0
  timer : TimerNear 0 baud → TimerClose 0 baud
  faster_timer : ¬ TimerNear 0 baud → TimerNear 1 baud → TimerClose 1 baud
  generator : ¬ TimerNear 0 baud → ¬ TimerNear 1 baud → ¬ GeneratorNear 0 baud → ¬ GeneratorNear 1 baud →
    ∀ bySMOD < 2, rate (source bySMOD) 64 baud < 769 → ¬ GeneratorClose bySMOD baud

section Serving

variable (bySMOD baud : Nat)

theorem within_quotient (unit : Nat) (divider : Nat) (same : divider = rate (source bySMOD) unit baud) :
    WithinTwoPercent (source bySMOD) (unit * divider) baud ↔ 100 * source bySMOD ≤ 102 * (unit * divider * baud) := by
  have least := Nat.div_mul_le_self (source bySMOD) (unit * baud)
  have product : unit * divider * baud = source bySMOD / (unit * baud) * (unit * baud) := by
    rw [same, rate]
    ac_rfl
  rw [WithinTwoPercent]
  omega

theorem timer_serves_iff : TimerServes bySMOD baud ↔
    (1 ≤ rate (source bySMOD) 384 baud ∧ rate (source bySMOD) 384 baud ≤ 256) ∧ TimerClose bySMOD baud := by
  constructor
  · rintro ⟨byTH1, bound, reload, within⟩
    have same : 256 - byTH1 = rate (source bySMOD) 384 baud := by omega
    rw [within_quotient bySMOD baud 384 _ same, same] at within
    exact ⟨by omega, within⟩
  · rintro ⟨range, near⟩
    have same : 256 - (256 - rate (source bySMOD) 384 baud) = rate (source bySMOD) 384 baud := by omega
    refine ⟨256 - rate (source bySMOD) 384 baud, by omega, by omega, ?_⟩
    rw [within_quotient bySMOD baud 384 _ same, same]
    exact near

theorem generator_serves_iff : GeneratorServes bySMOD baud ↔
    rate (source bySMOD) 64 baud ≤ 1024 ∧ GeneratorClose bySMOD baud := by
  constructor
  · rintro ⟨wS0REL, bound, reload, within⟩
    have same : 1024 - wS0REL = rate (source bySMOD) 64 baud := by omega
    rw [within_quotient bySMOD baud 64 _ same, same] at within
    exact ⟨by omega, by omega, within⟩
  · rintro ⟨range, nonzero, near⟩
    have same : 1024 - (1024 - rate (source bySMOD) 64 baud) = rate (source bySMOD) 64 baud := by omega
    refine ⟨1024 - rate (source bySMOD) 64 baud, by omega, by omega, ?_⟩
    rw [within_quotient bySMOD baud 64 _ same, same]
    exact near

theorem timer_close_near (positive : 0 < baud) (served : TimerServes bySMOD baud) : TimerNear bySMOD baud := by
  obtain ⟨range, close⟩ := (timer_serves_iff bySMOD baud).mp served
  refine ⟨range.1, range.2, ?_⟩
  have made := Nat.div_mul_le_self (source bySMOD) (384 * rate (source bySMOD) 384 baud)
  have bounded : 100 * rate (source bySMOD) 384 (rate (source bySMOD) 384 baud) ≤ 102 * baud := by
    apply Nat.le_of_mul_le_mul_right (c := 384 * rate (source bySMOD) 384 baud) _ (by omega)
    calc 100 * rate (source bySMOD) 384 (rate (source bySMOD) 384 baud) * (384 * rate (source bySMOD) 384 baud)
        = 100 * (source bySMOD / (384 * rate (source bySMOD) 384 baud) * (384 * rate (source bySMOD) 384 baud)) := by
          rw [Nat.mul_assoc, ← rate]
      _ ≤ 100 * source bySMOD := Nat.mul_le_mul_left 100 made
      _ ≤ 102 * (384 * rate (source bySMOD) 384 baud * baud) := close
      _ = 102 * baud * (384 * rate (source bySMOD) 384 baud) := by ac_rfl
  omega

theorem generator_near_close (positive : 0 < baud) (near : GeneratorNear bySMOD baud) : GeneratorClose bySMOD baud := by
  refine ⟨by have := near.1; omega, ?_⟩
  have most := Nat.lt_mul_div_succ (source bySMOD) (by omega : 0 < 64 * baud)
  have spread : 64 * baud * 769 ≤ 64 * baud * rate (source bySMOD) 64 baud := Nat.mul_le_mul_left _ near.1
  have same : 64 * rate (source bySMOD) 64 baud * baud = 64 * baud * rate (source bySMOD) 64 baud := by ac_rfl
  rw [Nat.mul_succ, ← rate] at most
  omega

theorem generator_error (positive : 0 < baud) (near : GeneratorNear bySMOD baud) :
    100 * (rate (source bySMOD) 64 (rate (source bySMOD) 64 baud) - baud) < 3 * baud := by
  have cross := rate_cross (source bySMOD) 64 (rate (source bySMOD) 64 baud) baud (by omega) positive
  have least := near.1
  generalize rate (source bySMOD) 64 baud = steps at *
  generalize rate (source bySMOD) 64 steps = actual at *
  have gap : (actual - baud) * 769 ≤ (actual - baud) * steps := Nat.mul_le_mul_left _ least
  rw [Nat.sub_mul actual baud steps, Nat.mul_comm baud steps] at gap
  rw [Nat.add_mul] at cross
  omega

end Serving

theorem for_both (holds : Nat → Prop) (low : holds 0) (high : holds 1) (bySMOD : Nat) (small : bySMOD < 2) :
    holds bySMOD := by
  have few : bySMOD = 0 ∨ bySMOD = 1 := by omega
  cases few with
  | inl zero => exact zero ▸ low
  | inr one => exact one ▸ high

theorem source_range : ∀ bySMOD < 2, 60000000 ≤ source bySMOD ∧ source bySMOD ≤ 120000000 :=
  for_both _ (by simp [source, crystalFrequency]) (by simp [source, crystalFrequency])

theorem modulus_room (long : Long) : 402653184 ≤ long.modulus := by
  cases long <;> decide

section Combination

variable (long : Long) (bySMOD baud : Nat)

theorem rate_plenty (unit bias : Nat) (small : bySMOD < 2) (positive : 0 < baud) (unit_positive : 0 < unit)
    (room : bias * unit ≤ 7500000) (few : baud < 5) : 2 * bias ≤ rate (source bySMOD) unit baud := by
  have range := source_range bySMOD small
  rw [rate, Nat.le_div_iff_mul_le (Nat.mul_pos unit_positive positive)]
  calc 2 * bias * (unit * baud) = 2 * (bias * unit) * baud := by ac_rfl
    _ ≤ 2 * 7500000 * 4 := Nat.mul_le_mul (Nat.mul_le_mul_left 2 room) (by omega)
    _ ≤ source bySMOD := range.1

theorem timer_accepted (small : bySMOD < 2) (positive : 0 < baud) :
    deviceError (rate (source bySMOD) 384 (reloaded 256 (source bySMOD / (384 * baud % long.modulus)))) baud ≤ 2 ↔
      TimerNear bySMOD baud := by
  have range := source_range bySMOD small
  have room := modulus_room long
  exact wrapped_accepted 256 384 (source bySMOD) baud long.modulus (by omega) (by omega) positive
    (rate_plenty bySMOD baud 384 256 small positive (by omega) (by omega)) (by omega) (by omega)

theorem generator_accepted (small : bySMOD < 2) (positive : 0 < baud) :
    deviceError (rate (source bySMOD) 64 (reloaded 1024 (source bySMOD / (64 * baud % long.modulus)))) baud ≤ 2 ↔
      GeneratorNear bySMOD baud := by
  have range := source_range bySMOD small
  have room := modulus_room long
  have accepted := wrapped_accepted 1024 64 (source bySMOD) baud long.modulus (by omega) (by omega) positive
    (rate_plenty bySMOD baud 64 1024 small positive (by omega) (by omega)) (by omega) (by omega)
  constructor
  · intro tested
    have near := accepted.mp tested
    exact ⟨near.1, near.2.1⟩
  · intro near
    exact accepted.mpr ⟨near.1, near.2, generator_error bySMOD baud positive near⟩

-- A divider in range is that of a request that does not wrap.
theorem divider_unwrapped (unit least : Nat) (small : bySMOD < 2) (least_positive : 0 < least)
    (reached : least ≤ rate (source bySMOD) unit baud) (room : 120000000 < long.modulus) :
    unit * baud % long.modulus = unit * baud := by
  have range := source_range bySMOD small
  apply Nat.mod_eq_of_lt
  by_cases zero : unit * baud = 0
  · omega
  · have product := (Nat.le_div_iff_mul_le (by omega : 0 < unit * baud)).mp reached
    have more : unit * baud ≤ least * (unit * baud) := Nat.le_mul_of_pos_left _ least_positive
    omega

end Combination

section Calculated

variable (long : Long) (bySMOD baud : Nat)

theorem calculated_timer (small : bySMOD < 2) (divides : 384 * baud % long.modulus ≠ 0) :
    calculateDeviceUARTRegisterSettings long 1 ⟨1, 0, bySMOD, 0, 0⟩ baud =
      .ok (decide (TimerNear bySMOD baud), ⟨1, 0, bySMOD, reload 256 (source bySMOD / (384 * baud % long.modulus)), 0⟩) := by
  have positive : baud ≠ 0 := by
    rintro rfl
    exact divides (Nat.zero_mod _)
  have accepted := timer_accepted long bySMOD baud small (by omega)
  simp only [calculateDeviceUARTRegisterSettings, deviceRate, if_true, if_neg divides, if_neg positive, Except.ok.injEq,
    Prod.mk.injEq, and_true, decide_eq_decide]
  exact accepted

theorem calculated_generator (small : bySMOD < 2) (divides : 64 * baud % long.modulus ≠ 0) :
    calculateDeviceUARTRegisterSettings long 1 ⟨1, 1, bySMOD, 0, 0⟩ baud =
      .ok (decide (GeneratorNear bySMOD baud),
        ⟨1, 1, bySMOD, 0, reload 1024 (source bySMOD / (64 * baud % long.modulus))⟩) := by
  have positive : baud ≠ 0 := by
    rintro rfl
    exact divides (Nat.zero_mod _)
  have accepted := generator_accepted long bySMOD baud small (by omega)
  have byte : ¬ reload 1024 (source bySMOD / (64 * baud % long.modulus)) > 1023 := by
    simp only [reload]
    omega
  simp only [calculateDeviceUARTRegisterSettings, deviceRate, Nat.one_ne_zero, if_false, if_neg divides, if_neg byte,
    if_neg positive, Except.ok.injEq, Prod.mk.injEq, and_true, decide_eq_decide]
  exact accepted

theorem calculated_divides (regs : UartRegs) (timer : regs.byBD = 0) (zero : 384 * baud % long.modulus = 0) :
    calculateDeviceUARTRegisterSettings long 1 regs baud = .error .dividesByZero := by
  simp only [calculateDeviceUARTRegisterSettings, deviceRate, if_pos timer, if_pos zero]

end Calculated

section Tried

variable (long : Long) (usb : Answers) (baud : Nat)

theorem tried_skipped (k : Nat) (rest : List Nat) (bRetVal : Int) (regs : UartRegs) (near : Prop) [Decidable near]
    (calculated : calculateDeviceUARTRegisterSettings long 1 (combination k) baud = .ok (decide near, regs))
    (off : ¬ near) : tryCombinations long baud (k :: rest) bRetVal = tryCombinations long baud rest FALSE := by
  rw [tryCombinations, calculated, decide_eq_false off]

theorem tried_taken (k : Nat) (rest : List Nat) (bRetVal : Int) (regs : UartRegs) (near : Prop) [Decidable near]
    (calculated : calculateDeviceUARTRegisterSettings long 1 (combination k) baud = .ok (decide near, regs)) (on : near)
    (succeed : Succeed usb (exchange usb (tryCombinations long baud (k :: rest) bRetVal)).2) :
    exchange usb (tryCombinations long baud (k :: rest) bRetVal) = (.ok TRUE, [setDeviceUARTRegisters regs]) := by
  have issued : tryCombinations long baud (k :: rest) bRetVal =
      .call (setDeviceUARTRegisters regs) fun bRet =>
        if bRet < 0 then tryCombinations long baud rest FALSE else .done TRUE := by
    rw [tryCombinations, calculated, decide_eq_true on]
    rfl
  rw [issued] at succeed ⊢
  have answered := (succeeds_first usb (setDeviceUARTRegisters regs) _ [] succeed).1
  rw [exchange, eval, issueNext, if_neg (Int.not_lt.mpr answered)]
  rfl

theorem selected_taken (regs : UartRegs) (read : readRegisters (setDeviceUARTRegisters regs) = some regs) :
    Selected baud (.ok TRUE, [setDeviceUARTRegisters regs]) ↔ regs.Serves baud := by
  simp [Selected, read]

theorem read_registers (byBD bySMOD byTH1 wS0REL : Nat) (bd : byBD < 256) (smod : bySMOD < 256) (th1 : byTH1 < 256)
    (s0rel : wS0REL < 65536) :
    readRegisters (setDeviceUARTRegisters ⟨1, byBD, bySMOD, byTH1, wS0REL⟩) = some ⟨1, byBD, bySMOD, byTH1, wS0REL⟩ := by
  have low : wS0REL % 256 + 256 * (wS0REL / 256 % 256) = wS0REL := by omega
  simp only [readRegisters, setDeviceUARTRegisters, UartRegs.bytes, UInt8.toNat_ofNat', Nat.mod_eq_of_lt bd,
    Nat.mod_eq_of_lt smod, Nat.mod_eq_of_lt th1, Nat.reducePow, Nat.reduceMod, low]

variable (bySMOD : Nat)

theorem timer_selected (small : bySMOD < 2) (near : TimerNear bySMOD baud) :
    Selected baud (.ok TRUE, [setDeviceUARTRegisters
      ⟨1, 0, bySMOD, reload 256 (source bySMOD / (384 * baud % long.modulus)), 0⟩]) ↔ TimerClose bySMOD baud := by
  have room := modulus_room long
  have byte : reload 256 (source bySMOD / (384 * baud % long.modulus)) < 256 := by
    simp only [reload]
    omega
  have same : 256 - reload 256 (source bySMOD / (384 * baud % long.modulus)) = rate (source bySMOD) 384 baud := by
    rw [divider_unwrapped long bySMOD baud 384 1 small (by omega) near.1 (by omega), ← rate, ← reloaded]
    exact reloaded_inside 256 _ (by omega) near.1 near.2.1
  rw [selected_taken baud _ (read_registers 0 bySMOD _ 0 (by decide) (Nat.lt_trans small (by decide)) byte (by decide)),
    UartRegs.Serves, if_pos rfl, within_quotient bySMOD baud 384 _ same, same, TimerClose]
  constructor
  · rintro ⟨_, _, close⟩
    exact close
  · intro close
    exact ⟨Nat.le_of_lt_succ byte, Nat.zero_le _, close⟩

theorem generator_selected (small : bySMOD < 2) (positive : 0 < baud) (near : GeneratorNear bySMOD baud) :
    Selected baud (.ok TRUE, [setDeviceUARTRegisters
      ⟨1, 1, bySMOD, 0, reload 1024 (source bySMOD / (64 * baud % long.modulus))⟩]) := by
  have room := modulus_room long
  have byte : reload 1024 (source bySMOD / (64 * baud % long.modulus)) < 256 := by
    simp only [reload]
    omega
  have same : 1024 - reload 1024 (source bySMOD / (64 * baud % long.modulus)) = rate (source bySMOD) 64 baud := by
    rw [divider_unwrapped long bySMOD baud 64 769 small (by omega) near.1 (by omega), ← rate, ← reloaded]
    exact reloaded_inside 1024 _ (by omega) near.1 near.2
  have close := generator_near_close bySMOD baud positive near
  rw [selected_taken baud _ (read_registers 1 bySMOD 0 _ (by decide) (Nat.lt_trans small (by decide)) (by decide)
    (Nat.lt_trans byte (by decide))), UartRegs.Serves, if_neg Nat.one_ne_zero, within_quotient bySMOD baud 64 _ same, same]
  exact ⟨Nat.zero_le _, Nat.le_of_lt (Nat.lt_trans byte (by decide)), close.2⟩

end Tried

theorem none_selected (baud : Nat) (positive : 0 < baud) (timer : ∀ bySMOD < 2, ¬ TimerNear bySMOD baud)
    (generator : ∀ bySMOD < 2, ¬ GeneratorNear bySMOD baud) :
    Selected baud (.ok FALSE, []) ↔
      ∀ bySMOD < 2, rate (source bySMOD) 64 baud < 769 → ¬ GeneratorClose bySMOD baud := by
  constructor
  · rintro ⟨_, reported⟩ bySMOD small low close
    have served := (generator_serves_iff bySMOD baud).mpr ⟨by omega, close⟩
    exact absurd (reported ⟨bySMOD, small, .inr served⟩) (by decide)
  · intro off
    refine ⟨by simp, ?_⟩
    rintro ⟨bySMOD, small, served | served⟩
    · exact absurd (timer_close_near bySMOD baud positive served) (timer bySMOD small)
    · obtain ⟨high, close⟩ := (generator_serves_iff bySMOD baud).mp served
      have low : rate (source bySMOD) 64 baud < 769 := by
        by_contra more
        exact generator bySMOD small ⟨by omega, high⟩
      exact absurd close (off bySMOD small low)

theorem baudrate_iff (long : Long) (BaudRate : UInt32) (usb : Answers)
    (succeed : Succeed usb (exchange usb (mchpUsbSetUARTBaudrate long BaudRate)).2) :
    Selected BaudRate.toNat (exchange usb (mchpUsbSetUARTBaudrate long BaudRate)) ↔ Selectable long BaudRate.toNat := by
  rw [mchpUsbSetUARTBaudrate] at succeed ⊢
  generalize BaudRate.toNat = baud at succeed ⊢
  by_cases zero : 384 * baud % long.modulus = 0
  · have divided : exchange usb (tryCombinations long baud [0, 1, 2, 3] FALSE) = (.error .dividesByZero, []) := by
      rw [tryCombinations, calculated_divides long baud _ rfl zero]
      rfl
    rw [divided]
    exact iff_of_false id fun selectable => selectable.divides zero
  have positive : 0 < baud := by
    by_contra none
    exact zero (by simp [Nat.eq_zero_of_not_pos none])
  have generator_divides : 64 * baud % long.modulus ≠ 0 := by
    intro wrapped
    have multiple : 384 * baud = 6 * (64 * baud) := by omega
    exact zero (by rw [multiple, Nat.mul_mod, wrapped, Nat.mul_zero, Nat.zero_mod])
  have first := calculated_timer long 0 baud (by decide) zero
  have second := calculated_timer long 1 baud (by decide) zero
  have third := calculated_generator long 0 baud (by decide) generator_divides
  have fourth := calculated_generator long 1 baud (by decide) generator_divides
  -- The first combination that the code accepts is the one it programs.
  by_cases near : TimerNear 0 baud
  · rw [tried_taken long usb baud 0 _ _ _ _ first near succeed, timer_selected long baud 0 (by decide) near]
    exact ⟨fun close => ⟨zero, fun _ => close, fun off => absurd near off, fun off => absurd near off⟩,
      fun selectable => selectable.timer near⟩
  rw [tried_skipped long baud 0 _ _ _ _ first near] at succeed ⊢
  by_cases faster : TimerNear 1 baud
  · rw [tried_taken long usb baud 1 _ _ _ _ second faster succeed, timer_selected long baud 1 (by decide) faster]
    exact ⟨fun close => ⟨zero, fun on => absurd on near, fun _ _ => close, fun _ off => absurd faster off⟩,
      fun selectable => selectable.faster_timer near faster⟩
  rw [tried_skipped long baud 1 _ _ _ _ second faster] at succeed ⊢
  by_cases slow : GeneratorNear 0 baud
  · rw [tried_taken long usb baud 2 _ _ _ _ third slow succeed]
    exact iff_of_true (generator_selected long baud 0 (by decide) positive slow)
      ⟨zero, fun on => absurd on near, fun _ on => absurd on faster, fun _ _ off => absurd slow off⟩
  rw [tried_skipped long baud 2 _ _ _ _ third slow] at succeed ⊢
  by_cases fast : GeneratorNear 1 baud
  · rw [tried_taken long usb baud 3 _ _ _ _ fourth fast succeed]
    exact iff_of_true (generator_selected long baud 1 (by decide) positive fast)
      ⟨zero, fun on => absurd on near, fun _ on => absurd on faster, fun _ _ _ off => absurd fast off⟩
  rw [tried_skipped long baud 3 _ _ _ _ fourth fast]
  have none_timer := for_both (fun bySMOD => ¬ TimerNear bySMOD baud) near faster
  have none_generator := for_both (fun bySMOD => ¬ GeneratorNear bySMOD baud) slow fast
  have ended : exchange usb (tryCombinations long baud [] FALSE) = (.ok FALSE, []) := rfl
  rw [ended, none_selected baud positive none_timer none_generator]
  exact ⟨fun off => ⟨zero, fun on => absurd on near, fun _ on => absurd on faster, fun _ _ _ _ => off⟩,
    fun selectable => selectable.generator near faster slow fast⟩

theorem baudrate_9600 : Selected 9600 (exchange (fun _ => 6) (mchpUsbSetUARTBaudrate .bits32 9600)) :=
  (baudrate_iff .bits32 9600 (fun _ => 6) (by decide)).mpr
    ⟨by decide, fun _ => by unfold TimerClose; decide, fun off => absurd (by decide) off, fun off => absurd (by decide) off⟩

-- 115200 is one of the rates that the header suggests. The reload value 1016 of
-- the generator is within 2 percent of it, but its byte is 248.
theorem baudrate_115200 : ¬ ∀ (long : Long) (BaudRate : UInt32) (usb : Answers),
    Succeed usb (exchange usb (mchpUsbSetUARTBaudrate long BaudRate)).2 →
      Selected BaudRate.toNat (exchange usb (mchpUsbSetUARTBaudrate long BaudRate)) := by
  intro all
  have refused : exchange (fun _ => 6) (mchpUsbSetUARTBaudrate .bits32 115200) = (.ok FALSE, []) := rfl
  have selected := all .bits32 115200 (fun _ => 6) (by rw [refused]; decide)
  rw [refused] at selected
  have served : GeneratorServes 0 115200 :=
    ⟨1016, by decide, by decide, by unfold WithinTwoPercent; decide⟩
  exact absurd (selected.2 ⟨0, by decide, .inr served⟩) (by decide)

end SummitSom.Hub
