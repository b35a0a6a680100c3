import Mathlib.Logic.Function.Basic
import Mathlib.Tactic.IntervalCases
import Mathlib.Tactic.Ring

set_option autoImplicit false

namespace SummitSom.Pac193x

-- The bytes of a snapshot. Reading past its end does not happen: both buffers
-- have their full length.
abbrev Bytes := List UInt8

def byteAt (regs : Bytes) (offset : Nat) : Nat := (regs.getD offset 0).toNat

def bigEndian (regs : Bytes) (offset : Nat) : Nat → Nat
  | 0 => 0
  | len + 1 => bigEndian regs offset len * 256 + byteAt regs (offset + len)

-- sign_extend32 and sign_extend64: the bit with that index becomes the sign.
def signExtend (value index : Nat) : Int := Int.bmod value (2 ^ (index + 1))

def wrap (bits : Nat) (value : Int) : Int := Int.bmod value (2 ^ bits)

def mACC_COUNT (regs : Bytes) (offset : Nat) : Nat := bigEndian regs offset 3

def mVPOWER_ACCu (regs : Bytes) (offset : Nat) : Int := bigEndian regs offset 6

def mVPOWER_ACCs (regs : Bytes) (offset : Nat) : Int := signExtend (bigEndian regs offset 6) 47

def mVPOWERu (regs : Bytes) (offset : Nat) : Int := (bigEndian regs offset 4 / 16 : Nat)

def mVPOWERs (regs : Bytes) (offset : Nat) : Int := signExtend (bigEndian regs offset 4 / 16) 3

def mVBUS_SENSEu (regs : Bytes) (offset : Nat) : Int := bigEndian regs offset 2

def mVBUS_SENSEs (regs : Bytes) (offset : Nat) : Int := wrap 16 (bigEndian regs offset 2)

def samp_rate_map_tbl : List Nat := [1024, 256, 64, 8]

def getCountOrder (count : Nat) : Nat := if count &&& (count - 1) = 0 then count.log2 else count.log2 + 1

def accRegLen : Nat := 3
def vpowerAccRegLen : Nat := 6
def vbusSenseRegLen : Nat := 2
def vpowerRegLen : Nat := 4
def ctrlLatRegOff : Nat := 6
def channelDisLatRegOff : Nat := 7
def measRegSnapshotLen : Nat := 76
def ctrlRegSnapshotLen : Nat := 12

structure RegData where
  bi_dir : Nat → Bool
  meas_regs : Bytes
  ctrl_regs : Bytes
  acc_count : Nat
  energy_sec_acc : Nat → Int
  vpower_acc : Nat → Int
  vpower : Nat → Int
  vbus : Nat → Int
  vbus_avg : Nat → Int
  vsense : Nat → Int
  vsense_avg : Nat → Int

-- The memset of probe.
def clearedData : RegData where
  bi_dir _ := false
  meas_regs := []
  ctrl_regs := []
  acc_count := 0
  energy_sec_acc _ := 0
  vpower_acc _ := 0
  vpower _ := 0
  vbus _ := 0
  vbus_avg _ := 0
  vsense _ := 0
  vsense_avg _ := 0

-- The latched CHANNEL_DIS byte has channel 0 in its highest bit.
def active (ctrl_regs : Bytes) (cnt : Nat) : Bool := (byteAt ctrl_regs channelDisLatRegOff <<< cnt) &&& 0x80 = 0

def sampRate (ctrl_regs : Bytes) : Nat := samp_rate_map_tbl.getD (byteAt ctrl_regs ctrlLatRegOff >>> 6) 0

def sampShift (ctrl_regs : Bytes) : Nat := getCountOrder (sampRate ctrl_regs)

-- One loop over the channels: store runs for the active ones, at an offset that
-- moves on by len each time.
def channelLoop (len : Nat) (store : Nat → Nat → RegData → RegData) : List Nat → Nat × RegData → Nat × RegData
  | [], s => s
  | cnt :: rest, (offset, data) =>
      channelLoop len store rest (if active data.ctrl_regs cnt then (offset + len, store cnt offset data) else (offset, data))

def storeVpowerAcc (cnt offset : Nat) (data : RegData) : RegData :=
  let vpower_acc := if data.bi_dir cnt then mVPOWER_ACCs data.meas_regs offset else mVPOWER_ACCu data.meas_regs offset
  let energy := wrap 64 (vpower_acc * data.acc_count) >>> sampShift data.ctrl_regs
  { data with
    vpower_acc := Function.update data.vpower_acc cnt vpower_acc
    energy_sec_acc := Function.update data.energy_sec_acc cnt (wrap 64 (data.energy_sec_acc cnt + energy)) }

def storeVbus (cnt offset : Nat) (data : RegData) : RegData :=
  { data with vbus := Function.update data.vbus cnt (mVBUS_SENSEu data.meas_regs offset) }

def senseField (data : RegData) (cnt offset : Nat) : Int :=
  if data.bi_dir cnt then mVBUS_SENSEs data.meas_regs offset else mVBUS_SENSEu data.meas_regs offset

def storeVsense (cnt offset : Nat) (data : RegData) : RegData :=
  { data with vsense := Function.update data.vsense cnt (senseField data cnt offset) }

def storeVbusAvg (cnt offset : Nat) (data : RegData) : RegData :=
  { data with vbus_avg := Function.update data.vbus_avg cnt (mVBUS_SENSEu data.meas_regs offset) }

def storeVsenseAvg (cnt offset : Nat) (data : RegData) : RegData :=
  { data with vsense_avg := Function.update data.vsense_avg cnt (senseField data cnt offset) }

def storeVpower (cnt offset : Nat) (data : RegData) : RegData :=
  { data with
    vpower := Function.update data.vpower cnt
      (if data.bi_dir cnt then mVPOWERs data.meas_regs offset else mVPOWERu data.meas_regs offset) }

-- pac193x_reg_snapshot from where both register blocks are read.
def decode (phys_channels : Nat) (data : RegData) : RegData :=
  let channels := List.range phys_channels
  let s := (accRegLen, { data with acc_count := mACC_COUNT data.meas_regs 0 })
  let s := channelLoop vpowerAccRegLen storeVpowerAcc channels s
  let s := channelLoop vbusSenseRegLen storeVbus channels s
  let s := channelLoop vbusSenseRegLen storeVsense channels s
  let s := channelLoop vbusSenseRegLen storeVbusAvg channels s
  let s := channelLoop vbusSenseRegLen storeVsenseAvg channels s
  (channelLoop vpowerRegLen storeVpower channels s).2

theorem wrap_fits (bits : Nat) (value : Int) (low : -2 ^ bits ≤ value) (high : value < 2 ^ bits) :
    wrap (bits + 1) value = value := by
  have double : ((2 ^ (bits + 1) : Nat) : Int) = 2 * 2 ^ bits := by
    push_cast
    rw [pow_succ]
    ring
  exact Int.bmod_eq_of_le_mul_two (by omega) (by omega)

theorem wrap_s64_fits (value : Int) (low : -2 ^ 63 ≤ value) (high : value < 2 ^ 63) : wrap 64 value = value :=
  wrap_fits 63 value low high

theorem wrap_fits_iff (bits : Nat) (value : Int) : wrap (bits + 1) value = value ↔ -2 ^ bits ≤ value ∧ value < 2 ^ bits := by
  constructor
  · intro same
    have low := Int.le_bmod (x := value) (m := 2 ^ (bits + 1)) (by positivity)
    have high := Int.bmod_lt (x := value) (m := 2 ^ (bits + 1)) (by positivity)
    rw [wrap] at same
    rw [same] at low high
    have double : ((2 ^ (bits + 1) : Nat) : Int) = 2 * 2 ^ bits := by
      push_cast
      rw [pow_succ]
      ring
    omega
  · intro fits
    exact wrap_fits bits value fits.1 fits.2

theorem samp_rate_power (ctrl_regs : Bytes) : sampRate ctrl_regs = 2 ^ sampShift ctrl_regs := by
  have small : byteAt ctrl_regs ctrlLatRegOff >>> 6 < 4 := by
    have bound := (ctrl_regs.getD ctrlLatRegOff 0).toNat_lt
    simp only [byteAt, Nat.shiftRight_eq_div_pow]
    omega
  unfold sampShift sampRate
  generalize byteAt ctrl_regs ctrlLatRegOff >>> 6 = code at small
  interval_cases code <;> decide

theorem channel_loop_keeps {P : Type} (part : RegData → P) (len : Nat) (store : Nat → Nat → RegData → RegData)
    (kept : ∀ cnt offset data, part (store cnt offset data) = part data) (channels : List Nat) (s : Nat × RegData) :
    part (channelLoop len store channels s).2 = part s.2 := by
  induction channels generalizing s with
  | nil => rfl
  | cons cnt rest ih =>
      rw [channelLoop, ih]
      split
      · exact kept cnt s.1 s.2
      · rfl

theorem decode_keeps {P : Type} (part : RegData → P) (phys_channels : Nat) (data : RegData)
    (vbus : ∀ cnt offset data, part (storeVbus cnt offset data) = part data)
    (vsense : ∀ cnt offset data, part (storeVsense cnt offset data) = part data)
    (vbusAvg : ∀ cnt offset data, part (storeVbusAvg cnt offset data) = part data)
    (vsenseAvg : ∀ cnt offset data, part (storeVsenseAvg cnt offset data) = part data)
    (vpower : ∀ cnt offset data, part (storeVpower cnt offset data) = part data) :
    part (decode phys_channels data) =
      part (channelLoop vpowerAccRegLen storeVpowerAcc (List.range phys_channels)
        (accRegLen, { data with acc_count := mACC_COUNT data.meas_regs 0 })).2 := by
  dsimp only [decode]
  rw [channel_loop_keeps part vpowerRegLen storeVpower vpower,
    channel_loop_keeps part vbusSenseRegLen storeVsenseAvg vsenseAvg,
    channel_loop_keeps part vbusSenseRegLen storeVbusAvg vbusAvg,
    channel_loop_keeps part vbusSenseRegLen storeVsense vsense,
    channel_loop_keeps part vbusSenseRegLen storeVbus vbus]

end SummitSom.Pac193x
