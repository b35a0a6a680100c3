import SummitSom.Pac193x.Registers
import Mathlib.Tactic.Linarith
import Mathlib.Tactic.Ring

set_option autoImplicit false

namespace SummitSom.Pac193x

structure Chip where
  acc : Nat → Nat
  count : Nat
  ctrl : Bytes

def bytesOf : Nat → Nat → Bytes
  | 0, _ => []
  | len + 1, value => bytesOf len (value / 256) ++ [UInt8.ofNat (value % 256)]

-- The answer to the block read after a REFRESH: the latched count, the latched
-- accumulators of the active channels, and the fields that follow them.
def Chip.latched (chip : Chip) (phys_channels : Nat) (fields : Bytes) : Bytes :=
  bytesOf accRegLen chip.count ++
    (((List.range phys_channels).filter (active chip.ctrl)).flatMap fun cnt => bytesOf vpowerAccRegLen (chip.acc cnt)) ++
    fields

structure Meter where
  phys_channels : Nat
  chip : Chip
  data : RegData

def Meter.sample (s : Meter) (power : Nat → Nat) : Meter :=
  { s with chip := { s.chip with acc := fun cnt => s.chip.acc cnt + power cnt, count := s.chip.count + 1 } }

-- A successful refreshing snapshot: REFRESH latches and clears, both blocks are
-- read, the driver takes them in.
def Meter.snapshot (s : Meter) (fields : Bytes) : Meter :=
  { s with
    chip := { s.chip with acc := fun _ => 0, count := 0 }
    data := decode s.phys_channels
      { s.data with ctrl_regs := s.chip.ctrl, meas_regs := s.chip.latched s.phys_channels fields } }

-- A schedule cuts the samples into windows, each ended by a snapshot.
structure Window where
  samples : List (Nat → Nat)
  fields : Bytes

def Meter.window (s : Meter) (window : Window) : Meter := (window.samples.foldl Meter.sample s).snapshot window.fields

def Meter.run (s : Meter) (windows : List Window) : Meter := windows.foldl Meter.window s

def Window.power (window : Window) (cnt : Nat) : Nat := (window.samples.map fun power => power cnt).sum

def Window.size (window : Window) : Nat := window.samples.length

theorem bytes_of_length (len value : Nat) : (bytesOf len value).length = len := by
  induction len generalizing value with
  | zero => rfl
  | succ len ih => simp [bytesOf, ih]

theorem byte_at_middle (before after : Bytes) (byte : UInt8) :
    byteAt (before ++ byte :: after) before.length = byte.toNat := by
  simp [byteAt]

theorem big_endian_bytes_of (before after : Bytes) (len value : Nat) :
    bigEndian (before ++ bytesOf len value ++ after) before.length len = value % 256 ^ len := by
  induction len generalizing value after with
  | zero => simp [bigEndian, Nat.mod_one]
  | succ len ih =>
      have parts : before ++ bytesOf (len + 1) value ++ after =
          before ++ bytesOf len (value / 256) ++ (UInt8.ofNat (value % 256) :: after) := by
        simp [bytesOf]
      have last : byteAt (before ++ bytesOf len (value / 256) ++ (UInt8.ofNat (value % 256) :: after))
          (before.length + len) = value % 256 := by
        have place : before.length + len = (before ++ bytesOf len (value / 256)).length := by
          simp [bytes_of_length]
        rw [place, byte_at_middle, UInt8.toNat_ofNat']
        omega
      rw [parts, bigEndian, ih, last, Nat.pow_succ', Nat.mod_mul]
      ring

def added (ctrl : Bytes) (power count : Nat) : Int :=
  wrap 64 ((power % 256 ^ vpowerAccRegLen : Nat) * (count : Int)) >>> sampShift ctrl

theorem store_vpower_acc_other (cnt channel offset : Nat) (data : RegData) (other : channel ≠ cnt) :
    (storeVpowerAcc cnt offset data).energy_sec_acc channel = data.energy_sec_acc channel := by
  simp [storeVpowerAcc, other]

theorem store_vpower_acc_own (channel : Nat) (data : RegData) (before after : Bytes) (value : Nat)
    (unidirectional : data.bi_dir channel = false)
    (regs : data.meas_regs = before ++ bytesOf vpowerAccRegLen value ++ after) :
    (storeVpowerAcc channel before.length data).energy_sec_acc channel =
      wrap 64 (data.energy_sec_acc channel + added data.ctrl_regs value data.acc_count) := by
  have field : mVPOWER_ACCu data.meas_regs before.length = (value % 256 ^ vpowerAccRegLen : Nat) := by
    rw [mVPOWER_ACCu, regs]
    exact congrArg Nat.cast (big_endian_bytes_of before after vpowerAccRegLen value)
  simp [storeVpowerAcc, unidirectional, field, added]

-- The loop over the channels reads the accumulators where the chip put them.
theorem vpower_acc_loop (acc : Nat → Nat) (channel : Nat) (channels : List Nat) (before after : Bytes) (data : RegData)
    (distinct : channels.Nodup) (unidirectional : data.bi_dir channel = false)
    (regs : data.meas_regs =
      before ++ ((channels.filter (active data.ctrl_regs)).flatMap fun cnt => bytesOf vpowerAccRegLen (acc cnt)) ++ after) :
    (channelLoop vpowerAccRegLen storeVpowerAcc channels (before.length, data)).2.energy_sec_acc channel =
      if channel ∈ channels ∧ active data.ctrl_regs channel then
        wrap 64 (data.energy_sec_acc channel + added data.ctrl_regs (acc channel) data.acc_count)
      else data.energy_sec_acc channel := by
  induction channels generalizing before data with
  | nil => simp [channelLoop]
  | cons cnt rest ih =>
      obtain ⟨fresh, distinct⟩ := List.nodup_cons.mp distinct
      by_cases on : active data.ctrl_regs cnt = true
      · have regs' : data.meas_regs = before ++ bytesOf vpowerAccRegLen (acc cnt) ++
            (((rest.filter (active data.ctrl_regs)).flatMap fun cnt => bytesOf vpowerAccRegLen (acc cnt)) ++ after) := by
          simpa [List.filter_cons, on] using regs
        have length : before.length + vpowerAccRegLen = (before ++ bytesOf vpowerAccRegLen (acc cnt)).length := by
          simp [bytes_of_length]
        have onward := ih (before ++ bytesOf vpowerAccRegLen (acc cnt)) (storeVpowerAcc cnt before.length data) distinct
          unidirectional (by simpa [storeVpowerAcc] using regs')
        rw [channelLoop, if_pos on, length, onward]
        by_cases own : channel = cnt
        · subst own
          rw [store_vpower_acc_own channel data before _ (acc channel) unidirectional regs']
          simp [fresh, on]
        · rw [store_vpower_acc_other cnt channel before.length data own]
          simp [own, storeVpowerAcc]
      · have regs' : data.meas_regs = before ++
            ((rest.filter (active data.ctrl_regs)).flatMap fun cnt => bytesOf vpowerAccRegLen (acc cnt)) ++ after := by
          simpa [List.filter_cons, on] using regs
        rw [channelLoop, if_neg on, ih before data distinct unidirectional regs']
        by_cases own : channel = cnt
        · subst own
          simp [fresh, on]
        · simp [own]

theorem decode_energy (phys_channels channel : Nat) (data : RegData) (chip : Chip) (fields : Bytes)
    (present : channel < phys_channels) (on : active chip.ctrl channel = true)
    (unidirectional : data.bi_dir channel = false) :
    (decode phys_channels
      { data with ctrl_regs := chip.ctrl, meas_regs := chip.latched phys_channels fields }).energy_sec_acc channel =
      wrap 64 (data.energy_sec_acc channel + added chip.ctrl (chip.acc channel) (chip.count % 256 ^ accRegLen)) := by
  have count : mACC_COUNT (chip.latched phys_channels fields) 0 = chip.count % 256 ^ accRegLen := by
    rw [Chip.latched, List.append_assoc]
    exact big_endian_bytes_of [] _ accRegLen chip.count
  have start : (bytesOf accRegLen chip.count).length = accRegLen := bytes_of_length accRegLen chip.count
  have first := vpower_acc_loop chip.acc channel (List.range phys_channels) (bytesOf accRegLen chip.count) fields
    { data with
      ctrl_regs := chip.ctrl
      meas_regs := chip.latched phys_channels fields
      acc_count := chip.count % 256 ^ accRegLen } List.nodup_range unidirectional rfl
  rw [start, if_pos ⟨List.mem_range.mpr present, on⟩] at first
  rw [decode_keeps (fun data => data.energy_sec_acc channel) _ _ (fun _ _ _ => rfl) (fun _ _ _ => rfl)
    (fun _ _ _ => rfl) (fun _ _ _ => rfl) fun _ _ _ => rfl, count]
  exact first

theorem samples_chip (samples : List (Nat → Nat)) (s : Meter) (cnt : Nat) :
    (samples.foldl Meter.sample s).chip.acc cnt = s.chip.acc cnt + (samples.map fun power => power cnt).sum ∧
      (samples.foldl Meter.sample s).chip.count = s.chip.count + samples.length := by
  induction samples generalizing s with
  | nil => simp
  | cons power rest ih =>
      have onward := ih (s.sample power)
      rw [List.foldl_cons, onward.1, onward.2]
      simp only [Meter.sample, List.map_cons, List.sum_cons, List.length_cons]
      constructor <;> omega

theorem samples_rest (samples : List (Nat → Nat)) (s : Meter) :
    (samples.foldl Meter.sample s).data = s.data ∧ (samples.foldl Meter.sample s).chip.ctrl = s.chip.ctrl ∧
      (samples.foldl Meter.sample s).phys_channels = s.phys_channels := by
  induction samples generalizing s with
  | nil => exact ⟨rfl, rfl, rfl⟩
  | cons power rest ih => exact ih (s.sample power)

structure Meter.Measures (s : Meter) (channel : Nat) : Prop where
  present : channel < s.phys_channels
  on : active s.chip.ctrl channel = true
  unidirectional : s.data.bi_dir channel = false
  cleared : s.chip.acc channel = 0 ∧ s.chip.count = 0

def Window.Fits (window : Window) (channel : Nat) : Prop :=
  window.size < 256 ^ accRegLen ∧ window.power channel < 256 ^ vpowerAccRegLen ∧
    window.power channel * window.size < 2 ^ 63

def Window.energy (window : Window) (channel k : Nat) : Nat := window.power channel * window.size / 2 ^ k

theorem added_fits (ctrl : Bytes) (window : Window) (channel : Nat) (fits : window.Fits channel) :
    added ctrl (window.power channel) (window.size % 256 ^ accRegLen) = window.energy channel (sampShift ctrl) := by
  obtain ⟨sizeFits, powerFits, productFits⟩ := fits
  have size : window.size % 256 ^ accRegLen = window.size := Nat.mod_eq_of_lt sizeFits
  have power : window.power channel % 256 ^ vpowerAccRegLen = window.power channel := Nat.mod_eq_of_lt powerFits
  have product : (window.power channel : Int) * (window.size : Int) < 2 ^ 63 := by exact_mod_cast productFits
  have positive : (0 : Int) ≤ (window.power channel : Int) * (window.size : Int) := by positivity
  have low : -(2 : Int) ^ 63 ≤ (window.power channel : Int) * (window.size : Int) :=
    le_trans (neg_nonpos.mpr (by positivity)) positive
  simp only [added, size, power]
  rw [wrap_s64_fits _ low product, Int.shiftRight_eq_div_pow, Window.energy,
    Int.natCast_ediv, Int.natCast_mul]

theorem window_measures (s : Meter) (window : Window) (channel : Nat) (measures : s.Measures channel) :
    (s.window window).Measures channel := by
  obtain ⟨data, ctrl, phys⟩ := samples_rest window.samples s
  refine ⟨?_, ?_, ?_, rfl, rfl⟩
  · simpa only [Meter.window, Meter.snapshot, phys] using measures.present
  · simpa only [Meter.window, Meter.snapshot, ctrl] using measures.on
  · have kept : (s.window window).data.bi_dir = s.data.bi_dir := by
      simp only [Meter.window, Meter.snapshot, data]
      rw [decode_keeps RegData.bi_dir _ _ (fun _ _ _ => rfl) (fun _ _ _ => rfl) (fun _ _ _ => rfl) (fun _ _ _ => rfl)
        fun _ _ _ => rfl, channel_loop_keeps RegData.bi_dir vpowerAccRegLen storeVpowerAcc fun _ _ _ => rfl]
    rw [kept]
    exact measures.unidirectional

theorem window_energy (s : Meter) (window : Window) (channel : Nat) (measures : s.Measures channel)
    (fits : window.Fits channel) :
    (s.window window).data.energy_sec_acc channel =
      wrap 64 (s.data.energy_sec_acc channel + window.energy channel (sampShift s.chip.ctrl)) := by
  obtain ⟨data, ctrl, phys⟩ := samples_rest window.samples s
  obtain ⟨acc, count⟩ := samples_chip window.samples s channel
  rw [measures.cleared.1, Nat.zero_add] at acc
  rw [measures.cleared.2, Nat.zero_add] at count
  have decoded := decode_energy s.phys_channels channel s.data (window.samples.foldl Meter.sample s).chip window.fields
    measures.present (by rw [ctrl]; exact measures.on) measures.unidirectional
  rw [acc, count, ctrl] at decoded
  have taken := added_fits s.chip.ctrl window channel fits
  simp only [Window.power, Window.size] at taken
  rw [taken] at decoded
  simpa only [Meter.window, Meter.snapshot, data, ctrl, phys] using decoded

section Accounting

variable (channel k : Nat)

def energyTotal (windows : List Window) : Nat := (windows.map fun window => window.energy channel k).sum

def powerTotal (windows : List Window) : Nat := (windows.map fun window => window.power channel).sum

-- What the factor ACC_COUNT counts beyond the samples themselves.
def surplus (windows : List Window) : Nat := (windows.map fun window => window.power channel * (window.size - 1)).sum

def rounding (windows : List Window) : Nat := (windows.map fun window => window.power channel * window.size % 2 ^ k).sum

theorem window_balance (window : Window) :
    2 ^ k * window.energy channel k + window.power channel * window.size % 2 ^ k =
      window.power channel + window.power channel * (window.size - 1) := by
  rw [Window.energy, Nat.div_add_mod]
  by_cases empty : window.samples = []
  · simp [Window.power, empty]
  · have positive : 0 < window.size := List.length_pos_iff.mpr empty
    have rest : window.size = 1 + (window.size - 1) := by omega
    rw [rest, Nat.mul_add, Nat.mul_one]
    simp

theorem windows_balance (windows : List Window) :
    2 ^ k * energyTotal channel k windows + rounding channel k windows =
      powerTotal channel windows + surplus channel windows := by
  induction windows with
  | nil => rfl
  | cons window rest ih =>
      have first := window_balance channel k window
      simp only [energyTotal, rounding, powerTotal, surplus, List.map_cons, List.sum_cons, Nat.mul_add] at ih ⊢
      omega

theorem rounding_bound (windows : List Window) : rounding channel k windows + windows.length ≤ 2 ^ k * windows.length := by
  induction windows with
  | nil => rfl
  | cons window rest ih =>
      have remainder := Nat.mod_lt (window.power channel * window.size) (Nat.two_pow_pos k)
      simp only [rounding, List.map_cons, List.sum_cons, List.length_cons, Nat.mul_add, Nat.mul_one] at ih ⊢
      omega

end Accounting

structure Meter.NoOverflow (s : Meter) (channel : Nat) (windows : List Window) : Prop where
  fits : ∀ window ∈ windows, window.Fits channel
  low : -2 ^ 63 ≤ s.data.energy_sec_acc channel
  high : s.data.energy_sec_acc channel + energyTotal channel (sampShift s.chip.ctrl) windows < 2 ^ 63

def Meter.increase (s : Meter) (channel : Nat) (windows : List Window) : Int :=
  (s.run windows).data.energy_sec_acc channel - s.data.energy_sec_acc channel

-- The increase is at most the sum of the power samples over the sample rate,
-- and less than the number of snapshots below it.
def Meter.Accurate (s : Meter) (channel : Nat) (windows : List Window) : Prop :=
  sampRate s.chip.ctrl * s.increase channel windows ≤ powerTotal channel windows ∧
    powerTotal channel windows < sampRate s.chip.ctrl * (s.increase channel windows + windows.length)

theorem window_ctrl (s : Meter) (window : Window) : (s.window window).chip.ctrl = s.chip.ctrl :=
  (samples_rest window.samples s).2.1

theorem run_increase (s : Meter) (channel : Nat) (windows : List Window) (measures : s.Measures channel)
    (bounded : s.NoOverflow channel windows) :
    s.increase channel windows = energyTotal channel (sampShift s.chip.ctrl) windows := by
  induction windows generalizing s with
  | nil => simp [Meter.increase, Meter.run, energyTotal]
  | cons window rest ih =>
      have total : energyTotal channel (sampShift s.chip.ctrl) (window :: rest) =
          window.energy channel (sampShift s.chip.ctrl) + energyTotal channel (sampShift s.chip.ctrl) rest := rfl
      have high := bounded.high
      rw [total] at high
      push_cast at high
      have low := bounded.low
      have taken := window_energy s window channel measures (bounded.fits window (by simp))
      rw [wrap_s64_fits _ (by omega) (by omega)] at taken
      have onward := ih (s.window window) (window_measures s window channel measures)
        ⟨fun other member => bounded.fits other (by simp [member]), by rw [taken]; omega, by
          rw [taken, window_ctrl]
          omega⟩
      rw [window_ctrl, Meter.increase] at onward
      have later : s.run (window :: rest) = (s.window window).run rest := rfl
      rw [total, Meter.increase, later]
      push_cast
      omega

theorem covered_accurate (s : Meter) (channel : Nat) (windows : List Window) (measures : s.Measures channel)
    (bounded : s.NoOverflow channel windows) (nonempty : windows ≠ [])
    (covered : surplus channel windows ≤ rounding channel (sampShift s.chip.ctrl) windows) : s.Accurate channel windows := by
  have balance := windows_balance channel (sampShift s.chip.ctrl) windows
  have bound := rounding_bound channel (sampShift s.chip.ctrl) windows
  have positive : 0 < windows.length := List.length_pos_iff.mpr nonempty
  rw [Meter.Accurate, run_increase s channel windows measures bounded, samp_rate_power]
  norm_cast
  rw [Nat.mul_add]
  omega

-- The accounting is exact up to rounding just when the surplus that the factor
-- ACC_COUNT brings does not exceed what the shifts round away.
theorem energy_accurate_iff (s : Meter) (channel : Nat) (windows : List Window) (measures : s.Measures channel)
    (bounded : s.NoOverflow channel windows) :
    s.Accurate channel windows ↔
      windows ≠ [] ∧ surplus channel windows ≤ rounding channel (sampShift s.chip.ctrl) windows := by
  constructor
  · intro given
    have balance := windows_balance channel (sampShift s.chip.ctrl) windows
    rw [Meter.Accurate, run_increase s channel windows measures bounded, samp_rate_power] at given
    obtain ⟨above, below⟩ := given
    norm_cast at above below
    refine ⟨?_, by omega⟩
    intro same
    subst same
    simp [powerTotal, energyTotal] at below
  · intro given
    exact covered_accurate s channel windows measures bounded given.1 given.2

theorem single_samples_accurate (s : Meter) (channel : Nat) (windows : List Window) (measures : s.Measures channel)
    (bounded : s.NoOverflow channel windows) (nonempty : windows ≠ []) (single : ∀ window ∈ windows, window.size ≤ 1) :
    s.Accurate channel windows := by
  refine covered_accurate s channel windows measures bounded nonempty ?_
  have none : surplus channel windows = 0 := by
    refine List.sum_eq_zero_iff_forall_eq_nat.mpr fun value member => ?_
    obtain ⟨window, inside, rfl⟩ := List.mem_map.mp member
    rw [Nat.sub_eq_zero_of_le (single window inside), Nat.mul_zero]
  rw [none]
  exact Nat.zero_le _

def idleMeter : Meter where
  phys_channels := 1
  chip := ⟨fun _ => 0, 0, []⟩
  data := clearedData

theorem idle_meter_measures : idleMeter.Measures 0 := by
  refine ⟨by decide, by decide, rfl, rfl, rfl⟩

def pairOfSamples : Window := ⟨[fun _ => 1024, fun _ => 1024], []⟩

theorem pair_no_overflow : idleMeter.NoOverflow 0 [pairOfSamples] := by
  refine ⟨?_, by decide, by decide⟩
  intro window member
  obtain rfl := List.mem_singleton.mp member
  exact ⟨by decide, by decide, by decide⟩

theorem energy_accurate_iff_pair :
    idleMeter.Accurate 0 [pairOfSamples] ↔ [pairOfSamples] ≠ [] ∧
      surplus 0 [pairOfSamples] ≤ rounding 0 (sampShift idleMeter.chip.ctrl) [pairOfSamples] :=
  energy_accurate_iff idleMeter 0 [pairOfSamples] idle_meter_measures pair_no_overflow

-- Two samples of 1024 in one window are two joules; four are accounted.
theorem pair_counted_twice :
    ¬ ∀ (s : Meter) (channel : Nat) (windows : List Window), s.Measures channel → s.NoOverflow channel windows →
      windows ≠ [] → s.Accurate channel windows := by
  intro accurate
  have bound := (accurate idleMeter 0 [pairOfSamples] idle_meter_measures pair_no_overflow (by simp)).1
  exact absurd bound (by decide)

end SummitSom.Pac193x
