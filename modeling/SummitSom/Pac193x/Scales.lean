import SummitSom.Pac193x.Driver

set_option autoImplicit false

namespace SummitSom.Pac193x

open Interact

section Answers

variable (phys_channels hz : Nat)

theorem ended_shunts {A : Type} (act : Act Int A) (s t : Driver) (result : Except Fault A)
    (ended : Ends (driverWorld phys_channels) act s result t) : t.shunts = s.shunts := by
  apply seen_keeps (driverWorld phys_channels) (fun u => u.shunts = s.shunts) act s t rfl
  · intro u cmd v same during
    exact (congrArg Driver.shunts during).trans same
  · intro u cmd answer v same reply
    exact (reply_spares phys_channels u v cmd answer reply).shunts.trans same
  · exact ends_seen _ _ _ _ _ ended

-- A request that pac193x_read_raw has answered without an error, with the shunt
-- of the channel and the VSENSE_AVG value that it worked with.
def Answers (chan : ChanSpec) (mask : Mask) (shunt : Nat) (value : Int) (reading : Reading) : Prop :=
  ∃ s t, s.shunts chan.channel = shunt ∧ t.data.vsense_avg chan.channel = value ∧
    Ends (driverWorld phys_channels) (readRaw hz chan mask) s (.ok reading) t ∧ 0 ≤ reading.ret

theorem answers_data (chan : ChanSpec) (mask : Mask) (shunt : Nat) (value : Int) (reading : Reading)
    (answers : Answers phys_channels hz chan mask shunt value reading) :
    ∃ s t, s.shunts chan.channel = shunt ∧ t.data.vsense_avg chan.channel = value ∧
      Ends (driverWorld phys_channels) (readData chan mask) s (.ok reading) t := by
  obtain ⟨s, t, resistance, sensed, ended, success⟩ := answers
  cases ended_bind _ _ _ s t _ ended with
  | inl found =>
      obtain ⟨ret, u, first, second⟩ := found
      have kept := ended_shunts phys_channels _ s u _ first
      by_cases negative : ret < 0
      · rw [if_pos negative] at second
        obtain ⟨same, _⟩ := ended_done _ _ u t _ second
        cases same
        exact absurd negative (not_lt.mpr success)
      · rw [if_neg negative] at second
        exact ⟨u, t, by rw [kept]; exact resistance, sensed, second⟩
  | inr failed =>
      obtain ⟨code, _, impossible⟩ := failed
      cases impossible

theorem divided_ends (number divisor : Nat) (rest : Nat → Act Int Reading) (s t : Driver) (reading : Reading)
    (ended : Ends (driverWorld phys_channels) (divide number divisor >>= rest) s (.ok reading) t) :
    Ends (driverWorld phys_channels) (rest (number / divisor)) s (.ok reading) t := by
  rw [divide] at ended
  by_cases zero : divisor = 0
  · rw [if_pos zero] at ended
    obtain ⟨impossible, _⟩ := ended_stop _ _ s t _ ended
    cases impossible
  · rw [if_neg zero] at ended
    exact ended

theorem shunt_ends (chan : ChanSpec) (number : Nat) (make : Nat → Reading) (s t : Driver) (reading : Reading)
    (ended : Ends (driverWorld phys_channels)
      (.call (.shunt chan.channel) fun shunt => divide number shunt >>= fun tmp => .done (make tmp)) s (.ok reading) t) :
    reading = make (number / s.shunts chan.channel) := by
  obtain ⟨shunt, u, answered, onward⟩ := ended_call _ _ _ s t _ ended
  obtain ⟨rfl, rfl⟩ := answered
  obtain ⟨same, _⟩ := ended_done _ _ u t _ (divided_ends phys_channels number _ _ u t reading onward)
  cases same
  rfl

-- A driver whose values are fresh, so that a request does not touch the chip.
def calm (shunt : Nat) (value : Int) : Driver where
  now := 0
  tstamp := 0
  timer := none
  queued := false
  locked := false
  data := { clearedData with vsense_avg := fun _ => value }
  sample_rate_value := 1024
  crt_samp_speed_bitfield := 0
  shunts _ := shunt

theorem calm_answers (chan : ChanSpec) (mask : Mask) (shunt : Nat) (value : Int) (reading : Reading)
    (ended : Ends (driverWorld phys_channels) (readData chan mask) (calm shunt value) (.ok reading) (calm shunt value))
    (success : 0 ≤ reading.ret) : Answers phys_channels hz chan mask shunt value reading := by
  refine ⟨calm shunt value, calm shunt value, rfl, rfl, ?_, success⟩
  have now : (driverWorld phys_channels).reply (calm shunt value) .jiffies (0 : Int) (calm shunt value) := ⟨rfl, rfl⟩
  have tstamp : (driverWorld phys_channels).reply (calm shunt value) .tstamp (0 : Int) (calm shunt value) := ⟨rfl, rfl⟩
  simp only [readRaw, retrieveData, issue_bind, call_bind]
  apply ends_call (driverWorld phys_channels) _ _ _ _ _ _ _ now
  apply ends_call (driverWorld phys_channels) _ _ _ _ _ _ _ tstamp
  rw [if_neg]
  · exact ended
  · rw [after_add]
    omega

-- What the address of a channel makes it measure.
def ChanSpec.measuresCurrent (chan : ChanSpec) : Bool := isOneOf vsenseAddr chan.address || isOneOf vsenseAvgAddr chan.address

def ChanSpec.measuresPower (chan : ChanSpec) : Bool := isOneOf vpowerAddr chan.address

def ChanSpec.measuresEnergy (chan : ChanSpec) : Bool := isOneOf vpowerAccAddr chan.address

theorem is_one_of_iff (first address : Nat) : isOneOf first address = true ↔ first ≤ address ∧ address < first + 4 := by
  simp [isOneOf]

theorem is_one_of_apart (first other address : Nat) (apart : first + 4 ≤ other ∨ other + 4 ≤ first)
    (found : isOneOf first address = true) : isOneOf other address = false := by
  rw [is_one_of_iff] at found
  apply Bool.eq_false_iff.mpr
  intro also
  rw [is_one_of_iff] at also
  omega

theorem current_scale (chan : ChanSpec) (shunt : Nat) (value : Int) (reading : Reading) (current : chan.measuresCurrent = true)
    (answers : Answers phys_channels hz chan .scale shunt value reading) :
    reading.val = some (wrap 32 (100000000 / shunt : Nat)) := by
  obtain ⟨s, t, rfl, _, ended⟩ := answers_data phys_channels hz chan .scale shunt value reading answers
  have bus : (isOneOf vbusAddr chan.address || isOneOf vbusAvgAddr chan.address) = false := by
    cases Bool.or_eq_true_iff.mp current with
    | inl sense =>
        rw [is_one_of_apart vsenseAddr vbusAddr _ (by decide) sense, is_one_of_apart vsenseAddr vbusAvgAddr _ (by decide) sense]
        rfl
    | inr average =>
        rw [is_one_of_apart vsenseAvgAddr vbusAddr _ (by decide) average,
          is_one_of_apart vsenseAvgAddr vbusAvgAddr _ (by decide) average]
        rfl
  rw [ChanSpec.measuresCurrent] at current
  rw [readData, readScale, bus, if_neg Bool.false_ne_true, if_pos current] at ended
  rw [shunt_ends phys_channels chan 100000000 _ s t reading ended]
  rfl

theorem power_scale (chan : ChanSpec) (shunt : Nat) (value : Int) (reading : Reading) (power : chan.measuresPower = true)
    (answers : Answers phys_channels hz chan .scale shunt value reading) :
    reading.val = some (wrap 32 (10000 * (320000000 / shunt) % 2 ^ 32 : Nat)) := by
  obtain ⟨s, t, rfl, _, ended⟩ := answers_data phys_channels hz chan .scale shunt value reading answers
  have other (address : Nat) (below : address + 4 ≤ vpowerAddr) := is_one_of_apart vpowerAddr address chan.address (.inr below) power
  rw [ChanSpec.measuresPower] at power
  rw [readData, readScale, other vbusAddr (by decide), other vbusAvgAddr (by decide), other vsenseAddr (by decide),
    other vsenseAvgAddr (by decide), Bool.or_self, if_neg Bool.false_ne_true, if_neg Bool.false_ne_true, if_pos power] at ended
  rw [shunt_ends phys_channels chan 320000000 _ s t reading ended]
  rfl

theorem energy_scale (chan : ChanSpec) (shunt : Nat) (value : Int) (reading : Reading) (energy : chan.measuresEnergy = true)
    (answers : Answers phys_channels hz chan .scale shunt value reading) :
    reading.val = some (wrap 32 (3200000 / shunt : Nat)) := by
  obtain ⟨s, t, rfl, _, ended⟩ := answers_data phys_channels hz chan .scale shunt value reading answers
  have other (address : Nat) (above : vpowerAccAddr + 4 ≤ address) :=
    is_one_of_apart vpowerAccAddr address chan.address (.inl above) energy
  rw [ChanSpec.measuresEnergy] at energy
  rw [readData, readScale, other vbusAddr (by decide), other vbusAvgAddr (by decide), other vsenseAddr (by decide),
    other vsenseAvgAddr (by decide), other vpowerAddr (by decide), Bool.or_self, if_neg Bool.false_ne_true,
    if_neg Bool.false_ne_true, if_neg Bool.false_ne_true, if_pos energy] at ended
  rw [shunt_ends phys_channels chan 3200000 _ s t reading ended]
  rfl

theorem processed_current (chan : ChanSpec) (shunt : Nat) (value : Int) (reading : Reading)
    (current : isOneOf vsenseAddr chan.address = true)
    (answers : Answers phys_channels hz chan .processed shunt value reading) :
    reading.val = some (wrap 32 (value * wrap 32 (100000000 / shunt : Nat))) := by
  obtain ⟨s, t, rfl, rfl, ended⟩ := answers_data phys_channels hz chan .processed shunt value reading answers
  have bus := is_one_of_apart vsenseAddr vbusAddr chan.address (by decide) current
  rw [readData, readProcessed, bus, if_neg Bool.false_ne_true, if_pos current] at ended
  obtain ⟨sensed, u, ⟨rfl, rfl⟩, onward⟩ := ended_call _ _ _ s t _ ended
  have shown := shunt_ends phys_channels chan 100000000
    (fun tmp => scaled chan (wrap 32 (u.data.vsense_avg chan.channel * wrap 32 tmp)) 16 15) u t reading onward
  obtain ⟨_, v, ⟨_, rfl⟩, last⟩ := ended_call _ _ _ u t _ onward
  obtain ⟨_, rfl⟩ := ended_done _ _ v t _ (divided_ends phys_channels _ _ _ v t reading last)
  rw [shown]
  rfl

-- A scale numerator that fits an int and is within one percent of num / shunt.
def Near (num shunt : Nat) (reading : Reading) : Prop :=
  ∃ n : Int, reading.val = some n ∧ 0 < n ∧ n < 2 ^ 31 ∧
    100 * (num - n * shunt) ≤ num ∧ 100 * (n * shunt - num) ≤ num

structure Accurate (shunt : Nat) (value : Int) : Prop where
  current : ∀ chan reading, chan.measuresCurrent = true →
    Answers phys_channels hz chan .scale shunt value reading → Near 100000000 shunt reading
  power : ∀ chan reading, chan.measuresPower = true →
    Answers phys_channels hz chan .scale shunt value reading → Near 3200000000000 shunt reading
  energy : ∀ chan reading, chan.measuresEnergy = true →
    Answers phys_channels hz chan .scale shunt value reading → Near 3200000 shunt reading
  processed : ∀ chan reading, isOneOf vsenseAddr chan.address = true →
    Answers phys_channels hz chan .processed shunt value reading →
      reading.val = some (value * (100000000 / shunt : Nat))

theorem quotient_parts (num shunt : Nat) : (num / shunt : Nat) * (shunt : Int) + (num % shunt : Nat) = num := by
  exact_mod_cast Nat.div_add_mod' num shunt

theorem near_quotient (num shunt : Nat) (reading : Reading) (shown : reading.val = some (wrap 32 (num / shunt : Nat)))
    (low : shunt ≤ num) (positive : 0 < shunt) (fits : num / shunt < 2 ^ 31) :
    Near num shunt reading ↔ 100 * (num % shunt) ≤ num := by
  have quotient : 0 < num / shunt := Nat.div_pos low positive
  have parts := quotient_parts num shunt
  rw [wrap_fits 31 _ (by omega) (by exact_mod_cast fits)] at shown
  constructor
  · intro near
    obtain ⟨n, same, _, _, below, _⟩ := near
    obtain rfl : ((num / shunt : Nat) : Int) = n := Option.some.inj (shown.symm.trans same)
    omega
  · intro small
    exact ⟨_, shown, by omega, by exact_mod_cast fits, by omega, by omega⟩

-- The power numerator leaves the range of int for shunts below 1491 microohm.
theorem near_power (shunt : Nat) (reading : Reading) (low : 1000 ≤ shunt) (high : shunt ≤ 1000000)
    (shown : reading.val = some (wrap 32 (10000 * (320000000 / shunt) % 2 ^ 32 : Nat))) :
    Near 3200000000000 shunt reading ↔ 1491 ≤ shunt := by
  have positive : 0 < shunt := by omega
  have most : 320000000 / shunt ≤ 320000 := Nat.div_le_of_le_mul (by omega)
  have parts := quotient_parts 320000000 shunt
  have rest := Nat.mod_lt 320000000 positive
  rw [Nat.mod_eq_of_lt (by omega)] at shown
  constructor
  · intro near
    obtain ⟨n, same, above, _⟩ := near
    by_contra less
    have quotient : 214749 ≤ 320000000 / shunt := (Nat.le_div_iff_mul_le positive).mpr (by omega)
    have negative : n = (10000 * (320000000 / shunt) : Nat) - 2 ^ 32 := by
      rw [← Option.some.inj (shown.symm.trans same), wrap, Int.bmod_def]
      omega
    omega
  · intro enough
    have quotient : 320000000 / shunt < 214749 := (Nat.div_lt_iff_lt_mul positive).mpr (by omega)
    rw [wrap_fits 31 _ (by omega) (by omega)] at shown
    have some_power : 0 < 320000000 / shunt := Nat.div_pos (by omega) positive
    have product : ((10000 * (320000000 / shunt) : Nat) : Int) * shunt = 10000 * ((320000000 / shunt : Nat) * shunt) := by
      push_cast
      ring
    refine ⟨_, shown, by omega, by omega, ?_, ?_⟩
    · rw [product]
      omega
    · rw [product]
      omega

theorem processed_exact (shunt : Nat) (value : Int) (low : 1000 ≤ shunt) :
    wrap 32 (value * wrap 32 (100000000 / shunt : Nat)) = value * (100000000 / shunt : Nat) ↔
      -2 ^ 31 ≤ value * (100000000 / shunt : Nat) ∧ value * (100000000 / shunt : Nat) < 2 ^ 31 := by
  have most : 100000000 / shunt ≤ 100000 := Nat.div_le_of_le_mul (by omega)
  generalize 100000000 / shunt = numerator at most ⊢
  rw [wrap_fits 31 numerator (by omega) (by omega)]
  exact wrap_fits_iff 31 _

def channelAt (address : Nat) : ChanSpec := ⟨.current, address, 0, 'u'⟩

theorem scaled_success (chan : ChanSpec) (val unsignedRes signedRes : Int) : 0 ≤ (scaled chan val unsignedRes signedRes).ret := by
  change (0 : Int) ≤ IIO_VAL_FRACTIONAL_LOG2
  decide

theorem shunt_answered (number : Nat) (make : Nat → Reading) (chan : ChanSpec) (shunt : Nat) (value : Int)
    (positive : 0 < shunt) :
    Ends (driverWorld phys_channels)
      (.call (.shunt chan.channel) fun shunt => divide number shunt >>= fun tmp => .done (make tmp)) (calm shunt value)
      (.ok (make (number / shunt))) (calm shunt value) := by
  have shown : (driverWorld phys_channels).reply (calm shunt value) (.shunt chan.channel) shunt (calm shunt value) := ⟨rfl, rfl⟩
  apply ends_call (driverWorld phys_channels) _ _ _ _ _ _ _ shown
  rw [divide, if_neg (Nat.pos_iff_ne_zero.mp positive)]
  exact .here _ _

-- The exact condition on a shunt and a VSENSE_AVG reading.
structure InRange (shunt : Nat) (value : Int) : Prop where
  power : 1491 ≤ shunt
  energy : 3200000 % shunt ≤ 32000
  processed : -2 ^ 31 ≤ value * (100000000 / shunt : Nat) ∧ value * (100000000 / shunt : Nat) < 2 ^ 31

theorem accurate_in_range (shunt : Nat) (value : Int) (low : 1000 ≤ shunt) (high : shunt ≤ 1000000)
    (accurate : Accurate phys_channels hz shunt value) : InRange shunt value := by
  have positive : 0 < shunt := by omega
  refine ⟨?_, ?_, ?_⟩
  · have answered := calm_answers phys_channels hz (channelAt vpowerAddr) .scale shunt value _
      (shunt_answered phys_channels 320000000 _ (channelAt vpowerAddr) shunt value positive) (scaled_success _ _ _ _)
    have near := accurate.power _ _ (by decide) answered
    exact (near_power shunt _ low high (power_scale phys_channels hz _ shunt value _ (by decide) answered)).mp near
  · have answered := calm_answers phys_channels hz (channelAt vpowerAccAddr) .scale shunt value _
      (shunt_answered phys_channels 3200000 _ (channelAt vpowerAccAddr) shunt value positive) (scaled_success _ _ _ _)
    have near := accurate.energy _ _ (by decide) answered
    have shown := energy_scale phys_channels hz _ shunt value _ (by decide) answered
    have most : 3200000 / shunt ≤ 3200 := Nat.div_le_of_le_mul (by omega)
    have rest := (near_quotient 3200000 shunt _ shown (by omega) positive (by omega)).mp near
    omega
  · have sensed : (driverWorld phys_channels).reply (calm shunt value) (.field .vsense_avg 0) value (calm shunt value) :=
      ⟨rfl, rfl⟩
    have answered := calm_answers phys_channels hz (channelAt vsenseAddr) .processed shunt value _
      (ends_call (driverWorld phys_channels) _ _ _ _ _ _ _ sensed
        (shunt_answered phys_channels 100000000 _ (channelAt vsenseAddr) shunt value positive)) (scaled_success _ _ _ _)
    have exact := accurate.processed _ _ (by decide) answered
    rw [processed_current phys_channels hz _ shunt value _ (by decide) answered] at exact
    exact (processed_exact shunt value low).mp (Option.some.inj exact)

theorem scales_accurate_iff (shunt : Nat) (value : Int) (low : 1000 ≤ shunt) (high : shunt ≤ 1000000) :
    Accurate phys_channels hz shunt value ↔ InRange shunt value := by
  have positive : 0 < shunt := by omega
  constructor
  · exact accurate_in_range phys_channels hz shunt value low high
  · intro fits
    refine ⟨?_, ?_, ?_, ?_⟩
    · intro chan reading current answers
      have shown := current_scale phys_channels hz chan shunt value reading current answers
      have most : 100000000 / shunt ≤ 100000 := Nat.div_le_of_le_mul (by omega)
      have rest := Nat.mod_lt 100000000 positive
      exact (near_quotient 100000000 shunt reading shown (by omega) positive (by omega)).mpr (by omega)
    · intro chan reading power answers
      exact (near_power shunt reading low high (power_scale phys_channels hz chan shunt value reading power answers)).mpr fits.power
    · intro chan reading energy answers
      have shown := energy_scale phys_channels hz chan shunt value reading energy answers
      have most : 3200000 / shunt ≤ 3200 := Nat.div_le_of_le_mul (by omega)
      have rest := fits.energy
      exact (near_quotient 3200000 shunt reading shown (by omega) positive (by omega)).mpr (by omega)
    · intro chan reading current answers
      rw [processed_current phys_channels hz chan shunt value reading current answers]
      exact congrArg some ((processed_exact shunt value low).mpr fits.processed)

end Answers

theorem scales_accurate_iff_default : Accurate 4 100 100000 1000 ↔ InRange 100000 1000 :=
  scales_accurate_iff 4 100 100000 1000 (by decide) (by decide)

-- At one milliohm the power numerator is 3.2e9, which is negative as an int.
theorem one_milliohm_inaccurate :
    ¬ ∀ (phys_channels hz shunt : Nat) (value : Int), 1000 ≤ shunt → shunt ≤ 1000000 → -2 ^ 15 ≤ value → value < 2 ^ 16 →
      Accurate phys_channels hz shunt value := by
  intro accurate
  have fits := accurate_in_range 4 100 1000 0 (by decide) (by decide)
    (accurate 4 100 1000 0 (by decide) (by decide) (by decide) (by decide))
  exact absurd fits.power (by decide)

end SummitSom.Pac193x
