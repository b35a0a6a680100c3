import SummitSom.Interact.Calls
import SummitSom.Pac193x.Attributes
import SummitSom.Pac193x.DeviceTree
import SummitSom.Pac193x.Footprint
import SummitSom.Pac193x.Scales

set_option autoImplicit false

namespace SummitSom.Pac193x

open Interact

-- Commands that give the driver no sample rate but a known one.
def Rates (known : Nat → Prop) : Cmd Int → Prop
  | .setSampleRate rate => known rate
  | _ => True

theorem retrieving_rates (known : Nat → Prop) (cmd : Cmd Int) (retrieving : Retrieving cmd) : Rates known cmd := by
  cases cmd with
  | setSampleRate rate => exact retrieving.elim
  | _ => trivial

section Divisions

variable (phys_channels hz : Nat) (shunts : Nat → Nat)

structure Kept (s : Driver) : Prop where
  rated : s.sample_rate_value ∈ samp_rate_map_tbl
  same : s.shunts = shunts

theorem rated_positive (rate : Nat) (rated : rate ∈ samp_rate_map_tbl) : rate ≠ 0 := by
  intro zero
  rw [zero] at rated
  exact absurd rated (by decide)

theorem reply_rated (s t : Driver) (cmd : Cmd Int) (answer : cmd.Reply) (rates : Rates (fun rate => rate ∈ samp_rate_map_tbl) cmd)
    (rated : s.sample_rate_value ∈ samp_rate_map_tbl) (reply : driverReply phys_channels s cmd answer t) :
    t.sample_rate_value ∈ samp_rate_map_tbl := by
  rcases (reply_spares phys_channels s t cmd answer reply).rate with same | set
  · exact same ▸ rated
  · subst set
    exact rates

-- A run that ends with a value, and so without a division by zero.
abbrev Runs {A : Type} (act : Act Int A) (s : Driver) : Prop :=
  Safe (driverWorld phys_channels) (Kept shunts) (Returns fun _ => Kept shunts) act s

theorem completes_runs {A : Type} (act : Act Int A) (s : Driver)
    (completes : Completes (Rates fun rate => rate ∈ samp_rate_map_tbl) act) (kept : Kept shunts s) :
    Runs phys_channels shunts act s := by
  apply completes_safe _ _ (Kept shunts) act s completes kept
  · intro u cmd t _ before during
    exact during ▸ before
  · intro u cmd answer t rates before reply
    exact ⟨reply_rated phys_channels u t cmd answer rates before.rated reply,
      (reply_spares phys_channels u t cmd answer reply).shunts.trans before.same⟩

theorem retrieving_runs {A : Type} (act : Act Int A) (s : Driver) (completes : Completes Retrieving act)
    (kept : Kept shunts s) : Runs phys_channels shunts act s := by
  have rates := completes_mono Retrieving _ act (retrieving_rates fun rate => rate ∈ samp_rate_map_tbl) completes
  exact completes_runs phys_channels shunts act s rates kept

theorem snapping_runs {A : Type} (act : Act Int A) (s : Driver) (completes : Completes Snapping act)
    (kept : Kept shunts s) : Runs phys_channels shunts act s := by
  have retrieves := completes_mono Snapping Retrieving act snapping_retrieving completes
  exact retrieving_runs phys_channels shunts act s retrieves kept

theorem call_runs {A : Type} (cmd : Cmd Int) (rest : cmd.Reply → Act Int A) (s : Driver) (kept : Kept shunts s)
    (onward : ∀ answer t, driverReply phys_channels s cmd answer t → Runs phys_channels shunts (rest answer) t) :
    Runs phys_channels shunts (.call cmd rest) s :=
  ⟨kept, fun _ during => during ▸ kept, onward⟩

theorem shunt_runs (chan : ChanSpec) (number : Nat) (make : Nat → Reading) (s : Driver) (kept : Kept shunts s)
    (positive : shunts chan.channel ≠ 0) :
    Runs phys_channels shunts
      (.call (.shunt chan.channel) fun shunt => divide number shunt >>= fun tmp => .done (make tmp)) s := by
  apply call_runs phys_channels shunts _ _ s kept
  intro shunt t reply
  obtain ⟨rfl, rfl⟩ := reply
  rw [kept.same, divide, if_neg positive]
  exact ⟨kept, _, rfl, kept⟩

theorem read_scale_runs (chan : ChanSpec) (s : Driver) (kept : Kept shunts s)
    (positive : chan.address = 0 ∨ shunts chan.channel ≠ 0) : Runs phys_channels shunts (readScale chan) s := by
  cases positive with
  | inl none =>
      rw [readScale, none]
      exact completes_runs phys_channels shunts _ s trivial kept
  | inr positive =>
      rw [readScale]
      split
      · exact completes_runs phys_channels shunts _ s trivial kept
      · split
        · exact shunt_runs phys_channels shunts chan _ _ s kept positive
        · split
          · exact shunt_runs phys_channels shunts chan _ _ s kept positive
          · split
            · exact shunt_runs phys_channels shunts chan _ _ s kept positive
            · exact completes_runs phys_channels shunts _ s trivial kept

theorem read_processed_runs (chan : ChanSpec) (s : Driver) (kept : Kept shunts s)
    (positive : chan.address = 0 ∨ shunts chan.channel ≠ 0) : Runs phys_channels shunts (readProcessed chan) s := by
  cases positive with
  | inl none =>
      rw [readProcessed, none]
      exact completes_runs phys_channels shunts _ s trivial kept
  | inr positive =>
      rw [readProcessed]
      split
      · exact completes_runs phys_channels shunts _ s ⟨trivial, fun _ => trivial⟩ kept
      · split
        · apply call_runs phys_channels shunts _ _ s kept
          intro value t reply
          obtain ⟨_, rfl⟩ := reply
          exact shunt_runs phys_channels shunts chan _ _ t kept positive
        · exact completes_runs phys_channels shunts _ s trivial kept

theorem read_data_runs (chan : ChanSpec) (mask : Mask) (s : Driver) (kept : Kept shunts s)
    (positive : chan.address = 0 ∨ shunts chan.channel ≠ 0) : Runs phys_channels shunts (readData chan mask) s := by
  cases mask with
  | raw => exact snapping_runs phys_channels shunts _ s (read_raw_data_completes chan) kept
  | average_raw => exact snapping_runs phys_channels shunts _ s (read_average_raw_completes chan) kept
  | scale => exact read_scale_runs phys_channels shunts chan s kept positive
  | processed => exact read_processed_runs phys_channels shunts chan s kept positive
  | samp_freq => exact completes_runs phys_channels shunts _ s ⟨trivial, fun _ => trivial⟩ kept
  | other code => exact completes_runs phys_channels shunts _ s trivial kept

theorem read_raw_runs (chan : ChanSpec) (mask : Mask) (s : Driver) (kept : Kept shunts s)
    (positive : chan.address = 0 ∨ shunts chan.channel ≠ 0) : Runs phys_channels shunts (readRaw hz chan mask) s := by
  apply safe_returns _ _ (fun _ => Kept shunts) _ _ _ s
    (retrieving_runs phys_channels shunts _ s (retrieve_data_completes hz minUpdateWaitTime) kept)
  intro ret t stays
  split
  · exact completes_runs phys_channels shunts _ t trivial stays
  · exact read_data_runs phys_channels shunts chan mask t stays positive

theorem write_samp_rate_runs (val : Nat) (s : Driver) (matched : val ∈ samp_rate_map_tbl) (kept : Kept shunts s) :
    Runs phys_channels shunts (writeSampRate hz val) s := by
  simp only [writeSampRate, issue_bind]
  apply call_runs phys_channels shunts _ _ s kept
  intro old t reply
  obtain ⟨rfl, rfl⟩ := reply
  apply completes_runs phys_channels shunts _ t _ kept
  refine ⟨matched, fun _ => ⟨trivial, fun _ => ⟨trivial, fun code => ⟨trivial, fun ret => ⟨trivial, fun _ => ?_⟩⟩⟩⟩⟩
  split
  · trivial
  · have positive := rated_positive _ kept.rated
    exact completes_mono Retrieving _ _ (retrieving_rates _) (force_snapshot_completes hz t.sample_rate_value positive)

theorem write_samp_freq_runs (val : Int) (s : Driver) (kept : Kept shunts s) :
    Runs phys_channels shunts (writeSampFreq hz val) s := by
  rw [writeSampFreq, matchSampRate]
  cases found : samp_rate_map_tbl.findIdx? (fun samp_rate => (val % 65536).toNat == samp_rate) with
  | none => exact completes_runs phys_channels shunts _ s trivial kept
  | some cnt =>
      apply call_runs phys_channels shunts _ _ s kept
      intro _ t reply
      obtain rfl : t = _ := reply
      exact write_samp_rate_runs phys_channels hz shunts _ _ (found_rate _ cnt found) ⟨kept.rated, kept.same⟩

theorem write_raw_runs (val : Int) (mask : Mask) (s : Driver) (kept : Kept shunts s) :
    Runs phys_channels shunts (writeRaw hz val mask) s := by
  simp only [writeRaw, issue_bind]
  apply call_runs phys_channels shunts _ _ s kept
  intro enabled t reply
  obtain rfl : t = s := reply
  by_cases busy : enabled = true
  · rw [if_pos busy]
    exact completes_runs phys_channels shunts _ t trivial kept
  · rw [if_neg busy]
    cases mask with
    | samp_freq => exact write_samp_freq_runs phys_channels hz shunts val t kept
    | _ => exact completes_runs phys_channels shunts _ t trivial kept

end Divisions

-- The sysfs calls that divide, by user programs.
inductive SysfsCall where
  | read (chan : ChanSpec) (mask : Mask)
  | write (val : Int) (mask : Mask)

def SysfsCall.program (hz : Nat) : SysfsCall → Act Int Unit
  | .read chan mask => do
      let _ ← readRaw hz chan mask
      pure ()
  | .write val mask => do
      let _ ← writeRaw hz val mask
      pure ()

def SysfsCall.registered (channels : List ChanSpec) : SysfsCall → Prop
  | .read chan _ => chan ∈ channels
  | .write _ _ => True

-- Between the calls time passes, and shunt_value is written. A text that
-- overruns its buffer leaves the driver in any state.
def Written (phys_channels : Nat) (s t : Driver) (buf : List Char) : Prop :=
  match shuntValueStore phys_channels buf with
  | .refused _ => t = s
  | .stored chan sh_val => t = { s with shunts := Function.update s.shunts chan sh_val }
  | .overrun _ => True

def Between (phys_channels : Nat) (careful : List Char → Prop) (s t : Driver) : Prop :=
  (∃ later, s.now ≤ later ∧ t = { s with now := later }) ∨ ∃ buf, careful buf ∧ Written phys_channels s t buf

-- No overrun, and no zero for a channel that is enabled.
def CarefulText (phys_channels : Nat) (setup : Setup) (buf : List Char) : Prop :=
  match shuntValueStore phys_channels buf with
  | .refused _ => True
  | .stored chan sh_val => setup.active_channels chan = true → sh_val ≠ 0
  | .overrun _ => False

abbrev SysfsHistory (phys_channels hz : Nat) (setup : Setup) (careful : List Char → Prop) (origin s : Driver) : Prop :=
  Calls (fun _ => driverWorld phys_channels) (SysfsCall.program hz) (Between phys_channels careful)
    (fun _ call => call.registered (prepIioChannels phys_channels setup)) origin s

structure Divisible (phys_channels : Nat) (setup : Setup) (s : Driver) : Prop where
  rated : s.sample_rate_value ∈ samp_rate_map_tbl
  resistive : ∀ cnt, cnt < phys_channels → setup.active_channels cnt = true → s.shunts cnt ≠ 0

section Histories

variable (phys_channels hz : Nat) (setup : Setup)

theorem call_runs_registered (call : SysfsCall) (s : Driver) (divisible : Divisible phys_channels setup s)
    (registered : call.registered (prepIioChannels phys_channels setup)) :
    Runs phys_channels s.shunts (call.program hz) s := by
  have kept : Kept s.shunts s := ⟨divisible.rated, rfl⟩
  cases call with
  | read chan mask =>
      have positive := (prep_iio_channels_active phys_channels setup chan registered).imp_right
        fun found => divisible.resistive chan.channel found.1 found.2
      exact safe_returns _ _ _ _ _ _ s (read_raw_runs phys_channels hz s.shunts chan mask s kept positive)
        fun _ t stays => ⟨stays, (), rfl, stays⟩
  | write val mask =>
      exact safe_returns _ _ _ _ _ _ s (write_raw_runs phys_channels hz s.shunts val mask s kept)
        fun _ t stays => ⟨stays, (), rfl, stays⟩

theorem between_divisible (s t : Driver) (divisible : Divisible phys_channels setup s)
    (passed : Between phys_channels (CarefulText phys_channels setup) s t) : Divisible phys_channels setup t := by
  cases passed with
  | inl waited =>
      obtain ⟨later, _, rfl⟩ := waited
      exact ⟨divisible.rated, divisible.resistive⟩
  | inr wrote =>
      obtain ⟨buf, careful, written⟩ := wrote
      rw [CarefulText] at careful
      rw [Written] at written
      cases parsed : shuntValueStore phys_channels buf with
      | refused message =>
          rw [parsed] at written
          obtain rfl : t = s := written
          exact divisible
      | stored chan sh_val =>
          rw [parsed] at written careful
          obtain rfl : t = _ := written
          refine ⟨divisible.rated, fun cnt present on => ?_⟩
          by_cases own : cnt = chan
          · subst own
            simpa using careful on
          · simpa [own] using divisible.resistive cnt present on
      | overrun copied =>
          rw [parsed] at careful
          exact careful.elim

theorem careful_history_divisible (origin s : Driver) (begins : Divisible phys_channels setup origin)
    (history : SysfsHistory phys_channels hz setup (CarefulText phys_channels setup) origin s) :
    Divisible phys_channels setup s := by
  apply calls_keep _ _ _ _ origin (Divisible phys_channels setup) begins _ _ s history
  · intro u v before passed
    exact between_divisible phys_channels setup u v before passed
  · intro call u v result before registered ended
    obtain ⟨_, _, kept⟩ := safe_ends _ _ _ _ u v _ (call_runs_registered phys_channels hz setup call u before registered) ended
    exact ⟨kept.rated, fun cnt present on => by rw [kept.same]; exact before.resistive cnt present on⟩

end Histories

-- The driver as probe leaves it.
def Probed (setup : Setup) (s : Driver) : Prop :=
  s.sample_rate_value = setup.sample_rate_value ∧ s.shunts = setup.shunts

def oneChannelNode : DeviceNode := ⟨some 1024, [⟨true, some 100000, false⟩]⟩

def oneChannelSetup : Setup := { loadDefaults 1 with sample_rate_value := 1024 }.enable 0 100000 false

theorem one_channel_matched : matchOfDevice 1 oneChannelNode = some oneChannelSetup := rfl

def afterProbe : Driver := { calm 0 0 with shunts := oneChannelSetup.shunts }

def currentScale : SysfsCall := .read ⟨.current, 0x0B, 0, 'u'⟩ .scale

theorem current_scale_registered : currentScale.registered (prepIioChannels 1 oneChannelSetup) :=
  .tail _ (.tail _ (.tail _ (.head _)))

theorem sysfs_call_ends (call : SysfsCall) (s : Driver)
    (managed : manages (driverHandler 1 0) unlocked (call.program 100) s = true) :
    Ends (driverWorld 1) (call.program 100) s (eval (driverHandler 1 0) (call.program 100) s).1
      (eval (driverHandler 1 0) (call.program 100) s).2 :=
  ends_managed _ _ unlocked _ s (fun s cmd able => driver_handler_obeys 1 0 s cmd able) managed

-- A resistor is written, and then the sampling rate.
def rewired : Driver := { afterProbe with shunts := Function.update afterProbe.shunts 0 250000 }

def slowed : Driver := (eval (driverHandler 1 0) ((SysfsCall.write 8 .samp_freq).program 100) rewired).2

theorem rewired_slowed : SysfsHistory 1 100 oneChannelSetup (CarefulText 1 oneChannelSetup) afterProbe slowed := by
  have wrote : SysfsHistory 1 100 oneChannelSetup (CarefulText 1 oneChannelSetup) afterProbe rewired :=
    .wait _ _ .start (.inr ⟨"0 250000".toList, fun _ => by decide, rfl⟩)
  exact Calls.call (SysfsCall.write 8 .samp_freq) rewired slowed _ wrote trivial
    (sysfs_call_ends (.write 8 .samp_freq) rewired rfl)

theorem careful_calls_divide (phys_channels hz : Nat) (node : DeviceNode) (setup : Setup) (origin s t : Driver)
    (call : SysfsCall) (result : Except Fault Unit) (matched : matchOfDevice phys_channels node = some setup)
    (resistors : ∀ child ∈ node.children, child.channel_enabled = true → child.uohms_shunt_res ≠ some 0)
    (probed : Probed setup origin)
    (history : SysfsHistory phys_channels hz setup (CarefulText phys_channels setup) origin s)
    (registered : call.registered (prepIioChannels phys_channels setup))
    (ended : Ends (driverWorld phys_channels) (call.program hz) s result t) : result ≠ .error .divideByZero := by
  obtain ⟨resistive, rated⟩ := match_of_device_resistive phys_channels node setup matched resistors
  have begins : Divisible phys_channels setup origin := ⟨by rw [probed.1]; exact rated, by rw [probed.2]; exact resistive⟩
  have divisible := careful_history_divisible phys_channels hz setup origin s begins history
  obtain ⟨_, rfl, _⟩ := safe_ends _ _ _ _ s t _ (call_runs_registered phys_channels hz setup call s divisible registered) ended
  intro impossible
  cases impossible

theorem careful_calls_divide_fresh :
    slowed.sample_rate_value = 8 ∧ (eval (driverHandler 1 0) (currentScale.program 100) slowed).1 ≠ .error .divideByZero :=
  ⟨rfl, careful_calls_divide 1 100 oneChannelNode oneChannelSetup afterProbe slowed _ currentScale _ one_channel_matched
    (by decide) ⟨rfl, rfl⟩ rewired_slowed current_scale_registered (sysfs_call_ends currentScale slowed rfl)⟩

def zeroed : Driver := { afterProbe with shunts := Function.update afterProbe.shunts 0 0 }

-- The text "0 0" is accepted and makes the next scale request divide by zero.
theorem zero_shunt_divides_by_zero :
    ¬ ∀ (phys_channels hz : Nat) (node : DeviceNode) (setup : Setup) (origin s t : Driver) (call : SysfsCall)
      (result : Except Fault Unit), matchOfDevice phys_channels node = some setup → Probed setup origin →
      SysfsHistory phys_channels hz setup (fun _ => True) origin s →
      call.registered (prepIioChannels phys_channels setup) →
      Ends (driverWorld phys_channels) (call.program hz) s result t → result ≠ .error .divideByZero := by
  intro divides
  have written : SysfsHistory 1 100 oneChannelSetup (fun _ => True) afterProbe zeroed :=
    .wait _ _ .start (.inr ⟨"0 0".toList, trivial, rfl⟩)
  exact divides 1 100 oneChannelNode oneChannelSetup afterProbe zeroed _ currentScale _
    one_channel_matched ⟨rfl, rfl⟩ written current_scale_registered (sysfs_call_ends currentScale zeroed rfl) rfl

end SummitSom.Pac193x
