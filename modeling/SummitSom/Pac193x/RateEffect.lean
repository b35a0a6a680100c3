import SummitSom.Clock.Counter
import SummitSom.Pac193x.RateWrite

set_option autoImplicit false

namespace SummitSom.Pac193x

open Interact

-- jiffies and time_after of a kernel whose unsigned long has w bits.
instance {w : Nat} : Jiffies (BitVec w) where
  add time ticks := time + Clock.shown ticks
  sub time ticks := time - Clock.shown ticks
  after := Clock.later

-- How far a new rate has come: CTRL was written, then a REFRESH sent, then
-- both blocks of the snapshot read.
inductive RateStage where
  | idle
  | rated
  | refreshed
  | snapped
deriving DecidableEq

def RateStage.sent (stage : RateStage) (reg : UInt8) : RateStage :=
  if reg = ctrlReg then .rated else if reg = refreshReg ∧ stage = .rated then .refreshed else stage

def RateStage.decoded : RateStage → RateStage
  | .refreshed => .snapped
  | stage => stage

structure Ticked (w : Nat) where
  tstamp : BitVec w
  sample_rate_value : Nat
  crt_samp_speed_bitfield : Nat
  stage : RateStage

variable {w : Nat}

-- No transfer fails and nobody else calls the driver. Time passes as it likes;
-- the look at jiffies between the write of CTRL and a REFRESH shows looked.
def tickReply (looked : Nat) (s : Ticked w) : (cmd : Cmd (BitVec w)) → cmd.Reply → Ticked w → Prop
  | .jiffies, now, t => (s.stage = .rated → now = Clock.shown looked) ∧ t = s
  | .tstamp, tstamp, t => tstamp = s.tstamp ∧ t = s
  | .setTstamp time, _, t => t = { s with tstamp := time }
  | .write reg _, ret, t => 0 ≤ ret ∧ t = { s with stage := s.stage.sent reg }
  | .read _ _ _, ret, t => 0 ≤ ret ∧ t = s
  | .decode, _, t => t = { s with stage := s.stage.decoded }
  | .modTimer _, pending, t => 0 ≤ pending ∧ t = s
  | .sampleRate, rate, t => rate = s.sample_rate_value ∧ t = s
  | .setSampleRate rate, _, t => t = { s with sample_rate_value := rate }
  | .speedCode, code, t => code = s.crt_samp_speed_bitfield ∧ t = s
  | .setSpeedCode code, _, t => t = { s with crt_samp_speed_bitfield := code }
  | _, _, t => t = s

def tickWorld (looked : Nat) : World (Cmd (BitVec w)) Cmd.Reply (Ticked w) where
  midst s _ t := t = s
  reply := tickReply looked

section Runs

variable (hz looked : Nat)

theorem rfsh_sent_stage (wait_time : Nat) (s t : Ticked w) (result : Except Fault Unit)
    (ended : Ends (tickWorld looked) (rfshSent wait_time) s result t) : result = .ok () ∧ t.stage = s.stage := by
  rcases ended_call _ _ _ s t _ ended with ⟨now, u, ⟨_, same⟩, stamping⟩
  rcases ended_call _ _ _ u t _ stamping with ⟨_, v, stamped, waiting⟩
  rcases ended_call _ (Cmd.usleepRange wait_time (wait_time + 100)) .done v t _ waiting with ⟨_, x, waited, closing⟩
  rcases ended_done _ _ x t _ closing with ⟨returned, rfl⟩
  obtain rfl : t = v := waited
  obtain rfl : t = { u with tstamp := now } := stamped
  exact ⟨returned, by rw [← same]⟩

theorem send_rfsh_stage (wait_time : Nat) (s t : Ticked w) (result : Except Fault Int) (rated : s.stage = .rated)
    (ended : Ends (tickWorld looked) (sendRfsh false wait_time) s result t) : result = .ok 0 ∧ t.stage = .refreshed := by
  rw [send_rfsh_eq] at ended
  rcases ended_call _ _ _ s t _ ended with ⟨ret, u, ⟨succeeds, sent⟩, ended⟩
  have refreshed : u.stage = .refreshed := by
    rw [sent, rated]
    rfl
  simp only [if_neg (Int.not_lt.mpr succeeds), lt_irrefl, if_false] at ended
  rcases ended_bind _ _ _ u t _ ended with ⟨_, v, first, ended⟩ | ⟨_, first, _⟩
  · rcases ended_done _ _ v t _ ended with ⟨returned, rfl⟩
    exact ⟨returned, (rfsh_sent_stage looked wait_time u t _ first).2.trans refreshed⟩
  · cases (rfsh_sent_stage looked wait_time u t _ first).1

theorem read_blocks_stage (s t : Ticked w) (result : Except Fault Int) (refreshed : s.stage = .refreshed)
    (ended : Ends (tickWorld looked) readBlocks s result t) : t.stage = .snapped := by
  rw [read_blocks_eq] at ended
  rcases ended_call _ _ _ s t _ ended with ⟨ret, u, ⟨first, same⟩, onward⟩
  simp only [if_neg (Int.not_lt.mpr first), lt_irrefl, if_false] at onward
  rcases ended_call _ _ _ u t _ onward with ⟨ret, v, ⟨second, same'⟩, onward⟩
  simp only [if_neg (Int.not_lt.mpr second), lt_irrefl, if_false] at onward
  rcases ended_call _ _ _ v t _ onward with ⟨_, x, decoded, closing⟩
  rcases ended_done _ _ x t _ closing with ⟨_, rfl⟩
  obtain rfl : t = { v with stage := v.stage.decoded } := decoded
  dsimp only
  rw [same', same, refreshed]
  rfl

theorem reg_snapshot_stage (wait_time : Nat) (s t : Ticked w) (result : Except Fault Int) (rated : s.stage = .rated)
    (ended : Ends (tickWorld looked) (regSnapshot true false wait_time) s result t) : t.stage = .snapped := by
  simp only [regSnapshot, issue_bind, if_true] at ended
  rcases ended_call _ _ _ s t _ ended with ⟨_, u, locked, onward⟩
  have same : u = s := locked
  rw [same] at onward
  rcases ended_bind _ _ _ s t _ onward with ⟨ret, v, first, onward⟩ | ⟨_, first, _⟩
  · rcases send_rfsh_stage looked wait_time s v _ rated first with ⟨returned, refreshed⟩
    cases returned
    simp only [lt_irrefl, if_false] at onward
    rcases ended_bind _ _ _ v t _ onward with ⟨ret, x, second, onward⟩ | ⟨_, second, _⟩
    · rcases ended_call _ _ _ x t _ onward with ⟨_, y, unlocked, closing⟩
      rcases ended_done _ _ y t _ closing with ⟨_, rfl⟩
      obtain rfl : t = x := unlocked
      exact read_blocks_stage looked v t _ refreshed second
    · exact read_blocks_stage looked v t _ refreshed second
  · cases (send_rfsh_stage looked wait_time s t _ rated first).1

theorem reread_chip_stage (wait_time : Nat) (s t : Ticked w) (result : Except Fault Int) (rated : s.stage = .rated)
    (ended : Ends (tickWorld looked) (rereadChip hz wait_time) s result t) : t.stage = .snapped := by
  rcases ended_bind _ _ _ s t _ ended with ⟨_, u, first, onward⟩ | ⟨_, first, _⟩
  · have snapped := reg_snapshot_stage looked wait_time s u _ rated first
    rcases ended_call _ _ _ u t _ onward with ⟨_, v, ⟨_, same⟩, onward⟩
    rcases ended_call _ (Cmd.modTimer _) .done v t _ onward with ⟨_, x, ⟨_, same'⟩, closing⟩
    rcases ended_done _ _ x t _ closing with ⟨_, rfl⟩
    rw [same', same]
    exact snapped
  · exact reg_snapshot_stage looked wait_time s t _ rated first

theorem retrieve_data_stage (wait_time : Nat) (s t : Ticked w) (result : Except Fault Int) (rated : s.stage = .rated)
    (ended : Ends (tickWorld looked) (retrieveData hz wait_time) s result t) :
    t.stage = .snapped ↔
      Jiffies.after (Clock.shown looked) (Jiffies.add s.tstamp (msecsToJiffies hz minPollingTime)) = true := by
  simp only [retrieveData, issue_bind] at ended
  rcases ended_call _ _ _ s t _ ended with ⟨now, u, ⟨look, same⟩, onward⟩
  rcases ended_call _ _ _ u t _ onward with ⟨tstamp, v, ⟨read, same'⟩, onward⟩
  rw [look rated, read, same', same] at onward
  by_cases past : Jiffies.after (Clock.shown looked) (Jiffies.add s.tstamp (msecsToJiffies hz minPollingTime)) = true
  · rw [if_pos past] at onward
    exact ⟨fun _ => past, fun _ => reread_chip_stage hz looked wait_time s t _ rated onward⟩
  · rw [if_neg past] at onward
    rcases ended_done _ _ s t _ onward with ⟨_, rfl⟩
    constructor
    · intro snapped
      rw [rated] at snapped
      cases snapped
    · intro after
      exact absurd after past

-- Half of pac193x_write_raw: the timestamp is moved back by as much as
-- pac193x_retrieve_data adds to it.
theorem force_snapshot_stage (old_samp_rate : Nat) (s t : Ticked w) (ret : Int) (rated : s.stage = .rated)
    (ended : Ends (tickWorld looked) (forceSnapshot hz old_samp_rate) s (.ok ret) t) :
    t.stage = .snapped ↔ Clock.later (Clock.shown looked) s.tstamp = true := by
  simp only [forceSnapshot, issue_bind] at ended
  rcases ended_call _ _ _ s t _ ended with ⟨tstamp, u, ⟨read, same⟩, onward⟩
  rcases ended_call _ _ _ u t _ onward with ⟨_, v, moved, onward⟩
  obtain rfl : v = { u with tstamp := Jiffies.sub tstamp (msecsToJiffies hz minPollingTime) } := moved
  rcases ended_bind _ _ _ _ t _ onward with ⟨ratio, x, divided, onward⟩ | ⟨_, _, impossible⟩
  · have unmoved : x = { u with tstamp := Jiffies.sub tstamp (msecsToJiffies hz minPollingTime) } := by
      rw [divide] at divided
      split at divided
      · cases (ended_stop _ _ _ _ _ divided).1
      · exact (ended_done _ _ _ _ _ divided).2
    rcases ended_bind _ _ _ x t _ onward with ⟨_, y, retrieved, closing⟩ | ⟨_, _, impossible⟩
    · rcases ended_done _ _ y t _ closing with ⟨_, rfl⟩
      have stage := retrieve_data_stage hz looked (ratio * 1000) x t _ (by rw [unmoved, same]; exact rated) retrieved
      rw [stage, unmoved, read]
      exact iff_of_eq (congrArg (· = true) (Clock.later_moved _ _ _))
    · cases impossible
  · cases impossible

theorem write_samp_rate_stage (val : Nat) (s t : Ticked w) (ret : Int)
    (ended : Ends (tickWorld looked) (writeSampRate hz val) s (.ok ret) t) :
    t.stage = .snapped ↔ Clock.later (Clock.shown looked) s.tstamp = true := by
  rw [write_samp_rate_eq] at ended
  rcases ended_call _ _ _ s t _ ended with ⟨old, u, ⟨_, sameU⟩, onward⟩
  rcases ended_call _ _ _ u t _ onward with ⟨_, v, rated, onward⟩
  rcases ended_call _ _ _ v t _ onward with ⟨_, x, locked, onward⟩
  rcases ended_call _ _ _ x t _ onward with ⟨code, y, ⟨_, sameY⟩, onward⟩
  rcases ended_call _ _ _ y t _ onward with ⟨sent, z, ⟨succeeds, written⟩, onward⟩
  rcases ended_call _ _ _ z t _ onward with ⟨_, z', unlocked, onward⟩
  have sameX : x = v := locked
  have sameZ : z' = z := unlocked
  have setV : v = { u with sample_rate_value := val } := rated
  simp only [if_neg (Int.not_lt.mpr succeeds), lt_irrefl, if_false] at onward
  have stage := force_snapshot_stage hz looked old z' t ret (by rw [sameZ, written]; rfl) onward
  rw [stage, sameZ, written, sameY, sameX, setV, sameU]

end Runs

def tickHandler (looked : Nat) (s : Ticked w) (cmd : Cmd (BitVec w)) : cmd.Reply × Ticked w :=
  match cmd with
  | .jiffies => (Clock.shown looked, s)
  | .tstamp => (s.tstamp, s)
  | .setTstamp time => ((), { s with tstamp := time })
  | .lock | .unlock | .usleepRange _ _ => ((), s)
  | .write reg _ => ((0 : Int), { s with stage := s.stage.sent reg })
  | .read _ _ _ | .modTimer _ | .field _ _ => ((0 : Int), s)
  | .decode => ((), { s with stage := s.stage.decoded })
  | .queueWork | .bufferEnabled => (false, s)
  | .shunt _ => ((0 : Nat), s)
  | .sampleRate => (s.sample_rate_value, s)
  | .setSampleRate rate => ((), { s with sample_rate_value := rate })
  | .speedCode => (s.crt_samp_speed_bitfield, s)
  | .setSpeedCode code => ((), { s with crt_samp_speed_bitfield := code })

theorem tick_handler_obeys (looked : Nat) (s : Ticked w) (cmd : Cmd (BitVec w)) :
    (tickWorld looked).reply s cmd (tickHandler looked s cmd).1 (tickHandler looked s cmd).2 := by
  cases cmd with
  | jiffies => exact ⟨fun _ => rfl, rfl⟩
  | write reg data => exact ⟨le_refl 0, rfl⟩
  | read block reg len => exact ⟨le_refl 0, rfl⟩
  | modTimer expires => exact ⟨le_refl 0, rfl⟩
  | tstamp => exact ⟨rfl, rfl⟩
  | sampleRate => exact ⟨rfl, rfl⟩
  | speedCode => exact ⟨rfl, rfl⟩
  | _ => rfl

-- time_after of the jiffy in which pac193x_retrieve_data looks and the timestamp
-- that the write finds.
def Overdue (looked : Nat) (s : Ticked w) : Prop := Clock.later (Clock.shown looked) s.tstamp = true

-- What that is where the timestamp is the time of the last REFRESH, and where a
-- write without effect has moved it back since.
theorem overdue_stamped (looked last : Nat) (s : Ticked w) (stamp : s.tstamp = Clock.shown last) (past : last ≤ looked)
    (near : 2 * (looked - last) < 2 ^ w) : Overdue looked s ↔ last < looked := by
  rw [Overdue, stamp]
  exact Clock.later_within looked last past near

theorem overdue_moved (hz looked last : Nat) (s : Ticked w)
    (stamp : s.tstamp = Clock.shown last - Clock.shown (msecsToJiffies hz minPollingTime)) (past : last ≤ looked)
    (ticking : 0 < hz) (near : 2 * (looked + msecsToJiffies hz minPollingTime - last) < 2 ^ w) : Overdue looked s := by
  have span : 0 < msecsToJiffies hz minPollingTime := by
    rw [msecsToJiffies, minPollingTime]
    omega
  rw [Overdue, stamp, Clock.later_back looked last _ past near]
  omega

-- A driver whose last REFRESH was in jiffy 5000.
def stamped : Ticked 32 := ⟨Clock.shown 5000, 1024, 0, .idle⟩

def rateChange (looked : Nat) (s : Ticked 32) : Except Fault Int × Ticked 32 :=
  eval (tickHandler looked) (writeRaw 100 8 .samp_freq) s

theorem rate_change_ends (looked : Nat) (s : Ticked 32) (returned : (rateChange looked s).1 = .ok 0) :
    Ends (tickWorld looked) (writeRaw 100 8 .samp_freq) s (.ok 0) (rateChange looked s).2 :=
  returned ▸ ends_eval (tickWorld looked) (tickHandler looked) _ s (tick_handler_obeys looked)

theorem rate_effect_iff (hz looked : Nat) (val : Int) (s t : Ticked w)
    (ended : Ends (tickWorld looked) (writeRaw hz val .samp_freq) s (.ok 0) t) : t.stage = .snapped ↔ Overdue looked s := by
  simp only [writeRaw, issue_bind] at ended
  rcases ended_call _ _ _ s t _ ended with ⟨enabled, u, same, onward⟩
  obtain rfl : u = s := same
  cases enabled with
  | true => cases (ended_done _ _ _ t _ onward).1
  | false =>
      rw [if_neg Bool.false_ne_true, writeSampFreq] at onward
      rcases match_samp_rate_cases (val % 65536).toNat with ⟨_, refused⟩ | ⟨cnt, _, matched⟩
      · rw [refused] at onward
        cases (ended_done _ _ _ t _ onward).1
      · rw [matched] at onward
        rcases ended_call _ _ _ u t _ onward with ⟨_, v, set, onward⟩
        have coded : v = { u with crt_samp_speed_bitfield := cnt } := set
        rw [write_samp_rate_stage hz looked _ v t 0 onward, coded, Overdue]

-- In the jiffy of the last REFRESH the first write has no effect and the second
-- one has.
theorem rate_effect_iff_second_write :
    let s := (rateChange 5000 stamped).2
    (rateChange 5001 stamped).2.stage = .snapped ∧ s.stage ≠ .snapped ∧ (rateChange 5000 s).2.stage = .snapped := by
  have effect (looked : Nat) (s : Ticked 32) (returned : (rateChange looked s).1 = .ok 0) :=
    rate_effect_iff 100 looked 8 s _ (rate_change_ends looked s returned)
  refine ⟨(effect 5001 _ rfl).mpr ?_, fun snapped => ?_, (effect 5000 _ rfl).mpr ?_⟩
  · exact (overdue_stamped 5001 5000 stamped rfl (by decide) (by decide)).mpr (by decide)
  · have overdue := (overdue_stamped 5000 5000 stamped rfl (by decide) (by decide)).mp ((effect 5000 _ rfl).mp snapped)
    exact absurd overdue (by decide)
  · exact overdue_moved 100 5000 5000 _ rfl (by decide) (by decide) (by decide)

-- In the jiffy of the last REFRESH a rate is set and does not take effect.
theorem same_jiffy_no_effect :
    ¬ ∀ (w hz looked last : Nat) (val : Int) (s t : Ticked w), s.tstamp = Clock.shown last → last ≤ looked →
      looked ≤ last + msecsToJiffies hz maxRfshLimit → 2 * msecsToJiffies hz maxRfshLimit < 2 ^ w →
      Ends (tickWorld looked) (writeRaw hz val .samp_freq) s (.ok 0) t → t.stage = .snapped := by
  intro effect
  have snapped := effect 32 100 5000 5000 8 stamped _ rfl (by decide) (by decide) (by decide)
    (rate_change_ends 5000 stamped rfl)
  exact absurd snapped (by decide)

end SummitSom.Pac193x
