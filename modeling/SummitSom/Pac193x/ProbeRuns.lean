import SummitSom.Pac193x.Divisors
import SummitSom.Pac193x.Probe

set_option autoImplicit false

namespace SummitSom.Pac193x

open Interact

structure Steady (s t : Probing) : Prop where
  workReady : t.workReady = s.workReady
  timerReady : t.timerReady = s.timerReady
  misused : t.misused = s.misused
  untimed : s.driver.timer = none → t.driver.timer = none
  idle : s.Idle → t.Idle

structure Still (s t : Probing) : Prop extends Steady s t where
  locked : t.driver.locked = s.driver.locked

theorem steady_trans (s t u : Probing) (first : Steady s t) (second : Steady t u) : Steady s u :=
  ⟨second.workReady.trans first.workReady, second.timerReady.trans first.timerReady,
    second.misused.trans first.misused, fun untimed => second.untimed (first.untimed untimed),
    fun idle => second.idle (first.idle idle)⟩

theorem still_refl (s : Probing) : Still s s := ⟨⟨rfl, rfl, rfl, id, id⟩, rfl⟩

theorem still_trans (s t u : Probing) (first : Still s t) (second : Still t u) : Still s u :=
  ⟨steady_trans s t u first.toSteady second.toSteady, second.locked.trans first.locked⟩

theorem ambient_still (s t : Probing) (ambient : Relation.ReflTransGen Ambient s t) : Still s t := by
  induction ambient with
  | refl => exact still_refl s
  | tail _ step ih =>
      apply still_trans _ _ _ ih
      cases step with
      | passes later onwards => exact ⟨⟨rfl, rfl, rfl, id, fun idle => ⟨idle.timer, idle.queued⟩⟩, rfl⟩
      | expires expires next pending due =>
          refine ⟨⟨rfl, rfl, rfl, fun untimed => ?_, fun idle => ?_⟩, rfl⟩
          · exact nomatch untimed.symm.trans pending
          · exact nomatch idle.timer.symm.trans pending
      | works later tstamp data queued unlocked onwards =>
          exact ⟨⟨rfl, rfl, rfl, id, fun idle => ⟨idle.timer, rfl⟩⟩, rfl⟩

section Runs

variable (phys_channels : Nat) (prod_id : UInt8) (p : Pattern)

theorem reply_locked (s t : Driver) (cmd : Cmd Int) (answer : cmd.Reply) (lock : cmd ≠ .lock) (unlock : cmd ≠ .unlock)
    (reply : driverReply phys_channels s cmd answer t) : t.locked = s.locked := by
  cases cmd with
  | lock => exact absurd rfl lock
  | unlock => exact absurd rfl unlock
  | _ => grind [driverReply]

theorem driver_steady (s : Probing) (driver : Driver) (cmd : Cmd Int) (answer : cmd.Reply) (other : ¬ Schedules cmd)
    (reply : driverReply phys_channels s.driver cmd answer driver) : Steady s { s with driver := driver } := by
  have same := unscheduling phys_channels s.driver driver cmd answer other reply
  exact ⟨rfl, rfl, rfl, fun untimed => same.1.trans untimed,
    fun idle => ⟨same.1.trans idle.timer, same.2.trans idle.queued⟩⟩

theorem driver_still (s : Probing) (driver : Driver) (cmd : Cmd Int) (answer : cmd.Reply) (other : ¬ Schedules cmd)
    (lock : cmd ≠ .lock) (unlock : cmd ≠ .unlock) (reply : driverReply phys_channels s.driver cmd answer driver) :
    Still s { s with driver := driver } :=
  ⟨driver_steady phys_channels s driver cmd answer other reply,
    reply_locked phys_channels s.driver driver cmd answer lock unlock reply⟩

-- One command of probe, after whatever went on beside it.
theorem probe_call {A : Type} (cmd : ProbeCmd) (rest : cmd.Reply → ProbeAct A) (s : Probing) (done : List ProbeStep)
    (x : Probing × List ProbeStep) (result : Except Fault A)
    (ended : Ends (probeWorld phys_channels prod_id p) (.call cmd rest) (s, done) result x) :
    ∃ answer u t, Still s u ∧ probeReply phys_channels p u cmd answer t ∧
      Ends (probeWorld phys_channels prod_id p) (rest answer) (t, done ++ achieved prod_id t.driver.locked cmd answer)
        result x := by
  rcases ended_watched _ _ cmd rest (s, done) x result ended with ⟨answer, t, ⟨u, ambient, reply⟩, onward⟩
  exact ⟨answer, u, t, ambient_still s u ambient, reply, onward⟩

-- Commands of the driver that get nothing done.
def Calm : Cmd Int → Prop
  | .jiffies | .tstamp | .setTstamp _ | .usleepRange _ _ | .speedCode | .read _ _ _ => True
  | _ => False

theorem calm_call {A : Type} (cmd : Cmd Int) (rest : cmd.Reply → ProbeAct A) (s : Probing) (done : List ProbeStep)
    (x : Probing × List ProbeStep) (result : Except Fault A) (calm : Calm cmd)
    (ended : Ends (probeWorld phys_channels prod_id p) (.call (.removal (.driver cmd)) rest) (s, done) result x) :
    ∃ answer t, Still s t ∧ p.gives s.driver.locked cmd answer ∧
      Ends (probeWorld phys_channels prod_id p) (rest answer) (t, done) result x := by
  rcases probe_call phys_channels prod_id p (.removal (.driver cmd)) rest s done x result ended with
    ⟨answer, u, t, beside, ⟨given, driver, reply, rfl⟩, onward⟩
  have still : Still u { u with driver := driver } := by
    refine driver_still phys_channels u driver cmd answer ?_ ?_ ?_ reply
    · cases cmd <;> first | exact id | exact fun _ => calm
    · rintro rfl
      exact calm
    · rintro rfl
      exact calm
  have nothing : achieved prod_id driver.locked (.removal (.driver cmd)) answer = [] := by
    cases cmd <;> first | rfl | exact calm.elim
  refine ⟨answer, _, still_trans s u _ beside still, beside.locked ▸ given, ?_⟩
  rw [nothing, List.append_nil] at onward
  exact onward

theorem chip_identify_ends (s : Probing) (done : List ProbeStep) (y : Probing × List ProbeStep) (ret : Int)
    (ended : Ends (probeWorld phys_channels prod_id p) (chipIdentify prod_id) (s, done) (.ok ret) y) :
    Still s y.1 ∧ if p.identifies prod_id then ret = 0 ∧ y.2 = done ++ [.identified] else ret < 0 ∧ y.2 = done := by
  rcases probe_call phys_channels prod_id p _ _ s done y _ ended with ⟨answer, u, t, beside, ⟨rfl, rfl⟩, onward⟩
  dsimp only [achieved, Pattern.info] at onward
  simp only [if_true, true_and] at onward
  by_cases known : p.identifies prod_id
  · rw [if_neg (Int.not_lt.mpr known.1), if_neg (not_not_intro known.2),
      if_pos (show 0 ≤ p.identify ∧ p.chip_rev_info.getD 0 0 = prod_id from known)] at onward
    rcases ended_done _ _ _ y _ onward with ⟨returned, rfl⟩
    cases returned
    rw [if_pos known]
    exact ⟨beside, rfl, rfl⟩
  · rw [if_neg (show ¬(0 ≤ p.identify ∧ p.chip_rev_info.getD 0 0 = prod_id) from known), List.append_nil] at onward
    rw [if_neg known]
    by_cases fails : p.identify < 0
    · rw [if_pos fails] at onward
      rcases ended_done _ _ _ y _ onward with ⟨returned, rfl⟩
      cases returned
      exact ⟨beside, fails, rfl⟩
    · have differs : p.chip_rev_info.getD 0 0 ≠ prod_id := fun same => known ⟨Int.not_lt.mp fails, same⟩
      rw [if_neg fails, if_pos differs] at onward
      rcases ended_done _ _ _ y _ onward with ⟨returned, rfl⟩
      cases returned
      exact ⟨beside, by decide, rfl⟩

structure SetUp (s t : Probing) : Prop where
  workReady : t.workReady = true
  timerReady : t.timerReady = true
  misused : t.misused = s.misused
  locked : t.driver.locked = s.driver.locked

-- A part of the configuration: it sets the timer up, with everything before it
-- done, or stops before the timer.
def Configures (ok : Prop) (steps : List ProbeStep) (x y : Probing × List ProbeStep) : Prop :=
  (ok ∧ SetUp x.1 y.1 ∧ y.2 = x.2 ++ steps) ∨
    (¬ok ∧ Still x.1 y.1 ∧ ∃ more, y.2 = x.2 ++ more ∧ ProbeStep.timer ∉ more)

theorem configures_calmly (ok : Prop) (steps : List ProbeStep) (s t : Probing) (done : List ProbeStep)
    (y : Probing × List ProbeStep) (still : Still s t) (onward : Configures ok steps (t, done) y) :
    Configures ok steps (s, done) y := by
  rcases onward with ⟨succeeds, setUp, reached⟩ | ⟨fails, same, more⟩
  · refine .inl ⟨succeeds, ⟨setUp.workReady, setUp.timerReady, ?_, ?_⟩, reached⟩
    · exact setUp.misused.trans still.misused
    · exact setUp.locked.trans still.locked
  · exact .inr ⟨fails, still_trans s t y.1 still same, more⟩

theorem configures_after (ok passed : Prop) (first steps : List ProbeStep) (s t : Probing) (done : List ProbeStep)
    (y : Probing × List ProbeStep) (holds : passed) (still : Still s t) (untimed : ProbeStep.timer ∉ first)
    (onward : Configures ok steps (t, done ++ first) y) : Configures (passed ∧ ok) (first ++ steps) (s, done) y := by
  rcases configures_calmly ok steps s t _ y still onward with ⟨succeeds, setUp, reached⟩ | ⟨fails, same, more, reached, without⟩
  · exact .inl ⟨⟨holds, succeeds⟩, setUp, by rw [reached, List.append_assoc]⟩
  · refine .inr ⟨fun both => fails both.2, same, first ++ more, by rw [reached, List.append_assoc], ?_⟩
    exact fun member => (List.mem_append.mp member).elim untimed without

theorem configures_stopped (ok passed : Prop) (steps : List ProbeStep) (s t : Probing) (done : List ProbeStep)
    (fails : ¬passed) (still : Still s t) : Configures (passed ∧ ok) steps (s, done) (t, done) :=
  .inr ⟨fun both => fails both.1, still, [], (List.append_nil done).symm, List.not_mem_nil⟩

-- A transfer that writes a register, and what follows when it succeeds.
theorem transfer_configures (reg : UInt8) (data : Bytes) (next : ProbeAct Int) (step : ProbeStep) (ok : Prop)
    (steps : List ProbeStep) (s : Probing) (done : List ProbeStep) (y : Probing × List ProbeStep) (ret : Int)
    (short : data.length < 16) (untimed : ProbeStep.timer ∉ [step])
    (written : achieved prod_id s.driver.locked (.removal (.driver (.write reg data))) (0 : Int) = [step])
    (ended : Ends (probeWorld phys_channels prod_id p)
      (ofRemoval (ofDriver (i2cWrite reg data)) >>= fun ret => if ret < 0 then pure ret else next) (s, done) (.ok ret) y)
    (onward : ∀ t, Still s t → Ends (probeWorld phys_channels prod_id p) next (t, done ++ [step]) (.ok ret) y →
      Configures ok steps (t, done ++ [step]) y) :
    Configures (0 ≤ p.write s.driver.locked reg ∧ ok) ([step] ++ steps) (s, done) y := by
  rw [i2cWrite, if_neg (Nat.not_le.mpr short)] at ended
  rcases probe_call phys_channels prod_id p (.removal (.driver (.write reg data))) _ s done y _ ended with
    ⟨answer, u, t, beside, ⟨given, driver, reply, rfl⟩, rest⟩
  have still := driver_still phys_channels u driver (.write reg data) answer id (by simp) (by simp) reply
  have reached := still_trans s u _ beside still
  have locked : driver.locked = s.driver.locked := reached.locked
  obtain rfl : answer = p.write s.driver.locked reg := beside.locked ▸ given
  have returned : Ends (probeWorld phys_channels prod_id p)
      (if (if p.write s.driver.locked reg < 0 then p.write s.driver.locked reg else 0) < 0 then
          .done (if p.write s.driver.locked reg < 0 then p.write s.driver.locked reg else 0) else next)
      ({ u with driver := driver }, done ++ achieved prod_id driver.locked (.removal (.driver (.write reg data)))
        (p.write s.driver.locked reg)) (.ok ret) y := rest
  rw [locked] at returned
  by_cases fails : p.write s.driver.locked reg < 0
  · simp only [achieved, if_pos fails, List.append_nil] at returned
    rcases ended_done _ _ _ y _ returned with ⟨_, rfl⟩
    exact configures_stopped _ _ _ s _ done (Int.not_le.mpr fails) reached
  · simp only [achieved, lt_irrefl, if_false] at written
    simp only [achieved, if_neg fails, written, lt_irrefl, if_false] at returned
    exact configures_after _ _ [step] steps s _ done y (Int.not_lt.mp fails) reached untimed (onward _ reached returned)

theorem setup_periodic_refresh_ends (hz : Nat) (s : Probing) (done : List ProbeStep) (y : Probing × List ProbeStep)
    (ret : Int) (ended : Ends (probeWorld phys_channels prod_id p) (setupPeriodicRefresh hz) (s, done) (.ok ret) y) :
    Configures True [.timer] (s, done) y := by
  rcases probe_call phys_channels prod_id p _ _ s done y _ ended with ⟨_, u, t, beside, ready, onward⟩
  obtain rfl : t = { u with workReady := true } := ready
  rcases probe_call phys_channels prod_id p _ _ _ _ y _ onward with ⟨_, v, t, later, timed, onward⟩
  obtain rfl : t = { v with timerReady := true } := timed
  rcases calm_call phys_channels prod_id p .jiffies _ _ _ y _ trivial onward with ⟨now, t, still, _, onward⟩
  rcases probe_call phys_channels prod_id p _ _ t _ y _ onward with ⟨pending, x, t', last, ⟨_, driver, armed, rfl⟩, onward⟩
  rcases ended_done _ _ _ y _ onward with ⟨_, rfl⟩
  have locked := reply_locked phys_channels x.driver driver (.modTimer _) pending (by simp) (by simp) armed
  refine .inl ⟨trivial, ⟨?_, ?_, ?_, ?_⟩, ?_⟩
  · rw [last.workReady, still.workReady, later.workReady]
  · rw [last.timerReady, still.timerReady]
  · rw [last.misused, still.misused, later.misused, beside.misused]
  · rw [locked, last.locked, still.locked, later.locked, beside.locked]
  · simp [achieved]

theorem start_refresh_ends (hz : Nat) (regs : Bytes) (s : Probing) (done : List ProbeStep) (y : Probing × List ProbeStep)
    (ret : Int) (unlocked : s.driver.locked = false)
    (ended : Ends (probeWorld phys_channels prod_id p) (startRefresh hz regs) (s, done) (.ok ret) y) :
    Configures (0 ≤ p.refresh ∧ True) [.refresh, .timer] (s, done) y := by
  have sent : p.write s.driver.locked refreshReg = p.refresh := by
    rw [unlocked]
    rfl
  rw [← sent]
  refine transfer_configures phys_channels prod_id p refreshReg [] _ .refresh True [.timer] s done y ret (by decide)
    (by decide) (by rw [unlocked]; rfl) ended fun t still rest => ?_
  rcases calm_call phys_channels prod_id p (.usleepRange _ _) _ t _ y _ trivial rest with ⟨_, u, waited, _, rest⟩
  have setUp := setup_periodic_refresh_ends phys_channels prod_id p hz u _ y ret rest
  exact configures_calmly _ _ t u _ y waited setUp

theorem enable_alert_ends (hz : Nat) (regs : Bytes) (s : Probing) (done : List ProbeStep) (y : Probing × List ProbeStep)
    (ret : Int) (unlocked : s.driver.locked = false)
    (ended : Ends (probeWorld phys_channels prod_id p) (enableAlert hz regs) (s, done) (.ok ret) y) :
    Configures (0 ≤ p.ctrl ∧ 0 ≤ p.refresh ∧ True) [.ctrl, .refresh, .timer] (s, done) y := by
  rcases calm_call phys_channels prod_id p .speedCode _ s _ y _ trivial ended with ⟨code, t, loaded, _, rest⟩
  apply configures_calmly _ _ s t done y loaded
  refine transfer_configures phys_channels prod_id p ctrlReg _ _ .ctrl _ [.refresh, .timer] t done y ret (by simp)
    (by decide) rfl rest fun u still rest => ?_
  have free : u.driver.locked = false := still.locked.trans (loaded.locked.trans unlocked)
  exact start_refresh_ends phys_channels prod_id p hz regs u _ y ret free rest

def configureSteps : List ProbeStep := [.channels, .ctrl, .refresh, .timer]

theorem chip_configure_ends (hz : Nat) (setup : Setup) (s : Probing) (done : List ProbeStep)
    (y : Probing × List ProbeStep) (ret : Int) (unlocked : s.driver.locked = false)
    (ended : Ends (probeWorld phys_channels prod_id p) (chipConfigure hz setup) (s, done) (.ok ret) y) :
    Configures (0 ≤ p.readRegs ∧ 0 ≤ p.channels ∧ 0 ≤ p.ctrl ∧ 0 ≤ p.refresh ∧ True) configureSteps (s, done) y := by
  rcases probe_call phys_channels prod_id p _ _ s done y _ ended with ⟨answer, t, u, beside, ⟨rfl, rfl⟩, onward⟩
  have nothing : achieved prod_id u.driver.locked (.readInto ctrlStatRegsAddr ctrlStatusInfoLen) (p.info ctrlStatRegsAddr) = [] := rfl
  have info : p.info ctrlStatRegsAddr = (p.readRegs, p.regs) := rfl
  rw [nothing, info] at onward
  by_cases unread : p.readRegs < 0
  · simp only [if_pos unread] at onward
    rw [List.append_nil] at onward
    rcases ended_done _ _ _ y _ onward with ⟨_, rfl⟩
    exact configures_stopped _ _ _ s u done (Int.not_le.mpr unread) beside
  · simp only [if_neg unread] at onward
    refine configures_after _ _ [] configureSteps s u done y (Int.not_lt.mp unread) beside (by decide) ?_
    refine transfer_configures phys_channels prod_id p ctrlStatRegsAddr _ _ .channels _ _ u _ y ret (by simp) (by decide)
      rfl onward fun v sent rest => ?_
    have free : v.driver.locked = false := sent.locked.trans (beside.locked.trans unlocked)
    exact enable_alert_ends phys_channels prod_id p hz p.regs v _ y ret free rest

theorem prep_channels_ends (s : Probing) (done : List ProbeStep) (y : Probing × List ProbeStep) (ret : Int)
    (ended : Ends (probeWorld phys_channels prod_id p) prepChannels (s, done) (.ok ret) y) :
    Still s y.1 ∧ y.2 = done ∧ if p.prepares then ret = 0 else ret < 0 := by
  rcases probe_call phys_channels prod_id p _ _ s done y _ ended with ⟨allocated, t, u, first, ⟨rfl, rfl⟩, onward⟩
  cases zeroed : p.kzalloc with
  | false =>
      rw [zeroed] at onward
      rcases ended_done _ _ _ y _ onward with ⟨returned, rfl⟩
      cases returned
      rw [if_neg fun both : p.prepares => Bool.false_ne_true (zeroed.symm.trans both.1)]
      exact ⟨first, List.append_nil done, by decide⟩
  | true =>
      rw [zeroed] at onward
      rcases probe_call phys_channels prod_id p _ _ u _ y _ onward with ⟨duplicated, v, x, second, ⟨rfl, rfl⟩, onward⟩
      cases copied : p.kmemdup with
      | false =>
          rw [copied] at onward
          rcases ended_done _ _ _ y _ onward with ⟨returned, rfl⟩
          cases returned
          rw [if_neg fun both : p.prepares => Bool.false_ne_true (copied.symm.trans both.2)]
          refine ⟨still_trans s u x first second, ?_, by decide⟩
          simp [achieved]
      | true =>
          rw [copied] at onward
          rcases probe_call phys_channels prod_id p _ _ x _ y _ onward with ⟨_, z, last, third, same, onward⟩
          obtain rfl : last = z := same
          rcases ended_done _ _ _ y _ onward with ⟨returned, rfl⟩
          cases returned
          rw [if_pos (show p.prepares from ⟨zeroed, copied⟩)]
          refine ⟨still_trans s x last (still_trans s u x first second) third, ?_, rfl⟩
          simp [achieved]

theorem send_rfsh_done (wait_time : Nat) (s : Probing) (done : List ProbeStep) (y : Probing × List ProbeStep) (ret : Int)
    (locked : s.driver.locked = true)
    (ended : Ends (probeWorld phys_channels prod_id p) (ofRemoval (ofDriver (sendRfsh false wait_time))) (s, done)
      (.ok ret) y) :
    Still s y.1 ∧ y.2 = done ∧ (ret < 0 ↔ p.snapshotRefresh < 0) := by
  rw [send_rfsh_eq] at ended
  rcases probe_call phys_channels prod_id p (.removal (.driver (.write refreshReg []))) _ s done y _ ended with
    ⟨answer, u, t, beside, ⟨given, driver, reply, rfl⟩, onward⟩
  have still := still_trans s u _ beside (driver_still phys_channels u driver (.write refreshReg []) answer id (by simp) (by simp) reply)
  have sent : driver.locked = true := still.locked.trans locked
  obtain rfl : answer = p.snapshotRefresh := by
    rw [beside.locked, locked] at given
    exact given
  have nothing : achieved prod_id driver.locked (.removal (.driver (.write refreshReg []))) p.snapshotRefresh = [] := by
    rw [sent]
    exact ite_self []
  rw [nothing, List.append_nil] at onward
  by_cases fails : p.snapshotRefresh < 0
  · simp only [if_pos fails] at onward
    rcases ended_done _ _ _ y _ onward with ⟨returned, rfl⟩
    cases returned
    exact ⟨still, rfl, iff_of_true fails fails⟩
  · simp only [if_neg fails, lt_irrefl, if_false] at onward
    rcases calm_call phys_channels prod_id p .jiffies _ _ _ y _ trivial onward with ⟨now, v, first, _, onward⟩
    rcases calm_call phys_channels prod_id p (.setTstamp now) _ v _ y _ trivial onward with ⟨_, w, second, _, onward⟩
    rcases calm_call phys_channels prod_id p (.usleepRange _ _) _ w _ y _ trivial onward with ⟨_, x, third, _, onward⟩
    rcases ended_done _ _ _ y _ onward with ⟨returned, rfl⟩
    cases returned
    exact ⟨still_trans s w x (still_trans s v w (still_trans s _ v still first) second) third, rfl,
      iff_of_false (lt_irrefl 0) fails⟩

theorem read_blocks_done (s : Probing) (done : List ProbeStep) (y : Probing × List ProbeStep) (ret : Int)
    (ended : Ends (probeWorld phys_channels prod_id p) (ofRemoval (ofDriver readBlocks)) (s, done) (.ok ret) y) :
    Still s y.1 ∧ if 0 ≤ p.block .ctrl_regs ∧ 0 ≤ p.block .meas_regs then y.2 = done ++ [.snapshot] else y.2 = done := by
  rw [read_blocks_eq] at ended
  rcases calm_call phys_channels prod_id p (.read .ctrl_regs _ _) _ s _ y _ trivial ended with ⟨_, t, first, rfl, onward⟩
  by_cases ctrl : p.block .ctrl_regs < 0
  · simp only [if_pos ctrl] at onward
    rcases ended_done _ _ _ y _ onward with ⟨_, rfl⟩
    rw [if_neg fun both => Int.not_lt.mpr both.1 ctrl]
    exact ⟨first, rfl⟩
  · simp only [if_neg ctrl, lt_irrefl, if_false] at onward
    rcases calm_call phys_channels prod_id p (.read .meas_regs _ _) _ t _ y _ trivial onward with ⟨_, u, second, rfl, onward⟩
    by_cases meas : p.block .meas_regs < 0
    · simp only [if_pos meas] at onward
      rcases ended_done _ _ _ y _ onward with ⟨_, rfl⟩
      rw [if_neg fun both => Int.not_lt.mpr both.2 meas]
      exact ⟨still_trans s t u first second, rfl⟩
    · simp only [if_neg meas, lt_irrefl, if_false] at onward
      rcases probe_call phys_channels prod_id p (.removal (.driver .decode)) _ u _ y _ onward with
        ⟨answer, v, w, beside, ⟨_, driver, reply, rfl⟩, onward⟩
      have last := driver_still phys_channels v driver .decode answer id (by simp) (by simp) reply
      rcases ended_done _ _ _ y _ onward with ⟨_, rfl⟩
      rw [if_pos ⟨Int.not_lt.mp ctrl, Int.not_lt.mp meas⟩]
      exact ⟨still_trans s v _ (still_trans s u v (still_trans s t u first second) beside) last, rfl⟩

theorem of_driver_bind {A B : Type} (act : Act Int A) (rest : A → Act Int B) :
    ofRemoval (ofDriver (act >>= rest)) = ofRemoval (ofDriver act) >>= fun value => ofRemoval (ofDriver (rest value)) := by
  rw [ofDriver, within_bind, ofRemoval, within_bind]
  rfl

theorem refreshed_blocks_done (sent : Int) (s : Probing) (done : List ProbeStep) (y : Probing × List ProbeStep) (ret : Int)
    (same : sent < 0 ↔ p.snapshotRefresh < 0)
    (ended : Ends (probeWorld phys_channels prod_id p)
      (ofRemoval (ofDriver (if sent < 0 then pure sent else readBlocks))) (s, done) (.ok ret) y) :
    Still s y.1 ∧ y.2 = done ++ if p.snapshots then [ProbeStep.snapshot] else [] := by
  by_cases fails : sent < 0
  · rw [if_pos fails] at ended
    rcases ended_done _ _ _ y _ ended with ⟨_, rfl⟩
    have unsent : ¬p.snapshots := fun snapshots => Int.not_lt.mpr snapshots.1 (same.mp fails)
    rw [if_neg unsent, List.append_nil]
    exact ⟨still_refl s, rfl⟩
  · rw [if_neg fails] at ended
    rcases read_blocks_done phys_channels prod_id p s done y ret ended with ⟨still, reached⟩
    refine ⟨still, ?_⟩
    by_cases read : 0 ≤ p.block .ctrl_regs ∧ 0 ≤ p.block .meas_regs
    · rw [if_pos read] at reached
      rw [if_pos (show p.snapshots from ⟨Int.not_lt.mp fun negative => fails (same.mpr negative), read⟩)]
      exact reached
    · rw [if_neg read] at reached
      rw [if_neg fun snapshots : p.snapshots => read snapshots.2, List.append_nil]
      exact reached

theorem reg_snapshot_done (wait_time : Nat) (s : Probing) (done : List ProbeStep) (y : Probing × List ProbeStep) (ret : Int)
    (ended : Ends (probeWorld phys_channels prod_id p) (ofRemoval (ofDriver (regSnapshot true false wait_time))) (s, done)
      (.ok ret) y) :
    Steady s y.1 ∧ y.2 = done ++ if p.snapshots then [ProbeStep.snapshot] else [] := by
  simp only [regSnapshot, issue_bind, if_true] at ended
  rcases probe_call phys_channels prod_id p (.removal (.driver .lock)) _ s done y _ ended with
    ⟨_, u, t, beside, ⟨_, driver, locking, rfl⟩, onward⟩
  have locked : driver.locked = true := by rw [locking.2]
  have first := steady_trans s u _ beside.toSteady (driver_steady phys_channels u driver .lock () id locking)
  have sending : Ends (probeWorld phys_channels prod_id p) (ofRemoval (ofDriver (sendRfsh false wait_time >>= _)))
    ({ u with driver := driver }, done ++ []) (.ok ret) y := onward
  rw [of_driver_bind, List.append_nil] at sending
  rcases ended_bind _ _ _ _ y _ sending with ⟨sent, ⟨v, noted⟩, sends, onward⟩ | ⟨_, _, impossible⟩
  · rcases send_rfsh_done phys_channels prod_id p wait_time _ done _ sent locked sends with ⟨second, same, failing⟩
    rw [of_driver_bind, show noted = done from same] at onward
    rcases ended_bind _ _ _ _ y _ onward with ⟨read, ⟨w, after⟩, reads, onward⟩ | ⟨_, _, impossible⟩
    · rcases refreshed_blocks_done phys_channels prod_id p sent v _ _ read failing reads with ⟨third, reached⟩
      rcases probe_call phys_channels prod_id p (.removal (.driver .unlock)) _ w _ y _ onward with
        ⟨_, x, z, beside, ⟨_, driver, unlocking, rfl⟩, onward⟩
      have last := steady_trans w x _ beside.toSteady (driver_steady phys_channels x driver .unlock () id unlocking)
      rcases ended_done _ _ _ y _ onward with ⟨_, rfl⟩
      refine ⟨steady_trans s _ _ first (steady_trans _ v _ second.toSteady (steady_trans v w _ third.toSteady last)), ?_⟩
      exact (List.append_nil _).trans reached
    · cases impossible
  · cases impossible

theorem remove_failed_ends (s : Probing) (done : List ProbeStep) (y : Probing × List ProbeStep) (failure ret : Int)
    (ended : Ends (probeWorld phys_channels prod_id p) (removeFailed failure) (s, done) (.ok ret) y) :
    ret = failure ∧ y.1.Idle ∧ y.1.misused = ((s.misused || !s.timerReady) || !s.workReady) := by
  rcases probe_call phys_channels prod_id p (.removal .delTimerSync) _ s done y _ ended with
    ⟨_, u, t, first, deleted, onward⟩
  obtain rfl : t = { u with driver := { u.driver with timer := none }, misused := u.misused || !u.timerReady } := deleted
  rcases probe_call phys_channels prod_id p (.removal .cancelWorkSync) _ _ _ y _ onward with
    ⟨_, v, t, second, cancelled, onward⟩
  obtain rfl : t = { v with driver := { v.driver with queued := false }, misused := v.misused || !v.workReady } := cancelled
  rcases probe_call phys_channels prod_id p (.removal .kfreeChannels) _ _ _ y _ onward with ⟨_, w, t, third, same, onward⟩
  obtain rfl : t = w := same
  rcases ended_done _ _ _ y _ onward with ⟨returned, rfl⟩
  cases returned
  refine ⟨rfl, third.idle ⟨second.untimed rfl, rfl⟩, ?_⟩
  rw [third.misused, second.misused, second.workReady, first.misused, first.timerReady, first.workReady]

-- What follows the configuration.
def finishProbe : ProbeAct Int := do
  let ret ← prepChannels
  if ret < 0 then removeFailed ret else do
    let _ ← ofRemoval (ofDriver (regSnapshot true false minUpdateWaitTime))
    .call .register fun ret => if ret < 0 then removeFailed ret else .done ret

structure Undone (s t : Probing) (ret : Int) : Prop where
  negative : ret < 0
  idle : t.Idle
  misused : t.misused = ((s.misused || !s.timerReady) || !s.workReady)

theorem finish_probe_ends (s : Probing) (done : List ProbeStep) (y : Probing × List ProbeStep) (ret : Int)
    (ended : Ends (probeWorld phys_channels prod_id p) finishProbe (s, done) (.ok ret) y) :
    if p.prepares ∧ p.register = 0 then
      ret = 0 ∧ y.2 = (done ++ if p.snapshots then [ProbeStep.snapshot] else []) ++ [ProbeStep.registered]
    else Undone s y.1 ret := by
  rcases ended_bind _ _ _ _ y _ ended with ⟨prepared, ⟨t, noted⟩, prepares, onward⟩ | ⟨_, _, impossible⟩
  · rcases prep_channels_ends phys_channels prod_id p s done _ prepared prepares with ⟨first, same, outcome⟩
    by_cases ready : p.prepares
    · rw [if_pos ready] at outcome
      rw [outcome, if_neg (lt_irrefl 0), show noted = done from same] at onward
      rcases ended_bind _ _ _ _ y _ onward with ⟨_, ⟨u, more⟩, snapshot, onward⟩ | ⟨_, _, impossible⟩
      · rcases reg_snapshot_done phys_channels prod_id p _ t done _ _ snapshot with ⟨second, reached⟩
        rw [show more = _ from reached] at onward
        rcases probe_call phys_channels prod_id p .register _ u _ y _ onward with ⟨_, v, w, third, ⟨rfl, rfl⟩, onward⟩
        by_cases registers : p.register = 0
        · rw [registers] at onward
          rcases ended_done _ _ _ y _ onward with ⟨returned, rfl⟩
          cases returned
          rw [if_pos ⟨ready, registers⟩]
          exact ⟨rfl, rfl⟩
        · have negative : -(p.register : Int) < 0 := by omega
          rw [if_pos negative] at onward
          rcases remove_failed_ends phys_channels prod_id p w _ y _ ret onward with ⟨rfl, idle, misused⟩
          rw [if_neg fun both => registers both.2]
          have steady := steady_trans s t w first.toSteady (steady_trans t u w second third.toSteady)
          refine ⟨negative, idle, ?_⟩
          rw [misused, steady.misused, steady.timerReady, steady.workReady]
      · cases impossible
    · rw [if_neg ready] at outcome
      rw [if_pos outcome] at onward
      rcases remove_failed_ends phys_channels prod_id p t _ y _ ret onward with ⟨rfl, idle, misused⟩
      rw [if_neg fun both => ready both.1]
      refine ⟨outcome, idle, ?_⟩
      rw [misused, first.misused, first.timerReady, first.workReady]
  · cases impossible

structure ProbeHonest (ret : Int) (t : Probing) (done : List ProbeStep) : Prop where
  success : ret = 0 → ∀ step, step ∈ done
  idle : ret < 0 → t.Idle
  initialised : ret < 0 → t.misused = false

-- What probe starts with: the work and the timer are not initialised yet.
structure Probing.Fresh (s : Probing) : Prop where
  idle : s.Idle
  workReady : s.workReady = false
  timerReady : s.timerReady = false
  misused : s.misused = false

theorem still_fresh (s t : Probing) (fresh : s.Fresh) (still : Still s t) : t.Fresh :=
  ⟨still.idle fresh.idle, still.workReady.trans fresh.workReady, still.timerReady.trans fresh.timerReady,
    still.misused.trans fresh.misused⟩

theorem fresh_honest (ret : Int) (t : Probing) (done : List ProbeStep) (fresh : t.Fresh) (negative : ret < 0) :
    ProbeHonest ret t done :=
  ⟨fun zero => absurd zero (by omega), fun _ => fresh.idle, fun _ => fresh.misused⟩

theorem steps_complete :
    (∀ step, step ∈ (([ProbeStep.identified] ++ configureSteps) ++ if p.snapshots then [ProbeStep.snapshot] else []) ++
      [ProbeStep.registered]) ↔ p.snapshots := by
  by_cases snapshots : p.snapshots
  · rw [if_pos snapshots]
    refine iff_of_true (fun step => ?_) snapshots
    cases step <;> decide
  · rw [if_neg snapshots]
    exact iff_of_false (fun complete => absurd (complete .snapshot) (by decide)) snapshots

theorem configured_honest_iff (s : Probing) (y : Probing × List ProbeStep) (ret : Int) (workReady : s.workReady = true)
    (timerReady : s.timerReady = true) (unused : s.misused = false)
    (ended : Ends (probeWorld phys_channels prod_id p) finishProbe (s, [ProbeStep.identified] ++ configureSteps) (.ok ret) y) :
    ProbeHonest ret y.1 y.2 ↔ (p.prepares → p.register = 0 → p.snapshots) := by
  have finished := finish_probe_ends phys_channels prod_id p s _ y ret ended
  by_cases registers : p.prepares ∧ p.register = 0
  · rw [if_pos registers] at finished
    rcases finished with ⟨rfl, reached⟩
    constructor
    · intro honest _ _
      have complete := honest.success rfl
      rw [reached] at complete
      exact (steps_complete p).mp complete
    · intro snapshots
      refine ⟨fun _ => ?_, fun negative => absurd negative (by decide), fun negative => absurd negative (by decide)⟩
      rw [reached]
      exact (steps_complete p).mpr (snapshots registers.1 registers.2)
  · rw [if_neg registers] at finished
    refine iff_of_true ⟨fun zero => ?_, fun _ => finished.idle, fun _ => ?_⟩ fun prepares zero => absurd ⟨prepares, zero⟩ registers
    · exact absurd finished.negative (by omega)
    · rw [finished.misused, unused, timerReady, workReady]
      rfl

-- Without its configuration probe reports a success it did not have, or
-- cancels what was never initialised.
theorem unconfigured_dishonest (s : Probing) (done : List ProbeStep) (y : Probing × List ProbeStep) (ret : Int)
    (fresh : s.Fresh) (untimed : ProbeStep.timer ∉ done)
    (ended : Ends (probeWorld phys_channels prod_id p) finishProbe (s, done) (.ok ret) y) :
    ¬ProbeHonest ret y.1 y.2 := by
  intro honest
  have finished := finish_probe_ends phys_channels prod_id p s done y ret ended
  by_cases registers : p.prepares ∧ p.register = 0
  · rw [if_pos registers] at finished
    have timer := honest.success finished.1 .timer
    rw [finished.2] at timer
    rcases List.mem_append.mp timer with early | late
    · rcases List.mem_append.mp early with before | snapshot
      · exact untimed before
      · by_cases snapshots : p.snapshots
        · rw [if_pos snapshots] at snapshot
          exact absurd snapshot (by decide)
        · rw [if_neg snapshots] at snapshot
          exact absurd snapshot List.not_mem_nil
    · exact absurd late (by decide)
  · rw [if_neg registers] at finished
    have unused := honest.initialised finished.negative
    rw [finished.misused, fresh.timerReady, Bool.not_false, Bool.or_true, Bool.true_or] at unused
    cases unused

theorem bring_up_honest_iff (hz : Nat) (setup : Setup) (s : Probing) (y : Probing × List ProbeStep) (ret : Int)
    (fresh : s.Fresh)
    (ended : Ends (probeWorld phys_channels prod_id p) (bringUp hz setup) (s, [ProbeStep.identified]) (.ok ret) y) :
    ProbeHonest ret y.1 y.2 ↔ p.configures ∧ (p.prepares → p.register = 0 → p.snapshots) := by
  rcases probe_call phys_channels prod_id p _ _ s _ y _ ended with ⟨_, u, t, first, loaded, onward⟩
  obtain rfl : t = { u with driver := setup.loaded u.driver } := loaded
  rcases probe_call phys_channels prod_id p _ _ _ _ y _ onward with ⟨_, v, t, second, inited, onward⟩
  obtain rfl : t = { v with driver := { v.driver with locked := false } } := inited
  have started := still_fresh s u fresh first
  have loadedFresh : ({ u with driver := setup.loaded u.driver } : Probing).Fresh :=
    ⟨⟨started.idle.timer, started.idle.queued⟩, started.workReady, started.timerReady, started.misused⟩
  have beside := still_fresh _ v loadedFresh second
  have ready : ({ v with driver := { v.driver with locked := false } } : Probing).Fresh :=
    ⟨⟨beside.idle.timer, beside.idle.queued⟩, beside.workReady, beside.timerReady, beside.misused⟩
  have bringing : Ends (probeWorld phys_channels prod_id p) (chipConfigure hz setup >>= fun _ => finishProbe)
      ({ v with driver := { v.driver with locked := false } }, [ProbeStep.identified]) (.ok ret) y := onward
  rcases ended_bind _ _ _ _ y _ bringing with ⟨_, ⟨x, done⟩, configuring, finishing⟩ | ⟨_, _, impossible⟩
  · rcases chip_configure_ends phys_channels prod_id p hz setup _ _ _ _ rfl configuring with
      ⟨configures, setUp, reached⟩ | ⟨fails, still, more, reached, untimed⟩
    · rw [show done = _ from reached] at finishing
      have unused := setUp.misused.trans ready.misused
      rw [configured_honest_iff phys_channels prod_id p x y ret setUp.workReady setUp.timerReady unused finishing]
      rcases configures with ⟨read, channels, ctrl, refresh, _⟩
      exact ⟨fun snapshots => ⟨⟨read, channels, ctrl, refresh⟩, snapshots⟩, And.right⟩
    · have without : ProbeStep.timer ∉ done := by
        rw [show done = _ from reached]
        have apart : ProbeStep.timer ∉ [ProbeStep.identified] := by decide
        exact fun member => (List.mem_append.mp member).elim apart untimed
      have dishonest := unconfigured_dishonest phys_channels prod_id p x done y ret (still_fresh _ x ready still) without finishing
      refine iff_of_false dishonest fun both => fails ?_
      rcases both.1 with ⟨read, channels, ctrl, refresh⟩
      exact ⟨read, channels, ctrl, refresh, trivial⟩
  · cases impossible

-- Probe gets as far as configuring the chip.
def Pattern.settles (of_node : Option DeviceNode) : Prop :=
  p.alloc = true ∧ p.identifies prod_id ∧
    ∃ node setup, of_node = some node ∧ node.children ≠ [] ∧ matchOfDevice phys_channels node = some setup

theorem refused_honest_iff (of_node : Option DeviceNode) (s : Probing) (done : List ProbeStep) (fresh : s.Fresh)
    (refused : ¬p.settles phys_channels prod_id of_node) :
    ProbeHonest (-EINVAL) s done ↔
      (p.settles phys_channels prod_id of_node → p.configures ∧ (p.prepares → p.register = 0 → p.snapshots)) :=
  iff_of_true (fresh_honest _ s done fresh (by decide)) fun settles => absurd settles refused

theorem refused_ended_iff (of_node : Option DeviceNode) (s : Probing) (y : Probing × List ProbeStep) (ret : Int)
    (fresh : s.Fresh) (refused : ¬p.settles phys_channels prod_id of_node)
    (ended : Ends (probeWorld phys_channels prod_id p) (.done (-EINVAL) : ProbeAct Int) (s, [ProbeStep.identified])
      (.ok ret) y) :
    ProbeHonest ret y.1 y.2 ↔
      (p.settles phys_channels prod_id of_node → p.configures ∧ (p.prepares → p.register = 0 → p.snapshots)) := by
  rcases ended_done _ _ _ y _ ended with ⟨returned, rfl⟩
  cases returned
  exact refused_honest_iff phys_channels prod_id p of_node s _ fresh refused

theorem identified_honest_iff (hz : Nat) (of_node : Option DeviceNode) (s : Probing) (y : Probing × List ProbeStep)
    (ret : Int) (fresh : s.Fresh) (allocated : p.alloc = true) (known : p.identifies prod_id)
    (ended : Ends (probeWorld phys_channels prod_id p)
      (match of_node with
        | none => .done (-EINVAL)
        | some node =>
            if node.children = [] then .done (-EINVAL) else
              match matchOfDevice phys_channels node with
              | none => .done (-EINVAL)
              | some setup => bringUp hz setup) (s, [ProbeStep.identified]) (.ok ret) y) :
    ProbeHonest ret y.1 y.2 ↔
      (p.settles phys_channels prod_id of_node → p.configures ∧ (p.prepares → p.register = 0 → p.snapshots)) := by
  cases of_node with
  | none =>
      refine refused_ended_iff phys_channels prod_id p none s y ret fresh (fun settles => ?_) ended
      rcases settles with ⟨_, _, node, _, impossible, _⟩
      cases impossible
  | some node =>
      dsimp only at ended
      by_cases childless : node.children = []
      · rw [if_pos childless] at ended
        refine refused_ended_iff phys_channels prod_id p (some node) s y ret fresh (fun settles => ?_) ended
        rcases settles with ⟨_, _, _, _, ⟨rfl⟩, children, _⟩
        exact children childless
      · rw [if_neg childless] at ended
        cases matched : matchOfDevice phys_channels node with
        | none =>
            rw [matched] at ended
            refine refused_ended_iff phys_channels prod_id p (some node) s y ret fresh (fun settles => ?_) ended
            rcases settles with ⟨_, _, _, _, ⟨rfl⟩, _, parsed⟩
            exact nomatch matched.symm.trans parsed
        | some setup =>
            rw [matched] at ended
            rw [bring_up_honest_iff phys_channels prod_id p hz setup s y ret fresh ended]
            have settles : p.settles phys_channels prod_id (some node) := ⟨allocated, known, node, setup, rfl, childless, matched⟩
            exact ⟨fun holds _ => holds, fun holds => holds settles⟩

end Runs

def probeHandler (p : Pattern) (s : Probing) (cmd : ProbeCmd) : cmd.Reply × Probing :=
  match cmd with
  | .removal (.driver (.write reg _)) => (p.write s.driver.locked reg, s)
  | .removal (.driver (.read block _ _)) =>
      (p.block block, { s with driver := { s.driver with data := s.driver.data.setBlock block [] } })
  | .removal (.driver cmd) =>
      let (answer, driver) := driverHandler 1 0 s.driver cmd
      (answer, { s with driver := driver })
  | .removal .delTimerSync => ((), { s with driver := { s.driver with timer := none }, misused := s.misused || !s.timerReady })
  | .removal .cancelWorkSync =>
      ((), { s with driver := { s.driver with queued := false }, misused := s.misused || !s.workReady })
  | .removal .channel | .removal .kfreeChannels | .kfree => ((), s)
  | .devmAlloc => (p.alloc, s)
  | .readInto reg _ => (p.info reg, s)
  | .load setup => ((), { s with driver := setup.loaded s.driver })
  | .mutexInit => ((), { s with driver := { s.driver with locked := false } })
  | .initWork => ((), { s with workReady := true })
  | .timerSetup => ((), { s with timerReady := true })
  | .kzalloc => (p.kzalloc, s)
  | .kmemdup => (p.kmemdup, s)
  | .register => (-(p.register : Int), s)

def probeAble (s : Probing) : ProbeCmd → Bool
  | .removal (.driver .lock) => !s.driver.locked
  | _ => true

theorem probe_handler_obeys (p : Pattern) (s : Probing) (cmd : ProbeCmd) (able : probeAble s cmd = true) :
    probeReply 1 p s cmd (probeHandler p s cmd).1 (probeHandler p s cmd).2 := by
  cases cmd with
  | removal cmd =>
      cases cmd with
      | driver cmd =>
          cases cmd with
          | lock => exact ⟨trivial, _, driver_handler_obeys 1 0 s.driver .lock able, rfl⟩
          | write reg data => exact ⟨rfl, s.driver, ⟨s.driver.now, le_refl _, rfl⟩, rfl⟩
          | read block reg len => exact ⟨rfl, _, ⟨s.driver.now, [], le_refl _, rfl⟩, rfl⟩
          | _ => exact ⟨trivial, _, driver_handler_obeys 1 0 s.driver _ rfl, rfl⟩
      | _ => rfl
  | _ => simp [probeReply, probeHandler]

def smooth : Pattern where
  alloc := true
  identify := 2
  chip_rev_info := [0x58, 0x5D, 3]
  readRegs := 2
  regs := []
  channels := 1
  ctrl := 1
  refresh := 1
  kzalloc := true
  kmemdup := true
  snapshotRefresh := 1
  block _ := 2
  register := 0

def unprobed : Probing := ⟨calm 0 0, false, false, false⟩

theorem unprobed_fresh : unprobed.Fresh := ⟨⟨rfl, rfl⟩, rfl, rfl, rfl⟩

def notedHandler (p : Pattern) (s : Probing × List ProbeStep) (cmd : ProbeCmd) : cmd.Reply × Probing × List ProbeStep :=
  let (answer, t) := probeHandler p s.1 cmd
  (answer, t, s.2 ++ achieved 0x58 t.driver.locked cmd answer)

def probeCourse (p : Pattern) : Option (ProbeAct Int × Probing × List ProbeStep) :=
  advance (notedHandler p) (fun s => probeAble s.1) 60 (pac193xProbe 1 100 0x58 (some oneChannelNode)) (unprobed, [])

def afterProbing (p : Pattern) : Probing × List ProbeStep := ((probeCourse p).map Prod.snd).getD (unprobed, [])

theorem probe_course_ends (p : Pattern) (ret : Int) (y : Probing × List ProbeStep) (ran : probeCourse p = some (.done ret, y)) :
    Ends (probeWorld 1 0x58 p) (pac193xProbe 1 100 0x58 (some oneChannelNode)) (unprobed, []) (.ok ret) y := by
  refine reaches_advance _ (notedHandler p) (fun s => probeAble s.1) _ _ _ _ y (fun s cmd able => ?_) ran
  exact ⟨⟨s.1, .refl, probe_handler_obeys p s.1 cmd able⟩, rfl⟩

theorem probe_honest_iff (phys_channels hz : Nat) (prod_id : UInt8) (p : Pattern) (of_node : Option DeviceNode) (s : Probing) (y : Probing × List ProbeStep) (ret : Int)
    (fresh : s.Fresh)
    (ended : Ends (probeWorld phys_channels prod_id p) (pac193xProbe phys_channels hz prod_id of_node) (s, []) (.ok ret) y) :
    ProbeHonest ret y.1 y.2 ↔
      (p.settles phys_channels prod_id of_node → p.configures ∧ (p.prepares → p.register = 0 → p.snapshots)) := by
  rcases probe_call phys_channels prod_id p _ _ s _ y _ ended with ⟨_, t, u, first, ⟨rfl, rfl⟩, onward⟩
  have started := still_fresh s u fresh first
  cases allocated : p.alloc with
  | false =>
      rw [allocated] at onward
      rcases ended_done _ _ _ y _ onward with ⟨returned, rfl⟩
      cases returned
      refine iff_of_true (fresh_honest _ u _ started (by decide)) fun settles => ?_
      exact absurd (allocated.symm.trans settles.1) Bool.false_ne_true
  | true =>
      rw [allocated] at onward
      rcases ended_bind _ (chipIdentify prod_id) _ _ y _ onward with ⟨found, ⟨t, done⟩, identifying, onward⟩ | ⟨_, _, impossible⟩
      · rcases chip_identify_ends phys_channels prod_id p u _ _ found identifying with ⟨still, outcome⟩
        have ready := still_fresh u t started still
        by_cases known : p.identifies prod_id
        · rw [if_pos known] at outcome
          rw [outcome.1, if_neg (lt_irrefl 0), show done = _ from outcome.2] at onward
          exact identified_honest_iff phys_channels prod_id p hz of_node t y ret ready allocated known onward
        · rw [if_neg known] at outcome
          rw [if_pos outcome.1] at onward
          rcases ended_done _ _ _ y _ onward with ⟨returned, rfl⟩
          cases returned
          exact refused_honest_iff phys_channels prod_id p of_node t _ ready fun settles => known settles.2.1
      · cases impossible

theorem probe_honest_iff_smooth :
    ProbeHonest 0 (afterProbing smooth).1 (afterProbing smooth).2 ↔
      (smooth.settles 1 0x58 (some oneChannelNode) →
        smooth.configures ∧ (smooth.prepares → smooth.register = 0 → smooth.snapshots)) :=
  probe_honest_iff 1 100 0x58 smooth (some oneChannelNode) unprobed _ 0 unprobed_fresh (probe_course_ends smooth 0 _ rfl)

-- The write of CTRL fails, and probe returns 0 without a timer.
theorem failed_ctrl_probes :
    ¬ ∀ (phys_channels hz : Nat) (prod_id : UInt8) (p : Pattern) (of_node : Option DeviceNode) (s : Probing)
      (y : Probing × List ProbeStep) (ret : Int), s.Fresh →
      Ends (probeWorld phys_channels prod_id p) (pac193xProbe phys_channels hz prod_id of_node) (s, []) (.ok ret) y →
      ProbeHonest ret y.1 y.2 := by
  intro honest
  have reported := honest 1 100 0x58 { smooth with ctrl := -5 } (some oneChannelNode) unprobed _ 0 unprobed_fresh
    (probe_course_ends { smooth with ctrl := -5 } 0 _ rfl)
  exact absurd (reported.success rfl .timer) (by decide)

end SummitSom.Pac193x
