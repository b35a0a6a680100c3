import SummitSom.Interact.Calls
import SummitSom.Interact.Threads
import SummitSom.Pac193x.Driver

set_option autoImplicit false

namespace SummitSom.Pac193x

open Interact

inductive Thread where
  | reader (n : Nat)
  | writer (n : Nat)
  | handler
  | work
deriving DecidableEq

inductive HandlerPhase where
  | idle
  | rearming
  | queueing
deriving DecidableEq

-- When the last REFRESH was sent, the latest time at which one was sent or that
-- was stored as its timestamp, how far the timer handler has come, and whether
-- the work is running and has not sent its REFRESH.
structure Watch where
  sent : Int
  refreshed : Int
  handler : HandlerPhase
  unsent : Bool

def Watch.note (name : Thread) (g : Watch) : (cmd : Cmd Int) → cmd.Reply → Driver → Watch
  | .write reg data, _, t =>
      if reg = refreshReg ∧ data = [] then
        { g with sent := t.now, refreshed := max g.refreshed t.now, unsent := if name = .work then false else g.unsent }
      else g
  | .setTstamp time, _, _ => { g with refreshed := max g.refreshed time }
  | .modTimer _, _, _ => if name = .handler then { g with handler := .queueing } else g
  | .queueWork, _, _ => if name = .handler then { g with handler := .idle } else g
  | _, _, _ => g

abbrev Shared := Driver × Watch

section Crew

variable (phys_channels hz : Nat)

def enters : Thread → Act Int Unit → Shared → Shared → Prop
  | .reader _, program, s, t => (∃ chan mask, program = do let _ ← readRaw hz chan mask; pure ()) ∧ t = s
  | .writer _, program, s, t => (∃ val mask, program = do let _ ← writeRaw hz val mask; pure ()) ∧ t = s
  | .handler, program, s, t =>
      program = readRegTimeout hz ∧ ∃ expires, s.1.timer = some expires ∧ expires ≤ s.1.now ∧
        t = ({ s.1 with timer := none }, { s.2 with handler := .rearming })
  | .work, program, s, t =>
      program = workPeriodicRfsh ∧ s.1.queued = true ∧ t = ({ s.1 with queued := false }, { s.2 with unsent := true })

def leaves : Thread → Shared → Shared → Prop
  | .handler, s, t => t = (s.1, { s.2 with handler := .idle })
  | .work, s, t => t = (s.1, { s.2 with unsent := false })
  | _, s, t => t = s

def driverCrew : Crew Thread (Cmd Int) Cmd.Reply Fault Shared where
  acts name := ((driverWorld phys_channels).watched (Watch.note name)).answering fun _ cmd answer => Succeeds cmd answer
  enters := enters hz
  leaves := leaves
  drifts s t := ∃ later, s.1.now ≤ later ∧ t = ({ s.1 with now := later }, s.2)

def rfshLimit : Int := msecsToJiffies hz maxRfshLimit

-- The refresh work is queued or has yet to send its REFRESH, the handler is at
-- work, or the timer expires in time.
def Shared.Scheduled (s : Shared) (since : Int) : Prop :=
  s.1.queued = true ∨ s.2.unsent = true ∨ s.2.handler ≠ .idle ∨
    ∃ expires, s.1.timer = some expires ∧ expires ≤ since + rfshLimit hz

structure Shared.Sound (s : Shared) : Prop where
  stamp : s.1.tstamp ≤ s.2.refreshed
  past : s.2.refreshed ≤ s.1.now
  armed : ∀ expires, s.1.timer = some expires → expires ≤ s.1.now + rfshLimit hz ∧
    (expires ≤ s.2.refreshed + rfshLimit hz ∨ s.2.handler ≠ .idle ∨ s.1.queued = true ∨ s.2.unsent = true)
  unarmed : s.1.timer = none → s.2.handler = .rearming

structure Relied (name : Thread) (s t : Shared) : Prop where
  clock : s.1.now ≤ t.1.now
  later : s.2.refreshed ≤ t.2.refreshed
  phase : name = .handler → t.2.handler = s.2.handler
  sending : name = .work → t.2.unsent = s.2.unsent

structure Moved (name : Thread) (s t : Shared) : Prop where
  clock : s.1.now ≤ t.1.now
  later : s.2.refreshed ≤ t.2.refreshed
  phase : name ≠ .handler → t.2.handler = s.2.handler
  sending : name ≠ .work → t.2.unsent = s.2.unsent

theorem moved_relied (name other : Thread) (s t : Shared) (apart : other ≠ name) (moved : Moved name s t) :
    Relied other s t := by
  refine ⟨moved.clock, moved.later, ?_, ?_⟩
  · intro same
    subst same
    exact moved.phase apart.symm
  · intro same
    subst same
    exact moved.sending apart.symm

-- What has to hold for a command not to upset the schedule.
def Allowed (name : Thread) (s : Shared) : Cmd Int → Prop
  | .setTstamp time => time ≤ s.1.now
  | .modTimer expires =>
      if name = .handler then expires ≤ s.1.now + rfshLimit hz else expires ≤ s.2.refreshed + rfshLimit hz
  | .queueWork => name = .handler ∧ s.2.handler = .queueing
  | _ => True

def Plain : Cmd Int → Prop
  | .setTstamp _ | .modTimer _ | .queueWork => False
  | _ => True

theorem plain_allowed (name : Thread) (s : Shared) (cmd : Cmd Int) (plain : Plain cmd) : Allowed hz name s cmd := by
  cases cmd with
  | setTstamp time => exact plain.elim
  | modTimer expires => exact plain.elim
  | queueWork => exact plain.elim
  | _ => trivial

structure Unscheduled (s t : Driver) : Prop where
  clock : s.now ≤ t.now
  tstamp : t.tstamp = s.tstamp
  timer : t.timer = s.timer
  queued : t.queued = s.queued

theorem plain_unscheduled (s t : Driver) (cmd : Cmd Int) (answer : cmd.Reply) (plain : Plain cmd)
    (reply : driverReply phys_channels s cmd answer t) : Unscheduled s t := by
  have spared := reply_spares phys_channels s t cmd answer reply
  refine ⟨spared.clock, ?_, ?_, ?_⟩
  · rcases spared.tstamp with same | set
    · exact same
    · exact (set ▸ plain : Plain (.setTstamp _)).elim
  · rcases spared.timer with same | ⟨expires, set⟩
    · exact same
    · exact (set ▸ plain : Plain (.modTimer expires)).elim
  · rcases spared.queued with same | set
    · exact same
    · exact (set ▸ plain : Plain .queueWork).elim

theorem quiet_act (name : Thread) (s t : Shared) (sound : s.Sound hz) (same : Unscheduled s.1 t.1) (watch : t.2 = s.2) :
    t.Sound hz ∧ Moved name s t := by
  have clock := same.clock
  refine ⟨⟨?_, ?_, ?_, ?_⟩, ⟨clock, by rw [watch], fun _ => by rw [watch], fun _ => by rw [watch]⟩⟩
  · rw [same.tstamp, watch]
    exact sound.stamp
  · rw [watch]
    exact le_trans sound.past clock
  · intro expires found
    obtain ⟨near, safe⟩ := sound.armed expires (same.timer ▸ found)
    rw [watch, same.queued]
    exact ⟨by omega, safe⟩
  · intro none
    rw [watch]
    exact sound.unarmed (same.timer ▸ none)

theorem refresh_act (name : Thread) (s t : Shared) (sound : s.Sound hz) (same : Unscheduled s.1 t.1)
    (refreshed : t.2.refreshed = max s.2.refreshed t.1.now) (phase : t.2.handler = s.2.handler)
    (sending : name ≠ .work → t.2.unsent = s.2.unsent) : t.Sound hz ∧ Moved name s t := by
  have clock := same.clock
  have past := sound.past
  rw [max_eq_right (le_trans past clock)] at refreshed
  refine ⟨⟨?_, ?_, ?_, ?_⟩, ⟨clock, ?_, fun _ => phase, sending⟩⟩
  · rw [same.tstamp, refreshed]
    exact le_trans sound.stamp (le_trans past clock)
  · rw [refreshed]
  · intro expires found
    have near := (sound.armed expires (same.timer ▸ found)).1
    rw [refreshed]
    exact ⟨by omega, .inl (by omega)⟩
  · intro none
    rw [phase]
    exact sound.unarmed (same.timer ▸ none)
  · rw [refreshed]
    exact le_trans past clock

theorem set_tstamp_act (name : Thread) (s t : Shared) (time : Int) (sound : s.Sound hz) (before : time ≤ s.1.now)
    (stored : t.1 = { s.1 with tstamp := time }) (noted : t.2 = { s.2 with refreshed := max s.2.refreshed time }) :
    t.Sound hz ∧ Moved name s t := by
  obtain ⟨driver, watch⟩ := t
  subst stored noted
  have grown := le_max_left s.2.refreshed time
  refine ⟨⟨le_max_right _ _, max_le sound.past before, ?_, sound.unarmed⟩, ⟨le_refl _, grown, fun _ => rfl, fun _ => rfl⟩⟩
  intro expires found
  obtain ⟨near, safe⟩ := sound.armed expires found
  exact ⟨near, safe.imp (fun early => by simp only; omega) id⟩

theorem mod_timer_act (name : Thread) (s t : Shared) (expires : Int) (sound : s.Sound hz)
    (allowed : Allowed hz name s (.modTimer expires)) (armed : t.1 = { s.1 with timer := some expires })
    (noted : t.2 = if name = .handler then { s.2 with handler := .queueing } else s.2) : t.Sound hz ∧ Moved name s t := by
  obtain ⟨driver, watch⟩ := t
  subst armed noted
  have past := sound.past
  by_cases own : name = .handler
  · simp only [Allowed, if_pos own] at allowed ⊢
    refine ⟨⟨sound.stamp, past, ?_, by rintro ⟨⟩⟩, ⟨le_refl _, le_refl _, fun other => absurd own other, fun _ => rfl⟩⟩
    intro _ given
    obtain ⟨rfl⟩ := given
    exact ⟨allowed, .inr (.inl (by rintro ⟨⟩))⟩
  · simp only [Allowed, if_neg own] at allowed ⊢
    refine ⟨⟨sound.stamp, past, ?_, by rintro ⟨⟩⟩, ⟨le_refl _, le_refl _, fun _ => rfl, fun _ => rfl⟩⟩
    intro _ given
    obtain ⟨rfl⟩ := given
    exact ⟨by simp only; omega, .inl allowed⟩

theorem queue_work_act (name : Thread) (s t : Shared) (sound : s.Sound hz) (allowed : Allowed hz name s .queueWork)
    (queued : t.1 = { s.1 with queued := true })
    (noted : t.2 = if name = .handler then { s.2 with handler := .idle } else s.2) : t.Sound hz ∧ Moved name s t := by
  obtain ⟨driver, watch⟩ := t
  obtain ⟨own, phase⟩ := allowed
  subst queued noted
  simp only [if_pos own]
  refine ⟨⟨sound.stamp, sound.past, ?_, ?_⟩, ⟨le_refl _, le_refl _, fun other => absurd own other, fun _ => rfl⟩⟩
  · intro expires found
    exact ⟨(sound.armed expires found).1, .inr (.inr (.inl rfl))⟩
  · intro none
    have rearming := sound.unarmed none
    rw [phase] at rearming
    cases rearming

theorem act_sound (name : Thread) (cmd : Cmd Int) (answer : cmd.Reply) (s t : Shared) (sound : s.Sound hz)
    (allowed : Allowed hz name s cmd) (reply : ((driverCrew phys_channels hz).acts name).reply s cmd answer t) :
    t.Sound hz ∧ Moved name s t := by
  obtain ⟨_, acted, noted⟩ := reply
  have plain (plain : Plain cmd) : Unscheduled s.1 t.1 := plain_unscheduled phys_channels s.1 t.1 cmd answer plain acted
  cases cmd with
  | setTstamp time => exact set_tstamp_act hz name s t time sound allowed acted noted
  | modTimer expires => exact mod_timer_act hz name s t expires sound allowed acted.2 noted
  | queueWork => exact queue_work_act hz name s t sound allowed acted.2 noted
  | write reg data =>
      simp only [Watch.note] at noted
      split at noted
      · exact refresh_act hz name s t sound (plain trivial) (by rw [noted]) (by rw [noted])
          fun other => by rw [noted]; exact if_neg other
      · exact quiet_act hz name s t sound (plain trivial) noted
  | _ => exact quiet_act hz name s t sound (plain trivial) noted

abbrev Outline {A : Type} (name : Thread) (post : Except Fault A → (Shared → Prop) → Prop) (act : Act Int A)
    (fact : Shared → Prop) : Prop :=
  Outlined (driverCrew phys_channels hz) (Shared.Sound hz) Relied name post act fact

def HasSent (name : Thread) (s : Shared) : Prop := name = .work → s.2.unsent = false

theorem sent_stable (name : Thread) : Stable (Shared.Sound hz) (Relied name) (HasSent name) := by
  intro s t _ _ sent relied own
  rw [relied.sending own]
  exact sent own

theorem acts_sent (name : Thread) (cmd : Cmd Int) (answer : cmd.Reply) (s t : Shared) (sent : HasSent name s)
    (reply : ((driverCrew phys_channels hz).acts name).reply s cmd answer t) : HasSent name t := by
  intro own
  obtain ⟨_, _, noted⟩ := reply
  have note : t.2 = Watch.note name s.2 cmd answer t.1 := noted
  rw [note]
  cases cmd with
  | write reg data =>
      simp only [Watch.note, if_pos own]
      split
      · rfl
      · exact sent own
  | modTimer expires =>
      simp only [Watch.note]
      split <;> exact sent own
  | queueWork =>
      simp only [Watch.note]
      split <;> exact sent own
  | _ => exact sent own

theorem call_outline {A : Type} (name : Thread) (post : Except Fault A → (Shared → Prop) → Prop) (cmd : Cmd Int)
    (rest : cmd.Reply → Act Int A) (fact : Shared → Prop) (next : cmd.Reply → Shared → Prop)
    (allowed : ∀ s, s.Sound hz → fact s → Allowed hz name s cmd)
    (leads : ∀ s answer t, s.Sound hz → fact s → ((driverCrew phys_channels hz).acts name).reply s cmd answer t →
      next answer t)
    (stable : ∀ answer, Stable (Shared.Sound hz) (Relied name) (next answer))
    (onward : ∀ answer, Outline phys_channels hz name post (rest answer) (next answer)) :
    Outline phys_channels hz name post (.call cmd rest) fact := by
  intro s answer t sound now reply
  obtain ⟨after, moved⟩ := act_sound phys_channels hz name cmd answer s t sound (allowed s sound now) reply
  refine ⟨after, fun other apart => moved_relied name other s t apart moved, next answer, ?_, stable answer, onward answer⟩
  exact leads s answer t sound now reply

def SentAfter {A : Type} (name : Thread) (_ : Except Fault A) (fact : Shared → Prop) : Prop :=
  ∀ s, fact s → HasSent name s

-- Programs that any thread may run once it has nothing left to send.
abbrev Carries {A : Type} (name : Thread) (act : Act Int A) : Prop :=
  Outline phys_channels hz name (SentAfter name) act (HasSent name)

section Carrying

variable {A B : Type} (name : Thread)

theorem carries_weaken (act : Act Int A) (fact : Shared → Prop) (implies : ∀ s, fact s → HasSent name s)
    (carries : Carries phys_channels hz name act) : Outline phys_channels hz name (SentAfter name) act fact :=
  outlined_mono _ _ _ name _ _ act (HasSent name) fact implies (fun _ _ _ weaker post s last => post s (weaker s last)) carries

theorem carries_bind (act : Act Int A) (rest : A → Act Int B) (first : Carries phys_channels hz name act)
    (second : ∀ value, Carries phys_channels hz name (rest value)) : Carries phys_channels hz name (act >>= rest) :=
  outlined_bind _ _ _ name _ _ act rest (HasSent name) first
    (fun value last implies => carries_weaken phys_channels hz name (rest value) last implies (second value))
    fun _ _ => id

theorem carries_call (cmd : Cmd Int) (rest : cmd.Reply → Act Int A) (plain : Plain cmd)
    (second : ∀ answer, Carries phys_channels hz name (rest answer)) : Carries phys_channels hz name (.call cmd rest) := by
  refine call_outline phys_channels hz name _ cmd rest _ (fun _ => HasSent name) ?_ ?_ (fun _ => sent_stable hz name) second
  · intro s _ _
    exact plain_allowed hz name s cmd plain
  · intro s answer t _ sent reply
    exact acts_sent phys_channels hz name cmd answer s t sent reply

theorem carries_plain (act : Act Int A) (plain : Only Plain act) : Carries phys_channels hz name act := by
  induction act with
  | done value => exact fun _ => id
  | stop code => exact fun _ => id
  | call cmd rest ih => exact carries_call phys_channels hz name cmd rest plain.1 fun answer => ih answer (plain.2 answer)

theorem carries_loaded (load : Cmd Int) (use : load.Reply → Cmd Int) (rest : (value : load.Reply) → (use value).Reply → Act Int A)
    (known : load.Reply → Shared → Prop) (plain : Plain load)
    (loads : ∀ (s : Shared) (answer : load.Reply) (t : Shared), s.Sound hz →
      driverReply phys_channels s.1 load answer t.1 → t.2 = Watch.note name s.2 load answer t.1 → known answer t)
    (stable : ∀ value, Stable (Shared.Sound hz) (Relied name) (known value))
    (allowed : ∀ value s, s.Sound hz → known value s → Allowed hz name s (use value))
    (second : ∀ value answer, Carries phys_channels hz name (rest value answer)) :
    Carries phys_channels hz name (.call load fun value => .call (use value) (rest value)) := by
  refine call_outline phys_channels hz name _ load _ _ (fun value s => HasSent name s ∧ known value s) ?_ ?_ ?_ fun value => ?_
  · intro s _ _
    exact plain_allowed hz name s load plain
  · intro s answer t sound sent reply
    exact ⟨acts_sent phys_channels hz name load answer s t sent reply, loads s answer t sound reply.2.1 reply.2.2⟩
  · intro value s t before after now relied
    exact ⟨sent_stable hz name s t before after now.1 relied, stable value s t before after now.2 relied⟩
  · refine call_outline phys_channels hz name _ (use value) _ _ (fun _ => HasSent name) ?_ ?_ (fun _ => sent_stable hz name)
      (second value)
    · intro s sound now
      exact allowed value s sound now.2
    · intro s answer t _ now reply
      exact acts_sent phys_channels hz name (use value) answer s t now.1 reply

theorem carries_jiffies (use : Int → Cmd Int) (rest : (now : Int) → (use now).Reply → Act Int A)
    (allowed : ∀ now s, s.Sound hz → now ≤ s.1.now → Allowed hz name s (use now))
    (second : ∀ now answer, Carries phys_channels hz name (rest now answer)) :
    Carries phys_channels hz name (.call .jiffies fun now => .call (use now) (rest now)) := by
  refine carries_loaded phys_channels hz name .jiffies use rest (fun now s => now ≤ s.1.now) trivial ?_ ?_ allowed second
  · intro s answer t _ given _
    obtain ⟨rfl, same⟩ := given
    rw [same]
  · intro now s t _ _ before relied
    exact le_trans before relied.clock

theorem carries_tstamp (use : Int → Cmd Int) (rest : (tstamp : Int) → (use tstamp).Reply → Act Int A)
    (allowed : ∀ tstamp s, s.Sound hz → tstamp ≤ s.2.refreshed → Allowed hz name s (use tstamp))
    (second : ∀ tstamp answer, Carries phys_channels hz name (rest tstamp answer)) :
    Carries phys_channels hz name (.call .tstamp fun tstamp => .call (use tstamp) (rest tstamp)) := by
  refine carries_loaded phys_channels hz name .tstamp use rest (fun tstamp s => tstamp ≤ s.2.refreshed) trivial ?_ ?_
    allowed second
  · intro s answer t sound given noted
    obtain ⟨rfl, _⟩ := given
    rw [noted]
    exact sound.stamp
  · intro tstamp s t _ _ before relied
    exact le_trans before relied.later

end Carrying

theorem rfsh_sent_carries (name : Thread) (wait_time : Nat) : Carries phys_channels hz name (rfshSent wait_time) := by
  simp only [rfshSent, issue_bind]
  refine carries_jiffies phys_channels hz name .setTstamp _ (fun _ _ _ before => before) fun _ _ => ?_
  exact carries_plain phys_channels hz name _ ⟨trivial, fun _ => trivial⟩

theorem read_blocks_plain : Only Plain (readBlocks : Act Int Int) := by
  rw [read_blocks_eq]
  refine ⟨trivial, fun ret => ?_⟩
  dsimp only
  split
  · trivial
  · refine ⟨trivial, fun ret => ?_⟩
    dsimp only
    split
    · trivial
    · exact ⟨trivial, fun _ => trivial⟩

theorem send_rfsh_outline (name : Thread) (wait_time : Nat) :
    Outline phys_channels hz name (SentAfter name) (sendRfsh false wait_time) fun _ => True := by
  rw [send_rfsh_eq]
  refine call_outline phys_channels hz name _ _ _ _ (fun _ => HasSent name) (fun _ _ _ => trivial) ?_
    (fun _ => sent_stable hz name) fun ret => ?_
  · intro s answer t _ _ given own
    obtain ⟨_, _, noted⟩ := given
    have note : t.2 = Watch.note name s.2 (.write refreshReg []) answer t.1 := noted
    rw [note]
    simp [Watch.note, own]
  · split
    · exact fun _ => id
    · exact carries_bind phys_channels hz name _ _ (rfsh_sent_carries phys_channels hz name wait_time) fun _ _ => id

theorem reg_snapshot_outline (name : Thread) (wait_time : Nat) :
    Outline phys_channels hz name (SentAfter name) (regSnapshot true false wait_time) fun _ => True := by
  simp only [regSnapshot, issue_bind, if_true]
  refine call_outline phys_channels hz name _ _ _ _ (fun _ _ => True) (fun _ _ _ => trivial) (fun _ _ _ _ _ _ => trivial)
    (fun _ _ _ _ _ _ _ => trivial) fun _ => ?_
  refine outlined_bind _ _ _ name _ _ _ _ _ (send_rfsh_outline phys_channels hz name wait_time) ?_ fun _ _ => id
  intro ret last sent
  apply carries_weaken phys_channels hz name _ last sent
  refine carries_bind phys_channels hz name _ _ ?_ fun _ => carries_plain phys_channels hz name _ ⟨trivial, fun _ => trivial⟩
  split
  · exact fun _ => id
  · exact carries_plain phys_channels hz name _ read_blocks_plain

theorem reg_snapshot_carries (name : Thread) (wait_time : Nat) :
    Carries phys_channels hz name (regSnapshot true false wait_time) :=
  outlined_mono _ _ _ name _ _ _ _ _ (fun _ _ => trivial) (fun _ _ _ weaker post s last => post s (weaker s last))
    (reg_snapshot_outline phys_channels hz name wait_time)

theorem reread_chip_carries (name : Thread) (wait_time : Nat) (caller : name ≠ .handler) :
    Carries phys_channels hz name (rereadChip hz wait_time) := by
  refine carries_bind phys_channels hz name _ _ (reg_snapshot_carries phys_channels hz name wait_time) fun _ => ?_
  simp only [issue_bind]
  refine carries_tstamp phys_channels hz name (fun tstamp => .modTimer _) _ ?_ fun _ _ _ => id
  intro tstamp s _ before
  rw [Allowed, if_neg caller]
  exact Int.add_le_add_right before _

theorem retrieve_data_carries (name : Thread) (wait_time : Nat) (caller : name ≠ .handler) :
    Carries phys_channels hz name (retrieveData hz wait_time) := by
  simp only [retrieveData, issue_bind]
  refine carries_call phys_channels hz name _ _ trivial fun now => ?_
  refine carries_call phys_channels hz name _ _ trivial fun tstamp => ?_
  split
  · exact reread_chip_carries phys_channels hz name wait_time caller
  · exact fun _ => id

theorem loads_plain (cmd : Cmd Int) (loads : Loads cmd) : Plain cmd := by
  cases cmd with
  | shunt channel => trivial
  | sampleRate => trivial
  | _ => exact loads.elim

theorem read_data_plain (chan : ChanSpec) (mask : Mask) : Only Plain (readData chan mask : Act Int Reading) := by
  cases data : mask.data with
  | false => exact only_mono Loads Plain _ loads_plain (read_data_loads chan mask data)
  | true =>
      cases read_data_split chan mask data with
      | inl found =>
          obtain ⟨_, source, channel, rest, same, only⟩ := found
          rw [same]
          exact ⟨trivial, fun value => only_mono Loads Plain _ loads_plain (only value)⟩
      | inr refused =>
          rw [refused]
          trivial

theorem read_raw_carries (name : Thread) (chan : ChanSpec) (mask : Mask) (caller : name ≠ .handler) :
    Carries phys_channels hz name (readRaw hz chan mask) := by
  refine carries_bind phys_channels hz name _ _ (retrieve_data_carries phys_channels hz name _ caller) fun ret => ?_
  split
  · exact fun _ => id
  · exact carries_plain phys_channels hz name _ (read_data_plain chan mask)

theorem force_snapshot_carries (name : Thread) (old_samp_rate : Nat) (caller : name ≠ .handler) :
    Carries phys_channels hz name (forceSnapshot hz old_samp_rate) := by
  simp only [forceSnapshot, issue_bind]
  refine carries_tstamp phys_channels hz name (fun tstamp => .setTstamp _) _ ?_ fun _ _ => ?_
  · intro tstamp s sound before
    have past := sound.past
    exact le_trans (Int.sub_le_self _ (Int.natCast_nonneg _)) (le_trans before past)
  · refine carries_bind phys_channels hz name _ _ ?_ fun ratio => ?_
    · unfold divide
      split <;> exact fun _ => id
    · exact carries_bind phys_channels hz name _ _ (retrieve_data_carries phys_channels hz name _ caller) fun _ _ => id

theorem write_samp_rate_carries (name : Thread) (val : Nat) (caller : name ≠ .handler) :
    Carries phys_channels hz name (writeSampRate hz val) := by
  simp only [writeSampRate, issue_bind]
  refine carries_call phys_channels hz name _ _ trivial fun old_samp_rate => ?_
  refine carries_call phys_channels hz name _ _ trivial fun _ => ?_
  refine carries_call phys_channels hz name _ _ trivial fun _ => ?_
  refine carries_call phys_channels hz name _ _ trivial fun code => ?_
  refine carries_call phys_channels hz name _ _ trivial fun _ => ?_
  refine carries_call phys_channels hz name _ _ trivial fun _ => ?_
  split
  · exact fun _ => id
  · exact force_snapshot_carries phys_channels hz name old_samp_rate caller

theorem write_raw_carries (name : Thread) (val : Int) (mask : Mask) (caller : name ≠ .handler) :
    Carries phys_channels hz name (writeRaw hz val mask) := by
  simp only [writeRaw, issue_bind]
  refine carries_call phys_channels hz name _ _ trivial fun enabled => ?_
  split
  · exact fun _ => id
  · cases mask with
    | samp_freq =>
        refine carries_bind phys_channels hz name _ _ ?_ fun unmatched => ?_
        · unfold matchSampRate
          split
          · exact carries_call phys_channels hz name _ _ trivial fun _ _ => id
          · exact fun _ => id
        · split
          · exact fun _ => id
          · exact write_samp_rate_carries phys_channels hz name _ caller
    | _ => exact fun _ => id

theorem phase_stable (phase : HandlerPhase) :
    Stable (Shared.Sound hz) (Relied .handler) fun s => s.2.handler = phase := by
  intro s t _ _ now relied
  exact (relied.phase rfl).trans now

theorem handler_outline :
    Outline phys_channels hz .handler (fun _ fact => ∀ s, fact s → s.2.handler = .idle) (readRegTimeout hz)
      fun s => s.2.handler = .rearming := by
  simp only [readRegTimeout, issue_bind]
  refine call_outline phys_channels hz .handler _ .jiffies _ _ (fun now s => s.2.handler = .rearming ∧ now ≤ s.1.now)
    (fun _ _ _ => trivial) ?_ ?_ fun now => ?_
  · intro s answer t _ phase given
    obtain ⟨_, ⟨rfl, same⟩, noted⟩ := given
    have kept : t.2.handler = s.2.handler := congrArg Watch.handler noted
    exact ⟨kept.trans phase, by rw [same]⟩
  · intro now s t before after known relied
    exact ⟨phase_stable hz .rearming s t before after known.1 relied, le_trans known.2 relied.clock⟩
  · refine call_outline phys_channels hz .handler _ (.modTimer _) _ _ (fun _ s => s.2.handler = .queueing) ?_ ?_
      (fun _ => phase_stable hz .queueing) fun _ => ?_
    · intro s _ known
      rw [Allowed, if_pos rfl]
      exact Int.add_le_add_right known.2 _
    · intro s answer t _ _ given
      obtain ⟨_, _, noted⟩ := given
      exact congrArg Watch.handler noted
    · refine call_outline phys_channels hz .handler _ .queueWork _ _ (fun _ s => s.2.handler = .idle) ?_ ?_
        (fun _ => phase_stable hz .idle) fun _ _ => id
      · exact fun s _ phase => ⟨rfl, phase⟩
      · intro s answer t _ _ given
        obtain ⟨_, _, noted⟩ := given
        exact congrArg Watch.handler noted

theorem caller_leaving (name : Thread) (caller : name ≠ .handler) (result : Except Fault Unit) (fact : Shared → Prop)
    (sent : ∀ s, fact s → HasSent name s) : Leaving (driverCrew phys_channels hz) (Shared.Sound hz) Relied name result fact := by
  intro s t sound last left
  have same : t = s := by
    cases name with
    | handler => exact absurd rfl caller
    | work =>
        have gone := sent s last rfl
        have released : t = _ := left
        rw [released, ← gone]
    | _ => exact left
  subst same
  exact ⟨sound, fun other _ => ⟨le_refl _, le_refl _, fun _ => rfl, fun _ => rfl⟩⟩

theorem caller_ready (name : Thread) (act : Act Int Unit) (s : Shared) (caller : name ≠ .handler) (sent : HasSent name s)
    (carries : Carries phys_channels hz name act) :
    Ready (driverCrew phys_channels hz) (Shared.Sound hz) Relied name act s :=
  ⟨HasSent name, sent, sent_stable hz name, outlined_mono _ _ _ name _ _ act _ _ (fun _ => id)
    (fun result _ last weaker post => caller_leaving phys_channels hz name caller result last
      fun s now => post s (weaker s now)) carries⟩

theorem enters_sound (name : Thread) (program : Act Int Unit) (s t : Shared) (sound : s.Sound hz)
    (entered : enters hz name program s t) :
    t.Sound hz ∧ (∀ other, other ≠ name → Relied other s t) ∧
      Ready (driverCrew phys_channels hz) (Shared.Sound hz) Relied name program t := by
  have same (u : Shared) (other : Thread) : Relied other u u := ⟨le_refl _, le_refl _, fun _ => rfl, fun _ => rfl⟩
  cases name with
  | reader n =>
      obtain ⟨⟨chan, mask, rfl⟩, rfl⟩ := entered
      refine ⟨sound, fun other _ => same t other, ?_⟩
      apply caller_ready phys_channels hz _ _ t (by rintro ⟨⟩) (by rintro ⟨⟩)
      exact carries_bind phys_channels hz _ _ _ (read_raw_carries phys_channels hz _ chan mask (by rintro ⟨⟩)) fun _ _ => id
  | writer n =>
      obtain ⟨⟨val, mask, rfl⟩, rfl⟩ := entered
      refine ⟨sound, fun other _ => same t other, ?_⟩
      apply caller_ready phys_channels hz _ _ t (by rintro ⟨⟩) (by rintro ⟨⟩)
      exact carries_bind phys_channels hz _ _ _ (write_raw_carries phys_channels hz _ val mask (by rintro ⟨⟩)) fun _ _ => id
  | handler =>
      obtain ⟨rfl, expires, _, _, rfl⟩ := entered
      refine ⟨⟨sound.stamp, sound.past, by rintro _ ⟨⟩, fun _ => rfl⟩, ?_, ?_⟩
      · exact fun other apart => ⟨le_refl _, le_refl _, fun own => absurd own apart, fun _ => rfl⟩
      · refine ⟨fun s => s.2.handler = .rearming, rfl, phase_stable hz .rearming, outlined_mono _ _ _ _ _ _ _ _ _ (fun _ => id) ?_
          (handler_outline phys_channels hz)⟩
        intro result fact last weaker idle s t sound now left
        have gone := idle s (weaker s now)
        obtain rfl : t = s := by
          have released : t = _ := left
          rw [released, ← gone]
        exact ⟨sound, fun other _ => same t other⟩
  | work =>
      obtain ⟨rfl, queued, rfl⟩ := entered
      refine ⟨⟨sound.stamp, sound.past, ?_, sound.unarmed⟩, ?_, ?_⟩
      · exact fun expires found => ⟨(sound.armed expires found).1, .inr (.inr (.inr rfl))⟩
      · exact fun other apart => ⟨le_refl _, le_refl _, fun _ => rfl, fun own => absurd own apart⟩
      · refine ⟨fun _ => True, trivial, fun _ _ _ _ _ _ => trivial, ?_⟩
        refine outlined_bind _ _ _ _ _ _ _ _ _ (reg_snapshot_outline phys_channels hz .work minUpdateWaitTime) ?_ ?_
        · exact fun _ last sent => caller_leaving phys_channels hz .work (by rintro ⟨⟩) _ last sent
        · exact fun _ last sent => caller_leaving phys_channels hz .work (by rintro ⟨⟩) _ last sent

-- After the first snapshot of probe: the timer was armed before its REFRESH.
structure Shared.Probed (s : Shared) : Prop where
  sent : s.2.sent ≤ s.2.refreshed
  stamp : s.1.tstamp = s.2.refreshed
  past : s.2.refreshed ≤ s.1.now
  armed : ∃ expires, s.1.timer = some expires ∧ expires ≤ s.2.sent + rfshLimit hz

end Crew

def snapped : Shared where
  fst := {
    now := 1000
    tstamp := 1000
    timer := some 7000
    queued := false
    locked := false
    data := clearedData
    sample_rate_value := 1024
    crt_samp_speed_bitfield := 0
    shunts := fun _ => 100000 }
  snd := ⟨1000, 1000, .idle, false⟩

theorem snapped_probed : snapped.Probed 100 := ⟨by decide, rfl, by decide, 7000, rfl, by decide⟩

def Shared.tick (s : Shared) (later : Int) : Shared := ({ s.1 with now := later }, s.2)

def sharedHandler (name : Thread) (s : Shared) (cmd : Cmd Int) : cmd.Reply × Shared :=
  let (answer, t) := driverHandler 1 0 s.1 cmd
  (answer, t, s.2.note name cmd answer t)

theorem shared_handler_obeys (name : Thread) (s : Shared) (cmd : Cmd Int) (able : unlocked s.1 cmd = true) :
    ((driverCrew 1 100).acts name).reply s cmd (sharedHandler name s cmd).1 (sharedHandler name s cmd).2 := by
  refine ⟨?_, driver_handler_obeys 1 0 s.1 cmd able, rfl⟩
  cases cmd with
  | write reg data => exact le_refl (0 : Int)
  | read block reg len => exact le_refl (0 : Int)
  | _ => trivial

abbrev SharedPool := Pool Thread (Cmd Int) Cmd.Reply Fault Shared

def SharedPool.run (pool : SharedPool) (name : Thread) (n : Nat) : SharedPool :=
  pool.turn (sharedHandler name) (fun s => unlocked s.1) name n

theorem run_interleaved (pool : SharedPool) (name : Thread) (n : Nat) (before : Interleaved (driverCrew 1 100) snapped pool) :
    Interleaved (driverCrew 1 100) snapped (SharedPool.run pool name n) :=
  interleaved_turn _ _ pool _ _ name n before (shared_handler_obeys name)

theorem run_entered (pool : SharedPool) (name : Thread) (n : Nat) (program : Act Int Unit) (t : Shared)
    (before : Interleaved (driverCrew 1 100) snapped pool) (free : pool.threads name = none)
    (entered : enters 100 name program pool.state t) :
    Interleaved (driverCrew 1 100) snapped (SharedPool.run (pool.move name (some program) t) name n) :=
  run_interleaved _ name n (.enter pool name program t before free entered)

def voltageReading : Act Int Unit := do
  let _ ← readRaw 100 ⟨.voltage, 0x07, 0, 'u'⟩ .raw
  pure ()

def rateWriting : Act Int Unit := do
  let _ ← writeRaw 100 8 .samp_freq
  pure ()

-- The timer has expired and its handler has loaded jiffies.
def expired : SharedPool :=
  let fired : Shared := ({ (snapped.tick 7000).1 with timer := none }, { snapped.2 with handler := .rearming })
  SharedPool.run (Pool.move ⟨snapped.tick 7000, fun _ => none⟩ .handler (some (readRegTimeout 100)) fired) .handler 1

-- Meanwhile a reader sends a REFRESH and a writer comes up to its new rate.
def written : SharedPool :=
  let polled := SharedPool.run (expired.move (.reader 0) (some voltageReading) expired.state) (.reader 0) 4
  SharedPool.run (polled.move (.writer 0) (some rateWriting) polled.state) (.writer 0) 3

-- The handler arms the timer and queues the work, and the reader ends.
def handled : SharedPool := SharedPool.run written .handler 3

def requeued : SharedPool :=
  let left : Shared := (handled.state.1, { handled.state.2 with handler := .idle })
  SharedPool.run (handled.move .handler none left) (.reader 0) 40

-- The work has locked the chip and has not sent its REFRESH yet.
def crowded : SharedPool :=
  let started : Shared := ({ requeued.state.1 with queued := false }, { requeued.state.2 with unsent := true })
  SharedPool.run (requeued.move .work (some workPeriodicRfsh) started) .work 1

theorem crowded_run : Interleaved (driverCrew 1 100) snapped crowded := by
  have idle : Interleaved (driverCrew 1 100) snapped ⟨snapped.tick 7000, fun _ => none⟩ :=
    .drift _ _ .start ⟨7000, by decide, rfl⟩
  have fires := run_entered _ .handler 1 (readRegTimeout 100) _ idle rfl ⟨rfl, 7000, rfl, by decide, rfl⟩
  have polls := run_entered expired (.reader 0) 4 voltageReading _ fires rfl ⟨⟨_, _, rfl⟩, rfl⟩
  have writes := run_entered _ (.writer 0) 3 rateWriting _ polls rfl ⟨⟨_, _, rfl⟩, rfl⟩
  have arms := run_interleaved written .handler 3 writes
  have returned := Interleaved.leave handled Thread.handler (.ok ()) _ arms rfl rfl
  have ends := run_interleaved _ (.reader 0) 40 returned
  exact run_entered requeued .work 1 workPeriodicRfsh _ ends rfl ⟨rfl, rfl, rfl⟩

section Crew

variable (phys_channels hz : Nat)

-- In every interleaving the next forced refresh is due in time, counted from
-- the last REFRESH as its sender has recorded it.
theorem refresh_always_scheduled (origin : Shared) (pool : Pool Thread (Cmd Int) Cmd.Reply Fault Shared)
    (probed : origin.Probed hz) (run : Interleaved (driverCrew phys_channels hz) origin pool) :
    pool.state.Scheduled hz pool.state.2.refreshed := by
  have begins : origin.Sound hz := by
    obtain ⟨expires, armed, near⟩ := probed.armed
    have past := probed.past
    have sent := probed.sent
    refine ⟨le_of_eq probed.stamp, past, ?_, fun none => by rw [armed] at none; cases none⟩
    intro other found
    obtain rfl : expires = other := Option.some.inj (armed.symm.trans found)
    exact ⟨by omega, .inl (by omega)⟩
  have kept := interleaved_kept (driverCrew phys_channels hz) (Shared.Sound hz) Relied origin begins ?_
    (enters_sound phys_channels hz) pool run
  · have sound := kept.invariant
    cases timer : pool.state.1.timer with
    | none =>
        refine .inr (.inr (.inl ?_))
        rw [sound.unarmed timer]
        intro impossible
        cases impossible
    | some expires =>
        rcases (sound.armed expires timer).2 with early | busy | queued | unsent
        · exact .inr (.inr (.inr ⟨expires, timer, early⟩))
        · exact .inr (.inr (.inl busy))
        · exact .inl queued
        · exact .inr (.inl unsent)
  · intro s t sound given
    obtain ⟨later, onwards, rfl⟩ := given
    exact ⟨(quiet_act hz .work s ({ s.1 with now := later }, s.2) sound ⟨onwards, rfl, rfl, rfl⟩ rfl).1,
      fun other => ⟨onwards, le_refl _, fun _ => rfl, fun _ => rfl⟩⟩

end Crew
theorem refresh_always_scheduled_snapped :
    (crowded.state.2.unsent = true ∧ crowded.state.1.timer = some 13000) ∧
      crowded.state.Scheduled 100 crowded.state.2.refreshed :=
  ⟨⟨rfl, rfl⟩, refresh_always_scheduled 1 100 snapped crowded snapped_probed crowded_run⟩

-- A reader is interrupted by a tick between its REFRESH and its load of jiffies.
def rearmed : SharedPool :=
  let refreshing := SharedPool.run (Pool.move ⟨snapped.tick 2000, fun _ => none⟩ (.reader 0) (some voltageReading) (snapped.tick 2000))
    (.reader 0) 4
  SharedPool.run ⟨refreshing.state.tick 2001, refreshing.threads⟩ (.reader 0) 20

theorem rearmed_run : Interleaved (driverCrew 1 100) snapped rearmed := by
  have idle : Interleaved (driverCrew 1 100) snapped ⟨snapped.tick 2000, fun _ => none⟩ :=
    .drift _ _ .start ⟨2000, by decide, rfl⟩
  have sent := run_entered _ (.reader 0) 4 voltageReading _ idle rfl ⟨⟨_, _, rfl⟩, rfl⟩
  exact run_interleaved _ (.reader 0) 20 (.drift _ _ sent ⟨2001, by decide, rfl⟩)

-- A tick between the REFRESH and the load of jiffies after it puts the timer
-- later than the limit after the REFRESH.
theorem rearmed_after_tick_late :
    ¬ ∀ (phys_channels hz : Nat) (origin : Shared) (pool : Pool Thread (Cmd Int) Cmd.Reply Fault Shared),
      origin.Probed hz → Interleaved (driverCrew phys_channels hz) origin pool → pool.state.Scheduled hz pool.state.2.sent := by
  intro scheduled
  have due := scheduled 1 100 snapped rearmed snapped_probed rearmed_run
  rcases due with queued | unsent | busy | ⟨expires, armed, near⟩
  · cases queued
  · cases unsent
  · exact busy rfl
  · obtain rfl : (8001 : Int) = expires := Option.some.inj armed
    exact absurd near (by decide)

end SummitSom.Pac193x
