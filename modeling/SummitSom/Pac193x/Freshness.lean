import SummitSom.Interact.Calls
import SummitSom.Pac193x.Driver

set_option autoImplicit false

namespace SummitSom.Pac193x

open Interact

-- Where the cached values come from. sentAt is the time of the last REFRESH,
-- latched that of the one whose values the chip holds out, the two blocks and
-- the decoded values carry the time of theirs, and so does the value that was
-- handed out last.
structure Provenance where
  sentAt : Option Int
  latched : Option Int
  ctrlFrom : Option Int
  measFrom : Option Int
  valuesFrom : Option Int
  reported : Option Int
deriving DecidableEq

def Provenance.refreshed (g : Provenance) (time : Int) (ret : Int) : Provenance :=
  if 0 ≤ ret then { g with sentAt := some time, latched := some time } else { g with latched := none }

def Provenance.blockRead (g : Provenance) (ret : Int) : Block → Provenance
  | .ctrl_regs => { g with ctrlFrom := if 0 ≤ ret then g.latched else none }
  | .meas_regs => { g with measFrom := if 0 ≤ ret then g.latched else none }

def Provenance.note (g : Provenance) : (cmd : Cmd Int) → cmd.Reply → Driver → Provenance
  | .write reg data, ret, t => if reg = refreshReg ∧ data = [] then g.refreshed t.now ret else g
  | .read block _ _, ret, _ => g.blockRead ret block
  | .decode, _, _ => { g with valuesFrom := if g.ctrlFrom = g.measFrom then g.measFrom else none }
  | .field _ _, _, _ => { g with reported := g.valuesFrom }
  | _, _, _ => g

abbrev Watched := Driver × Provenance

section Requests

variable (phys_channels : Nat) (reliable : Bool)

def callWorld : World (Cmd Int) Cmd.Reply Watched :=
  ((driverWorld phys_channels).watched Provenance.note).answering fun _ cmd answer => reliable = true → Succeeds cmd answer

abbrev Leads {A : Type} (post : Except Fault A → Watched → Prop) (act : Act Int A) (s : Watched) : Prop :=
  Safe (callWorld phys_channels reliable) (fun _ => True) post act s

theorem call_leads {A : Type} (post : Except Fault A → Watched → Prop) (cmd : Cmd Int) (rest : cmd.Reply → Act Int A)
    (s : Watched)
    (onward : ∀ answer t, (reliable = true → Succeeds cmd answer) → driverReply phys_channels s.1 cmd answer t.1 →
      t.2 = s.2.note cmd answer t.1 → Leads phys_channels reliable post (rest answer) t) :
    Leads phys_channels reliable post (.call cmd rest) s :=
  ⟨trivial, fun _ _ => trivial, fun answer t reply => onward answer t reply.1 reply.2.1 reply.2.2⟩

theorem done_leads {A : Type} (post : A → Watched → Prop) (value : A) (s : Watched) (reached : post value s) :
    Leads phys_channels reliable (Returns post) (.done value) s := ⟨trivial, value, rfl, reached⟩

def Watched.Stamped (s : Watched) : Prop := ∀ sent, s.2.sentAt = some sent → s.1.tstamp = sent

def SameStamp (s t : Watched) : Prop := t.1.tstamp = s.1.tstamp ∧ t.2.sentAt = s.2.sentAt

theorem rfsh_sent_leads (wait_time : Nat) (s : Watched) :
    Leads phys_channels reliable (Returns fun _ t => t.1.tstamp = s.1.now ∧ t.2 = s.2) (rfshSent wait_time) s := by
  simp only [rfshSent, issue_bind]
  refine call_leads _ _ _ _ _ s fun now t _ reply noted => ?_
  obtain ⟨rfl, stay⟩ := reply
  refine call_leads _ _ _ _ _ t fun _ u _ stored noted' => ?_
  refine call_leads _ _ _ _ _ u fun _ v _ slept noted'' => ?_
  obtain ⟨later, _, passed⟩ := slept
  refine done_leads _ _ _ () v ⟨?_, ?_⟩
  · have stamped : u.1 = _ := stored
    rw [passed, stamped]
  · rw [noted'', noted', noted]
    rfl

-- A REFRESH that fails leaves the timestamp, one that succeeds sets both.
def RfshSent (s : Watched) (ret : Int) (t : Watched) : Prop :=
  (ret < 0 ∧ SameStamp s t) ∨
    (0 ≤ ret ∧ ∃ sent, s.1.now ≤ sent ∧ t.1.tstamp = sent ∧ t.2.sentAt = some sent ∧ t.2.latched = some sent)

theorem send_rfsh_leads (wait_time : Nat) (s : Watched) :
    Leads phys_channels reliable (Returns fun ret t => (reliable = true → 0 ≤ ret) ∧ RfshSent s ret t)
      (sendRfsh false wait_time) s := by
  rw [send_rfsh_eq]
  refine call_leads _ _ _ _ _ s fun (ret : Int) t succeeds reply noted => ?_
  obtain ⟨later, onwards, moved⟩ := reply
  simp only [Provenance.note, true_and, if_true] at noted
  by_cases negative : ret < 0
  · simp only [if_pos negative]
    refine done_leads _ _ _ ret t ⟨fun on => absurd negative (not_lt.mpr (succeeds on)), .inl ⟨negative, ?_, ?_⟩⟩
    · rw [moved]
    · rw [noted, Provenance.refreshed, if_neg (not_le.mpr negative)]
  · simp only [if_neg negative, lt_irrefl, if_false]
    apply safe_returns _ _ _ _ _ _ t (rfsh_sent_leads phys_channels reliable wait_time t)
    intro _ u given
    obtain ⟨stamp, same⟩ := given
    rw [Provenance.refreshed, if_pos (not_lt.mp negative)] at noted
    refine done_leads _ _ _ 0 u ⟨fun _ => le_refl 0, .inr ⟨le_refl 0, t.1.now, ?_, stamp, ?_, ?_⟩⟩
    · rw [moved]
      exact onwards
    · rw [same, noted]
    · rw [same, noted]

theorem read_blocks_leads (s : Watched) :
    Leads phys_channels reliable (Returns fun _ t => SameStamp s t ∧ (reliable = true → t.2.valuesFrom = s.2.latched))
      readBlocks s := by
  rw [read_blocks_eq]
  refine call_leads _ _ _ _ _ s fun (ret : Int) t succeeds reply noted => ?_
  obtain ⟨later, bytes, _, moved⟩ := reply
  simp only [Provenance.note, Provenance.blockRead] at noted
  by_cases negative : ret < 0
  · simp only [if_pos negative]
    refine done_leads _ _ _ ret t ⟨⟨by rw [moved], by rw [noted]⟩, fun on => absurd negative (not_lt.mpr (succeeds on))⟩
  · simp only [if_neg negative, lt_irrefl, if_false]
    rw [if_pos (not_lt.mp negative)] at noted
    refine call_leads _ _ _ _ _ t fun (ret : Int) u succeeds reply noted' => ?_
    obtain ⟨later', bytes', _, moved'⟩ := reply
    simp only [Provenance.note, Provenance.blockRead] at noted'
    by_cases negative' : ret < 0
    · simp only [if_pos negative']
      refine done_leads _ _ _ ret u ⟨⟨by rw [moved', moved], by rw [noted', noted]⟩, ?_⟩
      exact fun on => absurd negative' (not_lt.mpr (succeeds on))
    · simp only [if_neg negative', lt_irrefl, if_false]
      rw [if_pos (not_lt.mp negative')] at noted'
      refine call_leads _ _ _ _ _ u fun _ v _ decoded noted'' => ?_
      have moved'' : v.1 = _ := decoded
      have kept : v.1.tstamp = u.1.tstamp := by rw [moved'']
      refine done_leads _ _ _ 0 v ⟨⟨by rw [kept, moved', moved], by rw [noted'', noted', noted]; rfl⟩, fun _ => ?_⟩
      rw [noted'', noted', noted]
      simp [Provenance.note]

-- A snapshot keeps the timestamp true, and without failures the values are new.
def Snapshot (s t : Watched) : Prop :=
  (s.Stamped → t.Stamped) ∧
    (reliable = true → ∃ sent, s.1.now ≤ sent ∧ t.2.sentAt = some sent ∧ t.2.valuesFrom = some sent)

theorem same_stamp_stamped (s t : Watched) (same : SameStamp s t) (stamped : s.Stamped) : t.Stamped := by
  intro sent last
  rw [same.1]
  exact stamped sent (same.2 ▸ last)

theorem sent_blocks_snapshot (s t u : Watched) (ret : Int) (succeeds : reliable = true → 0 ≤ ret) (sent : RfshSent s ret t)
    (same : SameStamp t u) (values : reliable = true → u.2.valuesFrom = t.2.latched) : Snapshot reliable s u := by
  cases sent with
  | inl found =>
      obtain ⟨negative, before⟩ := found
      refine ⟨fun stamped => same_stamp_stamped t u same (same_stamp_stamped s t before stamped), fun on => ?_⟩
      exact absurd negative (not_lt.mpr (succeeds on))
  | inr found =>
      obtain ⟨_, time, onwards, stamp, last, latched⟩ := found
      refine ⟨fun _ other found => ?_, fun on => ⟨time, onwards, same.2.trans last, (values on).trans latched⟩⟩
      rw [same.2, last] at found
      cases found
      exact same.1.trans stamp

theorem reg_snapshot_leads (wait_time : Nat) (s : Watched) :
    Leads phys_channels reliable (Returns fun _ => Snapshot reliable s) (regSnapshot true false wait_time) s := by
  simp only [regSnapshot, issue_bind, if_true]
  refine call_leads _ _ _ _ _ s fun _ t _ locked noted => ?_
  have taken : t.1 = _ := locked.2
  have before : SameStamp s t := ⟨by rw [taken], by rw [noted]; rfl⟩
  have clock : t.1.now = s.1.now := by rw [taken]
  apply safe_returns _ _ _ _ _ _ t (send_rfsh_leads phys_channels reliable wait_time t)
  intro ret u given
  obtain ⟨succeeds, sent⟩ := given
  -- The unlock at the end changes neither the stamp nor the values.
  have last (v : Watched) (same : SameStamp u v) (values : reliable = true → v.2.valuesFrom = u.2.latched) (value : Int) :
      Leads phys_channels reliable (Returns fun _ => Snapshot reliable s) (.call .unlock fun _ => .done value) v := by
    refine call_leads _ _ _ _ _ v fun answer w _ unlocked noted => done_leads _ _ _ value w ?_
    have released : w.1 = _ := unlocked
    have kept : SameStamp u w := ⟨by rw [released]; exact same.1, by rw [noted]; exact same.2⟩
    have taken := sent_blocks_snapshot reliable t u w ret succeeds sent kept fun on => by
      rw [noted]
      exact values on
    exact ⟨fun stamped => taken.1 (same_stamp_stamped s t before stamped), fun on => clock ▸ taken.2 on⟩
  by_cases negative : ret < 0
  · rw [if_pos negative]
    exact last u ⟨rfl, rfl⟩ (fun on => absurd negative (not_lt.mpr (succeeds on))) ret
  · rw [if_neg negative]
    apply safe_returns _ _ _ _ _ _ u (read_blocks_leads phys_channels reliable u)
    intro value v given
    obtain ⟨same, values⟩ := given
    exact last v same values value

section Polling

variable (hz : Nat)

def Watched.elapsed (s : Watched) : Prop := s.1.tstamp + (msecsToJiffies hz minPollingTime : Int) < s.1.now

def Watched.current (s : Watched) : Prop := ∃ sent, s.2.sentAt = some sent ∧ s.2.valuesFrom = some sent

-- The values come from a complete snapshot that is not older than the polling
-- time, or taken since.
def Recent (called : Int) (source : Option Int) : Prop :=
  ∃ sent, source = some sent ∧ called ≤ sent + (msecsToJiffies hz minPollingTime : Int)

def Retrieved (s t : Watched) : Prop :=
  (s.Stamped → t.Stamped) ∧
    (reliable = true → s.Stamped → s.elapsed hz ∨ s.current → Recent hz s.1.now t.2.valuesFrom)

theorem reread_chip_leads (wait_time : Nat) (s : Watched) :
    Leads phys_channels reliable (Returns fun _ => Snapshot reliable s) (rereadChip hz wait_time) s := by
  refine safe_returns _ _ _ _ _ _ s (reg_snapshot_leads phys_channels reliable wait_time s) fun _ t taken => ?_
  simp only [issue_bind]
  refine call_leads _ _ _ _ _ t fun _ u _ reply noted => ?_
  refine call_leads _ _ _ _ _ u fun ret v _ reply' noted' => done_leads _ _ _ ret v ?_
  have armed : u.1 = _ := reply.2
  have queued : v.1 = _ := reply'.2
  have same : v.1.tstamp = t.1.tstamp := by rw [queued, armed]
  have notes : v.2 = t.2 := by
    rw [noted', noted]
    rfl
  refine ⟨fun stamped => same_stamp_stamped t v ⟨same, by rw [notes]⟩ (taken.1 stamped), ?_⟩
  rw [notes]
  exact taken.2

theorem retrieve_data_leads (wait_time : Nat) (s : Watched) :
    Leads phys_channels reliable (Returns fun _ => Retrieved reliable hz s) (retrieveData hz wait_time) s := by
  simp only [retrieveData, issue_bind]
  refine call_leads _ _ _ _ _ s fun now t _ reply noted => ?_
  refine call_leads _ _ _ _ _ t fun tstamp u _ reply' noted' => ?_
  obtain rfl : u = s := Prod.ext (reply'.2.trans reply.2) (by rw [noted', noted]; rfl)
  obtain rfl : now = u.1.now := reply.1
  obtain rfl : tstamp = u.1.tstamp := reply'.1.trans (congrArg Driver.tstamp reply'.2).symm
  by_cases past : u.elapsed hz
  · rw [if_pos ((after_add _ _ _).mpr past)]
    apply safe_mono _ _ _ _ _ _ u (reread_chip_leads phys_channels reliable hz wait_time u) (fun _ => id)
    intro _ v _ given
    obtain ⟨ret, rfl, taken⟩ := given
    refine ⟨ret, rfl, taken.1, fun on _ _ => ?_⟩
    obtain ⟨sent, onwards, _, values⟩ := taken.2 on
    exact ⟨sent, values, by omega⟩
  · rw [if_neg fun after => past ((after_add _ _ _).mp after)]
    refine done_leads _ _ _ 0 u ⟨id, fun _ stamped fresh => ?_⟩
    obtain ⟨sent, last, values⟩ := fresh.resolve_left past
    have stamp := stamped sent last
    simp only [Watched.elapsed] at past
    exact ⟨sent, values, by omega⟩

theorem loads_leads (act : Act Int Reading) (s : Watched) (only : Only Loads act) :
    Leads phys_channels reliable (fun _ t => t = s) act s := by
  refine safe_mono _ (fun t => t = s) _ _ _ _ s (only_safe _ Loads _ _ s only rfl ?_ ?_) (fun _ _ => trivial) fun _ _ _ => id
  · intro s cmd t loads same given
    subst same
    obtain ⟨moved, notes⟩ := given
    exact Prod.ext moved notes
  · intro s cmd answer t loads same given
    subst same
    obtain ⟨_, reply, noted⟩ := given
    cases cmd with
    | shunt channel => exact Prod.ext reply.2 noted
    | sampleRate => exact Prod.ext reply.2 noted
    | _ => exact loads.elim

def Watched.handedOut (s : Watched) : Watched := (s.1, { s.2 with reported := s.2.valuesFrom })

theorem hands_out_leads (act : Act Int Reading) (s : Watched) (handsOut : HandsOut act) :
    Leads phys_channels reliable (fun _ t => t = s.handedOut) act s := by
  obtain ⟨source, channel, rest, rfl, only⟩ := handsOut
  refine call_leads _ _ _ _ _ s fun value t _ reply noted => ?_
  obtain rfl : t = s.handedOut := Prod.ext reply.2 noted
  exact loads_leads phys_channels reliable _ _ (only value)

def Answered (called : Int) (chan : ChanSpec) (mask : Mask) (result : Except Fault Reading) (t : Watched) : Prop :=
  ∀ reading, result = .ok reading → mask.data = true →
    reading.ret < 0 ∨ (served chan mask = true ∧ Recent hz called t.2.reported)

theorem read_raw_leads (chan : ChanSpec) (mask : Mask) (s : Watched) (stamped : s.Stamped) :
    Leads phys_channels reliable
      (fun result t => t.Stamped ∧
        ((served chan mask = true → reliable = true ∧ (s.elapsed hz ∨ s.current)) → Answered hz s.1.now chan mask result t))
      (readRaw hz chan mask) s := by
  apply safe_returns _ _ _ _ _ _ s (retrieve_data_leads phys_channels reliable hz minUpdateWaitTime s)
  intro ret t given
  obtain ⟨kept, recent⟩ := given
  by_cases negative : ret < 0
  · rw [if_pos negative]
    refine ⟨trivial, kept stamped, fun _ reading same _ => .inl ?_⟩
    cases same
    exact negative
  · rw [if_neg negative]
    cases data : mask.data with
    | false =>
        apply safe_mono _ _ _ _ _ _ t (loads_leads _ _ _ t (read_data_loads chan mask data)) (fun _ => id)
        intro result _ _ same
        subst same
        refine ⟨kept stamped, fun _ reading _ impossible => ?_⟩
        rw [data] at impossible
        cases impossible
    | true =>
        cases read_data_split chan mask data with
        | inl found =>
            obtain ⟨fits, handsOut⟩ := found
            apply safe_mono _ _ _ _ _ _ t (hands_out_leads _ _ _ t handsOut) (fun _ => id)
            intro result _ _ same
            subst same
            refine ⟨kept stamped, fun careful reading _ _ => .inr ⟨fits, ?_⟩⟩
            obtain ⟨on, fresh⟩ := careful fits
            exact recent on stamped fresh
        | inr refused =>
            rw [refused]
            refine ⟨trivial, kept stamped, fun _ reading same _ => .inl ?_⟩
            cases same
            decide

end Polling

end Requests

-- What the driver is asked for: readings, and refreshing snapshots, the first
-- by probe and later ones by the periodic work.
inductive Request where
  | read (chan : ChanSpec) (mask : Mask)
  | refresh

def Request.program (hz : Nat) : Request → Act Int Unit
  | .read chan mask => do
      let _ ← readRaw hz chan mask
      pure ()
  | .refresh => workPeriodicRfsh

def Request.reliable : Request → Bool
  | .read chan mask => served chan mask
  | .refresh => false

def Passed (s t : Watched) : Prop :=
  ∃ later timer queued, s.1.now ≤ later ∧ t = ({ s.1 with now := later, timer := timer, queued := queued }, s.2)

-- A value is asked for when the polling time is past or the last REFRESH was
-- followed by both block reads.
def Careful (hz : Nat) (s : Watched) : Request → Prop
  | .read chan mask => served chan mask = true → s.elapsed hz ∨ s.current
  | .refresh => True

def Unseen : Provenance := ⟨none, none, none, none, none, none⟩

abbrev Requested (phys_channels hz : Nat) (origin s : Watched) : Prop :=
  Calls (fun _ => callWorld phys_channels false) (Request.program hz) Passed (fun _ _ => True) origin s

abbrev RequestedCarefully (phys_channels hz : Nat) (origin s : Watched) : Prop :=
  Calls (fun request => callWorld phys_channels request.reliable) (Request.program hz) Passed (Careful hz) origin s

theorem requests_stamped (phys_channels hz : Nat) (origin s : Watched) (unseen : origin.2 = Unseen)
    (history : RequestedCarefully phys_channels hz origin s) : s.Stamped := by
  refine calls_keep _ _ _ _ origin Watched.Stamped ?_ ?_ ?_ s history
  · intro sent last
    rw [unseen] at last
    cases last
  · intro s _ stamped given
    obtain ⟨later, timer, queued, _, rfl⟩ := given
    exact stamped
  · intro request s t result stamped _ ended
    cases request with
    | read chan mask =>
        refine safe_ends _ (fun _ => True) (fun _ => Watched.Stamped) _ s t result ?_ ended
        refine safe_then _ _ (fun _ => Watched.Stamped) _ _ _ s ?_ (fun _ _ kept => ⟨trivial, kept⟩) fun _ _ kept => kept
        exact safe_mono _ _ _ _ _ _ s (read_raw_leads phys_channels _ hz chan mask s stamped) (fun _ => id)
          fun _ _ _ answered => answered.1
    | refresh =>
        refine safe_ends _ (fun _ => True) (fun _ => Watched.Stamped) _ s t result ?_ ended
        apply safe_returns _ _ _ _ _ _ s (reg_snapshot_leads phys_channels false minUpdateWaitTime s)
        exact fun _ u taken => ⟨trivial, taken.1 stamped⟩

-- Every value handed out is recent, or the request ends with an error.
theorem careful_reads_fresh (phys_channels hz : Nat) (origin s t : Watched) (chan : ChanSpec) (mask : Mask)
    (reading : Reading) (unseen : origin.2 = Unseen) (history : RequestedCarefully phys_channels hz origin s)
    (data : mask.data = true) (careful : Careful hz s (.read chan mask))
    (ended : Ends (callWorld phys_channels (served chan mask)) (readRaw hz chan mask) s (.ok reading) t) :
    reading.ret < 0 ∨ Recent hz s.1.now t.2.reported := by
  have stamped := requests_stamped phys_channels hz origin s unseen history
  have answered := safe_ends _ _ _ _ s t _ (read_raw_leads phys_channels _ hz chan mask s stamped) ended
  exact (answered.2 (fun fits => ⟨fits, careful fits⟩) reading rfl data).imp id And.right

def requestHandler (phys_channels : Nat) (ret : Int) (s : Watched) (cmd : Cmd Int) : cmd.Reply × Watched :=
  let (answer, t) := driverHandler phys_channels ret s.1 cmd
  (answer, t, s.2.note cmd answer t)

theorem request_handler_obeys (phys_channels : Nat) (reliable : Bool) (ret : Int) (s : Watched) (cmd : Cmd Int)
    (succeeds : reliable = true → 0 ≤ ret) (able : unlocked s.1 cmd = true) :
    (callWorld phys_channels reliable).reply s cmd (requestHandler phys_channels ret s cmd).1
      (requestHandler phys_channels ret s cmd).2 := by
  refine ⟨fun on => ?_, driver_handler_obeys phys_channels ret s.1 cmd able, rfl⟩
  cases cmd with
  | write reg data => exact succeeds on
  | read block reg len => exact succeeds on
  | _ => trivial

def unread : Watched where
  fst := {
    now := 1000
    tstamp := 0
    timer := some 7000
    queued := false
    locked := false
    data := clearedData
    sample_rate_value := 1024
    crt_samp_speed_bitfield := 0
    shunts := fun _ => 100000 }
  snd := Unseen

def busVoltage : ChanSpec := ⟨.voltage, 0x07, 0, 'u'⟩

def course {A : Type} (ret : Int) (act : Act Int A) (s : Watched) : Option (Act Int A × Watched) :=
  advance (requestHandler 1 ret) (fun s => unlocked s.1) 20 act s

def afterwards {A : Type} (ret : Int) (act : Act Int A) (s : Watched) : Watched := ((course ret act s).map Prod.snd).getD s

def Watched.later (s : Watched) (time : Int) : Watched := ({ s.1 with now := time }, s.2)

theorem course_ends {A : Type} (reliable : Bool) (ret : Int) (act : Act Int A) (s t : Watched) (result : Except Fault A)
    (succeeds : reliable = true → 0 ≤ ret) (ran : course ret act s = some (outcome result, t)) :
    Ends (callWorld 1 reliable) act s result t :=
  reaches_advance _ _ _ _ act _ s t (fun s cmd able => request_handler_obeys 1 reliable ret s cmd succeeds able) ran

theorem first_snapshot_ends :
    Ends (callWorld 1 false) (Request.refresh.program 100) unread (.ok ())
      (afterwards 0 (Request.refresh.program 100) unread) :=
  course_ends false 0 _ unread _ (.ok ()) (fun on => by cases on) rfl

def readAt (time : Int) : Watched := (afterwards 0 (Request.refresh.program 100) unread).later time

-- Ten seconds after the only snapshot a REFRESH fails, and the old value is
-- handed out as a success.
theorem failed_refresh_reads_stale :
    ¬ ∀ (phys_channels hz : Nat) (origin s t : Watched) (chan : ChanSpec) (mask : Mask) (reading : Reading),
      origin.2 = Unseen → Requested phys_channels hz origin s → mask.data = true →
      Ends (callWorld phys_channels false) (readRaw hz chan mask) s (.ok reading) t →
      reading.ret < 0 ∨ Recent hz s.1.now t.2.reported := by
  intro fresh
  have waited : Requested 1 100 unread (readAt 2000) :=
    .wait _ _ (.call .refresh unread _ _ .start trivial first_snapshot_ends) ⟨2000, some 7000, false, by decide, rfl⟩
  have ended : Ends (callWorld 1 false) (readRaw 100 busVoltage .raw) (readAt 2000) (.ok ⟨1, some 0, none⟩) _ :=
    course_ends false (-5) _ _ _ _ (fun on => by cases on) rfl
  cases fresh 1 100 unread _ _ busVoltage .raw _ rfl waited rfl ended with
  | inl negative => exact absurd negative (by decide)
  | inr found =>
      obtain ⟨sent, values, recent⟩ := found
      obtain rfl : (1000 : Int) = sent := Option.some.inj values
      exact absurd recent (by decide)

theorem careful_reads_fresh_cached :
    (1 : Int) < 0 ∨ Recent 100 1003 (afterwards 0 (readRaw 100 busVoltage .raw) (readAt 1003)).2.reported := by
  have waited : RequestedCarefully 1 100 unread (readAt 1003) :=
    .wait _ _ (.call Request.refresh unread _ (.ok ()) .start trivial first_snapshot_ends) ⟨1003, some 7000, false, by decide, rfl⟩
  have ended : Ends (callWorld 1 true) (readRaw 100 busVoltage .raw) (readAt 1003) (.ok ⟨1, some 0, none⟩)
      (afterwards 0 (readRaw 100 busVoltage .raw) (readAt 1003)) :=
    course_ends true 0 _ _ _ _ (fun _ => le_refl 0) rfl
  exact careful_reads_fresh 1 100 unread (readAt 1003) _ busVoltage .raw ⟨1, some 0, none⟩ rfl waited rfl
    (fun _ => .inr ⟨1000, rfl, rfl⟩) ended

end SummitSom.Pac193x
