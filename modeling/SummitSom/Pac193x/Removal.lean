import SummitSom.Interact.Threads
import SummitSom.Pac193x.Footprint
import SummitSom.Pac193x.Refresh

set_option autoImplicit false

namespace SummitSom.Pac193x

open Interact

-- The statements of the driver, a look through the chan pointer into
-- indio_dev->channels, and the calls of pac193x_remove.
inductive RemovalCmd where
  | driver (cmd : Cmd Int)
  | channel
  | delTimerSync
  | cancelWorkSync
  | kfreeChannels

abbrev RemovalCmd.Reply : RemovalCmd → Type
  | .driver cmd => cmd.Reply
  | _ => Unit

abbrev RemovalAct (A : Type) := Prog RemovalCmd RemovalCmd.Reply Fault A

section Programs

variable {A B : Type}

def ofDriver (act : Act Int A) : RemovalAct A := act.within (T := RemovalCmd.Reply) .driver

-- The masks whose case looks at the channel.
def Mask.channelled : Mask → Bool
  | .raw | .average_raw | .scale | .processed => true
  | _ => false

-- chan->channel is looked at before every value, chan->scan_type.sign where
-- the answer is a fraction.
def usingChannel : Act Int Reading → RemovalAct Reading
  | .done reading =>
      if reading.ret = IIO_VAL_FRACTIONAL_LOG2 then .call .channel fun _ => .done reading else .done reading
  | .stop fault => .stop fault
  | .call cmd next => .call .channel fun _ => .call (.driver cmd) fun answer => usingChannel (next answer)

def readRawLooking (hz : Nat) (chan : ChanSpec) (mask : Mask) : RemovalAct Reading := do
  let ret ← ofDriver (retrieveData hz minUpdateWaitTime)
  if ret < 0 then pure ⟨ret, none, none⟩
  else if mask.channelled then .call .channel fun _ => usingChannel (readData chan mask)
  else ofDriver (readData chan mask)

def shuntValueShow : Nat → Act Int Unit
  | 0 => pure ()
  | cnt + 1 => do
      shuntValueShow cnt
      let _ ← exec (.shunt cnt)
      pure ()

def pac193xRemove : RemovalAct Unit :=
  .call .delTimerSync fun _ => .call .cancelWorkSync fun _ => .call .kfreeChannels fun _ => .done ()

-- Without its looks at the channel a request is the one of the driver.
def RemovalAct.plain : RemovalAct A → Act Int A
  | .done value => .done value
  | .stop fault => .stop fault
  | .call (.driver cmd) next => .call cmd fun answer => RemovalAct.plain (next answer)
  | .call .channel next => RemovalAct.plain (next ())
  | .call .delTimerSync next => RemovalAct.plain (next ())
  | .call .cancelWorkSync next => RemovalAct.plain (next ())
  | .call .kfreeChannels next => RemovalAct.plain (next ())

theorem plain_bind (act : RemovalAct A) (rest : A → RemovalAct B) :
    RemovalAct.plain (act >>= rest) = RemovalAct.plain act >>= fun value => RemovalAct.plain (rest value) := by
  induction act with
  | done value => rfl
  | stop fault => rfl
  | call cmd next ih =>
      cases cmd with
      | driver cmd => exact congrArg (Prog.call cmd) (funext ih)
      | _ => exact ih ()

theorem plain_of_driver (act : Act Int A) : RemovalAct.plain (ofDriver act) = act := by
  induction act with
  | done value => rfl
  | stop fault => rfl
  | call cmd next ih => exact congrArg (Prog.call cmd) (funext ih)

theorem plain_using_channel (act : Act Int Reading) : RemovalAct.plain (usingChannel act) = act := by
  induction act with
  | done reading =>
      rw [usingChannel]
      split <;> rfl
  | stop fault => rfl
  | call cmd next ih => exact congrArg (Prog.call cmd) (funext ih)

theorem plain_read_raw (hz : Nat) (chan : ChanSpec) (mask : Mask) :
    RemovalAct.plain (readRawLooking hz chan mask) = readRaw hz chan mask := by
  rw [readRawLooking, readRaw, plain_bind, plain_of_driver]
  congr 1
  funext ret
  by_cases negative : ret < 0
  · rw [if_pos negative, if_pos negative]
    rfl
  · rw [if_neg negative, if_neg negative]
    cases mask.channelled with
    | true => exact plain_using_channel _
    | false => exact plain_of_driver _

end Programs

inductive Party where
  | reader (n : Nat)
  | writer (n : Nat)
  | handler
  | work
  | remover
deriving DecidableEq

-- What pac193x_remove has completed.
inductive Stage where
  | attached
  | deleted
  | cancelled
  | freed
deriving DecidableEq

-- handling and working say that the timer handler and the work are running,
-- inside that a reader whose case looks at the channel is in the driver.
structure Removing where
  driver : Driver
  stage : Stage
  handling : Bool
  working : Bool
  inside : Nat → Bool
  usedFreed : Bool

section Removal

variable (phys_channels hz : Nat)

-- del_timer_sync and cancel_work_sync wait for what is running.
def removalReply (s : Removing) : (cmd : RemovalCmd) → cmd.Reply → Removing → Prop
  | .driver cmd, answer, t => ∃ driver, driverReply phys_channels s.driver cmd answer driver ∧ t = { s with driver := driver }
  | .channel, _, t => t = { s with usedFreed := s.usedFreed || s.stage == .freed }
  | .delTimerSync, _, t => s.handling = false ∧ t = { s with driver := { s.driver with timer := none }, stage := .deleted }
  | .cancelWorkSync, _, t =>
      s.working = false ∧ t = { s with driver := { s.driver with queued := false }, stage := .cancelled }
  | .kfreeChannels, _, t => t = { s with stage := .freed }

def removalEnters : Party → RemovalAct Unit → Removing → Removing → Prop
  | .reader n, program, s, t =>
      (∃ chan mask, program = (do let _ ← readRawLooking hz chan mask; pure ()) ∧
        t = { s with inside := Function.update s.inside n mask.channelled }) ∨
      (program = ofDriver (shuntValueShow phys_channels) ∧ t = { s with inside := Function.update s.inside n false })
  | .writer _, program, s, t => (∃ val mask, program = (do let _ ← ofDriver (writeRaw hz val mask); pure ())) ∧ t = s
  | .handler, program, s, t =>
      program = ofDriver (readRegTimeout hz) ∧ ∃ expires, s.driver.timer = some expires ∧ expires ≤ s.driver.now ∧
        t = { s with driver := { s.driver with timer := none }, handling := true }
  | .work, program, s, t =>
      program = ofDriver workPeriodicRfsh ∧ s.driver.queued = true ∧
        t = { s with driver := { s.driver with queued := false }, working := true }
  | .remover, program, s, t => program = pac193xRemove ∧ s.stage = .attached ∧ t = s

def removalLeaves : Party → Removing → Removing → Prop
  | .reader n, s, t => t = { s with inside := Function.update s.inside n false }
  | .writer _, s, t => t = s
  | .handler, s, t => t = { s with handling := false }
  | .work, s, t => t = { s with working := false }
  | .remover, s, t => t = s

def removalCrew : Crew Party RemovalCmd RemovalCmd.Reply Fault Removing where
  acts _ := { midst := fun s _ t => t = s, reply := removalReply phys_channels }
  enters := removalEnters phys_channels hz
  leaves := removalLeaves
  drifts s t := ∃ later, s.driver.now ≤ later ∧ t = { s with driver := { s.driver with now := later } }

-- A sysfs call arms the timer before del_timer_sync is through only, and the
-- channels are freed when no reader of theirs is inside.
def CarefulAct (name : Party) (s : Removing) : RemovalCmd → Prop
  | .driver (.modTimer _) => name ≠ .handler → s.stage = .attached
  | .kfreeChannels => ∀ n, s.inside n = false
  | _ => True

-- Afterwards none enters.
def CarefulEntry (name : Party) (s t : Removing) : Prop :=
  ∀ n, name = .reader n → t.inside n = true → s.stage ≠ .freed

abbrev carefulCrew : Crew Party RemovalCmd RemovalCmd.Reply Fault Removing :=
  (removalCrew phys_channels hz).admitting CarefulAct CarefulEntry

structure Removing.Quiet (s : Removing) : Prop where
  timer : s.stage ≠ .attached → s.driver.timer = none ∧ s.handling = false
  work : s.stage = .cancelled ∨ s.stage = .freed → s.driver.queued = false ∧ s.working = false
  channels : s.stage = .freed → ∀ n, s.inside n = false
  unused : s.usedFreed = false

structure RemovalRelied (name : Party) (s t : Removing) : Prop where
  handling : name = .handler → t.handling = s.handling
  working : name = .work → t.working = s.working
  inside : ∀ n, name = .reader n → t.inside n = s.inside n
  stage : name = .remover → t.stage = s.stage

def Schedules : Cmd Int → Prop
  | .modTimer _ | .queueWork => True
  | _ => False

theorem unscheduling (s t : Driver) (cmd : Cmd Int) (answer : cmd.Reply) (other : ¬ Schedules cmd)
    (reply : driverReply phys_channels s cmd answer t) : t.timer = s.timer ∧ t.queued = s.queued := by
  have spared := reply_spares phys_channels s t cmd answer reply
  constructor
  · rcases spared.timer with same | ⟨expires, rfl⟩
    · exact same
    · exact absurd trivial other
  · rcases spared.queued with same | rfl
    · exact same
    · exact absurd trivial other

-- What the state has to be like for a command.
def Permitted (s : Removing) : RemovalCmd → Prop
  | .driver cmd => Schedules cmd → s.stage = .attached
  | .channel => s.stage ≠ .freed
  | .delTimerSync => s.stage = .attached
  | .cancelWorkSync => s.stage = .deleted
  | .kfreeChannels => s.stage = .cancelled ∧ ∀ n, s.inside n = false

structure Acted (s t : Removing) : Prop where
  handling : t.handling = s.handling
  working : t.working = s.working
  inside : t.inside = s.inside

theorem driver_quiet (s : Removing) (driver : Driver) (cmd : Cmd Int) (answer : cmd.Reply) (quiet : s.Quiet)
    (permitted : Schedules cmd → s.stage = .attached) (reply : driverReply phys_channels s.driver cmd answer driver) :
    ({ s with driver := driver } : Removing).Quiet := by
  by_cases schedules : Schedules cmd
  · have attached := permitted schedules
    constructor
    · intro removed
      exact absurd attached removed
    · intro later
      rw [attached] at later
      cases later with
      | inl impossible => cases impossible
      | inr impossible => cases impossible
    · exact quiet.channels
    · exact quiet.unused
  · obtain ⟨timer, queued⟩ := unscheduling phys_channels s.driver driver cmd answer schedules reply
    constructor
    · intro removed
      exact ⟨timer.trans (quiet.timer removed).1, (quiet.timer removed).2⟩
    · intro later
      exact ⟨queued.trans (quiet.work later).1, (quiet.work later).2⟩
    · exact quiet.channels
    · exact quiet.unused

theorem reply_acted (s t : Removing) (cmd : RemovalCmd) (answer : cmd.Reply)
    (reply : removalReply phys_channels s cmd answer t) : Acted s t := by
  cases cmd with
  | driver cmd =>
      obtain ⟨driver, _, rfl⟩ := reply
      exact ⟨rfl, rfl, rfl⟩
  | delTimerSync =>
      obtain ⟨_, rfl⟩ := reply
      exact ⟨rfl, rfl, rfl⟩
  | cancelWorkSync =>
      obtain ⟨_, rfl⟩ := reply
      exact ⟨rfl, rfl, rfl⟩
  | _ =>
      obtain rfl : t = _ := reply
      exact ⟨rfl, rfl, rfl⟩

theorem act_quiet (s t : Removing) (cmd : RemovalCmd) (answer : cmd.Reply) (quiet : s.Quiet) (permitted : Permitted s cmd)
    (reply : removalReply phys_channels s cmd answer t) : t.Quiet := by
  cases cmd with
  | driver cmd =>
      obtain ⟨driver, acted, rfl⟩ := reply
      exact driver_quiet phys_channels s driver cmd answer quiet permitted acted
  | channel =>
      obtain rfl : t = _ := reply
      have unused : (s.usedFreed || s.stage == .freed) = false := by
        rw [quiet.unused]
        simpa [Permitted] using permitted
      exact ⟨quiet.timer, quiet.work, quiet.channels, unused⟩
  | delTimerSync =>
      obtain ⟨handled, rfl⟩ := reply
      exact ⟨fun _ => ⟨rfl, handled⟩, by simp, by simp, quiet.unused⟩
  | cancelWorkSync =>
      obtain ⟨worked, rfl⟩ := reply
      have deleted : s.stage = .deleted := permitted
      exact ⟨fun _ => quiet.timer (by simp [deleted]), fun _ => ⟨rfl, worked⟩, by simp, quiet.unused⟩
  | kfreeChannels =>
      obtain rfl : t = _ := reply
      obtain ⟨cancelled, outside⟩ := permitted
      exact ⟨fun _ => quiet.timer (by simp [cancelled]), fun _ => quiet.work (.inl cancelled), fun _ => outside, quiet.unused⟩

theorem still_relied (name : Party) (s : Removing) : RemovalRelied name s s :=
  ⟨fun _ => rfl, fun _ => rfl, fun _ _ => rfl, fun _ => rfl⟩

-- Only the reader itself relies on its flag.
theorem inside_relied (n : Nat) (looks : Bool) (other : Party) (s : Removing) (apart : other ≠ .reader n) :
    RemovalRelied other s { s with inside := Function.update s.inside n looks } := by
  refine ⟨fun _ => rfl, fun _ => rfl, ?_, fun _ => rfl⟩
  intro m own
  exact Function.update_of_ne (fun same => apart (by rw [own, same])) _ _

theorem acted_relied (name other : Party) (s t : Removing) (apart : other ≠ name) (acted : Acted s t)
    (stage : name ≠ .remover → t.stage = s.stage) : RemovalRelied other s t := by
  constructor
  · intro _
    exact acted.handling
  · intro _
    exact acted.working
  · intro n _
    rw [acted.inside]
  · intro own
    exact stage fun same => apart (own.trans same.symm)

abbrev RemovalOutline {A : Type} (name : Party) (post : Except Fault A → (Removing → Prop) → Prop) (act : RemovalAct A)
    (fact : Removing → Prop) : Prop :=
  Outlined (carefulCrew phys_channels hz) Removing.Quiet RemovalRelied name post act fact

def OfCall : RemovalCmd → Prop
  | .driver _ | .channel => True
  | _ => False

theorem call_stage (s t : Removing) (cmd : RemovalCmd) (answer : cmd.Reply) (ofCall : OfCall cmd)
    (reply : removalReply phys_channels s cmd answer t) : t.stage = s.stage := by
  cases cmd with
  | driver cmd =>
      obtain ⟨driver, _, rfl⟩ := reply
      rfl
  | channel =>
      obtain rfl : t = _ := reply
      rfl
  | _ => exact ofCall.elim

-- Any party but the remover: its fact is about flags that its own commands leave.
theorem call_outline_of {A : Type} (name : Party) (post : Except Fault A → (Removing → Prop) → Prop)
    (allowed : RemovalCmd → Prop) (act : RemovalAct A) (fact : Removing → Prop) (only : Only allowed act)
    (ofCall : ∀ cmd, allowed cmd → OfCall cmd)
    (stable : Stable Removing.Quiet (RemovalRelied name) fact) (kept : ∀ s t, Acted s t → fact s → fact t)
    (permits : ∀ s cmd, s.Quiet → fact s → allowed cmd → CarefulAct name s cmd → Permitted s cmd)
    (posts : ∀ result, post result fact) : RemovalOutline phys_channels hz name post act fact := by
  apply outlined_only _ _ _ _ _ allowed act fact only stable _ posts
  intro s cmd answer t quiet now may reply
  obtain ⟨careful, reply⟩ := reply
  have after := act_quiet phys_channels s t cmd answer quiet (permits s cmd quiet now may careful) reply
  have acted := reply_acted phys_channels s t cmd answer reply
  have stage := call_stage phys_channels s t cmd answer (ofCall cmd may) reply
  exact ⟨after, fun other apart => acted_relied name other s t apart acted fun _ => stage, kept s t acted now⟩

def Sysfs (looks : Bool) : RemovalCmd → Prop
  | .driver cmd => Calling cmd
  | .channel => looks = true
  | _ => False

theorem sysfs_of_call (looks : Bool) (cmd : RemovalCmd) (sysfs : Sysfs looks cmd) : OfCall cmd := by
  cases cmd with
  | driver cmd => trivial
  | channel => trivial
  | _ => exact sysfs.elim

theorem only_of_driver {A : Type} (looks : Bool) (act : Act Int A) (only : Only Calling act) :
    Only (Sysfs looks) (ofDriver act) :=
  only_within (T := RemovalCmd.Reply) .driver (Sysfs looks) act only

theorem sysfs_permits (name : Party) (looks : Bool) (s : Removing) (cmd : RemovalCmd) (caller : name ≠ .handler)
    (present : looks = true → s.stage ≠ .freed) (sysfs : Sysfs looks cmd) (careful : CarefulAct name s cmd) :
    Permitted s cmd := by
  cases cmd with
  | driver cmd =>
      intro schedules
      cases cmd with
      | modTimer expires => exact careful caller
      | queueWork => exact sysfs.elim
      | _ => exact schedules.elim
  | channel => exact present sysfs
  | _ => exact sysfs.elim

theorem snapping_calling (cmd : Cmd Int) (snapping : Snapping cmd) : Calling cmd :=
  retrieving_calling cmd (snapping_retrieving cmd snapping)

theorem using_channel_only (act : Act Int Reading) (only : Only Snapping act) : Only (Sysfs true) (usingChannel act) := by
  induction act with
  | done reading =>
      rw [usingChannel]
      split
      · exact ⟨rfl, fun _ => trivial⟩
      · trivial
  | stop fault => trivial
  | call cmd next ih => exact ⟨rfl, fun _ => ⟨snapping_calling cmd only.1, fun answer => ih answer (only.2 answer)⟩⟩

theorem read_raw_looking_only (chan : ChanSpec) (mask : Mask) :
    Only (Sysfs mask.channelled) (readRawLooking hz chan mask) := by
  apply only_bind
  · apply only_of_driver
    exact only_mono Retrieving Calling _ retrieving_calling (completes_only _ _ (retrieve_data_completes hz minUpdateWaitTime))
  · intro ret
    split
    · trivial
    · cases looks : mask.channelled with
      | true => exact ⟨rfl, fun _ => using_channel_only _ (read_data_only chan mask)⟩
      | false => exact only_of_driver _ _ (only_mono Snapping Calling _ snapping_calling (read_data_only chan mask))

theorem shunt_value_show_only (cnt : Nat) : Only Calling (shuntValueShow cnt) := by
  induction cnt with
  | zero => trivial
  | succ cnt ih => exact only_bind _ _ _ ih fun _ => ⟨trivial, fun _ => trivial⟩

def InsideAs (n : Nat) (looks : Bool) (s : Removing) : Prop := s.inside n = looks

theorem inside_stable (n : Nat) (looks : Bool) : Stable Removing.Quiet (RemovalRelied (.reader n)) (InsideAs n looks) := by
  intro s t _ _ inside relied
  exact (relied.inside n rfl).trans inside

theorem reader_ready (n : Nat) (looks : Bool) (act : RemovalAct Unit) (t : Removing) (only : Only (Sysfs looks) act)
    (inside : t.inside n = looks) :
    Ready (carefulCrew phys_channels hz) Removing.Quiet RemovalRelied (.reader n) act t := by
  refine ⟨InsideAs n looks, inside, inside_stable n looks, ?_⟩
  apply call_outline_of phys_channels hz _ _ (Sysfs looks) act _ only (sysfs_of_call looks) (inside_stable n looks)
  · intro s u acted before
    rw [InsideAs, acted.inside]
    exact before
  · intro s cmd quiet now sysfs careful
    apply sysfs_permits (.reader n) looks s cmd (by rintro ⟨⟩) _ sysfs careful
    intro on freed
    have outside := quiet.channels freed n
    rw [now, on] at outside
    cases outside
  · intro result s u quiet now left
    obtain rfl : u = _ := left
    constructor
    · refine ⟨quiet.timer, quiet.work, ?_, quiet.unused⟩
      intro freed other
      by_cases same : other = n
      · subst same
        exact Function.update_self other _ _
      · exact (Function.update_of_ne same _ _).trans (quiet.channels freed other)
    · exact fun other apart => inside_relied n false other s apart

theorem writer_ready (n : Nat) (act : RemovalAct Unit) (t : Removing) (only : Only (Sysfs false) act) :
    Ready (carefulCrew phys_channels hz) Removing.Quiet RemovalRelied (.writer n) act t := by
  refine ⟨fun _ => True, trivial, fun _ _ _ _ _ _ => trivial, ?_⟩
  apply call_outline_of phys_channels hz _ _ (Sysfs false) act _ only (sysfs_of_call false) (fun _ _ _ _ _ _ => trivial)
  · exact fun _ _ _ _ => trivial
  · intro s cmd _ _ sysfs careful
    exact sysfs_permits (.writer n) false s cmd (by rintro ⟨⟩) (by rintro ⟨⟩) sysfs careful
  · intro result s u quiet _ left
    obtain rfl : u = s := left
    exact ⟨quiet, fun other _ => still_relied other u⟩

theorem handler_ready (t : Removing) (handling : t.handling = true) :
    Ready (carefulCrew phys_channels hz) Removing.Quiet RemovalRelied .handler (ofDriver (readRegTimeout hz)) t := by
  have stable : Stable Removing.Quiet (RemovalRelied .handler) fun s => s.handling = true := by
    intro s u _ _ now relied
    exact (relied.handling rfl).trans now
  refine ⟨fun s => s.handling = true, handling, stable, ?_⟩
  apply call_outline_of phys_channels hz _ _ (fun cmd => ∃ act, cmd = .driver act) _ _ _ _ stable
  · intro s u acted now
    exact acted.handling.trans now
  · intro s cmd quiet now ofDriver _
    obtain ⟨act, rfl⟩ := ofDriver
    intro _
    by_contra removed
    rw [(quiet.timer removed).2] at now
    cases now
  · intro result s u quiet _ left
    obtain rfl : u = _ := left
    refine ⟨⟨fun removed => ⟨(quiet.timer removed).1, rfl⟩, quiet.work, quiet.channels, quiet.unused⟩, ?_⟩
    exact fun other apart => ⟨fun own => absurd own apart, fun _ => rfl, fun _ _ => rfl, fun _ => rfl⟩
  · exact only_within (T := RemovalCmd.Reply) .driver _ _ (only_all _ _ fun act => ⟨act, rfl⟩)
  · intro cmd ofDriver
    obtain ⟨act, rfl⟩ := ofDriver
    trivial

theorem work_ready (t : Removing) (working : t.working = true) :
    Ready (carefulCrew phys_channels hz) Removing.Quiet RemovalRelied .work (ofDriver workPeriodicRfsh) t := by
  have stable : Stable Removing.Quiet (RemovalRelied .work) fun s => s.working = true := by
    intro s u _ _ now relied
    exact (relied.working rfl).trans now
  refine ⟨fun s => s.working = true, working, stable, ?_⟩
  apply call_outline_of phys_channels hz _ _ (Sysfs false) _ _ _ (sysfs_of_call false) stable
  · intro s u acted now
    exact acted.working.trans now
  · intro s cmd _ _ sysfs careful
    exact sysfs_permits .work false s cmd (by rintro ⟨⟩) (by rintro ⟨⟩) sysfs careful
  · intro result s u quiet _ left
    obtain rfl : u = _ := left
    refine ⟨⟨quiet.timer, fun later => ⟨(quiet.work later).1, rfl⟩, quiet.channels, quiet.unused⟩, ?_⟩
    exact fun other apart => ⟨fun _ => rfl, fun own => absurd own apart, fun _ _ => rfl, fun _ => rfl⟩
  · have snapping := completes_only _ _ work_periodic_rfsh_completes
    exact only_of_driver false _ (only_mono Snapping Calling _ snapping_calling snapping)

theorem stage_stable (stage : Stage) : Stable Removing.Quiet (RemovalRelied .remover) fun s => s.stage = stage := by
  intro s t _ _ now relied
  exact (relied.stage rfl).trans now

theorem remover_call (cmd : RemovalCmd) (rest : cmd.Reply → RemovalAct Unit) (stage next : Stage)
    (permits : ∀ s, s.stage = stage → CarefulAct .remover s cmd → Permitted s cmd)
    (moves : ∀ s answer t, removalReply phys_channels s cmd answer t → t.stage = next)
    (post : Except Fault Unit → (Removing → Prop) → Prop)
    (onward : ∀ answer, RemovalOutline phys_channels hz .remover post (rest answer) fun s => s.stage = next) :
    RemovalOutline phys_channels hz .remover post (.call cmd rest) fun s => s.stage = stage := by
  intro s answer t quiet now reply
  obtain ⟨careful, reply⟩ := reply
  have after := act_quiet phys_channels s t cmd answer quiet (permits s now careful) reply
  have acted := reply_acted phys_channels s t cmd answer reply
  exact ⟨after, fun other apart => acted_relied .remover other s t apart acted fun own => absurd rfl own,
    fun u => u.stage = next, moves s answer t reply, stage_stable next, onward answer⟩

theorem remover_outline (post : Except Fault Unit → (Removing → Prop) → Prop) (posts : ∀ result fact, post result fact) :
    RemovalOutline phys_channels hz .remover post pac193xRemove fun s => s.stage = .attached := by
  apply remover_call phys_channels hz .delTimerSync _ .attached .deleted
  · exact fun s now _ => now
  · intro s answer t reply
    obtain ⟨_, rfl⟩ := reply
    rfl
  · intro _
    apply remover_call phys_channels hz .cancelWorkSync _ .deleted .cancelled
    · exact fun s now _ => now
    · intro s answer t reply
      obtain ⟨_, rfl⟩ := reply
      rfl
    · intro _
      apply remover_call phys_channels hz .kfreeChannels _ .cancelled .freed
      · exact fun s now careful => ⟨now, careful⟩
      · intro s answer t reply
        obtain rfl : t = _ := reply
        rfl
      · exact fun _ => posts _ _

theorem remover_ready (t : Removing) (attached : t.stage = .attached) :
    Ready (carefulCrew phys_channels hz) Removing.Quiet RemovalRelied .remover pac193xRemove t := by
  refine ⟨fun s => s.stage = .attached, attached, stage_stable .attached, remover_outline phys_channels hz _ ?_⟩
  intro result fact s u quiet _ left
  obtain rfl : u = s := left
  exact ⟨quiet, fun other _ => still_relied other u⟩

-- The device is bound and nothing runs, whatever the timer and the work are.
structure Removing.Attached (s : Removing) : Prop where
  stage : s.stage = .attached
  outside : ∀ n, s.inside n = false
  unused : s.usedFreed = false

theorem reading_enters (n : Nat) (looks : Bool) (act : RemovalAct Unit) (s : Removing) (quiet : s.Quiet)
    (only : Only (Sysfs looks) act) (present : looks = true → s.stage ≠ .freed) :
    ({ s with inside := Function.update s.inside n looks } : Removing).Quiet ∧
      (∀ other, other ≠ .reader n → RemovalRelied other s { s with inside := Function.update s.inside n looks }) ∧
        Ready (carefulCrew phys_channels hz) Removing.Quiet RemovalRelied (.reader n) act
          { s with inside := Function.update s.inside n looks } := by
  refine ⟨⟨quiet.timer, quiet.work, ?_, quiet.unused⟩, ?_, ?_⟩
  · intro freed other
    by_cases same : other = n
    · subst same
      apply (Function.update_self other _ _).trans
      cases on : looks with
      | true => exact absurd freed (present on)
      | false => rfl
    · exact (Function.update_of_ne same _ _).trans (quiet.channels freed other)
  · exact fun other apart => inside_relied n looks other s apart
  · exact reader_ready phys_channels hz n looks act _ only (Function.update_self n _ _)

theorem removal_enters_quiet (name : Party) (program : RemovalAct Unit) (s t : Removing) (quiet : s.Quiet)
    (entered : (carefulCrew phys_channels hz).enters name program s t) :
    t.Quiet ∧ (∀ other, other ≠ name → RemovalRelied other s t) ∧
      Ready (carefulCrew phys_channels hz) Removing.Quiet RemovalRelied name program t := by
  obtain ⟨entered, careful⟩ := entered
  cases name with
  | reader n =>
      rcases entered with ⟨chan, mask, rfl, rfl⟩ | ⟨rfl, rfl⟩
      · apply reading_enters phys_channels hz n mask.channelled _ s quiet
        · exact only_bind _ _ _ (read_raw_looking_only hz chan mask) fun _ => trivial
        · intro on
          exact careful n rfl ((Function.update_self n _ _).trans on)
      · apply reading_enters phys_channels hz n false _ s quiet
        · exact only_of_driver false _ (shunt_value_show_only phys_channels)
        · intro impossible
          cases impossible
  | writer n =>
      obtain ⟨⟨val, mask, rfl⟩, rfl⟩ := entered
      refine ⟨quiet, fun other _ => still_relied other _, ?_⟩
      apply writer_ready
      exact only_bind _ _ _ (only_of_driver false _ (write_raw_only hz val mask)) fun _ => trivial
  | handler =>
      obtain ⟨rfl, expires, armed, _, rfl⟩ := entered
      have attached : s.stage = .attached := by
        by_contra removed
        rw [(quiet.timer removed).1] at armed
        cases armed
      refine ⟨⟨fun removed => absurd attached removed, quiet.work, quiet.channels, quiet.unused⟩, ?_, handler_ready _ _ _ rfl⟩
      exact fun other apart => ⟨fun own => absurd own apart, fun _ => rfl, fun _ _ => rfl, fun _ => rfl⟩
  | work =>
      obtain ⟨rfl, queued, rfl⟩ := entered
      refine ⟨⟨quiet.timer, ?_, quiet.channels, quiet.unused⟩, ?_, work_ready _ _ _ rfl⟩
      · intro later
        rw [(quiet.work later).1] at queued
        cases queued
      · exact fun other apart => ⟨fun _ => rfl, fun own => absurd own apart, fun _ _ => rfl, fun _ => rfl⟩
  | remover =>
      obtain ⟨rfl, attached, rfl⟩ := entered
      exact ⟨quiet, fun other _ => still_relied other _, remover_ready _ _ _ attached⟩

abbrev RemovalPool := Pool Party RemovalCmd RemovalCmd.Reply Fault Removing

-- pac193x_remove has returned, and so have all sysfs calls that entered.
structure Removed (pool : RemovalPool) : Prop where
  freed : pool.state.stage = .freed
  returned : pool.threads .remover = none
  readers : ∀ n, pool.threads (.reader n) = none
  writers : ∀ n, pool.threads (.writer n) = none

structure NothingRuns (pool : RemovalPool) : Prop where
  timer : pool.state.driver.timer = none
  queued : pool.state.driver.queued = false
  handler : pool.threads .handler = none
  work : pool.threads .work = none
  unused : pool.state.usedFreed = false

def Removing.Marked (s : Removing) : Party → Prop
  | .handler => s.handling = true
  | .work => s.working = true
  | _ => True

theorem marked_kept (name : Party) (s t : Removing) (handling : s.handling = true → t.handling = true)
    (working : s.working = true → t.working = true) (marked : s.Marked name) : t.Marked name := by
  cases name with
  | handler => exact handling marked
  | work => exact working marked
  | _ => trivial

-- Who enters takes no mark away and has its own.
theorem entered_marks (other : Party) (program : RemovalAct Unit) (s t : Removing)
    (entered : removalEnters phys_channels hz other program s t) :
    (s.handling = true → t.handling = true) ∧ (s.working = true → t.working = true) ∧ t.Marked other := by
  cases other with
  | reader n =>
      rcases entered with ⟨_, _, _, rfl⟩ | ⟨_, rfl⟩
      · exact ⟨id, id, trivial⟩
      · exact ⟨id, id, trivial⟩
  | writer n =>
      rcases entered with ⟨_, rfl⟩
      exact ⟨id, id, trivial⟩
  | handler =>
      rcases entered with ⟨_, _, _, _, rfl⟩
      exact ⟨fun _ => rfl, id, rfl⟩
  | work =>
      rcases entered with ⟨_, _, rfl⟩
      exact ⟨id, fun _ => rfl, rfl⟩
  | remover =>
      rcases entered with ⟨_, _, rfl⟩
      exact ⟨id, id, trivial⟩

theorem enters_marked (name other : Party) (program : RemovalAct Unit) (s t : Removing) (marked : other = name ∨ s.Marked name)
    (entered : removalEnters phys_channels hz other program s t) : t.Marked name := by
  rcases entered_marks phys_channels hz other program s t entered with ⟨handling, working, own⟩
  rcases marked with same | marked
  · exact same ▸ own
  · exact marked_kept name s t handling working marked

theorem leaves_marked (name other : Party) (s t : Removing) (apart : other ≠ name) (marked : s.Marked name)
    (left : removalLeaves other s t) : t.Marked name := by
  cases other with
  | handler =>
      obtain rfl : t = _ := left
      cases name with
      | handler => exact absurd rfl apart
      | work => exact marked
      | _ => trivial
  | work =>
      obtain rfl : t = _ := left
      cases name with
      | handler => exact marked
      | work => exact absurd rfl apart
      | _ => trivial
  | reader n =>
      obtain rfl : t = _ := left
      exact marked_kept name s _ id id marked
  | _ =>
      obtain rfl : t = s := left
      exact marked

theorem threads_marked (name : Party) (origin : Removing) (pool : RemovalPool) (program : RemovalAct Unit)
    (run : Interleaved (carefulCrew phys_channels hz) origin pool) (inside : pool.threads name = some program) :
    pool.state.Marked name := by
  apply interleaved_marks _ origin name (fun s => s.Marked name) _ _ _ _ pool run program inside
  · intro other s cmd answer t marked reply
    have acted := reply_acted phys_channels s t cmd answer reply.2
    exact marked_kept name s t acted.handling.trans acted.working.trans marked
  · exact fun other program s t marked entered => enters_marked phys_channels hz name other program s t marked entered.1
  · exact fun other s t apart marked left => leaves_marked name other s t apart marked left
  · intro s t marked drifted
    obtain ⟨_, _, rfl⟩ := drifted
    exact marked_kept name s _ id id marked

end Removal

def bound : Removing where
  driver := {
    now := 2000
    tstamp := 1000
    timer := some 7000
    queued := false
    locked := false
    data := clearedData
    sample_rate_value := 1024
    crt_samp_speed_bitfield := 0
    shunts := fun _ => 100000 }
  stage := .attached
  handling := false
  working := false
  inside := fun _ => false
  usedFreed := false

theorem bound_attached : bound.Attached := ⟨rfl, fun _ => rfl, rfl⟩

def removalHandler (s : Removing) (cmd : RemovalCmd) : cmd.Reply × Removing :=
  match cmd with
  | .driver cmd => ((driverHandler 1 0 s.driver cmd).1, { s with driver := (driverHandler 1 0 s.driver cmd).2 })
  | .channel => ((), { s with usedFreed := s.usedFreed || s.stage == .freed })
  | .delTimerSync => ((), { s with driver := { s.driver with timer := none }, stage := .deleted })
  | .cancelWorkSync => ((), { s with driver := { s.driver with queued := false }, stage := .cancelled })
  | .kfreeChannels => ((), { s with stage := .freed })

def removalAble (s : Removing) : RemovalCmd → Bool
  | .driver cmd => unlocked s.driver cmd
  | .delTimerSync => !s.handling
  | .cancelWorkSync => !s.working
  | _ => true

theorem removal_handler_obeys (s : Removing) (cmd : RemovalCmd) (able : removalAble s cmd = true) :
    removalReply 1 s cmd (removalHandler s cmd).1 (removalHandler s cmd).2 := by
  cases cmd with
  | driver cmd => exact ⟨_, driver_handler_obeys 1 0 s.driver cmd able, rfl⟩
  | delTimerSync => exact ⟨by simpa [removalAble] using able, rfl⟩
  | cancelWorkSync => exact ⟨by simpa [removalAble] using able, rfl⟩
  | _ => rfl

section Runs

variable {crew : Crew Party RemovalCmd RemovalCmd.Reply Fault Removing} (able : Removing → RemovalCmd → Bool)
  (obeys : ∀ name s cmd, able s cmd = true → (crew.acts name).reply s cmd (removalHandler s cmd).1 (removalHandler s cmd).2)
  (pool : RemovalPool) (name : Party) (n : Nat)

def RemovalPool.run : RemovalPool := pool.turn removalHandler able name n

include obeys in
theorem removal_run (before : Interleaved crew bound pool) : Interleaved crew bound (RemovalPool.run able pool name n) :=
  interleaved_turn crew bound pool removalHandler able name n before (obeys name)

include obeys in
theorem removal_entered (program : RemovalAct Unit) (t : Removing) (before : Interleaved crew bound pool)
    (free : pool.threads name = none) (entered : crew.enters name program pool.state t) :
    Interleaved crew bound (RemovalPool.run able (pool.move name (some program) t) name n) :=
  removal_run able obeys _ name n (.enter pool name program t before free entered)

end Runs

def channelReading : RemovalAct Unit := do
  let _ ← readRawLooking 100 ⟨.voltage, 0x07, 0, 'u'⟩ .raw
  pure ()

def Removing.entering (s : Removing) : Removing := { s with inside := Function.update s.inside 0 true }

def Removing.leaving (s : Removing) : Removing := { s with inside := Function.update s.inside 0 false }

-- What a careful thread is able to do at once; the channels are freed apart.
def carefulAble (s : Removing) (cmd : RemovalCmd) : Bool :=
  removalAble s cmd && match cmd with
    | .driver (.modTimer _) => s.stage = .attached
    | .kfreeChannels => false
    | _ => true

theorem careful_handler_obeys (name : Party) (s : Removing) (cmd : RemovalCmd) (able : carefulAble s cmd = true) :
    ((carefulCrew 1 100).acts name).reply s cmd (removalHandler s cmd).1 (removalHandler s cmd).2 := by
  obtain ⟨can, careful⟩ := (Bool.and_eq_true _ _).mp able
  refine ⟨?_, removal_handler_obeys s cmd can⟩
  cases cmd with
  | driver cmd =>
      cases cmd with
      | modTimer expires => exact fun _ => of_decide_eq_true careful
      | _ => trivial
  | kfreeChannels => cases careful
  | _ => trivial

def RemovalPool.careful (pool : RemovalPool) (name : Party) (n : Nat) : RemovalPool := RemovalPool.run carefulAble pool name n

def Removing.later (s : Removing) (now : Int) : Removing := { s with driver := { s.driver with now := now } }

-- The timer has expired, and a reader has armed it once more.
def bothArmed : RemovalPool :=
  let s := bound.later 7000
  let fired := { s with driver := { s.driver with timer := none }, handling := true }
  let firing := RemovalPool.careful (Pool.move ⟨s, fun _ => none⟩ .handler (some (ofDriver (readRegTimeout 100))) fired) .handler 1
  RemovalPool.careful (firing.move (.reader 0) (some channelReading) firing.state.entering) (.reader 0) 13

-- The handler has queued the work, and the removal has begun.
def queuedLast : RemovalPool := RemovalPool.careful bothArmed .handler 2

def deleting : RemovalPool :=
  let left := queuedLast.move .handler none { queuedLast.state with handling := false }
  RemovalPool.careful (left.move .remover (some pac193xRemove) left.state) .remover 1

-- Beside it the work refreshes and the reader ends.
def refreshed : RemovalPool :=
  let s := deleting.state
  let started := { s with driver := { s.driver with queued := false }, working := true }
  RemovalPool.careful (deleting.move .work (some (ofDriver workPeriodicRfsh)) started) .work 40

def readerEnded : RemovalPool := RemovalPool.careful refreshed (.reader 0) 40

def cancelling : RemovalPool :=
  let left := readerEnded.move (.reader 0) none readerEnded.state.leaving
  let ended := left.move .work none { left.state with working := false }
  RemovalPool.careful ended .remover 1

-- The channels go last, when no reader is inside.
def quietEnd : RemovalPool :=
  let freed := { cancelling.state with stage := .freed }
  (cancelling.move .remover (some (.done ())) freed).move .remover none freed

theorem quiet_end_run : Interleaved (carefulCrew 1 100) bound quietEnd := by
  have late : Interleaved (carefulCrew 1 100) bound ⟨bound.later 7000, fun _ => none⟩ :=
    .drift _ _ .start ⟨7000, by decide, rfl⟩
  have enter := removal_entered carefulAble careful_handler_obeys
  have run := removal_run carefulAble careful_handler_obeys
  have fires := enter _ .handler 1 (ofDriver (readRegTimeout 100)) _ late rfl ⟨⟨rfl, 7000, rfl, by decide, rfl⟩, by rintro _ ⟨⟩⟩
  have reads := enter _ (.reader 0) 13 channelReading _ fires rfl ⟨.inl ⟨_, _, rfl, rfl⟩, fun _ _ _ => by decide⟩
  have queues := run bothArmed .handler 2 reads
  have handled := Interleaved.leave queuedLast Party.handler (.ok ()) _ queues rfl rfl
  have deletes := enter _ .remover 1 pac193xRemove _ handled rfl ⟨⟨rfl, rfl, rfl⟩, by rintro _ ⟨⟩⟩
  have works := enter deleting .work 40 (ofDriver workPeriodicRfsh) _ deletes rfl ⟨⟨rfl, rfl, rfl⟩, by rintro _ ⟨⟩⟩
  have ends := run refreshed (.reader 0) 40 works
  have left := Interleaved.leave readerEnded (Party.reader 0) (.ok ()) _ ends rfl rfl
  have worked := Interleaved.leave _ Party.work (.ok ()) _ left rfl rfl
  have cancels := run _ .remover 1 worked
  have frees := Interleaved.act cancelling .remover .kfreeChannels (fun _ => .done ()) () _ cancels rfl ⟨?_, rfl⟩
  · exact Interleaved.leave _ Party.remover (.ok ()) _ frees rfl rfl
  · intro n
    cases n with
    | zero => rfl
    | succ n => rfl

theorem quiet_end_removed : Removed quietEnd := by
  refine ⟨rfl, rfl, fun n => ?_, fun n => rfl⟩
  cases n with
  | zero => rfl
  | succ n => rfl

section Removal

variable (phys_channels hz : Nat)

-- In every interleaving of such steps nothing is left running.
theorem careful_removal_quiet (origin : Removing) (pool : RemovalPool) (attached : origin.Attached)
    (run : Interleaved (carefulCrew phys_channels hz) origin pool) (removed : Removed pool) : NothingRuns pool := by
  have begins : origin.Quiet := by
    constructor
    · intro detached
      exact absurd attached.stage detached
    · intro later
      rw [attached.stage] at later
      cases later with
      | inl impossible => cases impossible
      | inr impossible => cases impossible
    · exact fun _ => attached.outside
    · exact attached.unused
  have kept := interleaved_kept (carefulCrew phys_channels hz) Removing.Quiet RemovalRelied origin begins ?_
    (removal_enters_quiet phys_channels hz) pool run
  · have quiet := kept.invariant
    obtain ⟨timer, handled⟩ := quiet.timer (by simp [removed.freed])
    obtain ⟨queued, worked⟩ := quiet.work (.inr removed.freed)
    refine ⟨timer, queued, ?_, ?_, quiet.unused⟩
    · cases inside : pool.threads .handler with
      | none => rfl
      | some program =>
          have marked := threads_marked phys_channels hz .handler origin pool program run inside
          rw [Removing.Marked, handled] at marked
          cases marked
    · cases inside : pool.threads .work with
      | none => rfl
      | some program =>
          have marked := threads_marked phys_channels hz .work origin pool program run inside
          rw [Removing.Marked, worked] at marked
          cases marked
  · intro s t quiet drifted
    obtain ⟨later, _, rfl⟩ := drifted
    exact ⟨⟨quiet.timer, quiet.work, quiet.channels, quiet.unused⟩, fun _ => ⟨fun _ => rfl, fun _ => rfl, fun _ _ => rfl, fun _ => rfl⟩⟩

end Removal

theorem careful_removal_quiet_bound : NothingRuns quietEnd :=
  careful_removal_quiet 1 100 bound quietEnd bound_attached quiet_end_run quiet_end_removed

-- A reader that stops before its mod_timer while the removal goes through.
def overtaken : RemovalPool :=
  let rereading := RemovalPool.run removalAble (Pool.move ⟨bound, fun _ => none⟩ (.reader 0) (some channelReading) bound.entering)
    (.reader 0) 12
  RemovalPool.run removalAble (rereading.move .remover (some pac193xRemove) rereading.state) .remover 3

def readOn : RemovalPool := RemovalPool.run removalAble (overtaken.move .remover none overtaken.state) (.reader 0) 20

def leftBehind : RemovalPool := readOn.move (.reader 0) none readOn.state.leaving

theorem left_behind_run : Interleaved (removalCrew 1 100) bound leftBehind := by
  have obeys (name : Party) (s : Removing) (cmd : RemovalCmd) (able : removalAble s cmd = true) :
      ((removalCrew 1 100).acts name).reply s cmd (removalHandler s cmd).1 (removalHandler s cmd).2 :=
    removal_handler_obeys s cmd able
  have reads := removal_entered removalAble obeys _ (.reader 0) 12 channelReading _ .start rfl (.inl ⟨_, _, rfl, rfl⟩)
  have removes := removal_entered removalAble obeys _ .remover 3 pac193xRemove _ reads rfl ⟨rfl, rfl, rfl⟩
  have returned := Interleaved.leave overtaken Party.remover (.ok ()) _ removes rfl rfl
  have arms := removal_run removalAble obeys _ (.reader 0) 20 returned
  exact Interleaved.leave readOn (Party.reader 0) (.ok ()) _ arms rfl rfl

theorem left_behind_removed : Removed leftBehind := by
  refine ⟨rfl, rfl, fun n => ?_, fun n => rfl⟩
  cases n with
  | zero => rfl
  | succ n => rfl

-- A reader that is past the polling check arms the timer of the removed driver.
theorem late_reader_arms_timer :
    ¬ ∀ (phys_channels hz : Nat) (origin : Removing) (pool : RemovalPool), origin.Attached →
      Interleaved (removalCrew phys_channels hz) origin pool → Removed pool → NothingRuns pool := by
  intro quiet
  have timer := (quiet 1 100 bound leftBehind bound_attached left_behind_run left_behind_removed).timer
  cases timer

end SummitSom.Pac193x
