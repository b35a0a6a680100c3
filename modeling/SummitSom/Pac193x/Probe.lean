import SummitSom.Interact.Calls
import SummitSom.Pac193x.DeviceTree
import SummitSom.Pac193x.Removal

set_option autoImplicit false

namespace SummitSom.Pac193x

open Interact

-- The commands of the driver and of its removal, and those of probe alone. A
-- read into a buffer of probe answers the status and the bytes.
inductive ProbeCmd where
  | removal (cmd : RemovalCmd)
  | devmAlloc
  | readInto (reg : UInt8) (len : Nat)
  | load (setup : Setup)
  | mutexInit
  | initWork
  | timerSetup
  | kzalloc
  | kmemdup
  | kfree
  | register

abbrev ProbeCmd.Reply : ProbeCmd → Type
  | .removal cmd => cmd.Reply
  | .devmAlloc | .kzalloc | .kmemdup => Bool
  | .readInto _ _ => Int × Bytes
  | .register => Int
  | _ => Unit

abbrev ProbeAct (A : Type) := Prog ProbeCmd ProbeCmd.Reply Fault A

def ofRemoval {A : Type} (act : RemovalAct A) : ProbeAct A := act.within (T := ProbeCmd.Reply) .removal

def pidRegAddr : UInt8 := 0xFD
def ctrlStatusInfoLen : Nat := 12
def ctrlActRegOff : Nat := 3

def CHANNEL_DIS_REG (on : Nat → Bool) (smb_tout bycount skip : Nat) : UInt8 :=
  UInt8.ofNat ((if on 0 then 0 else 0x80) ||| (if on 1 then 0 else 0x40) ||| (if on 2 then 0 else 0x20) |||
    (if on 3 then 0 else 0x10) ||| ((smb_tout &&& 0x01) <<< 3) ||| ((bycount &&& 0x01) <<< 2) |||
    (if skip = 0 then 0x02 else 0))

-- The bits for the direction of the voltages stay 0.
def NEG_PWR_REG (bidi : Nat → Bool) : UInt8 :=
  UInt8.ofNat ((if bidi 0 then 0x80 else 0) ||| (if bidi 1 then 0x40 else 0) ||| (if bidi 2 then 0x20 else 0) |||
    (if bidi 3 then 0x10 else 0))

def chipIdentify (prod_id : UInt8) : ProbeAct Int :=
  .call (.readInto pidRegAddr 3) fun (ret, chip_rev_info) =>
    if ret < 0 then .done ret else if chip_rev_info.getD 0 0 ≠ prod_id then .done (-EINVAL) else .done 0

def setupPeriodicRefresh (hz : Nat) : ProbeAct Int :=
  .call .initWork fun _ => .call .timerSetup fun _ => .call (.removal (.driver .jiffies)) fun now =>
    .call (.removal (.driver (.modTimer (Jiffies.add now (msecsToJiffies hz maxRfshLimit))))) fun _ => .done 0

def configureWait (regs : Bytes) : Nat := 1024 / samp_rate_map_tbl.getD (byteAt regs ctrlActRegOff >>> 6) 0 * 1000

def startRefresh (hz : Nat) (regs : Bytes) : ProbeAct Int := do
  let ret ← ofRemoval (ofDriver (i2cSendByte refreshReg))
  if ret < 0 then pure ret else
    .call (.removal (.driver (.usleepRange (configureWait regs) (configureWait regs + 100)))) fun _ =>
      setupPeriodicRefresh hz

def enableAlert (hz : Nat) (regs : Bytes) : ProbeAct Int :=
  .call (.removal (.driver .speedCode)) fun code => do
    let ret ← ofRemoval (ofDriver (i2cWriteByte ctrlReg (CTRL_REG code 0 0 1 0 0)))
    if ret < 0 then pure ret else startRefresh hz regs

def chipConfigure (hz : Nat) (setup : Setup) : ProbeAct Int :=
  .call (.readInto ctrlStatRegsAddr ctrlStatusInfoLen) fun (ret, regs) =>
    if ret < 0 then .done ret else do
      let ret ← ofRemoval (ofDriver
        (i2cWrite ctrlStatRegsAddr [CHANNEL_DIS_REG setup.active_channels 0 0 1, NEG_PWR_REG setup.bi_dir, 0]))
      if ret < 0 then pure ret else enableAlert hz regs

-- The fallible part of pac193x_prep_iio_channels.
def prepChannels : ProbeAct Int :=
  .call .kzalloc fun allocated =>
    if allocated = false then .done (-EINVAL) else
      .call .kmemdup fun duplicated =>
        if duplicated = false then .done (-EINVAL) else .call .kfree fun _ => .done 0

def removeFailed (ret : Int) : ProbeAct Int := do
  ofRemoval pac193xRemove
  pure ret

-- What probe does once it has its settings. The results of configuring the
-- chip and of the first snapshot are overwritten.
def bringUp (hz : Nat) (setup : Setup) : ProbeAct Int :=
  .call (.load setup) fun _ => .call .mutexInit fun _ => do
    let _ ← chipConfigure hz setup
    let ret ← prepChannels
    if ret < 0 then removeFailed ret else do
      let _ ← ofRemoval (ofDriver (regSnapshot true false minUpdateWaitTime))
      .call .register fun ret => if ret < 0 then removeFailed ret else .done ret

def pac193xProbe (phys_channels hz : Nat) (prod_id : UInt8) (of_node : Option DeviceNode) : ProbeAct Int :=
  .call .devmAlloc fun allocated =>
    if allocated = false then .done (-ENOMEM) else do
      let ret ← chipIdentify prod_id
      if ret < 0 then pure (-EINVAL) else
        match of_node with
        | none => pure (-EINVAL)
        | some node =>
            if node.children = [] then pure (-EINVAL) else
              match matchOfDevice phys_channels node with
              | none => pure (-EINVAL)
              | some setup => bringUp hz setup

-- How each fallible call ends; register is the error code, 0 for none.
structure Pattern where
  alloc : Bool
  identify : Int
  chip_rev_info : Bytes
  readRegs : Int
  regs : Bytes
  channels : Int
  ctrl : Int
  refresh : Int
  kzalloc : Bool
  kmemdup : Bool
  snapshotRefresh : Int
  block : Block → Int
  register : Nat

def Pattern.write (p : Pattern) (locked : Bool) (reg : UInt8) : Int :=
  if reg = ctrlStatRegsAddr then p.channels else if reg = ctrlReg then p.ctrl
  else if locked then p.snapshotRefresh else p.refresh

def Pattern.info (p : Pattern) (reg : UInt8) : Int × Bytes :=
  if reg = pidRegAddr then (p.identify, p.chip_rev_info) else (p.readRegs, p.regs)

def Pattern.identifies (p : Pattern) (prod_id : UInt8) : Prop := 0 ≤ p.identify ∧ p.chip_rev_info.getD 0 0 = prod_id

instance (p : Pattern) (prod_id : UInt8) : Decidable (p.identifies prod_id) :=
  inferInstanceAs (Decidable (_ ∧ _))

def Pattern.configures (p : Pattern) : Prop := 0 ≤ p.readRegs ∧ 0 ≤ p.channels ∧ 0 ≤ p.ctrl ∧ 0 ≤ p.refresh

def Pattern.prepares (p : Pattern) : Prop := p.kzalloc = true ∧ p.kmemdup = true

def Pattern.snapshots (p : Pattern) : Prop := 0 ≤ p.snapshotRefresh ∧ 0 ≤ p.block .ctrl_regs ∧ 0 ≤ p.block .meas_regs

instance (p : Pattern) : Decidable p.prepares := inferInstanceAs (Decidable (_ ∧ _))

instance (p : Pattern) : Decidable p.snapshots := inferInstanceAs (Decidable (_ ∧ _))

structure Probing where
  driver : Driver
  workReady : Bool
  timerReady : Bool
  misused : Bool

-- Nothing is scheduled.
structure Probing.Idle (s : Probing) : Prop where
  timer : s.driver.timer = none
  queued : s.driver.queued = false

-- What goes on beside probe: time passes, a timer that is due arms itself again
-- and queues the work, and queued work takes its snapshot.
inductive Ambient : Probing → Probing → Prop where
  | passes (s : Probing) (later : Int) (onwards : s.driver.now ≤ later) :
      Ambient s { s with driver := { s.driver with now := later } }
  | expires (s : Probing) (expires next : Int) (pending : s.driver.timer = some expires) (due : expires ≤ s.driver.now) :
      Ambient s { s with driver := { s.driver with timer := some next, queued := true } }
  | works (s : Probing) (later tstamp : Int) (data : RegData) (queued : s.driver.queued = true)
      (unlocked : s.driver.locked = false) (onwards : s.driver.now ≤ later) :
      Ambient s { s with driver := { s.driver with now := later, tstamp := tstamp, data := data, queued := false } }

def Setup.loaded (setup : Setup) (driver : Driver) : Driver :=
  { driver with
    data := { clearedData with bi_dir := setup.bi_dir }
    sample_rate_value := setup.sample_rate_value
    crt_samp_speed_bitfield := setup.crt_samp_speed_bitfield
    shunts := setup.shunts }

def Pattern.gives (p : Pattern) (locked : Bool) : (cmd : Cmd Int) → cmd.Reply → Prop
  | .write reg _, ret => ret = p.write locked reg
  | .read block _ _, ret => ret = p.block block
  | _, _ => True

def probeReply (phys_channels : Nat) (p : Pattern) (s : Probing) : (cmd : ProbeCmd) → cmd.Reply → Probing → Prop
  | .removal (.driver cmd), answer, t =>
      p.gives s.driver.locked cmd answer ∧
        ∃ driver, driverReply phys_channels s.driver cmd answer driver ∧ t = { s with driver := driver }
  | .removal .delTimerSync, _, t =>
      t = { s with driver := { s.driver with timer := none }, misused := s.misused || !s.timerReady }
  | .removal .cancelWorkSync, _, t =>
      t = { s with driver := { s.driver with queued := false }, misused := s.misused || !s.workReady }
  | .devmAlloc, allocated, t => allocated = p.alloc ∧ t = s
  | .readInto reg _, answer, t => answer = p.info reg ∧ t = s
  | .load setup, _, t => t = { s with driver := setup.loaded s.driver }
  | .mutexInit, _, t => t = { s with driver := { s.driver with locked := false } }
  | .initWork, _, t => t = { s with workReady := true }
  | .timerSetup, _, t => t = { s with timerReady := true }
  | .kzalloc, allocated, t => allocated = p.kzalloc ∧ t = s
  | .kmemdup, duplicated, t => duplicated = p.kmemdup ∧ t = s
  | .register, ret, t => ret = -(p.register : Int) ∧ t = s
  | _, _, t => t = s

inductive ProbeStep where
  | identified
  | channels
  | ctrl
  | refresh
  | timer
  | snapshot
  | registered
deriving DecidableEq

-- What a command has got done.
def achieved (prod_id : UInt8) (locked : Bool) : (cmd : ProbeCmd) → cmd.Reply → List ProbeStep
  | .removal (.driver (.write reg _)), ret =>
      if ret < 0 then [] else if reg = ctrlStatRegsAddr then [.channels] else if reg = ctrlReg then [.ctrl]
      else if locked then [] else [.refresh]
  | .removal (.driver .decode), _ => [.snapshot]
  | .removal (.driver (.modTimer _)), _ => [.timer]
  | .readInto reg _, (ret, bytes) => if reg = pidRegAddr ∧ 0 ≤ ret ∧ bytes.getD 0 0 = prod_id then [.identified] else []
  | .register, ret => if ret = 0 then [.registered] else []
  | _, _ => []

def probeWorld (phys_channels : Nat) (prod_id : UInt8) (p : Pattern) :
    World ProbeCmd ProbeCmd.Reply (Probing × List ProbeStep) :=
  (⟨fun s _ t => Relation.ReflTransGen Ambient s t,
    fun s cmd answer t => ∃ u, Relation.ReflTransGen Ambient s u ∧ probeReply phys_channels p u cmd answer t⟩ :
      World ProbeCmd ProbeCmd.Reply Probing).watched
    fun done cmd answer t => done ++ achieved prod_id t.driver.locked cmd answer

end SummitSom.Pac193x
