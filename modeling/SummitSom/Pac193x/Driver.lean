import SummitSom.Interact.Program
import SummitSom.Pac193x.Registers

set_option autoImplicit false

namespace SummitSom.Pac193x

open Interact

-- The kernel's tick counter and its comparison time_after.
class Jiffies (J : Type) where
  add : J → Nat → J
  sub : J → Nat → J
  after : J → J → Bool

instance : Jiffies Int where
  add time ticks := time + ticks
  sub time ticks := time - ticks
  after time other := decide (other < time)

theorem after_add (now tstamp : Int) (ticks : Nat) : Jiffies.after now (Jiffies.add tstamp ticks) = true ↔ tstamp + ticks < now :=
  decide_eq_true_iff

inductive Block where
  | ctrl_regs
  | meas_regs
deriving DecidableEq

inductive Field where
  | vbus
  | vsense
  | vpower
  | vbus_avg
  | vsense_avg
  | energy_sec_acc
deriving DecidableEq

-- The statements of the driver that touch what it shares with the chip, the
-- kernel or other threads.
inductive Cmd (J : Type) where
  | jiffies
  | tstamp
  | setTstamp (time : J)
  | lock
  | unlock
  | write (reg : UInt8) (data : Bytes)
  | read (block : Block) (reg : UInt8) (len : Nat)
  | usleepRange (low high : Nat)
  | decode
  | modTimer (expires : J)
  | queueWork
  | field (source : Field) (channel : Nat)
  | shunt (channel : Nat)
  | sampleRate
  | setSampleRate (rate : Nat)
  | speedCode
  | setSpeedCode (code : Nat)
  | bufferEnabled

abbrev Cmd.Reply {J : Type} : Cmd J → Type
  | .jiffies | .tstamp => J
  | .write _ _ | .read _ _ _ | .modTimer _ | .field _ _ => Int
  | .queueWork | .bufferEnabled => Bool
  | .shunt _ | .sampleRate | .speedCode => Nat
  | _ => Unit

inductive Fault where
  | divideByZero

abbrev Act (J A : Type) := Prog (Cmd J) Cmd.Reply Fault A

abbrev exec {J : Type} (cmd : Cmd J) : Act J cmd.Reply := issue cmd

def maxRfshLimit : Nat := 60000
def minPollingTime : Nat := 50
def minUpdateWaitTime : Nat := 1000
def refreshReg : UInt8 := 0x00
def ctrlReg : UInt8 := 0x01
def accCountReg : UInt8 := 0x02
def ctrlStatRegsAddr : UInt8 := 0x1C
def refreshVReg : UInt8 := 0x1F
def EBUSY : Int := 16
def EINVAL : Int := 22
def ENOMEM : Int := 12

def CTRL_REG (samp sleep sing al_p al_cc ovf_al : Nat) : UInt8 :=
  UInt8.ofNat (((samp &&& 0x03) <<< 6) ||| ((sleep &&& 0x01) <<< 5) ||| ((sing &&& 0x01) <<< 4) |||
    ((al_p &&& 0x01) <<< 3) ||| ((al_cc &&& 0x01) <<< 2) ||| ((ovf_al &&& 0x01) <<< 1))

section Functions

variable {J : Type}

def i2cRead (block : Block) (reg_addr : UInt8) (len : Nat) : Act J Int := do
  let ret ← exec (.read block reg_addr len)
  pure (if ret < 0 then ret else 0)

def i2cTransfer (reg_addr : UInt8) (data : Bytes) : Act J Int := do
  let ret ← exec (.write reg_addr data)
  pure (if ret < 0 then ret else 0)

def i2cWrite (reg_addr : UInt8) (data : Bytes) : Act J Int :=
  if 16 ≤ data.length then pure (-ENOMEM) else i2cTransfer reg_addr data

def i2cWriteByte (reg_addr : UInt8) (val : UInt8) : Act J Int := i2cWrite reg_addr [val]

def i2cSendByte (reg_addr : UInt8) : Act J Int := i2cWrite reg_addr []

def rfshSent (wait_time : Nat) : Act J Unit := do
  let now ← exec .jiffies
  exec (.setTstamp now)
  exec (.usleepRange wait_time (wait_time + 100))

def sendRfsh (refresh_v : Bool) (wait_time : Nat) : Act J Int := do
  let ret ← i2cSendByte (if refresh_v then refreshVReg else refreshReg)
  if ret < 0 then pure ret else do
    rfshSent wait_time
    pure ret

theorem send_rfsh_eq (wait_time : Nat) :
    (sendRfsh false wait_time : Act J Int) = .call (.write refreshReg []) fun ret =>
      if (if ret < 0 then ret else 0) < 0 then .done (if ret < 0 then ret else 0)
      else rfshSent wait_time >>= fun _ => .done (if ret < 0 then ret else 0) := rfl

def readBlocks : Act J Int := do
  let ret ← i2cRead .ctrl_regs ctrlStatRegsAddr ctrlRegSnapshotLen
  if ret < 0 then pure ret else do
    let ret ← i2cRead .meas_regs accCountReg measRegSnapshotLen
    if ret < 0 then pure ret else do
      exec .decode
      pure ret

theorem read_blocks_eq :
    (readBlocks : Act J Int) = .call (.read .ctrl_regs ctrlStatRegsAddr ctrlRegSnapshotLen) fun ret =>
      if (if ret < 0 then ret else 0) < 0 then .done (if ret < 0 then ret else 0)
      else .call (.read .meas_regs accCountReg measRegSnapshotLen) fun ret =>
        if (if ret < 0 then ret else 0) < 0 then .done (if ret < 0 then ret else 0)
        else .call .decode fun _ => .done (if ret < 0 then ret else 0) := rfl

def regSnapshot (do_rfsh refresh_v : Bool) (wait_time : Nat) : Act J Int := do
  exec .lock
  let ret ← (if do_rfsh then sendRfsh refresh_v wait_time else pure 0)
  let ret ← (if ret < 0 then pure ret else readBlocks)
  exec .unlock
  pure ret

def workPeriodicRfsh : Act J Unit := do
  let _ ← regSnapshot true false minUpdateWaitTime
  pure ()

def divide (number divisor : Nat) : Act J Nat :=
  if divisor = 0 then .stop .divideByZero else pure (number / divisor)

def matchSampRate (new_samp_rate : Nat) : Act J Nat :=
  match samp_rate_map_tbl.findIdx? (fun samp_rate => new_samp_rate == samp_rate) with
  | some cnt => do
      exec (.setSpeedCode cnt)
      pure 0
  | none => pure samp_rate_map_tbl.length

end Functions

-- The parts of iio_chan_spec that the driver looks at.
inductive ChanType where
  | voltage
  | current
  | power
  | energy
  | timestamp
deriving DecidableEq

structure ChanSpec where
  type : ChanType
  address : Nat
  channel : Nat
  sign : Char

inductive Mask where
  | raw
  | average_raw
  | scale
  | processed
  | samp_freq
  | other (code : Nat)
deriving DecidableEq

structure Reading where
  ret : Int
  val : Option Int
  val2 : Option Int
deriving DecidableEq

def IIO_VAL_INT : Int := 1
def IIO_VAL_FRACTIONAL_LOG2 : Int := 11

def isOneOf (first address : Nat) : Bool := first ≤ address && address < first + 4

def vpowerAccAddr : Nat := 0x03
def vbusAddr : Nat := 0x07
def vsenseAddr : Nat := 0x0B
def vbusAvgAddr : Nat := 0x0F
def vsenseAvgAddr : Nat := 0x13
def vpowerAddr : Nat := 0x17

section Requests

variable {J : Type}

def failed (code : Int) : Reading := ⟨-code, none, none⟩

def readField (source : Field) (chan : ChanSpec) : Act J Reading := do
  let val ← exec (.field source chan.channel)
  pure ⟨IIO_VAL_INT, some val, none⟩

def readRawData (chan : ChanSpec) : Act J Reading :=
  match chan.type with
  | .voltage => if isOneOf vbusAddr chan.address then readField .vbus chan else pure (failed EINVAL)
  | .current => if isOneOf vsenseAddr chan.address then readField .vsense chan else pure (failed EINVAL)
  | .power => if isOneOf vpowerAddr chan.address then readField .vpower chan else pure (failed EINVAL)
  | _ => pure (failed EINVAL)

def readEnergy (chan : ChanSpec) : Act J Reading := do
  let energy ← exec (.field .energy_sec_acc chan.channel)
  pure ⟨IIO_VAL_INT, some (wrap 32 (energy >>> (32 : Nat))), none⟩

def readAverageRaw (chan : ChanSpec) : Act J Reading :=
  match chan.type with
  | .voltage => if isOneOf vbusAvgAddr chan.address then readField .vbus_avg chan else pure (failed EINVAL)
  | .current => if isOneOf vsenseAvgAddr chan.address then readField .vsense_avg chan else pure (failed EINVAL)
  | .energy => if isOneOf vpowerAccAddr chan.address then readEnergy chan else pure (failed EINVAL)
  | _ => pure (failed EINVAL)

def scaled (chan : ChanSpec) (val : Int) (unsignedRes signedRes : Int) : Reading :=
  ⟨IIO_VAL_FRACTIONAL_LOG2, some val, some (if chan.sign = 'u' then unsignedRes else signedRes)⟩

def readScale (chan : ChanSpec) : Act J Reading :=
  if isOneOf vbusAddr chan.address || isOneOf vbusAvgAddr chan.address then pure (scaled chan 32000 16 15)
  else if isOneOf vsenseAddr chan.address || isOneOf vsenseAvgAddr chan.address then do
    let shunt ← exec (.shunt chan.channel)
    let tmp ← divide (100 * 1000000) shunt
    pure (scaled chan (wrap 32 tmp) 16 15)
  else if isOneOf vpowerAddr chan.address then do
    let shunt ← exec (.shunt chan.channel)
    let tmp ← divide (10000 * 32000) shunt
    pure (scaled chan (wrap 32 (100 * 100 * tmp % 2 ^ 32 : Nat)) 28 27)
  else if isOneOf vpowerAccAddr chan.address then do
    let shunt ← exec (.shunt chan.channel)
    let tmp ← divide (100 * 32000) shunt
    pure (scaled chan (wrap 32 tmp) (48 - 32) (47 - 32))
  else pure (failed EINVAL)

def readProcessed (chan : ChanSpec) : Act J Reading :=
  if isOneOf vbusAddr chan.address then do
    let val ← exec (.field .vbus_avg chan.channel)
    pure (scaled chan (wrap 32 (val * 32000)) 16 15)
  else if isOneOf vsenseAddr chan.address then do
    let val ← exec (.field .vsense_avg chan.channel)
    let shunt ← exec (.shunt chan.channel)
    let tmp ← divide (100 * 1000000) shunt
    pure (scaled chan (wrap 32 (val * wrap 32 tmp)) 16 15)
  else pure (failed EINVAL)

def readSampFreq : Act J Reading := do
  let rate ← exec .sampleRate
  pure ⟨IIO_VAL_INT, some (wrap 32 rate), none⟩

def readData (chan : ChanSpec) : Mask → Act J Reading
  | .raw => readRawData chan
  | .average_raw => readAverageRaw chan
  | .scale => readScale chan
  | .processed => readProcessed chan
  | .samp_freq => readSampFreq
  | .other _ => pure (failed EINVAL)

end Requests

def Mask.data : Mask → Bool
  | .raw | .average_raw | .processed => true
  | _ => false

def served (chan : ChanSpec) : Mask → Bool
  | .raw =>
      match chan.type with
      | .voltage => isOneOf vbusAddr chan.address
      | .current => isOneOf vsenseAddr chan.address
      | .power => isOneOf vpowerAddr chan.address
      | _ => false
  | .average_raw =>
      match chan.type with
      | .voltage => isOneOf vbusAvgAddr chan.address
      | .current => isOneOf vsenseAvgAddr chan.address
      | .energy => isOneOf vpowerAccAddr chan.address
      | _ => false
  | .processed => isOneOf vbusAddr chan.address || isOneOf vsenseAddr chan.address
  | _ => false

def Loads : Cmd Int → Prop
  | .shunt _ | .sampleRate => True
  | _ => False

theorem divided_loads (number divisor : Nat) (rest : Nat → Act Int Reading) (only : ∀ tmp, Only Loads (rest tmp)) :
    Only Loads (divide number divisor >>= rest) := by
  refine only_bind _ _ _ ?_ only
  unfold divide
  split <;> trivial

def HandsOut (act : Act Int Reading) : Prop :=
  ∃ source channel rest, act = .call (.field source channel) rest ∧ ∀ value, Only Loads (rest value)

theorem read_field_hands_out (source : Field) (chan : ChanSpec) : HandsOut (readField source chan) :=
  ⟨source, chan.channel, _, rfl, fun _ => trivial⟩

theorem read_energy_hands_out (chan : ChanSpec) : HandsOut (readEnergy chan) :=
  ⟨.energy_sec_acc, chan.channel, _, rfl, fun _ => trivial⟩

-- A request for data either hands out one value of the snapshot or is refused.
def Split (fits : Bool) (act : Act Int Reading) : Prop :=
  (fits = true ∧ HandsOut act) ∨ act = .done (failed EINVAL)

theorem split_if (fits : Bool) (act : Act Int Reading) (handsOut : HandsOut act) :
    Split fits (if fits = true then act else pure (failed EINVAL)) := by
  cases fits with
  | true => exact .inl ⟨rfl, handsOut⟩
  | false => exact .inr rfl

theorem read_data_split (chan : ChanSpec) (mask : Mask) (data : mask.data = true) :
    Split (served chan mask) (readData chan mask) := by
  cases mask with
  | raw =>
      simp only [readData, readRawData, served]
      cases chan.type with
      | voltage => exact split_if _ _ (read_field_hands_out .vbus chan)
      | current => exact split_if _ _ (read_field_hands_out .vsense chan)
      | power => exact split_if _ _ (read_field_hands_out .vpower chan)
      | _ => exact .inr rfl
  | average_raw =>
      simp only [readData, readAverageRaw, served]
      cases chan.type with
      | voltage => exact split_if _ _ (read_field_hands_out .vbus_avg chan)
      | current => exact split_if _ _ (read_field_hands_out .vsense_avg chan)
      | energy => exact split_if _ _ (read_energy_hands_out chan)
      | _ => exact .inr rfl
  | processed =>
      simp only [readData, readProcessed, served]
      by_cases voltage : isOneOf vbusAddr chan.address = true
      · rw [if_pos voltage]
        exact .inl ⟨by rw [voltage]; rfl, .vbus_avg, chan.channel, _, rfl, fun _ => trivial⟩
      · rw [if_neg voltage]
        by_cases current : isOneOf vsenseAddr chan.address = true
        · rw [if_pos current]
          simp only [issue_bind]
          refine .inl ⟨by rw [current, Bool.or_true], .vsense_avg, chan.channel, _, rfl, fun value => ⟨trivial, fun shunt => ?_⟩⟩
          exact divided_loads _ _ _ fun _ => trivial
        · rw [if_neg current]
          exact .inr rfl
  | _ => cases data

theorem read_scale_loads (chan : ChanSpec) : Only Loads (readScale chan : Act Int Reading) := by
  have loads (number : Nat) (rest : Nat → Act Int Reading) (only : ∀ tmp, Only Loads (rest tmp)) :
      Only Loads (.call (.shunt chan.channel) fun shunt => divide number shunt >>= rest) :=
    ⟨trivial, fun shunt => divided_loads number shunt rest only⟩
  simp only [readScale, issue_bind]
  split
  · trivial
  · split
    · exact loads _ _ fun _ => trivial
    · split
      · exact loads _ _ fun _ => trivial
      · split
        · exact loads _ _ fun _ => trivial
        · trivial

theorem read_data_loads (chan : ChanSpec) (mask : Mask) (other : mask.data = false) :
    Only Loads (readData chan mask : Act Int Reading) := by
  cases mask with
  | scale => exact read_scale_loads chan
  | samp_freq => exact ⟨trivial, fun _ => trivial⟩
  | other code => trivial
  | _ => cases other

-- msecs_to_jiffies, which rounds up.
def msecsToJiffies (hz msecs : Nat) : Nat := (msecs * hz + 999) / 1000

section Times

variable {J : Type} [Jiffies J] (hz : Nat)

def readRegTimeout : Act J Unit := do
  let now ← exec .jiffies
  let _ ← exec (.modTimer (Jiffies.add now (msecsToJiffies hz maxRfshLimit)))
  let _ ← exec .queueWork
  pure ()

-- The body of the if of pac193x_retrieve_data.
def rereadChip (wait_time : Nat) : Act J Int := do
  let _ ← regSnapshot true false wait_time
  let tstamp ← exec .tstamp
  exec (.modTimer (Jiffies.add tstamp (msecsToJiffies hz maxRfshLimit)))

def retrieveData (wait_time : Nat) : Act J Int := do
  let now ← exec .jiffies
  let tstamp ← exec .tstamp
  if Jiffies.after now (Jiffies.add tstamp (msecsToJiffies hz minPollingTime)) then rereadChip hz wait_time else pure 0

def readRaw (chan : ChanSpec) (mask : Mask) : Act J Reading := do
  let ret ← retrieveData hz minUpdateWaitTime
  if ret < 0 then pure ⟨ret, none, none⟩ else readData chan mask

-- The forced snapshot at the end of pac193x_write_raw.
def forceSnapshot (old_samp_rate : Nat) : Act J Int := do
  let tstamp ← exec .tstamp
  exec (.setTstamp (Jiffies.sub tstamp (msecsToJiffies hz minPollingTime)))
  let ratio ← divide 1024 old_samp_rate
  let ret ← retrieveData hz (ratio * 1000)
  pure (if ret < 0 then ret else 0)

def writeSampRate (val : Nat) : Act J Int := do
  let old_samp_rate ← exec .sampleRate
  exec (.setSampleRate val)
  exec .lock
  let code ← exec .speedCode
  let ret ← i2cWriteByte ctrlReg (CTRL_REG code 0 0 1 0 0)
  exec .unlock
  if ret < 0 then pure ret else forceSnapshot hz old_samp_rate

-- The value is cast to 16 bits.
def writeSampFreq (val : Int) : Act J Int := do
  let unmatched ← matchSampRate (val % 65536).toNat
  if unmatched ≠ 0 then pure (-EINVAL) else writeSampRate hz (val % 65536).toNat

def writeRaw (val : Int) (mask : Mask) : Act J Int := do
  let enabled ← exec .bufferEnabled
  if enabled then pure (-EBUSY) else
    match mask with
    | .samp_freq => writeSampFreq hz val
    | _ => pure (-EINVAL)

end Times

structure Driver where
  now : Int
  tstamp : Int
  timer : Option Int
  queued : Bool
  locked : Bool
  data : RegData
  sample_rate_value : Nat
  crt_samp_speed_bitfield : Nat
  shunts : Nat → Nat

def Field.of (data : RegData) : Field → Nat → Int
  | .vbus => data.vbus
  | .vsense => data.vsense
  | .vpower => data.vpower
  | .vbus_avg => data.vbus_avg
  | .vsense_avg => data.vsense_avg
  | .energy_sec_acc => data.energy_sec_acc

def RegData.setBlock (data : RegData) (block : Block) (bytes : Bytes) : RegData :=
  match block with
  | .ctrl_regs => { data with ctrl_regs := bytes }
  | .meas_regs => { data with meas_regs := bytes }

-- A transfer takes time and can fail; a failed read can leave anything in its
-- buffer. mod_timer answers whether the timer was pending, queue_work whether
-- the work was not queued yet.
def driverReply (phys_channels : Nat) (s : Driver) : (cmd : Cmd Int) → cmd.Reply → Driver → Prop
  | .jiffies, answer, t => answer = s.now ∧ t = s
  | .tstamp, answer, t => answer = s.tstamp ∧ t = s
  | .setTstamp time, _, t => t = { s with tstamp := time }
  | .lock, _, t => s.locked = false ∧ t = { s with locked := true }
  | .unlock, _, t => t = { s with locked := false }
  | .write _ _, _, t => ∃ later, s.now ≤ later ∧ t = { s with now := later }
  | .read block _ _, _, t => ∃ later bytes, s.now ≤ later ∧ t = { s with now := later, data := s.data.setBlock block bytes }
  | .usleepRange _ _, _, t => ∃ later, s.now ≤ later ∧ t = { s with now := later }
  | .decode, _, t => t = { s with data := decode phys_channels s.data }
  | .modTimer expires, answer, t => answer = (if s.timer.isSome then 1 else 0) ∧ t = { s with timer := some expires }
  | .queueWork, answer, t => answer = !s.queued ∧ t = { s with queued := true }
  | .field source channel, answer, t => answer = source.of s.data channel ∧ t = s
  | .shunt channel, answer, t => answer = s.shunts channel ∧ t = s
  | .sampleRate, answer, t => answer = s.sample_rate_value ∧ t = s
  | .setSampleRate rate, _, t => t = { s with sample_rate_value := rate }
  | .speedCode, answer, t => answer = s.crt_samp_speed_bitfield ∧ t = s
  | .setSpeedCode code, _, t => t = { s with crt_samp_speed_bitfield := code }
  | .bufferEnabled, _, t => t = s

def driverWorld (phys_channels : Nat) : World (Cmd Int) Cmd.Reply Driver where
  midst s _ t := t = s
  reply := driverReply phys_channels

-- What any command leaves alone unless it is the one to change it.
structure Spared (s t : Driver) (cmd : Cmd Int) : Prop where
  clock : s.now ≤ t.now
  shunts : t.shunts = s.shunts
  rate : t.sample_rate_value = s.sample_rate_value ∨ cmd = .setSampleRate t.sample_rate_value
  tstamp : t.tstamp = s.tstamp ∨ cmd = .setTstamp t.tstamp
  timer : t.timer = s.timer ∨ ∃ expires, cmd = .modTimer expires
  queued : t.queued = s.queued ∨ cmd = .queueWork

theorem reply_spares (phys_channels : Nat) (s t : Driver) (cmd : Cmd Int) (answer : cmd.Reply)
    (reply : driverReply phys_channels s cmd answer t) : Spared s t cmd := by
  cases cmd with
  | write reg data =>
      rcases reply with ⟨later, onwards, rfl⟩
      exact ⟨onwards, rfl, .inl rfl, .inl rfl, .inl rfl, .inl rfl⟩
  | read block reg len =>
      rcases reply with ⟨later, bytes, onwards, rfl⟩
      exact ⟨onwards, rfl, .inl rfl, .inl rfl, .inl rfl, .inl rfl⟩
  | usleepRange low high =>
      rcases reply with ⟨later, onwards, rfl⟩
      exact ⟨onwards, rfl, .inl rfl, .inl rfl, .inl rfl, .inl rfl⟩
  | setSampleRate rate =>
      obtain rfl : t = _ := reply
      exact ⟨le_refl _, rfl, .inr rfl, .inl rfl, .inl rfl, .inl rfl⟩
  | setTstamp time =>
      obtain rfl : t = _ := reply
      exact ⟨le_refl _, rfl, .inl rfl, .inr rfl, .inl rfl, .inl rfl⟩
  | modTimer expires =>
      rcases reply with ⟨_, rfl⟩
      exact ⟨le_refl _, rfl, .inl rfl, .inl rfl, .inr ⟨expires, rfl⟩, .inl rfl⟩
  | queueWork =>
      rcases reply with ⟨_, rfl⟩
      exact ⟨le_refl _, rfl, .inl rfl, .inl rfl, .inl rfl, .inr rfl⟩
  | unlock =>
      obtain rfl : t = _ := reply
      exact ⟨le_refl _, rfl, .inl rfl, .inl rfl, .inl rfl, .inl rfl⟩
  | decode =>
      obtain rfl : t = _ := reply
      exact ⟨le_refl _, rfl, .inl rfl, .inl rfl, .inl rfl, .inl rfl⟩
  | setSpeedCode code =>
      obtain rfl : t = _ := reply
      exact ⟨le_refl _, rfl, .inl rfl, .inl rfl, .inl rfl, .inl rfl⟩
  | bufferEnabled =>
      obtain rfl : t = _ := reply
      exact ⟨le_refl _, rfl, .inl rfl, .inl rfl, .inl rfl, .inl rfl⟩
  | _ =>
      rcases reply with ⟨_, rfl⟩
      exact ⟨le_refl _, rfl, .inl rfl, .inl rfl, .inl rfl, .inl rfl⟩

def Succeeds : (cmd : Cmd Int) → cmd.Reply → Prop
  | .write _ _, ret => 0 ≤ ret
  | .read _ _ _, ret => 0 ≤ ret
  | _, _ => True

def driverHandler (phys_channels : Nat) (ret : Int) (s : Driver) (cmd : Cmd Int) : cmd.Reply × Driver :=
  match cmd with
  | .jiffies => (s.now, s)
  | .tstamp => (s.tstamp, s)
  | .setTstamp time => ((), { s with tstamp := time })
  | .lock => ((), { s with locked := true })
  | .unlock => ((), { s with locked := false })
  | .write _ _ => (ret, s)
  | .read block _ _ => (ret, { s with data := s.data.setBlock block [] })
  | .usleepRange _ _ => ((), s)
  | .decode => ((), { s with data := decode phys_channels s.data })
  | .modTimer expires => (if s.timer.isSome then 1 else 0, { s with timer := some expires })
  | .queueWork => (!s.queued, { s with queued := true })
  | .field source channel => (source.of s.data channel, s)
  | .shunt channel => (s.shunts channel, s)
  | .sampleRate => (s.sample_rate_value, s)
  | .setSampleRate rate => ((), { s with sample_rate_value := rate })
  | .speedCode => (s.crt_samp_speed_bitfield, s)
  | .setSpeedCode code => ((), { s with crt_samp_speed_bitfield := code })
  | .bufferEnabled => (false, s)

def unlocked (s : Driver) : Cmd Int → Bool
  | .lock => !s.locked
  | _ => true

theorem driver_handler_obeys (phys_channels : Nat) (ret : Int) (s : Driver) (cmd : Cmd Int) (able : unlocked s cmd = true) :
    driverReply phys_channels s cmd (driverHandler phys_channels ret s cmd).1 (driverHandler phys_channels ret s cmd).2 := by
  cases cmd with
  | lock => exact ⟨by simpa [unlocked] using able, rfl⟩
  | write reg data => exact ⟨s.now, le_refl _, rfl⟩
  | read block reg len => exact ⟨s.now, [], le_refl _, rfl⟩
  | usleepRange low high => exact ⟨s.now, le_refl _, rfl⟩
  | _ => simp [driverReply, driverHandler]

end SummitSom.Pac193x
