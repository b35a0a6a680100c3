import SummitSom.Hub.Control

set_option autoImplicit false

namespace SummitSom.Hub

open Bytes Interact

def sendStop : UInt8 := 0x01

def sendStart : UInt8 := 0x02

def sendNack : UInt8 := 0x04

-- MAKEWORD, and the same in USB_I2C_Transfer: the address below the flags.
def makeWord (low high : UInt8) : Nat := high.toNat <<< 8 ||| low.toNat

def slaveByte (reads : Bool) (byAddr : UInt8) : UInt8 := if reads then byAddr <<< 1 ||| 1 else byAddr <<< 1

def i2cControl (reads : Bool) (wAddress wLength : Nat) (buffer : Memory UInt8) : Control :=
  if reads then ⟨0xC1, 0x72, wAddress, 0, wLength, []⟩ else ⟨0x41, 0x71, wAddress, 0, wLength, (List.range wLength).map buffer⟩

def plainFlags (byDir : Bool) : UInt8 := if byDir then sendNack ||| sendStart ||| sendStop else sendStart ||| sendStop

def usbI2cTransfer (byDir : Bool) (byAddr : UInt8) (pbyBuffer : Memory UInt8) (wLength : Nat) : Exchange Int :=
  if wLength > 512 then pure FALSE
  else issue (i2cControl byDir (makeWord (slaveByte byDir byAddr) (plainFlags byDir)) wLength pbyBuffer)

def mchpUsbI2CRead (BytesToRead : Int) (InputData : Memory UInt8) (SlaveAddress : UInt8) : Exchange Int :=
  usbI2cTransfer true SlaveAddress InputData (BytesToRead % 65536).toNat

def mchpUsbI2CWrite (BytesToWrite : Int) (OutputData : Option (Memory UInt8)) (SlaveAddress : UInt8) : Exchange Int :=
  match OutputData with
  | none => pure FALSE
  | some buffer => usbI2cTransfer false SlaveAddress buffer (BytesToWrite % 65536).toNat

structure Flags where
  bStart : Int
  bStop : Int
  bNack : Int

def Flags.added (flags : Flags) (byFlags : UInt8) : UInt8 :=
  let started := if flags.bStart ≠ 0 then byFlags ||| sendStart else byFlags
  let stopped := if flags.bStop ≠ 0 then started ||| sendStop else started
  if flags.bNack ≠ 0 then stopped ||| sendNack else stopped

-- byFlags is what the stack holds: Gen_I2C_Transfer does not initialise it.
def genI2cTransfer (bDirection : Bool) (pbyBuffer : Memory UInt8) (wDataLen : Nat) (bySlaveAddress : UInt8)
    (flags : Flags) (byFlags : UInt8) : Exchange Int :=
  if wDataLen > 512 then pure TRUE
  else do
    let rc ← issue
      (i2cControl bDirection (makeWord (slaveByte bDirection bySlaveAddress) (flags.added byFlags)) wDataLen pbyBuffer)
    if rc < 0 then pure FALSE else pure TRUE

def mchpUsbI2CTransfer (bDirection : Int) (pbyBuffer : Option (Memory UInt8)) (wDataLen : UInt16) (bySlaveAddress : UInt8)
    (flags : Flags) (byFlags : UInt8) : Exchange Int :=
  match pbyBuffer with
  | none => pure FALSE
  | some buffer => genI2cTransfer (bDirection ≠ 0) buffer wDataLen.toNat bySlaveAddress flags byFlags

inductive BridgeCall where
  | read (BytesToRead : Int) (InputData : Memory UInt8) (SlaveAddress : UInt8)
  | write (BytesToWrite : Int) (OutputData : Option (Memory UInt8)) (SlaveAddress : UInt8)
  | transfer (bDirection : Int) (pbyBuffer : Option (Memory UInt8)) (wDataLen : UInt16) (bySlaveAddress : UInt8)
      (flags : Flags) (byFlags : UInt8)

def BridgeCall.program : BridgeCall → Exchange Int
  | .read BytesToRead InputData SlaveAddress => mchpUsbI2CRead BytesToRead InputData SlaveAddress
  | .write BytesToWrite OutputData SlaveAddress => mchpUsbI2CWrite BytesToWrite OutputData SlaveAddress
  | .transfer bDirection pbyBuffer wDataLen bySlaveAddress flags byFlags =>
      mchpUsbI2CTransfer bDirection pbyBuffer wDataLen bySlaveAddress flags byFlags

-- What a caller asks for.
structure Asked where
  reads : Bool
  address : Nat
  starts : Bool
  stops : Bool
  nacks : Bool
  length : Int
  buffer : Memory UInt8

def BridgeCall.asked : BridgeCall → Option Asked
  | .read BytesToRead InputData SlaveAddress =>
      some ⟨true, SlaveAddress.toNat % 128, true, true, true, BytesToRead, InputData⟩
  | .write BytesToWrite OutputData SlaveAddress =>
      OutputData.map fun buffer => ⟨false, SlaveAddress.toNat % 128, true, true, false, BytesToWrite, buffer⟩
  | .transfer bDirection pbyBuffer wDataLen bySlaveAddress flags _ =>
      pbyBuffer.map fun buffer => ⟨bDirection ≠ 0, bySlaveAddress.toNat % 128, flags.bStart ≠ 0, flags.bStop ≠ 0,
        flags.bNack ≠ 0, wDataLen.toNat, buffer⟩

def Asked.flags (asked : Asked) : Nat := asked.stops.toNat + 2 * asked.starts.toNat + 4 * asked.nacks.toNat

def Asked.word (asked : Asked) : Nat := 256 * asked.flags + 2 * asked.address + asked.reads.toNat

-- The one transfer that is as asked, for a length that may be transferred.
def Asked.Sent (asked : Asked) (control : Control) : Prop :=
  0 ≤ asked.length ∧ asked.length ≤ 512 ∧
    control = i2cControl asked.reads asked.word asked.length.toNat asked.buffer

def Honoured (call : BridgeCall) (usb : Answers) : Except Undefined Int × List Control → Prop
  | (.error _, _) => False
  | (.ok bRet, issued) =>
      issued.length ≤ 1 ∧ (∀ control ∈ issued, ∃ asked, call.asked = some asked ∧ asked.Sent control) ∧
        (bRet = FALSE ↔ issued = [] ∨ usb 0 < 0)

-- One length that the 16 bits keep, and a transfer that moves something.
def Moves (length : Int) (usb : Answers) : Prop := 0 ≤ length ∧ length ≤ 512 ∧ 0 < usb 0

def Regular (usb : Answers) : BridgeCall → Prop
  | .read BytesToRead _ _ => 512 < BytesToRead % 65536 ∨ Moves BytesToRead usb
  | .write BytesToWrite OutputData _ => OutputData = none ∨ 512 < BytesToWrite % 65536 ∨ Moves BytesToWrite usb
  | .transfer _ pbyBuffer wDataLen _ flags byFlags =>
      pbyBuffer = none ∨ (wDataLen.toNat ≤ 512 ∧ byFlags ||| flags.added 0 = flags.added 0)

theorem slave_byte (reads : Bool) (byAddr : UInt8) :
    (slaveByte reads byAddr).toNat = 2 * (byAddr.toNat % 128) + reads.toNat := by
  cases byAddr with
  | ofBitVec bits =>
      have all : ∀ (reads : Bool) (bits : BitVec 8),
          (slaveByte reads (UInt8.ofBitVec bits)).toNat = 2 * (bits.toNat % 128) + reads.toNat := by
        decide +kernel
      exact all reads bits

theorem make_word (low high : UInt8) : makeWord low high = 256 * high.toNat + low.toNat := by
  rw [makeWord, ← Nat.shiftLeft_add_eq_or_of_lt (i := 8) low.toNat_lt, Nat.shiftLeft_eq]
  omega

theorem added_or (flags : Flags) (byFlags : UInt8) : flags.added byFlags = byFlags ||| flags.added 0 := by
  simp only [Flags.added]
  split_ifs <;> simp [UInt8.or_assoc]

theorem added_flags (flags : Flags) (reads : Bool) (address : Nat) (length : Int) (buffer : Memory UInt8) :
    (flags.added 0).toNat =
      Asked.flags ⟨reads, address, flags.bStart ≠ 0, flags.bStop ≠ 0, flags.bNack ≠ 0, length, buffer⟩ := by
  simp only [Flags.added, Asked.flags]
  split_ifs <;> simp_all [sendStart, sendStop, sendNack]

theorem control_word (reads : Bool) (one other length : Nat) (buffer : Memory UInt8) :
    i2cControl reads one length buffer = i2cControl reads other length buffer ↔ one = other := by
  cases reads <;> simp [i2cControl]

section Honoured

variable (call : BridgeCall) (usb : Answers)

theorem honoured_refused (bRet : Int) : Honoured call usb (.ok bRet, []) ↔ bRet = FALSE := by
  simp [Honoured]

theorem honoured_issued (asked : Asked) (given : call.asked = some asked) (bRet : Int) (control : Control) :
    Honoured call usb (.ok bRet, [control]) ↔ asked.Sent control ∧ (bRet = FALSE ↔ usb 0 < 0) := by
  simp [Honoured, given]

theorem sent_word (asked : Asked) (word : Nat) (control : Control)
    (made : control = i2cControl asked.reads word asked.length.toNat asked.buffer) :
    asked.Sent control ↔ 0 ≤ asked.length ∧ asked.length ≤ 512 ∧ word = asked.word := by
  rw [Asked.Sent, made, control_word]

theorem usb_i2c_refused (asked : Asked) (byAddr : UInt8) (long : 512 < asked.length % 65536) :
    exchange usb (usbI2cTransfer asked.reads byAddr asked.buffer (asked.length % 65536).toNat) = (.ok FALSE, []) := by
  rw [usbI2cTransfer, if_pos (by omega)]
  rfl

theorem usb_i2c_issued (asked : Asked) (byAddr : UInt8) (short : ¬ 512 < asked.length % 65536)
    (plain : asked.starts = true ∧ asked.stops = true ∧ asked.nacks = asked.reads)
    (address : asked.address = byAddr.toNat % 128) :
    exchange usb (usbI2cTransfer asked.reads byAddr asked.buffer (asked.length % 65536).toNat) =
      (.ok (usb 0), [i2cControl asked.reads asked.word (asked.length % 65536).toNat asked.buffer]) := by
  obtain ⟨starts, stops, nacks⟩ := plain
  have flags : (plainFlags asked.reads).toNat = asked.flags := by
    rw [Asked.flags, starts, stops, nacks]
    cases asked.reads <;> rfl
  have word : makeWord (slaveByte asked.reads byAddr) (plainFlags asked.reads) = asked.word := by
    rw [make_word, slave_byte, flags, Asked.word, address]
    omega
  rw [usbI2cTransfer, if_neg (by omega), word]
  rfl

theorem usb_i2c_honoured (asked : Asked) (given : call.asked = some asked) (byAddr : UInt8)
    (plain : asked.starts = true ∧ asked.stops = true ∧ asked.nacks = asked.reads)
    (address : asked.address = byAddr.toNat % 128) :
    Honoured call usb
        (exchange usb (usbI2cTransfer asked.reads byAddr asked.buffer (asked.length % 65536).toNat)) ↔
      512 < asked.length % 65536 ∨ Moves asked.length usb := by
  by_cases long : 512 < asked.length % 65536
  · rw [usb_i2c_refused usb asked byAddr long, honoured_refused]
    simp [long]
  · rw [usb_i2c_issued usb asked byAddr long plain address, honoured_issued call usb asked given]
    have counted : (usb 0 = FALSE ↔ usb 0 < 0) ↔ 0 < usb 0 := by
      simp only [FALSE]
      omega
    rw [counted]
    constructor
    · rintro ⟨⟨low, high, _⟩, moved⟩
      exact .inr ⟨low, high, moved⟩
    · rintro (more | ⟨low, high, moved⟩)
      · exact absurd more long
      · have same : asked.length % 65536 = asked.length := by omega
        exact ⟨⟨low, high, by rw [same]⟩, moved⟩

theorem gen_i2c_honoured (asked : Asked) (given : call.asked = some asked) (bySlaveAddress byFlags : UInt8) (flags : Flags)
    (wDataLen : Nat) (requested : asked.flags = (flags.added 0).toNat) (length : asked.length = wDataLen)
    (address : asked.address = bySlaveAddress.toNat % 128) :
    Honoured call usb (exchange usb (genI2cTransfer asked.reads asked.buffer wDataLen bySlaveAddress flags byFlags)) ↔
      wDataLen ≤ 512 ∧ byFlags ||| flags.added 0 = flags.added 0 := by
  by_cases long : wDataLen > 512
  · have refused : exchange usb (genI2cTransfer asked.reads asked.buffer wDataLen bySlaveAddress flags byFlags) =
        (.ok TRUE, []) := by
      rw [genI2cTransfer, if_pos long]
      rfl
    rw [refused, honoured_refused]
    simp only [TRUE, FALSE]
    omega
  · have issued : exchange usb (genI2cTransfer asked.reads asked.buffer wDataLen bySlaveAddress flags byFlags) =
        (.ok (if usb 0 < 0 then FALSE else TRUE),
          [i2cControl asked.reads (makeWord (slaveByte asked.reads bySlaveAddress) (flags.added byFlags)) wDataLen
            asked.buffer]) := by
      rw [genI2cTransfer, if_neg long, issue_bind, exchange, eval, issueNext, List.length_nil]
      split <;> rfl
    rw [issued, honoured_issued call usb asked given, sent_word asked _ _ (by rw [length, Int.toNat_natCast])]
    have reported : (if usb 0 < 0 then FALSE else TRUE) = FALSE ↔ usb 0 < 0 := by
      split <;> simp_all [TRUE, FALSE]
    have same_flags : makeWord (slaveByte asked.reads bySlaveAddress) (flags.added byFlags) = asked.word ↔
        byFlags ||| flags.added 0 = flags.added 0 := by
      rw [make_word, slave_byte, Asked.word, requested, address, ← UInt8.toNat_inj, ← added_or]
      omega
    rw [reported, same_flags, length]
    constructor
    · rintro ⟨⟨_, high, same⟩, _⟩
      exact ⟨by omega, same⟩
    · rintro ⟨high, same⟩
      exact ⟨⟨by omega, by omega, same⟩, Iff.rfl⟩

end Honoured

theorem i2c_bridge_iff (call : BridgeCall) (usb : Answers) :
    Honoured call usb (exchange usb call.program) ↔ Regular usb call := by
  cases call with
  | read BytesToRead InputData SlaveAddress =>
      exact usb_i2c_honoured (.read BytesToRead InputData SlaveAddress) usb
        ⟨true, SlaveAddress.toNat % 128, true, true, true, BytesToRead, InputData⟩ rfl SlaveAddress ⟨rfl, rfl, rfl⟩ rfl
  | write BytesToWrite OutputData SlaveAddress =>
      cases OutputData with
      | none =>
          have refused := honoured_refused (.write BytesToWrite none SlaveAddress) usb FALSE
          exact iff_of_true (refused.mpr rfl) (.inl rfl)
      | some buffer =>
          have honoured := usb_i2c_honoured (.write BytesToWrite (some buffer) SlaveAddress) usb
            ⟨false, SlaveAddress.toNat % 128, true, true, false, BytesToWrite, buffer⟩ rfl SlaveAddress ⟨rfl, rfl, rfl⟩ rfl
          exact honoured.trans (by simp [Regular])
  | transfer bDirection pbyBuffer wDataLen bySlaveAddress flags byFlags =>
      cases pbyBuffer with
      | none =>
          have refused := honoured_refused (.transfer bDirection none wDataLen bySlaveAddress flags byFlags) usb FALSE
          exact iff_of_true (refused.mpr rfl) (.inl rfl)
      | some buffer =>
          have honoured := gen_i2c_honoured (.transfer bDirection (some buffer) wDataLen bySlaveAddress flags byFlags) usb
            ⟨bDirection ≠ 0, bySlaveAddress.toNat % 128, flags.bStart ≠ 0, flags.bStop ≠ 0, flags.bNack ≠ 0,
              wDataLen.toNat, buffer⟩ rfl bySlaveAddress byFlags flags wDataLen.toNat
            (added_flags flags _ _ _ buffer).symm rfl rfl
          exact honoured.trans (by simp [Regular])

-- A read that the device refuses is reported as done.
theorem i2c_bridge_failed : ¬ ∀ (call : BridgeCall) (usb : Answers), Honoured call usb (exchange usb call.program) := by
  intro all
  have honoured := all (.read 1 (fun _ => 0) 0x50) (fun _ => -9)
  exact absurd (honoured.2.2.mpr (.inr (by decide))) (by decide)

end SummitSom.Hub
