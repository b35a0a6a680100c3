import SummitSom.Hub.Control
import SummitSom.Bytes.Word

set_option autoImplicit false

namespace SummitSom.Hub

open Bytes Interact

abbrev Registers : Type := Memory (BitVec 8)

inductive Access where
  | read (address : Nat)
  | write (address : Nat) (bytes : List (BitVec 8))
deriving DecidableEq

-- A call that breaks off returns at once.
abbrev Gpio (A : Type) : Type := Prog Access (fun _ => Int × Registers) Int A

structure Bus where
  registers : Registers
  accesses : List Access

-- A transfer moves as many of its bytes as it counts; one that fails moves none.
def onBus (usb : Answers) (bus : Bus) : Access → (Int × Registers) × Bus
  | .read address =>
      ((usb bus.accesses.length, fun index => bus.registers (address + index)),
        ⟨bus.registers, bus.accesses ++ [.read address]⟩)
  | .write address bytes =>
      ((usb bus.accesses.length, fun _ => 0),
        ⟨write bus.registers address (bytes.take (usb bus.accesses.length).toNat), bus.accesses ++ [.write address bytes]⟩)

-- The bytes that do not come keep what dwInputData held.
def fetched (count : Nat) (bytes dwInputData : Registers) : Registers := fun index =>
  if index < count then bytes index else dwInputData index

def registerRead (address : Nat) (dwInputData : Registers) : Gpio Registers := do
  let reply ← issue (.read address)
  if reply.1 < 0 then .stop FALSE else pure (fetched reply.1.toNat reply.2 dwInputData)

def registerWrite (address : Nat) (dwInputData : Registers) : Gpio Unit := do
  let reply ← issue (.write address (List.map dwInputData [0, 1, 2, 3]))
  if reply.1 < 0 then .stop FALSE else pure ()

def pioAccepted (PIONumber : Nat) : Prop :=
  (PIONumber ≤ 10 ∨ (PIONumber ≤ 20 ∧ PIONumber ≥ 14) ∨ (PIONumber ≥ 41 ∧ PIONumber ≤ 45)) ∧ PIONumber ≠ 15

instance (PIONumber : Nat) : Decidable (pioAccepted PIONumber) := inferInstanceAs (Decidable (_ ∧ _))

def dwMask (PIONumber : Nat) : BitVec 32 := if PIONumber > 31 then 1#32 <<< (PIONumber - 32) else 1#32 <<< PIONumber

def wBaseRegisterAddress (PIONumber : Nat) : Nat := if PIONumber > 32 then 0x900 else 0x800

def pioDir : Nat := 0x30

def pioOut : Nat := 0x34

def pioIn : Nat := 0x38

-- CONVERT_ENDIAN_DWORD, which keeps the low 32 bits of a DWORD.
def convertEndianDword (bytes : Registers) : BitVec 32 := swapped (wordOf bytes)

def converted (word : BitVec 32) : Registers := byteOf (swapped word)

-- The first step of both calls: the direction register is read, changed and
-- written back.
def directionThen {A : Type} (pin : Nat) (change : BitVec 32 → BitVec 32) (dwInputData : Registers)
    (rest : Registers → Gpio A) : Gpio A := do
  let direction ← registerRead (wBaseRegisterAddress pin + pioDir) dwInputData
  registerWrite (wBaseRegisterAddress pin + pioDir) (converted (change (convertEndianDword direction)))
  rest (converted (change (convertEndianDword direction)))

def writeOutput (pin : Nat) (Pinstate : UInt8) (dwInputData : Registers) : Gpio (Option UInt8) := do
  let output ← registerRead (wBaseRegisterAddress pin + pioOut) dwInputData
  if Pinstate = 1 then do
    registerWrite (wBaseRegisterAddress pin + pioOut) (converted (convertEndianDword output ||| dwMask pin))
    pure none
  else if Pinstate = 0 then do
    registerWrite (wBaseRegisterAddress pin + pioOut) (converted (convertEndianDword output &&& ~~~dwMask pin))
    pure none
  else .stop FALSE

def readInput (pin : Nat) (dwInputData : Registers) : Gpio (Option UInt8) := do
  let input ← registerRead (wBaseRegisterAddress pin + pioIn) dwInputData
  pure (some (if convertEndianDword input &&& dwMask pin ≠ 0 then 1 else 0))

-- dwInputData is not initialised.
def mchpUsbGpioSet (PIONumber Pinstate : UInt8) (dwInputData : Registers) : Gpio (Option UInt8) :=
  if ¬ pioAccepted PIONumber.toNat then .stop FALSE
  else directionThen PIONumber.toNat (fun word => word ||| dwMask PIONumber.toNat) dwInputData
    (writeOutput PIONumber.toNat Pinstate)

def mchpUsbGpioGet (PIONumber : UInt8) (dwInputData : Registers) : Gpio (Option UInt8) :=
  if ¬ pioAccepted PIONumber.toNat then .stop FALSE
  else directionThen PIONumber.toNat (fun word => word &&& ~~~dwMask PIONumber.toNat) dwInputData
    (readInput PIONumber.toNat)

inductive GpioCall where
  | set (PIONumber Pinstate : UInt8)
  | get (PIONumber : UInt8)

def GpioCall.pin : GpioCall → Nat
  | .set PIONumber _ => PIONumber.toNat
  | .get PIONumber => PIONumber.toNat

def GpioCall.program (dwInputData : Registers) : GpioCall → Gpio (Option UInt8)
  | .set PIONumber Pinstate => mchpUsbGpioSet PIONumber Pinstate dwInputData
  | .get PIONumber => mchpUsbGpioGet PIONumber dwInputData

-- Where a pin's bit stands in the four bytes of a register, and the bit.
def pinByte (pin : Nat) : Nat := 3 - pin % 32 / 8

def pinBit (pin : Nat) : BitVec 8 := 1#8 <<< (pin % 8)

def setBit (pin : Nat) (high : Bool) (byte : BitVec 8) : BitVec 8 :=
  if high then byte ||| pinBit pin else byte &&& ~~~pinBit pin

-- The registers with one bit set or cleared.
def withPin (registers : Registers) (register pin : Nat) (high : Bool) : Registers := fun address =>
  if address = wBaseRegisterAddress pin + register + pinByte pin then setBit pin high (registers address) else registers address

def readPin (registers : Registers) (register pin : Nat) : Bool :=
  registers (wBaseRegisterAddress pin + register + pinByte pin) &&& pinBit pin ≠ 0

-- What a successful call leaves and reports.
def GpioCall.Done (before after : Registers) (reported : Option UInt8) : GpioCall → Prop
  | .set PIONumber Pinstate =>
      Pinstate.toNat < 2 ∧
        after = withPin (withPin before pioDir PIONumber.toNat true) pioOut PIONumber.toNat (Pinstate = 1)
  | .get PIONumber =>
      after = withPin before pioDir PIONumber.toNat false ∧
        reported = some (if readPin before pioIn PIONumber.toNat then 1 else 0)

-- A call that returns without success and without a failed transfer has
-- rejected its arguments.
def OnePin (call : GpioCall) (usb : Answers) (before : Registers) : Except Int (Option UInt8) × Bus → Prop
  | (.ok reported, bus) => call.Done before bus.registers reported
  | (.error _, bus) =>
      (∀ place < bus.accesses.length, 0 ≤ usb place) → ∀ address bytes, .write address bytes ∉ bus.accesses

-- One byte of a register that is read, changed and written back.
def pinChanged (pin : Nat) (high : Bool) (index : Nat) (byte : BitVec 8) : BitVec 8 :=
  if index = pinByte pin then setBit pin high byte else byte

-- The bytes that a read leaves out are right by accident, and those that a
-- write leaves out need no change.
structure StepFine (registers : Registers) (register pin : Nat) (high : Bool) (stale : Registers) (fetch store : Nat) :
    Prop where
  fetched : ∀ index < 4, index < store → fetch ≤ index →
    pinChanged pin high index (stale index) =
      pinChanged pin high index (registers (wBaseRegisterAddress pin + register + index))
  stored : ∀ index < 4, store ≤ index →
    pinChanged pin high index (registers (wBaseRegisterAddress pin + register + index)) =
      registers (wBaseRegisterAddress pin + register + index)

-- What dwInputData holds after the direction step.
def drivenBytes (registers : Registers) (pin : Nat) (high : Bool) (stale : Registers) (fetch : Nat) : Registers :=
  fun index => pinChanged pin high index
    (fetched fetch (fun index => registers (wBaseRegisterAddress pin + pioDir + index)) stale index)

section Pins

variable (pin : Nat) (high : Bool)

theorem mask_bit (accepted : pioAccepted pin) : dwMask pin = 1#32 <<< (pin % 32) := by
  rw [dwMask]
  obtain ⟨range, _⟩ := accepted
  split
  · have same : pin % 32 = pin - 32 := by omega
    rw [same]
  · have same : pin % 32 = pin := by omega
    rw [same]

theorem mask_byte (accepted : pioAccepted pin) (index : Nat) (inside : index < 4) :
    byteOf (dwMask pin) (3 - index) = if index = pinByte pin then pinBit pin else 0 := by
  rw [mask_bit pin accepted, byte_one (pin % 32) (3 - index) (by omega) (by omega), pinByte, pinBit]
  have eighth : pin % 32 % 8 = pin % 8 := by omega
  by_cases here : index = 3 - pin % 32 / 8
  · rw [if_pos here, if_pos (by omega), eighth]
  · rw [if_neg here, if_neg (by omega)]

theorem converted_byte (bytes : Registers) (index : Nat) (inside : index < 4) :
    byteOf (convertEndianDword bytes) (3 - index) = bytes index := by
  rw [convertEndianDword, byte_swapped _ _ (by omega), Nat.sub_sub_self (by omega), byte_of_word bytes index inside]

theorem converted_set (accepted : pioAccepted pin) (bytes : Registers) (index : Nat) (inside : index < 4) :
    converted (convertEndianDword bytes ||| dwMask pin) index = pinChanged pin true index (bytes index) := by
  rw [converted, byte_swapped _ _ inside, byte_or, converted_byte bytes index inside, mask_byte pin accepted index inside,
    pinChanged, setBit]
  split <;> simp

theorem converted_clear (accepted : pioAccepted pin) (bytes : Registers) (index : Nat) (inside : index < 4) :
    converted (convertEndianDword bytes &&& ~~~dwMask pin) index = pinChanged pin false index (bytes index) := by
  rw [converted, byte_swapped _ _ inside, byte_and, byte_not _ _ (by omega), converted_byte bytes index inside,
    mask_byte pin accepted index inside, pinChanged, setBit, if_neg Bool.false_ne_true]
  have rest : ~~~(0 : BitVec 8) = BitVec.allOnes 8 := rfl
  split
  · rfl
  · rw [rest, BitVec.and_allOnes]

theorem with_pin_cell (registers : Registers) (register index : Nat) :
    withPin registers register pin high (wBaseRegisterAddress pin + register + index) =
      pinChanged pin high index (registers (wBaseRegisterAddress pin + register + index)) := by
  rw [withPin, pinChanged]
  by_cases here : index = pinByte pin
  · rw [if_pos (by omega), if_pos here]
  · rw [if_neg (by omega), if_neg here]

theorem with_pin_outside (registers : Registers) (register address : Nat)
    (outside : ¬ Within (wBaseRegisterAddress pin + register) 4 address) :
    withPin registers register pin high address = registers address := by
  rw [withPin, if_neg]
  rintro rfl
  simp only [Within, pinByte] at outside
  omega

end Pins

section Stored

variable (registers cells : Registers) (start count : Nat)

def stored : Registers := write registers start ((List.map cells [0, 1, 2, 3]).take count)

theorem stored_cell (index : Nat) (inside : index < 4) :
    stored registers cells start count (start + index) = if index < count then cells index else registers (start + index) := by
  have size : ((List.map cells [0, 1, 2, 3]).take count).length = min count 4 := by simp
  by_cases moved : index < count
  · rw [stored, write_cell registers start _ index (by omega), if_pos moved, List.getElem_take]
    interval_cases index <;> rfl
  · rw [stored, write_outside, if_neg moved]
    simp only [Within, size]
    omega

theorem stored_outside (address : Nat) (outside : ¬ Within start 4 address) :
    stored registers cells start count address = registers address := by
  have size : ((List.map cells [0, 1, 2, 3]).take count).length = min count 4 := by simp
  apply write_outside
  simp only [Within, size] at *
  omega

end Stored

theorem step_fine_iff (registers stale cells : Registers) (register pin : Nat) (high : Bool) (fetch store : Nat)
    (changed : ∀ index < 4, cells index = pinChanged pin high index
      (fetched fetch (fun index => registers (wBaseRegisterAddress pin + register + index)) stale index)) :
    (∀ index < 4, stored registers cells (wBaseRegisterAddress pin + register) store
        (wBaseRegisterAddress pin + register + index) =
      withPin registers register pin high (wBaseRegisterAddress pin + register + index)) ↔
      StepFine registers register pin high stale fetch store := by
  constructor
  · intro same
    constructor
    · intro index inside moved late
      have here := same index inside
      rw [stored_cell _ _ _ _ index inside, if_pos moved, changed index inside, fetched, if_neg (by omega),
        with_pin_cell] at here
      exact here
    · intro index inside left
      have here := same index inside
      rw [stored_cell _ _ _ _ index inside, if_neg (by omega), with_pin_cell] at here
      exact here.symm
  · intro fine index inside
    rw [stored_cell _ _ _ _ index inside, with_pin_cell]
    by_cases moved : index < store
    · rw [if_pos moved, changed index inside, fetched]
      by_cases came : index < fetch
      · rw [if_pos came]
      · rw [if_neg came]
        exact fine.fetched index inside moved (by omega)
    · rw [if_neg moved]
      exact (fine.stored index inside (by omega)).symm

section Transfers

variable {A : Type} (usb : Answers) (address : Nat) (dwInputData : Registers) (bus : Bus)

theorem read_answered (rest : Registers → Gpio A) (answered : 0 ≤ usb bus.accesses.length) :
    eval (onBus usb) (registerRead address dwInputData >>= rest) bus =
      eval (onBus usb) (rest (fetched (usb bus.accesses.length).toNat (fun index => bus.registers (address + index)) dwInputData))
        ⟨bus.registers, bus.accesses ++ [.read address]⟩ := by
  have fine : ¬ (onBus usb bus (.read address)).1.1 < 0 := Int.not_lt.mpr answered
  rw [registerRead, issue_bind, call_bind, eval, if_neg fine]
  rfl

theorem read_failed (rest : Registers → Gpio A) (failed : usb bus.accesses.length < 0) :
    eval (onBus usb) (registerRead address dwInputData >>= rest) bus =
      (.error FALSE, ⟨bus.registers, bus.accesses ++ [.read address]⟩) := by
  have broken : (onBus usb bus (.read address)).1.1 < 0 := failed
  rw [registerRead, issue_bind, call_bind, eval, if_pos broken]
  rfl

theorem write_answered (rest : Unit → Gpio A) (answered : 0 ≤ usb bus.accesses.length) :
    eval (onBus usb) (registerWrite address dwInputData >>= rest) bus =
      eval (onBus usb) (rest ()) ⟨stored bus.registers dwInputData address (usb bus.accesses.length).toNat,
        bus.accesses ++ [.write address (List.map dwInputData [0, 1, 2, 3])]⟩ := by
  have fine : ¬ (onBus usb bus (.write address (List.map dwInputData [0, 1, 2, 3]))).1.1 < 0 := Int.not_lt.mpr answered
  rw [registerWrite, issue_bind, call_bind, eval, if_neg fine]
  rfl

theorem write_failed (rest : Unit → Gpio A) (failed : usb bus.accesses.length < 0) :
    eval (onBus usb) (registerWrite address dwInputData >>= rest) bus =
      (.error FALSE, ⟨stored bus.registers dwInputData address (usb bus.accesses.length).toNat,
        bus.accesses ++ [.write address (List.map dwInputData [0, 1, 2, 3])]⟩) := by
  have broken : (onBus usb bus (.write address (List.map dwInputData [0, 1, 2, 3]))).1.1 < 0 := failed
  rw [registerWrite, issue_bind, call_bind, eval, if_pos broken]
  rfl

end Transfers

theorem one_step (registers cells : Registers) (register pin count : Nat) (high : Bool) :
    stored registers cells (wBaseRegisterAddress pin + register) count = withPin registers register pin high ↔
      ∀ index < 4, stored registers cells (wBaseRegisterAddress pin + register) count
          (wBaseRegisterAddress pin + register + index) =
        withPin registers register pin high (wBaseRegisterAddress pin + register + index) := by
  constructor
  · intro same index _
    rw [same]
  · intro same
    funext address
    by_cases inside : Within (wBaseRegisterAddress pin + register) 4 address
    · have here := same (address - (wBaseRegisterAddress pin + register)) (by simp only [Within] at inside; omega)
      rw [Nat.add_sub_of_le inside.1] at here
      exact here
    · rw [stored_outside _ _ _ _ address inside, with_pin_outside _ _ _ _ address inside]

-- The direction and the output register do not share a byte.
theorem two_steps (registers direction output : Registers) (pin first second : Nat) (high : Bool) :
    stored (stored registers direction (wBaseRegisterAddress pin + pioDir) first) output
        (wBaseRegisterAddress pin + pioOut) second =
      withPin (withPin registers pioDir pin true) pioOut pin high ↔
    stored registers direction (wBaseRegisterAddress pin + pioDir) first = withPin registers pioDir pin true ∧
      stored registers output (wBaseRegisterAddress pin + pioOut) second = withPin registers pioOut pin high := by
  rw [one_step registers direction, one_step registers output]
  have off_direction : ∀ index < 4, ¬ Within (wBaseRegisterAddress pin + pioDir) 4 (wBaseRegisterAddress pin + pioOut + index) := by
    intro index inside within
    simp only [Within, pioDir, pioOut] at within
    omega
  have off_output : ∀ index < 4, ¬ Within (wBaseRegisterAddress pin + pioOut) 4 (wBaseRegisterAddress pin + pioDir + index) := by
    intro index inside within
    simp only [Within, pioDir, pioOut] at within
    omega
  constructor
  · intro same
    constructor
    · intro index inside
      have here := congrFun same (wBaseRegisterAddress pin + pioDir + index)
      rw [stored_outside _ _ _ _ _ (off_output index inside), with_pin_outside _ _ _ _ _ (off_output index inside)] at here
      exact here
    · intro index inside
      have here := congrFun same (wBaseRegisterAddress pin + pioOut + index)
      rw [stored_cell _ _ _ _ index inside, stored_outside _ _ _ _ _ (off_direction index inside), with_pin_cell,
        with_pin_outside _ _ _ _ _ (off_direction index inside)] at here
      rw [stored_cell _ _ _ _ index inside, with_pin_cell]
      exact here
  · rintro ⟨driven, put⟩
    rw [(one_step registers direction pioDir pin first true).mpr driven, one_step]
    intro index inside
    have here := put index inside
    rw [stored_cell _ _ _ _ index inside, with_pin_cell] at here
    rw [stored_cell _ _ _ _ index inside, with_pin_cell, with_pin_outside _ _ _ _ _ (off_direction index inside)]
    exact here

theorem mask_tests (pin : Nat) (accepted : pioAccepted pin) (bytes : Registers) :
    convertEndianDword bytes &&& dwMask pin ≠ 0 ↔ bytes (pinByte pin) &&& pinBit pin ≠ 0 := by
  have cell : ∀ index < 4, byteOf (convertEndianDword bytes &&& dwMask pin) (3 - index) =
      bytes index &&& if index = pinByte pin then pinBit pin else 0 := by
    intro index inside
    rw [byte_and, converted_byte bytes index inside, mask_byte pin accepted index inside]
  rw [not_iff_not, word_zero]
  constructor
  · intro zero
    have here := cell (pinByte pin) (by simp only [pinByte]; omega)
    rw [zero _ (by omega), if_pos rfl] at here
    exact here.symm
  · intro zero index inside
    have here := cell (3 - index) (by omega)
    rw [Nat.sub_sub_self (by omega)] at here
    rw [here]
    by_cases same : 3 - index = pinByte pin
    · rw [if_pos same, same, zero]
    · rw [if_neg same]
      exact BitVec.and_zero

-- A call that is accepted breaks off at a failed transfer, or what its
-- transfers move is enough.
def PinKept (usb : Answers) (before stale : Registers) : GpioCall → Prop
  | .set PIONumber Pinstate =>
      pioAccepted PIONumber.toNat → (∃ place < 3, usb place < 0) ∨
        (Pinstate.toNat < 2 ∧ (usb 3 < 0 ∨
          (StepFine before pioDir PIONumber.toNat true stale (usb 0).toNat (usb 1).toNat ∧
            StepFine before pioOut PIONumber.toNat (Pinstate = 1)
              (drivenBytes before PIONumber.toNat true stale (usb 0).toNat) (usb 2).toNat (usb 3).toNat)))
  | .get PIONumber =>
      pioAccepted PIONumber.toNat → (∃ place < 3, usb place < 0) ∨
        (StepFine before pioDir PIONumber.toNat false stale (usb 0).toNat (usb 1).toNat ∧
          ((usb 2).toNat ≤ pinByte PIONumber.toNat → readPin before pioIn PIONumber.toNat = false))

section Calls

variable (usb : Answers) (before stale : Registers)

theorem one_pin_failed (call : GpioCall) (bus : Bus) (place : Nat) (made : place < bus.accesses.length)
    (failed : usb place < 0) : OnePin call usb before (.error FALSE, bus) := by
  intro answered
  have fine := answered place made
  omega

theorem first_three : (∃ place < 3, usb place < 0) ↔ (usb 0 < 0 ∨ usb 1 < 0) ∨ usb 2 < 0 := by
  constructor
  · rintro ⟨place, small, failed⟩
    have few : place = 0 ∨ place = 1 ∨ place = 2 := by omega
    rcases few with rfl | rfl | rfl
    · exact .inl (.inl failed)
    · exact .inl (.inr failed)
    · exact .inr failed
  · rintro ((first | second) | third)
    · exact ⟨0, Nat.zero_lt_succ 2, first⟩
    · exact ⟨1, Nat.one_lt_succ_succ 1, second⟩
    · exact ⟨2, Nat.lt_succ_self 2, third⟩

def directionFetched (pin : Nat) : Registers :=
  fetched (usb 0).toNat (fun index => before (wBaseRegisterAddress pin + pioDir + index)) stale

def afterDirection (pin : Nat) (cells : Registers) : Bus :=
  ⟨stored before cells (wBaseRegisterAddress pin + pioDir) (usb 1).toNat,
    [.read (wBaseRegisterAddress pin + pioDir), .write (wBaseRegisterAddress pin + pioDir) (List.map cells [0, 1, 2, 3])]⟩

section Direction

variable {A : Type} (pin : Nat) (change : BitVec 32 → BitVec 32) (rest : Registers → Gpio A)

theorem direction_done (read : 0 ≤ usb 0) (written : 0 ≤ usb 1) :
    eval (onBus usb) (directionThen pin change stale rest) ⟨before, []⟩ =
      eval (onBus usb) (rest (converted (change (convertEndianDword (directionFetched usb before stale pin)))))
        (afterDirection usb before pin (converted (change (convertEndianDword (directionFetched usb before stale pin))))) := by
  rw [directionThen, read_answered usb _ stale ⟨before, []⟩ _ read]
  exact write_answered usb _ _ ⟨before, [.read (wBaseRegisterAddress pin + pioDir)]⟩ _ written

theorem direction_failed (failed : usb 0 < 0 ∨ usb 1 < 0) (call : GpioCall) (rest : Registers → Gpio (Option UInt8)) :
    OnePin call usb before (eval (onBus usb) (directionThen pin change stale rest) ⟨before, []⟩) := by
  by_cases read : usb 0 < 0
  · rw [directionThen, read_failed usb _ stale ⟨before, []⟩ _ read]
    exact one_pin_failed usb before call _ 0 Nat.zero_lt_one read
  · have written := failed.resolve_left read
    obtain ⟨bus, made, ended⟩ : ∃ bus, 1 < bus.accesses.length ∧
        eval (onBus usb) (directionThen pin change stale rest) ⟨before, []⟩ = (.error FALSE, bus) := by
      rw [directionThen, read_answered usb _ stale ⟨before, []⟩ _ (Int.not_lt.mp read)]
      refine ⟨_, ?_, write_failed usb _ _ ⟨before, [.read (wBaseRegisterAddress pin + pioDir)]⟩ _ written⟩
      exact Nat.one_lt_two
    rw [ended]
    exact one_pin_failed usb before call bus 1 made written

end Direction

section Output

variable (pin : Nat) (Pinstate : UInt8) (cells : Registers)

theorem output_failed (read : usb 2 < 0) :
    ∃ bus, bus.accesses.length = 3 ∧
      eval (onBus usb) (writeOutput pin Pinstate cells) (afterDirection usb before pin cells) = (.error FALSE, bus) :=
  ⟨_, rfl, read_failed usb _ cells (afterDirection usb before pin cells) _ read⟩

def outputFetched : Registers :=
  fetched (usb 2).toNat
    (fun index => (afterDirection usb before pin cells).registers (wBaseRegisterAddress pin + pioOut + index)) cells

def outputChange (high : Bool) (word : BitVec 32) : BitVec 32 := if high then word ||| dwMask pin else word &&& ~~~dwMask pin

def afterOutputRead : Bus :=
  ⟨(afterDirection usb before pin cells).registers,
    (afterDirection usb before pin cells).accesses ++ [.read (wBaseRegisterAddress pin + pioOut)]⟩

theorem output_rejected (read : 0 ≤ usb 2) (invalid : ¬ Pinstate.toNat < 2) :
    eval (onBus usb) (writeOutput pin Pinstate cells) (afterDirection usb before pin cells) =
      (.error FALSE, afterOutputRead usb before pin cells) := by
  have not_one : Pinstate ≠ 1 := by
    rintro rfl
    exact invalid (by decide)
  have not_zero : Pinstate ≠ 0 := by
    rintro rfl
    exact invalid (by decide)
  rw [writeOutput, read_answered usb _ cells (afterDirection usb before pin cells) _ read, if_neg not_one, if_neg not_zero]
  rfl

theorem output_chosen (read : 0 ≤ usb 2) (valid : Pinstate.toNat < 2) :
    eval (onBus usb) (writeOutput pin Pinstate cells) (afterDirection usb before pin cells) =
      eval (onBus usb) (do
          registerWrite (wBaseRegisterAddress pin + pioOut)
            (converted (outputChange pin (Pinstate = 1) (convertEndianDword (outputFetched usb before pin cells))))
          pure none) (afterOutputRead usb before pin cells) := by
  rw [writeOutput, read_answered usb _ cells (afterDirection usb before pin cells) _ read]
  by_cases one : Pinstate = 1
  · subst one
    rfl
  · have zero : Pinstate = 0 := by
      apply UInt8.toNat_inj.mp
      have differs : Pinstate.toNat ≠ 1 := fun same => one (UInt8.toNat_inj.mp same)
      exact Nat.eq_zero_of_not_pos fun positive => differs (by omega)
    subst zero
    rfl

theorem output_changed (accepted : pioAccepted pin) (high : Bool) (bytes : Registers) (index : Nat) (inside : index < 4) :
    converted (outputChange pin high (convertEndianDword bytes)) index = pinChanged pin high index (bytes index) := by
  cases high with
  | true => exact converted_set pin accepted bytes index inside
  | false => exact converted_clear pin accepted bytes index inside

-- The direction step leaves the other registers alone.
theorem after_direction_apart (register index : Nat) (inside : index < 4) (above : pioOut ≤ register) :
    (afterDirection usb before pin cells).registers (wBaseRegisterAddress pin + register + index) =
      before (wBaseRegisterAddress pin + register + index) := by
  apply stored_outside
  simp only [Within, pioDir, pioOut] at *
  omega

end Output

theorem direction_step_fine (pin : Nat) (high : Bool) (cells : Registers)
    (changed : ∀ index < 4, cells index = pinChanged pin high index (directionFetched usb before stale pin index)) :
    (afterDirection usb before pin cells).registers = withPin before pioDir pin high ↔
      StepFine before pioDir pin high stale (usb 0).toNat (usb 1).toNat := by
  rw [afterDirection, one_step]
  exact step_fine_iff before stale cells pioDir pin high _ _ changed

theorem output_step_fine (pin : Nat) (accepted : pioAccepted pin) (high : Bool) (cells : Registers)
    (changed : ∀ index < 4, cells index = pinChanged pin true index (directionFetched usb before stale pin index)) :
    stored before (converted (outputChange pin high (convertEndianDword (outputFetched usb before pin cells))))
        (wBaseRegisterAddress pin + pioOut) (usb 3).toNat = withPin before pioOut pin high ↔
      StepFine before pioOut pin high (drivenBytes before pin true stale (usb 0).toNat) (usb 2).toNat (usb 3).toNat := by
  rw [one_step]
  refine step_fine_iff before _ _ pioOut pin high _ _ fun index inside => ?_
  rw [output_changed pin accepted high _ index inside, outputFetched, fetched, fetched,
    after_direction_apart usb before pin cells pioOut index inside (Nat.le_refl _), changed index inside, drivenBytes]
  rfl

theorem set_done (PIONumber Pinstate : UInt8) (accepted : pioAccepted PIONumber.toNat) (valid : Pinstate.toNat < 2)
    (cells : Registers) (accesses : List Access)
    (changed : ∀ index < 4,
      cells index = pinChanged PIONumber.toNat true index (directionFetched usb before stale PIONumber.toNat index)) :
    OnePin (.set PIONumber Pinstate) usb before (.ok none,
        ⟨stored (afterDirection usb before PIONumber.toNat cells).registers
          (converted (outputChange PIONumber.toNat (Pinstate = 1)
            (convertEndianDword (outputFetched usb before PIONumber.toNat cells))))
          (wBaseRegisterAddress PIONumber.toNat + pioOut) (usb 3).toNat, accesses⟩) ↔
      StepFine before pioDir PIONumber.toNat true stale (usb 0).toNat (usb 1).toNat ∧
        StepFine before pioOut PIONumber.toNat (Pinstate = 1)
          (drivenBytes before PIONumber.toNat true stale (usb 0).toNat) (usb 2).toNat (usb 3).toNat := by
  have first := direction_step_fine usb before stale PIONumber.toNat true cells changed
  have second := output_step_fine usb before stale PIONumber.toNat accepted (Pinstate = 1) cells changed
  simp only [OnePin, GpioCall.Done, valid, true_and]
  rw [afterDirection, two_steps, second]
  rw [afterDirection] at first
  rw [first]

theorem set_iff (PIONumber Pinstate : UInt8) (accepted : pioAccepted PIONumber.toNat) :
    OnePin (.set PIONumber Pinstate) usb before
        (eval (onBus usb) (mchpUsbGpioSet PIONumber Pinstate stale) ⟨before, []⟩) ↔
      (∃ place < 3, usb place < 0) ∨ (Pinstate.toNat < 2 ∧ (usb 3 < 0 ∨
        (StepFine before pioDir PIONumber.toNat true stale (usb 0).toNat (usb 1).toNat ∧
          StepFine before pioOut PIONumber.toNat (Pinstate = 1)
            (drivenBytes before PIONumber.toNat true stale (usb 0).toNat) (usb 2).toNat (usb 3).toNat))) := by
  rw [mchpUsbGpioSet, if_neg (not_not.mpr accepted)]
  by_cases early : usb 0 < 0 ∨ usb 1 < 0
  · exact iff_of_true (direction_failed usb before stale PIONumber.toNat _ early _ _) (.inl ((first_three usb).mpr (.inl early)))
  rw [direction_done usb before stale PIONumber.toNat _ _ (by omega) (by omega)]
  have changed := converted_set PIONumber.toNat accepted (directionFetched usb before stale PIONumber.toNat)
  generalize converted (convertEndianDword (directionFetched usb before stale PIONumber.toNat) |||
    dwMask PIONumber.toNat) = cells at changed ⊢
  by_cases third : usb 2 < 0
  · obtain ⟨bus, length, ended⟩ := output_failed usb before PIONumber.toNat Pinstate cells third
    rw [ended]
    exact iff_of_true (one_pin_failed usb before _ bus 2 (by omega) third) (.inl ((first_three usb).mpr (.inr third)))
  have no_failure : ¬ ∃ place < 3, usb place < 0 := fun failed => ((first_three usb).mp failed).elim early third
  by_cases valid : Pinstate.toNat < 2
  · rw [output_chosen usb before PIONumber.toNat Pinstate cells (by omega) valid]
    by_cases last : usb 3 < 0
    · rw [write_failed usb _ _ (afterOutputRead usb before PIONumber.toNat cells) _ last]
      exact iff_of_true (one_pin_failed usb before _ _ 3 (Nat.lt_succ_self 3) last) (.inr ⟨valid, .inl last⟩)
    · rw [write_answered usb _ _ (afterOutputRead usb before PIONumber.toNat cells) _ (Int.not_lt.mp last)]
      have done := set_done usb before stale PIONumber Pinstate accepted valid cells
      simp only [no_failure, false_or, valid, true_and, last]
      exact done _ changed
  · rw [output_rejected usb before PIONumber.toNat Pinstate cells (by omega) valid]
    simp only [no_failure, valid, false_and, or_false, iff_false]
    intro kept
    refine kept ?_ (wBaseRegisterAddress PIONumber.toNat + pioDir) (List.map cells [0, 1, 2, 3])
      (by simp [afterOutputRead, afterDirection])
    intro place made
    by_contra negative
    exact no_failure ⟨place, made, by omega⟩

theorem input_shown (pin : Nat) (cells : Registers) (read : 0 ≤ usb 2) :
    ∃ bus, bus.registers = (afterDirection usb before pin cells).registers ∧
      eval (onBus usb) (readInput pin cells) (afterDirection usb before pin cells) =
        (.ok (some (if convertEndianDword (fetched (usb 2).toNat
          (fun index => (afterDirection usb before pin cells).registers (wBaseRegisterAddress pin + pioIn + index)) cells) &&&
            dwMask pin ≠ 0 then 1 else 0)), bus) :=
  ⟨⟨(afterDirection usb before pin cells).registers,
    (afterDirection usb before pin cells).accesses ++ [.read (wBaseRegisterAddress pin + pioIn)]⟩, rfl,
    read_answered usb _ cells (afterDirection usb before pin cells) _ read⟩

theorem input_tested (pin : Nat) (accepted : pioAccepted pin) (cells : Registers)
    (changed : ∀ index < 4, cells index = pinChanged pin false index (directionFetched usb before stale pin index)) :
    (convertEndianDword (fetched (usb 2).toNat
        (fun index => (afterDirection usb before pin cells).registers (wBaseRegisterAddress pin + pioIn + index)) cells) &&&
          dwMask pin ≠ 0) ↔ (pinByte pin < (usb 2).toNat ∧ readPin before pioIn pin = true) := by
  have inside : pinByte pin < 4 := by
    simp only [pinByte]
    omega
  rw [mask_tests pin accepted, fetched]
  by_cases came : pinByte pin < (usb 2).toNat
  · rw [if_pos came, after_direction_apart usb before pin cells pioIn _ inside (by decide), readPin]
    simp [came]
  · -- A byte that does not come shows the bit that the direction step cleared.
    have cleared : cells (pinByte pin) &&& pinBit pin = 0 := by
      rw [changed _ inside, pinChanged, if_pos rfl, setBit, if_neg Bool.false_ne_true, BitVec.and_assoc,
        BitVec.and_comm (~~~pinBit pin), BitVec.and_not_self]
      exact BitVec.and_zero
    rw [if_neg came]
    simp [cleared, came]

theorem get_iff (PIONumber : UInt8) (accepted : pioAccepted PIONumber.toNat) :
    OnePin (.get PIONumber) usb before (eval (onBus usb) (mchpUsbGpioGet PIONumber stale) ⟨before, []⟩) ↔
      (∃ place < 3, usb place < 0) ∨
        (StepFine before pioDir PIONumber.toNat false stale (usb 0).toNat (usb 1).toNat ∧
          ((usb 2).toNat ≤ pinByte PIONumber.toNat → readPin before pioIn PIONumber.toNat = false)) := by
  rw [mchpUsbGpioGet, if_neg (not_not.mpr accepted)]
  by_cases early : usb 0 < 0 ∨ usb 1 < 0
  · exact iff_of_true (direction_failed usb before stale PIONumber.toNat _ early _ _) (.inl ((first_three usb).mpr (.inl early)))
  rw [direction_done usb before stale PIONumber.toNat _ _ (by omega) (by omega)]
  have changed := converted_clear PIONumber.toNat accepted (directionFetched usb before stale PIONumber.toNat)
  generalize converted (convertEndianDword (directionFetched usb before stale PIONumber.toNat) &&&
    ~~~dwMask PIONumber.toNat) = cells at changed ⊢
  by_cases third : usb 2 < 0
  · rw [readInput, read_failed usb _ cells (afterDirection usb before PIONumber.toNat cells) _ third]
    exact iff_of_true (one_pin_failed usb before _ _ 2 (Nat.lt_succ_self 2) third) (.inl ((first_three usb).mpr (.inr third)))
  have no_failure : ¬ ∃ place < 3, usb place < 0 := fun failed => ((first_three usb).mp failed).elim early third
  have tested := input_tested usb before stale PIONumber.toNat accepted cells changed
  have stepped := direction_step_fine usb before stale PIONumber.toNat false cells changed
  obtain ⟨bus, registers, shown⟩ := input_shown usb before PIONumber.toNat cells (Int.not_lt.mp third)
  have reported : (if pinByte PIONumber.toNat < (usb 2).toNat ∧ readPin before pioIn PIONumber.toNat = true then (1 : UInt8)
      else 0) = (if readPin before pioIn PIONumber.toNat then 1 else 0) ↔
        ((usb 2).toNat ≤ pinByte PIONumber.toNat → readPin before pioIn PIONumber.toNat = false) := by
    cases readPin before pioIn PIONumber.toNat <;> simp
  rw [shown, if_congr tested rfl rfl, OnePin, GpioCall.Done, registers, Option.some.injEq, reported, stepped]
  simp only [no_failure, false_or]

theorem gpio_pins_iff (call : GpioCall) :
    OnePin call usb before (eval (onBus usb) (call.program stale) ⟨before, []⟩) ↔ PinKept usb before stale call := by
  cases call with
  | set PIONumber Pinstate =>
      by_cases accepted : pioAccepted PIONumber.toNat
      · have kept := set_iff usb before stale PIONumber Pinstate accepted
        exact kept.trans ⟨fun given _ => given, fun given => given accepted⟩
      · have rejected : eval (onBus usb) (mchpUsbGpioSet PIONumber Pinstate stale) ⟨before, []⟩ =
            (.error FALSE, ⟨before, []⟩) := by
          rw [mchpUsbGpioSet, if_pos accepted, eval]
        rw [GpioCall.program, rejected]
        exact iff_of_true (fun _ _ _ => List.not_mem_nil) fun other => absurd other accepted
  | get PIONumber =>
      by_cases accepted : pioAccepted PIONumber.toNat
      · have kept := get_iff usb before stale PIONumber accepted
        exact kept.trans ⟨fun given _ => given, fun given => given accepted⟩
      · have rejected : eval (onBus usb) (mchpUsbGpioGet PIONumber stale) ⟨before, []⟩ = (.error FALSE, ⟨before, []⟩) := by
          rw [mchpUsbGpioGet, if_pos accepted, eval]
        rw [GpioCall.program, rejected]
        exact iff_of_true (fun _ _ _ => List.not_mem_nil) fun other => absurd other accepted

end Calls

-- The pin is driven before its state is found to be invalid.
theorem gpio_pins_driven : ¬ ∀ (call : GpioCall) (usb : Answers) (before stale : Registers),
    OnePin call usb before (eval (onBus usb) (call.program stale) ⟨before, []⟩) := by
  intro all
  have kept := all (.set 3 2) (fun _ => 4) (fun _ => 0) (fun _ => 0)
  exact kept (fun _ _ => Int.le_of_lt (by decide : (0 : Int) < 4)) 0x830 [0, 0, 0, 8] (by decide)

end SummitSom.Hub
