import SummitSom.Hub.Programming

set_option autoImplicit false

namespace SummitSom.Hub

open Bytes

-- The outcome of each transfer, should the call come to it: what libusb
-- returns, and what is then in the buffer of a read.
structure Transfers where
  readCount : Int
  abyBuffer : Image
  byFeaturesFlag : UInt8
  counterCount : Int
  blockCount : Int
  recordCount : Int
  verifyCount : Int
  abyVerifyBuffer : Image

-- A call of Write_OTP and what it returned.
structure Written where
  wAddress : Nat
  data : List UInt8
  count : Int
deriving DecidableEq

-- An access in front of or behind a buffer of the stack ends what the source says.
inductive Outcome where
  | overrun
  | returned (bRet : Int) (writes : List Written)
deriving DecidableEq

def Transfers.spi (usb : Transfers) : Bool := usb.byFeaturesFlag &&& 0x01 ≠ 0

section Call

variable (pbyBuffer : List UInt8) (byChecksum : UInt8) (usb : Transfers)

def Transfers.expected (gwOTPHdrOffset gwOTPDataOffset : Nat) : Image :=
  programmed usb.spi byChecksum usb.abyBuffer pbyBuffer gwOTPHdrOffset gwOTPDataOffset

def Transfers.counterWrite : Written :=
  ⟨0, [counted usb.spi usb.abyBuffer 0, counted usb.spi usb.abyBuffer 1], usb.counterCount⟩

def Transfers.blockWrite (gwOTPDataOffset : Nat) : Written := ⟨gwOTPDataOffset, pbyBuffer, usb.blockCount⟩

def Transfers.recordWrite (gwOTPHdrOffset gwOTPDataOffset : Nat) : Written :=
  ⟨gwOTPHdrOffset, recordBytes (checksumOf byChecksum pbyBuffer) gwOTPDataOffset pbyBuffer.length, usb.recordCount⟩

def Matches (gwOTPHdrOffset gwOTPDataOffset : Nat) : Prop :=
  ∀ address < otpSize,
    usb.abyVerifyBuffer address = usb.expected pbyBuffer byChecksum gwOTPHdrOffset gwOTPDataOffset address

instance (gwOTPHdrOffset gwOTPDataOffset : Nat) :
    Decidable (Matches pbyBuffer byChecksum usb gwOTPHdrOffset gwOTPDataOffset) :=
  inferInstanceAs (Decidable (∀ address < otpSize, _))

-- MchpProgramFile from the first write on.
def writeAndVerify (gwOTPHdrOffset gwOTPDataOffset : Nat) : Outcome :=
  let counter := usb.counterWrite
  let block := usb.blockWrite pbyBuffer gwOTPDataOffset
  let record := usb.recordWrite pbyBuffer byChecksum gwOTPHdrOffset gwOTPDataOffset
  if usb.counterCount < 0 then .returned usb.counterCount [counter]
  else if usb.blockCount < 0 then .returned usb.blockCount [counter, block]
  else if otpSize < gwOTPDataOffset + pbyBuffer.length then .overrun
  else if usb.recordCount < 0 then .returned usb.recordCount [counter, block, record]
  else if usb.verifyCount < 0 then .returned usb.verifyCount [counter, block, record]
  else if Matches pbyBuffer byChecksum usb gwOTPHdrOffset gwOTPDataOffset then .returned TRUE [counter, block, record]
  else .returned usb.verifyCount [counter, block, record]

-- The buffer of the file has 64 bytes, and its length is kept in a byte.
def programBuffer : Outcome :=
  if 64 < pbyBuffer.length then .overrun
  else
    let wDataLength := pbyBuffer.length % 65536 % 256
    if 0 = wDataLength then .returned FALSE []
    else if usb.readCount < 0 then .returned usb.readCount []
    else
      match plan usb.spi usb.abyBuffer wDataLength with
      | .outside => .overrun
      | .refused => .returned usb.readCount []
      | .place gwOTPHdrOffset gwOTPDataOffset => writeAndVerify pbyBuffer byChecksum usb gwOTPHdrOffset gwOTPDataOffset

end Call

def mchpProgramFile (file : Option (List UInt8)) (byChecksum : UInt8) (usb : Transfers) : Outcome :=
  match file with
  | none => .returned FALSE []
  | some pbyBuffer => programBuffer pbyBuffer byChecksum usb

-- The three writes went through in full, and the OTP that was read back whole
-- is the expected one.
structure Confirmed (data : List UInt8) (byChecksum : UInt8) (usb : Transfers) (header offset : Nat)
    (writes : List Written) : Prop where
  wrote : writes =
    [⟨0, [counted usb.spi usb.abyBuffer 0, counted usb.spi usb.abyBuffer 1], 2⟩, ⟨offset, data, data.length⟩,
      ⟨header, recordBytes (checksumOf byChecksum data) offset data.length, recordSize⟩]
  read_back : usb.verifyCount = otpSize
  same : Matches data byChecksum usb header offset

def Truthful (file : Option (List UInt8)) (byChecksum : UInt8) (usb : Transfers) : Outcome → Prop
  | .overrun => False
  | .returned bRet writes =>
      bRet ≠ FALSE → ∃ data header offset, file = some data ∧ Confirmed data byChecksum usb header offset writes

-- No write: the index holds a damaged record, or the file does not fit between
-- the last block and the free slot.
def Stuck (image : Image) (length slot : Nat) : Prop :=
  Reached image slot ∧ ¬ Recorded image slot ∧
    (Signed image (recordSize * slot) ∨
      dataEnd image slot ≤ recordSize * slot ∧ recordSize * slot ≤ dataEnd image slot + length)

def Roomy (image : Image) (length slot : Nat) : Prop :=
  FreeSlot image slot ∧
    (recordSize * slot < dataEnd image slot ∨ dataEnd image slot + length < recordSize * slot)

structure Transferred (data : List UInt8) (byChecksum : UInt8) (usb : Transfers) (header offset : Nat) : Prop where
  counter : 0 ≤ usb.counterCount
  block : 0 ≤ usb.blockCount
  inside : offset + data.length ≤ otpSize
  record : 0 ≤ usb.recordCount
  verify : 0 ≤ usb.verifyCount
  matched : Matches data byChecksum usb header offset →
    usb.counterCount = 2 ∧ usb.blockCount = data.length ∧ usb.recordCount = recordSize ∧ usb.verifyCount = otpSize
  mismatched : ¬ Matches data byChecksum usb header offset → usb.verifyCount = 0

structure Dependable (data : List UInt8) (byChecksum : UInt8) (usb : Transfers) : Prop where
  short : data.length ≤ 64
  readable : 0 ≤ usb.readCount
  ends : ∃ slot < slots, ¬ Recorded (counted usb.spi usb.abyBuffer) slot
  stuck : ∀ slot, Stuck (counted usb.spi usb.abyBuffer) data.length slot → usb.readCount = 0
  roomy : ∀ slot, Roomy (counted usb.spi usb.abyBuffer) data.length slot →
    Transferred data byChecksum usb (recordSize * slot) (dataEnd (counted usb.spi usb.abyBuffer) slot)

section Truth

variable (data : List UInt8) (byChecksum : UInt8) (usb : Transfers)

theorem unwritten_truthful (file : Option (List UInt8)) (value : Int) (writes : List Written) (few : writes.length ≠ 3) :
    Truthful file byChecksum usb (.returned value writes) ↔ value = FALSE := by
  constructor
  · intro truthful
    by_contra success
    rcases truthful success with ⟨found, header, offset, _, confirmed⟩
    have three := congrArg List.length confirmed.wrote
    exact few three
  · intro failure success
    contradiction

-- All three writes were issued: what is left are their counts and the bytes read back.
theorem written_truthful (header offset : Nat) (value : Int) :
    Truthful (some data) byChecksum usb (.returned value
      [usb.counterWrite, usb.blockWrite data offset, usb.recordWrite data byChecksum header offset]) ↔
    (value ≠ FALSE → (usb.counterCount = 2 ∧ usb.blockCount = data.length ∧ usb.recordCount = recordSize) ∧
      usb.verifyCount = otpSize ∧ Matches data byChecksum usb header offset) := by
  constructor
  · intro truthful success
    rcases truthful success with ⟨found, top, start, same, confirmed⟩
    injection same with same
    subst same
    have wrote := confirmed.wrote
    simp only [Transfers.counterWrite, Transfers.blockWrite, Transfers.recordWrite, List.cons.injEq,
      Written.mk.injEq, true_and, and_true] at wrote
    rcases wrote with ⟨counter, ⟨rfl, block⟩, rfl, _, record⟩
    exact ⟨⟨counter, block, record⟩, confirmed.read_back, confirmed.same⟩
  · intro full success
    rcases full success with ⟨⟨counter, block, record⟩, read_back, same⟩
    refine ⟨data, header, offset, rfl, ?_, read_back, same⟩
    simp only [Transfers.counterWrite, Transfers.blockWrite, Transfers.recordWrite, counter, block, record]

theorem matched_truthful (header offset : Nat) (inside : offset + data.length ≤ otpSize)
    (same : Matches data byChecksum usb header offset) :
    Truthful (some data) byChecksum usb (.returned TRUE
      [usb.counterWrite, usb.blockWrite data offset, usb.recordWrite data byChecksum header offset]) ↔
    Transferred data byChecksum usb header offset := by
  rw [written_truthful]
  constructor
  · intro full
    rcases full (by decide) with ⟨⟨two, all, eight⟩, whole, _⟩
    exact ⟨by omega, by omega, inside, by omega, by omega, fun _ => ⟨two, all, eight, whole⟩,
      fun different => absurd same different⟩
  · intro transferred _
    rcases transferred.matched same with ⟨two, all, eight, whole⟩
    exact ⟨⟨two, all, eight⟩, whole, same⟩

-- The bytes differ, so the count of the verifying read has to pass for FALSE.
theorem mismatched_truthful (header offset : Nat) (counter : 0 ≤ usb.counterCount) (block : 0 ≤ usb.blockCount)
    (inside : offset + data.length ≤ otpSize) (record : 0 ≤ usb.recordCount)
    (different : ¬ Matches data byChecksum usb header offset) :
    Truthful (some data) byChecksum usb (.returned usb.verifyCount
      [usb.counterWrite, usb.blockWrite data offset, usb.recordWrite data byChecksum header offset]) ↔
    Transferred data byChecksum usb header offset := by
  rw [written_truthful]
  constructor
  · intro full
    have none_read : usb.verifyCount = 0 := by
      by_contra some_read
      exact different (full some_read).2.2
    exact ⟨counter, block, inside, record, by omega, fun same => absurd same different, fun _ => none_read⟩
  · intro transferred success
    exact absurd (transferred.mismatched different) success

-- A negative count is no FALSE, and no count of a transfer in full.
theorem failed_truthful (header offset : Nat) (value : Int) (failed : value < 0)
    (own : value = usb.recordCount ∨ value = usb.verifyCount) :
    ¬ Truthful (some data) byChecksum usb (.returned value
      [usb.counterWrite, usb.blockWrite data offset, usb.recordWrite data byChecksum header offset]) := by
  rw [written_truthful]
  intro full
  rcases full (Int.ne_of_lt failed) with ⟨⟨_, _, eight⟩, whole, _⟩
  simp only [recordSize, otpSize] at eight whole
  omega

theorem write_and_verify_truthful (header offset : Nat) :
    Truthful (some data) byChecksum usb (writeAndVerify data byChecksum usb header offset) ↔
      Transferred data byChecksum usb header offset := by
  by_cases counter : usb.counterCount < 0
  · simp only [writeAndVerify, if_pos counter]
    rw [unwritten_truthful byChecksum usb _ _ _ (by simp)]
    exact iff_of_false (Int.ne_of_lt counter) fun transferred => absurd transferred.counter (by omega)
  by_cases block : usb.blockCount < 0
  · simp only [writeAndVerify, if_neg counter, if_pos block]
    rw [unwritten_truthful byChecksum usb _ _ _ (by simp)]
    exact iff_of_false (Int.ne_of_lt block) fun transferred => absurd transferred.block (by omega)
  by_cases behind : otpSize < offset + data.length
  · simp only [writeAndVerify, if_neg counter, if_neg block, if_pos behind]
    exact iff_of_false id fun transferred => absurd transferred.inside (by omega)
  have inside : offset + data.length ≤ otpSize := by omega
  by_cases record : usb.recordCount < 0
  · simp only [writeAndVerify, if_neg counter, if_neg block, if_neg behind, if_pos record]
    have untrue := failed_truthful data byChecksum usb header offset _ record (Or.inl rfl)
    exact iff_of_false untrue fun transferred => absurd transferred.record (by omega)
  by_cases verify : usb.verifyCount < 0
  · simp only [writeAndVerify, if_neg counter, if_neg block, if_neg behind, if_neg record, if_pos verify]
    have untrue := failed_truthful data byChecksum usb header offset _ verify (Or.inr rfl)
    exact iff_of_false untrue fun transferred => absurd transferred.verify (by omega)
  by_cases same : Matches data byChecksum usb header offset
  · simp only [writeAndVerify, if_neg counter, if_neg block, if_neg behind, if_neg record, if_neg verify, if_pos same]
    exact matched_truthful data byChecksum usb header offset inside same
  · simp only [writeAndVerify, if_neg counter, if_neg block, if_neg behind, if_neg record, if_neg verify, if_neg same]
    exact mismatched_truthful data byChecksum usb header offset (by omega) (by omega) inside (by omega) same

theorem dependable_stuck (slot : Nat) (short : data.length ≤ 64) (readable : 0 ≤ usb.readCount)
    (stuck : Stuck (counted usb.spi usb.abyBuffer) data.length slot) :
    Dependable data byChecksum usb ↔ usb.readCount = 0 := by
  constructor
  · intro dependable
    exact dependable.stuck slot stuck
  · intro nothing
    rcases stuck with ⟨reached, damaged, why⟩
    refine ⟨short, readable, ⟨slot, reached.1, damaged⟩, fun _ _ => nothing, ?_⟩
    intro other roomy
    have same := reached_once _ slot other reached damaged roomy.1.1 fun recorded => roomy.1.2 recorded.signature
    subst same
    rcases why with signed | between
    · exact absurd signed roomy.1.2
    · have room := roomy.2
      omega

theorem dependable_roomy (slot : Nat) (short : data.length ≤ 64) (readable : 0 ≤ usb.readCount)
    (roomy : Roomy (counted usb.spi usb.abyBuffer) data.length slot) :
    Dependable data byChecksum usb ↔
      Transferred data byChecksum usb (recordSize * slot) (dataEnd (counted usb.spi usb.abyBuffer) slot) := by
  rcases roomy with ⟨free, room⟩
  have open_here : ¬ Recorded (counted usb.spi usb.abyBuffer) slot := fun recorded => free.2 recorded.signature
  constructor
  · intro dependable
    exact dependable.roomy slot ⟨free, room⟩
  · intro transferred
    refine ⟨short, readable, ⟨slot, free.1.1, open_here⟩, ?_, ?_⟩
    · intro other stuck
      have same := reached_once _ slot other free.1 open_here stuck.1 stuck.2.1
      subst same
      rcases stuck.2.2 with signed | between
      · exact absurd signed free.2
      · omega
    · intro other also
      have same := reached_once _ slot other free.1 open_here also.1.1 fun recorded => also.1.2 recorded.signature
      exact same ▸ transferred

theorem program_buffer_truthful (present : data ≠ []) :
    Truthful (some data) byChecksum usb (programBuffer data byChecksum usb) ↔ Dependable data byChecksum usb := by
  by_cases long : 64 < data.length
  · simp only [programBuffer, if_pos long]
    exact iff_of_false id fun dependable => absurd dependable.short (by omega)
  have short : data.length ≤ 64 := by omega
  have positive : ¬ 0 = data.length := fun empty => present (List.eq_nil_of_length_eq_zero empty.symm)
  have kept : data.length % 65536 % 256 = data.length := by omega
  by_cases failed : usb.readCount < 0
  · simp only [programBuffer, if_neg long, kept, if_neg positive, if_pos failed]
    rw [unwritten_truthful byChecksum usb _ _ _ (by simp)]
    exact iff_of_false (Int.ne_of_lt failed) fun dependable => absurd dependable.readable (by omega)
  have readable : 0 ≤ usb.readCount := by omega
  simp only [programBuffer, if_neg long, kept, if_neg positive, if_neg failed]
  by_cases some_free : ∃ slot < slots, ¬ Recorded (counted usb.spi usb.abyBuffer) slot
  · rcases reached_exists _ some_free with ⟨slot, reached, damaged⟩
    by_cases signed : Signed (counted usb.spi usb.abyBuffer) (recordSize * slot)
    · simp only [plan_damaged _ _ _ slot reached signed damaged]
      rw [unwritten_truthful byChecksum usb _ _ _ (by simp)]
      exact (dependable_stuck data byChecksum usb slot short readable ⟨reached, damaged, Or.inl signed⟩).symm
    by_cases between : dataEnd (counted usb.spi usb.abyBuffer) slot ≤ recordSize * slot ∧
        recordSize * slot ≤ dataEnd (counted usb.spi usb.abyBuffer) slot + data.length
    · simp only [plan_full _ _ _ slot ⟨reached, signed⟩ between.1 between.2]
      rw [unwritten_truthful byChecksum usb _ _ _ (by simp)]
      exact (dependable_stuck data byChecksum usb slot short readable ⟨reached, damaged, Or.inr between⟩).symm
    · have room : recordSize * slot < dataEnd (counted usb.spi usb.abyBuffer) slot ∨
          dataEnd (counted usb.spi usb.abyBuffer) slot + data.length < recordSize * slot := by omega
      simp only [plan_fits _ _ _ slot short ⟨reached, signed⟩ room]
      rw [write_and_verify_truthful]
      exact (dependable_roomy data byChecksum usb slot short readable ⟨⟨reached, signed⟩, room⟩).symm
  · have all : ∀ slot < slots, Recorded (counted usb.spi usb.abyBuffer) slot := by
      intro slot inside
      by_contra free
      exact some_free ⟨slot, inside, free⟩
    simp only [plan_outside _ _ _ all]
    exact iff_of_false id fun dependable => some_free dependable.ends

end Truth

theorem program_file_truthful_iff (file : Option (List UInt8)) (byChecksum : UInt8) (usb : Transfers) :
    Truthful file byChecksum usb (mchpProgramFile file byChecksum usb) ↔
      ∀ data, file = some data → data ≠ [] → Dependable data byChecksum usb := by
  cases file with
  | none =>
      rw [mchpProgramFile, unwritten_truthful byChecksum usb _ _ _ (by simp)]
      simp
  | some data =>
      by_cases empty : data = []
      · subst empty
        have nothing : programBuffer [] byChecksum usb = .returned FALSE [] := rfl
        rw [mchpProgramFile, nothing, unwritten_truthful byChecksum usb _ _ _ (by simp)]
        simp
      · rw [mchpProgramFile, program_buffer_truthful data byChecksum usb empty]
        constructor
        · intro dependable found same _
          injection same with same
          exact same ▸ dependable
        · intro dependable
          exact dependable data rfl empty

-- The hub is gone when the OTP is read for the first time.
def unplugged : Transfers where
  readCount := -1
  abyBuffer := blank
  byFeaturesFlag := 0
  counterCount := -1
  blockCount := -1
  recordCount := -1
  verifyCount := -1
  abyVerifyBuffer := blank

theorem failed_read_is_no_false :
    mchpProgramFile (some [0x12]) 0 unplugged = .returned (-1) [] ∧
      ¬ Truthful (some [0x12]) 0 unplugged (mchpProgramFile (some [0x12]) 0 unplugged) := by
  have returned : mchpProgramFile (some [0x12]) 0 unplugged = .returned (-1) [] := by decide
  refine ⟨returned, ?_⟩
  rw [returned, unwritten_truthful 0 unplugged _ _ _ (by simp)]
  decide

theorem write_and_verify_matches (data : List UInt8) (byChecksum : UInt8) (usb : Transfers) (header offset : Nat)
    (writes : List Written) (all : writes.length = 3) (whole : usb.verifyCount = otpSize)
    (returned : writeAndVerify data byChecksum usb header offset = .returned TRUE writes) :
    Matches data byChecksum usb header offset := by
  simp only [writeAndVerify] at returned
  split at returned
  · injection returned with _ few
    simp [← few] at all
  split at returned
  · injection returned with _ few
    simp [← few] at all
  split at returned
  · contradiction
  split at returned
  · rename_i record
    injection returned with value _
    simp only [TRUE] at value
    omega
  split at returned
  · rename_i verify
    injection returned with value _
    simp only [TRUE] at value
    omega
  split at returned
  · assumption
  · injection returned with value _
    simp [whole, otpSize, TRUE] at value

-- What a call leaves that wrote all three parts, read everything back and
-- returned TRUE is a programming step.
theorem success_programs (call : Programming) (usb : Transfers) (boots : usb.spi = call.spi) (writes : List Written)
    (all : writes.length = 3) (whole : usb.verifyCount = otpSize)
    (returned : mchpProgramFile (some call.file.bytes) call.byChecksum usb = .returned TRUE writes) :
    ∃ next, program usb.abyBuffer call = some next ∧ ∀ address < otpSize, usb.abyVerifyBuffer address = next address := by
  have sized := call.file.sized
  have short : ¬ 64 < call.file.bytes.length := by omega
  have kept : call.file.bytes.length % 65536 % 256 = call.file.bytes.length := by omega
  have positive : ¬ 0 = call.file.bytes.length := by omega
  have planned : plan usb.spi usb.abyBuffer call.file.bytes.length = call.planned usb.abyBuffer := by
    rw [boots, Programming.planned]
  simp only [mchpProgramFile, programBuffer, if_neg short, kept, if_neg positive, planned] at returned
  split at returned
  · injection returned with _ few
    simp [← few] at all
  cases placed : call.planned usb.abyBuffer with
  | outside =>
      rw [placed] at returned
      contradiction
  | refused =>
      rw [placed] at returned
      injection returned with _ few
      simp [← few] at all
  | place header offset =>
      rw [placed] at returned
      refine ⟨call.result usb.abyBuffer header offset, by simp only [program, placed], fun address inside => ?_⟩
      rw [write_and_verify_matches _ _ _ header offset writes all whole returned address inside, Transfers.expected,
        boots, Programming.result]

end SummitSom.Hub
