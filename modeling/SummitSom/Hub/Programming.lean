import SummitSom.Hub.Index
import SummitSom.Interact.Steps

set_option autoImplicit false

namespace SummitSom.Hub

open Bytes Interact

inductive Plan where
  | outside
  | refused
  | place (gwOTPHdrOffset gwOTPDataOffset : Nat)
deriving DecidableEq

-- The free space is computed with the sign of an int and compared without it.
def freeSpace (gwOTPHdrOffset gwOTPDataOffset : Nat) : Nat :=
  let wTotalIndexSize : Int := (2048 - (gwOTPHdrOffset : Int)) % 65536
  ((2048 - (gwOTPDataOffset : Int) - wTotalIndexSize) % 4294967296).toNat

-- Where MchpProgramFile puts a block of the given length and its record.
def plan (spi : Bool) (otp : Image) (wDataLength : Nat) : Plan :=
  match scanned (counted spi otp) with
  | .outside => .outside
  | .invalid => .refused
  | .free gwOTPHdrOffset gwOTPDataOffset =>
      if wDataLength ≥ freeSpace gwOTPHdrOffset gwOTPDataOffset then .refused
      else .place gwOTPHdrOffset gwOTPDataOffset

def checksumOf (byChecksum : UInt8) (data : List UInt8) : UInt8 :=
  data.foldl (fun checksum byte => checksum ^^^ byte) byChecksum

-- The buffer that is compared with the OTP at the end. MchpProgramFile does not
-- initialise byChecksum.
def programmed (spi : Bool) (byChecksum : UInt8) (otp : Image) (data : List UInt8)
    (gwOTPHdrOffset gwOTPDataOffset : Nat) : Image :=
  write (write (counted spi otp) gwOTPDataOffset data) gwOTPHdrOffset
    (recordBytes (checksumOf byChecksum data) gwOTPDataOffset data.length)

theorem free_space_clear (header offset : Nat) (clear : offset ≤ header) (inside : header ≤ otpSize) :
    freeSpace header offset = header - offset := by
  simp only [freeSpace, otpSize] at *
  omega

theorem free_space_crossed (header offset : Nat) (crossed : header < offset) (bound : offset ≤ 4096) :
    64 < freeSpace header offset := by
  simp only [freeSpace]
  omega

structure ConfigFile where
  bytes : List UInt8
  sized : 1 ≤ bytes.length ∧ bytes.length ≤ 64

structure Programming where
  file : ConfigFile
  spi : Bool
  byChecksum : UInt8

def Programming.planned (call : Programming) (otp : Image) : Plan := plan call.spi otp call.file.bytes.length

def Programming.result (call : Programming) (otp : Image) (header offset : Nat) : Image :=
  programmed call.spi call.byChecksum otp call.file.bytes header offset

-- A successful programming has read back the buffer it expected.
def program (otp : Image) (call : Programming) : Option Image :=
  match call.planned otp with
  | .place header offset => some (call.result otp header offset)
  | _ => none

def Held (otp : Image) (slot address : Nat) : Prop :=
  Within (recordSize * slot) recordSize address ∨
    Within (startAt otp (recordSize * slot)) (lengthAt otp (recordSize * slot)) address

structure Appended (before : Image) (data : List UInt8) (header offset : Nat) (after : Image) : Prop where
  inside : otpDataStartAddress ≤ offset ∧ offset + data.length ≤ otpSize
  off_blocks : ∀ slot, Listed before slot →
    Apart (startAt before (recordSize * slot)) (lengthAt before (recordSize * slot)) offset data.length
  off_records : ∀ slot, Listed before slot → Apart (recordSize * slot) recordSize offset data.length
  off_own : Apart header recordSize offset data.length
  signed : Signed after header
  start : startAt after header = offset
  length : lengthAt after header = data.length
  checksum : checksumAt after header = checksumOf 0 data
  block : ∀ index (inside : index < data.length), after (offset + index) = data[index]
  kept : ∀ slot, Listed before slot → ∀ address, 2 ≤ address → Held before slot address → after address = before address

def Kept (early late : Image) : Prop :=
  ∀ slot, Listed early slot →
    Listed late slot ∧ ∀ address, 2 ≤ address → Held early slot address → late address = early address

-- The index has an end, and below it there is room for a record that no earlier
-- block reaches into. Where the file fits as well, the bytes it goes to belong
-- to no earlier block either.
structure Suits (otp : Image) (call : Programming) (header offset : Nat) : Prop where
  clean : call.byChecksum = 0
  behind : otpDataStartAddress ≤ offset
  block_free : ∀ slot, Listed otp slot →
    Apart (startAt otp (recordSize * slot)) (lengthAt otp (recordSize * slot)) offset call.file.bytes.length
  record_free : ∀ slot, Listed otp slot →
    Apart (startAt otp (recordSize * slot)) (lengthAt otp (recordSize * slot)) header recordSize

structure Careful (otp : Image) (call : Programming) : Prop where
  ends : ∃ slot < slots, ¬ Recorded (counted call.spi otp) slot
  clear : ∀ slot, FreeSlot (counted call.spi otp) slot → dataEnd (counted call.spi otp) slot ≤ recordSize * slot
  suits : ∀ slot, FreeSlot (counted call.spi otp) slot →
    dataEnd (counted call.spi otp) slot + call.file.bytes.length < recordSize * slot →
    Suits otp call (recordSize * slot) (dataEnd (counted call.spi otp) slot)

section Same

variable (one other : Image)

theorem same_signed (header : Nat)
    (same : ∀ address, Within header recordSize address → one address = other address) :
    Signed one header ↔ Signed other header := by
  have first : one header = other header := same header (by simp only [Within, recordSize]; omega)
  have second : one (header + 1) = other (header + 1) := same _ (by simp only [Within, recordSize]; omega)
  have third : one (header + 2) = other (header + 2) := same _ (by simp only [Within, recordSize]; omega)
  simp only [Signed, first, second, third]

theorem same_fields (header : Nat) (same : ∀ address, Within (header + 4) 4 address → one address = other address) :
    startAt one header = startAt other header ∧ lengthAt one header = lengthAt other header := by
  have fourth : one (header + 4) = other (header + 4) := same _ (by simp only [Within]; omega)
  have fifth : one (header + 4 + 1) = other (header + 4 + 1) := same _ (by simp only [Within]; omega)
  have sixth : one (header + 6) = other (header + 6) := same _ (by simp only [Within]; omega)
  have seventh : one (header + 6 + 1) = other (header + 6 + 1) := same _ (by simp only [Within]; omega)
  simp only [startAt, lengthAt, hostWord, fourth, fifth, sixth, seventh, and_self]

theorem same_recorded (slot : Nat)
    (same : ∀ address, Within (recordSize * slot) recordSize address → one address = other address)
    (recorded : Recorded one slot) : Recorded other slot := by
  have fields := same_fields one other (recordSize * slot) (by
    intro address there
    apply same
    simp only [Within, recordSize] at *
    omega)
  exact ⟨(same_signed one other _ same).mp recorded.signature, fields.1 ▸ recorded.start_small,
    fields.2 ▸ recorded.length_small⟩

end Same

theorem kept_refl (image : Image) : Kept image image := fun _ listed => ⟨listed, fun _ _ _ => rfl⟩

theorem held_alike (early late : Image) (kept : Kept early late) (slot : Nat) (listed : Listed early slot) (address : Nat) :
    Held late slot address ↔ Held early slot address := by
  have same := (kept slot listed).2
  have fields := same_fields late early (recordSize * slot) (by
    intro address there
    simp only [Within, recordSize] at there
    apply same address (by omega)
    simp only [Held, Within, recordSize]
    omega)
  rw [Held, Held, fields.1, fields.2]

theorem kept_trans (early middle late : Image) (first : Kept early middle) (second : Kept middle late) :
    Kept early late := by
  intro slot listed
  rcases first slot listed with ⟨there, same⟩
  rcases second slot there with ⟨still, also⟩
  refine ⟨still, fun address above held => ?_⟩
  rw [also address above ((held_alike early middle first slot listed address).mpr held), same address above held]

section Step

variable (spi : Bool) (otp : Image)

theorem counted_record (slot : Nat) (positive : 1 ≤ slot) (address : Nat)
    (there : Within (recordSize * slot) recordSize address) : counted spi otp address = otp address := by
  apply counted_kept
  simp only [Within, recordSize] at there
  omega

theorem counted_recorded (slot : Nat) (positive : 1 ≤ slot) (recorded : Recorded otp slot) :
    Recorded (counted spi otp) slot :=
  same_recorded otp (counted spi otp) slot (fun address there => (counted_record spi otp slot positive address there).symm)
    recorded

theorem counted_reached (slot : Nat) (reached : Reached otp slot) : Reached (counted spi otp) slot :=
  ⟨reached.1, fun above higher inside => counted_recorded spi otp above (by omega) (reached.2 above higher inside)⟩

theorem counted_data_end (slot : Nat) : dataEnd (counted spi otp) slot = dataEnd otp slot := by
  have fields := same_fields (counted spi otp) otp (recordSize * (slot + 1)) (by
    intro address there
    apply counted_kept
    simp only [Within, recordSize] at there
    omega)
  rw [dataEnd, dataEnd, fields.1, fields.2]

theorem listed_above (slot : Nat) (positive : 1 ≤ slot) (free : FreeSlot (counted spi otp) slot) (listed : Nat)
    (there : Listed otp listed) : slot < listed := by
  apply listed_over otp slot free.1.1 _ listed there
  intro recorded
  exact free.2 (counted_recorded spi otp slot positive recorded).signature

theorem plan_place (length header offset : Nat) (placed : plan spi otp length = .place header offset) :
    scanned (counted spi otp) = .free header offset ∧ length < freeSpace header offset := by
  cases ended : scanned (counted spi otp) with
  | outside => simp [plan, ended] at placed
  | invalid => simp [plan, ended] at placed
  | free found next =>
      by_cases full : length ≥ freeSpace found next
      · simp [plan, ended, full] at placed
      · simp only [plan, ended, if_neg full, Plan.place.injEq] at placed
        rcases placed with ⟨rfl, rfl⟩
        exact ⟨rfl, by omega⟩

-- The plan by what the index holds.
theorem plan_outside (length : Nat) (all : ∀ slot < slots, Recorded (counted spi otp) slot) :
    plan spi otp length = .outside := by
  simp only [plan, scanned_outside _ all]

theorem plan_damaged (length slot : Nat) (reached : Reached (counted spi otp) slot)
    (signed : Signed (counted spi otp) (recordSize * slot)) (damaged : ¬ Recorded (counted spi otp) slot) :
    plan spi otp length = .refused := by
  simp only [plan, scanned_invalid _ slot reached signed damaged]

theorem slot_inside (image : Image) (slot : Nat) (reached : Reached image slot) : recordSize * slot ≤ otpSize := by
  have bound := reached.1
  simp only [recordSize, otpSize, slots] at *
  omega

theorem plan_full (length slot : Nat) (free : FreeSlot (counted spi otp) slot)
    (clear : dataEnd (counted spi otp) slot ≤ recordSize * slot)
    (full : recordSize * slot ≤ dataEnd (counted spi otp) slot + length) : plan spi otp length = .refused := by
  have space := free_space_clear _ _ clear (slot_inside _ slot free.1)
  have refused : length ≥ freeSpace (recordSize * slot) (dataEnd (counted spi otp) slot) := by omega
  simp only [plan, scanned_free _ slot free, if_pos refused]

theorem data_end_bound (image : Image) (slot : Nat) (reached : Reached image slot) : dataEnd image slot ≤ 4096 := by
  rw [dataEnd]
  split
  · decide
  · rename_i inner
    have inside := reached.1
    have recorded := reached.2 (slot + 1) (by omega) (by omega)
    have start := recorded.start_small
    have length := recorded.length_small
    omega

theorem plan_fits (length slot : Nat) (small : length ≤ 64) (free : FreeSlot (counted spi otp) slot)
    (fits : recordSize * slot < dataEnd (counted spi otp) slot ∨
      dataEnd (counted spi otp) slot + length < recordSize * slot) :
    plan spi otp length = .place (recordSize * slot) (dataEnd (counted spi otp) slot) := by
  have space : ¬ length ≥ freeSpace (recordSize * slot) (dataEnd (counted spi otp) slot) := by
    rcases fits with crossed | under
    · have wrapped := free_space_crossed _ _ crossed (data_end_bound _ slot free.1)
      omega
    · have plain := free_space_clear _ (dataEnd (counted spi otp) slot) (by omega) (slot_inside _ slot free.1)
      omega
  simp only [plan, scanned_free _ slot free, if_neg space]

end Step

section Call

variable (call : Programming) (otp : Image) (header offset : Nat)

theorem result_outside (address : Nat) (above : 2 ≤ address) (off_record : ¬ Within header recordSize address)
    (off_block : ¬ Within offset call.file.bytes.length address) :
    call.result otp header offset address = otp address := by
  have untouched := counted_kept call.spi otp address above
  rw [Programming.result, programmed, write_outside _ _ _ _ off_record, write_outside _ _ _ _ off_block, untouched]

variable (careful : Careful otp call) (placed : call.planned otp = .place header offset)

include careful placed

theorem careful_placed : ∃ slot, FreeSlot (counted call.spi otp) slot ∧ header = recordSize * slot ∧
    offset + call.file.bytes.length < header ∧ Suits otp call header offset := by
  rcases plan_place call.spi otp _ header offset placed with ⟨ended, fits⟩
  rcases free_slot_scanned _ header offset ended with ⟨slot, free, rfl, rfl⟩
  rw [free_space_clear _ _ (careful.clear slot free) (slot_inside _ slot free.1)] at fits
  have under : dataEnd (counted call.spi otp) slot + call.file.bytes.length < recordSize * slot := by omega
  exact ⟨slot, free, rfl, under, careful.suits slot free under⟩

theorem result_keeps (slot : Nat) (listed : Listed otp slot) (address : Nat) (above : 2 ≤ address)
    (held : Held otp slot address) : call.result otp header offset address = otp address := by
  rcases careful_placed call otp header offset careful placed with ⟨next, free, rfl, under, suits⟩
  have positive : 1 ≤ next := by
    simp only [recordSize] at under
    omega
  have higher := listed_above call.spi otp next positive free slot listed
  have apart : ¬ Within (recordSize * next) recordSize address ∧
      ¬ Within offset call.file.bytes.length address := by
    rcases held with record | block
    · simp only [Within, recordSize] at *
      omega
    · exact ⟨suits.record_free slot listed address block, suits.block_free slot listed address block⟩
  exact result_outside call otp _ offset address above apart.1 apart.2

theorem careful_kept : Kept otp (call.result otp header offset) := by
  rcases careful_placed call otp header offset careful placed with ⟨next, free, rfl, under, suits⟩
  have positive : 1 ≤ next := by
    simp only [recordSize] at under
    omega
  have recorded : ∀ slot, Listed otp slot → Recorded (call.result otp (recordSize * next) offset) slot := by
    intro slot listed
    have higher := listed_above call.spi otp next positive free slot listed
    apply same_recorded otp _ slot _ listed.2
    intro address there
    refine (result_keeps call otp _ offset careful placed slot listed address ?_ (Or.inl there)).symm
    simp only [Within, recordSize] at there
    omega
  intro slot listed
  refine ⟨⟨⟨listed.1.1, fun above higher inside => ?_⟩, recorded slot listed⟩, ?_⟩
  · exact recorded above (listed_of_reached otp slot listed.1 above higher inside)
  · exact result_keeps call otp _ offset careful placed slot listed

theorem careful_appended :
    Appended otp call.file.bytes header offset (call.result otp header offset) := by
  rcases careful_placed call otp header offset careful placed with ⟨slot, free, rfl, under, suits⟩
  have sized := call.file.sized
  have inside := free.1.1
  have behind := suits.behind
  simp only [recordSize, slots, otpDataStartAddress] at under inside behind
  have off_own : Apart (recordSize * slot) recordSize offset call.file.bytes.length := by
    rw [apart_iff]
    simp only [recordSize]
    omega
  constructor
  case inside =>
    simp only [otpDataStartAddress, otpSize]
    omega
  case off_blocks => exact suits.block_free
  case off_records =>
    intro listed there
    have higher := listed_above call.spi otp slot (by omega) free listed there
    rw [apart_iff]
    simp only [recordSize]
    omega
  case off_own => exact off_own
  case signed => exact record_signed _ _ _ _ _
  case start => exact record_start _ _ _ _ _ (by omega)
  case length => exact record_length _ _ _ _ _ (by omega)
  case checksum =>
    rw [← suits.clean]
    exact record_checksum _ _ _ _ _
  case block =>
    intro index bound
    have off_record : ¬ Within (recordSize * slot) recordSize (offset + index) := by
      simp only [Within, recordSize]
      omega
    rw [Programming.result, programmed, write_outside _ _ _ _ off_record, write_cell _ _ _ index bound]
  case kept => exact result_keeps call otp _ offset careful placed

end Call

theorem program_careful (otp : Image) (call : Programming) (next : Image) (careful : Careful otp call)
    (programs : program otp call = some next) : Kept otp next := by
  cases placed : call.planned otp with
  | outside => simp [program, placed] at programs
  | refused => simp [program, placed] at programs
  | place header offset =>
      simp only [program, placed, Option.some.injEq] at programs
      subst programs
      exact careful_kept call otp header offset careful placed

-- Over any number of careful programmings.
theorem careful_programming_appends (early late : Image)
    (run : Run program (fun otp call => Careful otp call) early late) (call : Programming) (careful : Careful late call) :
    Kept early late ∧ scanned (counted call.spi late) ≠ .outside ∧
      ∀ header offset, call.planned late = .place header offset →
        Appended late call.file.bytes header offset (call.result late header offset) := by
  refine ⟨?_, ?_, ?_⟩
  · apply run_keeps program _ early (Kept early) (kept_refl early) _ late run
    intro otp next event kept admitted programs
    exact kept_trans early otp next kept (program_careful otp event next admitted programs)
  · rcases reached_exists _ careful.ends with ⟨slot, reached, damaged⟩
    by_cases signed : Signed (counted call.spi late) (recordSize * slot)
    · simp [scanned_invalid _ slot reached signed damaged]
    · simp [scanned_free _ slot ⟨reached, signed⟩]
  · intro header offset placed
    exact careful_appended call late header offset careful placed

theorem careful_of_free (otp : Image) (call : Programming) (slot : Nat) (free : FreeSlot (counted call.spi otp) slot)
    (clear : dataEnd (counted call.spi otp) slot ≤ recordSize * slot)
    (suits : Suits otp call (recordSize * slot) (dataEnd (counted call.spi otp) slot)) : Careful otp call := by
  have open_here : ¬ Recorded (counted call.spi otp) slot := fun recorded => free.2 recorded.signature
  have only : ∀ other, FreeSlot (counted call.spi otp) other → slot = other := fun other also =>
    reached_once _ slot other free.1 open_here also.1 fun recorded => also.2 recorded.signature
  constructor
  case ends => exact ⟨slot, free.1.1, open_here⟩
  case clear =>
    intro other also
    exact only other also ▸ clear
  case suits =>
    intro other also _
    exact only other also ▸ suits

-- The OTP as delivered, and a first file in it.
def blank : Image := fun address => if address = 1 then 0xFF else 0

def pairFile : ConfigFile := ⟨[0x12, 0x34], by decide⟩

def pairCall : Programming := ⟨pairFile, false, 0⟩

def once : Image := pairCall.result blank 2040 2

theorem blank_free : FreeSlot (counted false blank) 255 :=
  ⟨⟨by decide, fun above higher inside => absurd inside (by simp only [slots]; omega)⟩, by decide +kernel⟩

theorem once_free : FreeSlot (counted false once) 254 := by
  refine ⟨⟨by decide, fun above higher inside => ?_⟩, by decide +kernel⟩
  obtain rfl : above = 255 := by
    simp only [slots] at inside
    omega
  decide +kernel

theorem blank_careful : Careful blank pairCall := by
  have none_listed : ∀ slot, ¬ Listed blank slot := by
    intro slot listed
    have above := listed_above false blank 255 (by decide) blank_free slot listed
    have inside := listed.1.1
    simp only [slots] at inside
    omega
  apply careful_of_free blank pairCall 255 blank_free (by decide +kernel)
  exact ⟨rfl, by decide +kernel, fun slot listed => absurd listed (none_listed slot),
    fun slot listed => absurd listed (none_listed slot)⟩

theorem once_careful : Careful once pairCall := by
  have top : ∀ slot, Listed once slot → slot = 255 := by
    intro slot listed
    have above := listed_above false once 254 (by decide) once_free slot listed
    have inside := listed.1.1
    simp only [slots] at inside
    omega
  apply careful_of_free once pairCall 254 once_free (by decide +kernel)
  constructor
  case clean => rfl
  case behind => decide +kernel
  case block_free =>
    intro slot listed
    rw [top slot listed]
    decide +kernel
  case record_free =>
    intro slot listed
    rw [top slot listed]
    decide +kernel

theorem careful_programming_appends_twice :
    Kept blank once ∧ scanned (counted false once) ≠ .outside ∧
      ∀ header offset, pairCall.planned once = .place header offset →
        Appended once [0x12, 0x34] header offset (pairCall.result once header offset) := by
  have programs : program blank pairCall = some once := by
    have placed : pairCall.planned blank = .place 2040 2 := by decide +kernel
    simp only [program, placed]
    rfl
  exact careful_programming_appends blank once
    (.next blank once pairCall .start blank_careful programs) pairCall once_careful

-- One record whose block ends inside the slot below it.
def crowded : Image := write blank 2040 (recordBytes 0 2 2031)

theorem crowded_block_in_own_record :
    pairCall.planned crowded = .place 2032 2033 ∧
      ¬ Appended crowded [0x12, 0x34] 2032 2033 (pairCall.result crowded 2032 2033) := by
  refine ⟨by decide +kernel, fun appended => ?_⟩
  have off_own := appended.off_own
  revert off_own
  decide

end SummitSom.Hub
