import SummitSom.Hub.Programming

set_option autoImplicit false

namespace SummitSom.Hub

open Bytes Interact

-- An OTP that only this code has written: the blocks grow from below, the index
-- from above, and what lies between is erased.
structure Grown (otp : Image) (slot : Nat) : Prop where
  reached : Reached otp slot
  behind : otpDataStartAddress ≤ dataEnd otp slot
  clear : dataEnd otp slot ≤ recordSize * slot
  blocks : ∀ listed, Listed otp listed →
    startAt otp (recordSize * listed) + lengthAt otp (recordSize * listed) ≤ dataEnd otp slot
  erased : ∀ address, dataEnd otp slot ≤ address → address < recordSize * (slot + 1) → otp address = 0

-- A file that leaves room for the record of the next one.
structure Tidy (otp : Image) (call : Programming) : Prop where
  clean : call.byChecksum = 0
  leaves : ∀ slot, FreeSlot otp slot → dataEnd otp slot + call.file.bytes.length + recordSize ≤ recordSize * slot

theorem erased_unsigned (image : Image) (header : Nat) (erased : image header = 0) : ¬ Signed image header := by
  intro signed
  have letter := signed.1
  rw [erased] at letter
  exact absurd letter (by decide)

section Grown

variable (otp : Image) (slot : Nat) (grown : Grown otp slot)

include grown

theorem grown_positive : 1 ≤ slot := by
  have behind := grown.behind
  have clear := grown.clear
  simp only [otpDataStartAddress, recordSize] at behind clear
  omega

theorem grown_free : FreeSlot otp slot := by
  refine ⟨grown.reached, erased_unsigned otp _ (grown.erased _ grown.clear ?_)⟩
  simp only [recordSize]
  omega

theorem counted_free (spi : Bool) : FreeSlot (counted spi otp) slot := by
  have positive := grown_positive otp slot grown
  refine ⟨counted_reached spi otp slot grown.reached, fun signed => (grown_free otp slot grown).2 ?_⟩
  exact (same_signed _ _ _ (counted_record spi otp slot positive)).mp signed

theorem grown_careful (call : Programming) (clean : call.byChecksum = 0) : Careful otp call := by
  have ending := counted_data_end call.spi otp slot
  apply careful_of_free otp call slot (counted_free otp slot grown call.spi)
  · rw [ending]
    exact grown.clear
  · rw [ending]
    have clear := grown.clear
    have apart (listed : Nat) (there : Listed otp listed) (start size : Nat) (above : dataEnd otp slot ≤ start) :
        Apart (startAt otp (recordSize * listed)) (lengthAt otp (recordSize * listed)) start size := by
      have below := grown.blocks listed there
      rw [apart_iff]
      omega
    exact ⟨clean, grown.behind, fun listed there => apart listed there _ _ (Nat.le_refl _),
      fun listed there => apart listed there _ _ clear⟩

theorem tidy_planned (call : Programming) (tidy : Tidy otp call) :
    call.planned otp = .place (recordSize * slot) (dataEnd otp slot) := by
  have leaves := tidy.leaves slot (grown_free otp slot grown)
  have under : dataEnd (counted call.spi otp) slot + call.file.bytes.length < recordSize * slot := by
    rw [counted_data_end call.spi otp slot]
    simp only [recordSize] at *
    omega
  rw [Programming.planned, plan_fits call.spi otp _ slot call.file.sized.2 (counted_free otp slot grown call.spi)
    (Or.inr under), counted_data_end call.spi otp slot]

end Grown

def tidied (otp : Image) (slot : Nat) (call : Programming) : Image :=
  call.result otp (recordSize * (slot + 1)) (dataEnd otp (slot + 1))

-- A tidy programming takes the free slot and leaves the one below it free.
section Next

variable (otp : Image) (slot : Nat) (grown : Grown otp (slot + 1)) (call : Programming) (tidy : Tidy otp call)

include grown tidy

theorem tidied_appended : Appended otp call.file.bytes (recordSize * (slot + 1)) (dataEnd otp (slot + 1)) (tidied otp slot call) :=
  careful_appended call otp _ _ (grown_careful otp (slot + 1) grown call tidy.clean)
    (tidy_planned otp (slot + 1) grown call tidy)

theorem tidied_kept : Kept otp (tidied otp slot call) :=
  careful_kept call otp _ _ (grown_careful otp (slot + 1) grown call tidy.clean)
    (tidy_planned otp (slot + 1) grown call tidy)

theorem tidied_fits : dataEnd otp (slot + 1) + call.file.bytes.length ≤ recordSize * slot ∧ recordSize * slot < otpSize := by
  have leaves := tidy.leaves (slot + 1) (grown_free otp (slot + 1) grown)
  have inside := grown.reached.1
  simp only [recordSize, slots, otpSize] at *
  omega

theorem tidied_data_end : dataEnd (tidied otp slot call) slot = dataEnd otp (slot + 1) + call.file.bytes.length := by
  have appended := tidied_appended otp slot grown call tidy
  have inside := grown.reached.1
  rw [dataEnd, if_neg (by omega), appended.start, appended.length]

theorem tidied_erased (address : Nat) (low : dataEnd (tidied otp slot call) slot ≤ address)
    (high : address < recordSize * (slot + 1)) : tidied otp slot call address = 0 := by
  have behind := grown.behind
  rw [tidied_data_end otp slot grown call tidy] at low
  simp only [otpDataStartAddress] at behind
  have same : tidied otp slot call address = otp address := by
    apply result_outside call otp _ _ address (by omega)
    · simp only [Within]
      omega
    · simp only [Within]
      omega
  rw [same]
  apply grown.erased address (by omega)
  simp only [recordSize] at *
  omega

theorem tidied_reached : Reached (tidied otp slot call) slot := by
  have appended := tidied_appended otp slot grown call tidy
  have fits := tidied_fits otp slot grown call tidy
  have small := call.file.sized
  have inside := grown.reached.1
  refine ⟨by omega, fun above higher bound => ?_⟩
  by_cases own : above = slot + 1
  · subst own
    simp only [otpSize] at fits
    refine ⟨appended.signed, ?_, ?_⟩
    · rw [appended.start]
      omega
    · rw [appended.length]
      omega
  · have listed := listed_of_reached otp (slot + 1) grown.reached above (by omega) bound
    exact (tidied_kept otp slot grown call tidy above listed).1.2

theorem tidied_clear : dataEnd (tidied otp slot call) slot ≤ recordSize * slot := by
  rw [tidied_data_end otp slot grown call tidy]
  exact (tidied_fits otp slot grown call tidy).1

theorem tidied_unrecorded : ¬ Recorded (tidied otp slot call) slot := by
  intro below
  have clear := tidied_clear otp slot grown call tidy
  refine erased_unsigned _ _ (tidied_erased otp slot grown call tidy _ clear ?_) below.signature
  simp only [recordSize]
  omega

theorem tidied_blocks (listed : Nat) (there : Listed (tidied otp slot call) listed) :
    startAt (tidied otp slot call) (recordSize * listed) + lengthAt (tidied otp slot call) (recordSize * listed) ≤
      dataEnd (tidied otp slot call) slot := by
  have appended := tidied_appended otp slot grown call tidy
  have reached := tidied_reached otp slot grown call tidy
  have higher := listed_over _ slot reached.1 (tidied_unrecorded otp slot grown call tidy) listed there
  rw [tidied_data_end otp slot grown call tidy]
  by_cases own : listed = slot + 1
  · subst own
    have start := appended.start
    have length := appended.length
    omega
  · have old := listed_of_reached otp (slot + 1) grown.reached listed (by omega) there.1.1
    have same := same_fields (tidied otp slot call) otp (recordSize * listed) (by
      intro address held
      simp only [Within, recordSize] at held
      apply (tidied_kept otp slot grown call tidy listed old).2 address (by omega)
      simp only [Held, Within, recordSize]
      omega)
    have block := grown.blocks listed old
    rw [same.1, same.2]
    omega

theorem tidy_grows : Grown (tidied otp slot call) slot := by
  constructor
  case reached => exact tidied_reached otp slot grown call tidy
  case behind =>
    have behind := grown.behind
    rw [tidied_data_end otp slot grown call tidy]
    omega
  case clear => exact tidied_clear otp slot grown call tidy
  case blocks => exact tidied_blocks otp slot grown call tidy
  case erased => exact tidied_erased otp slot grown call tidy

end Next

theorem blank_grown : Grown blank 255 := by
  have free := blank_free
  refine ⟨⟨by decide, fun above higher inside => absurd inside (by simp only [slots]; omega)⟩, by decide, by decide, ?_, ?_⟩
  · intro listed there
    have higher := listed_above false blank 255 (by decide) free listed there
    have inside := there.1.1
    simp only [slots] at inside
    omega
  · intro address low _
    have bottom : dataEnd blank 255 = 2 := by decide
    rw [bottom] at low
    simp only [blank, if_neg (by omega : ¬ address = 1)]

-- Starting from an OTP as delivered, only a file that leaves less than the eight
-- bytes of a record can end the series.
theorem tidy_programmings_careful (late : Image) (run : Run program Tidy blank late) (call : Programming)
    (clean : call.byChecksum = 0) : Careful late call := by
  have grown : ∃ slot, Grown late slot := by
    apply run_keeps program Tidy blank (fun otp => ∃ slot, Grown otp slot) ⟨255, blank_grown⟩ _ late run
    rintro otp next event ⟨slot, grown⟩ tidy programs
    have planned := tidy_planned otp slot grown event tidy
    simp only [program, planned, Option.some.injEq] at programs
    subst programs
    cases slot with
    | zero => exact absurd (grown_positive otp 0 grown) (by decide)
    | succ slot => exact ⟨slot, tidy_grows otp slot grown event tidy⟩
  rcases grown with ⟨slot, grown⟩
  exact grown_careful late slot grown call clean

end SummitSom.Hub
