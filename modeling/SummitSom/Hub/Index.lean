import SummitSom.Hub.Otp

set_option autoImplicit false

namespace SummitSom.Hub

open Bytes

def otpSize : Nat := 2048

def recordSize : Nat := 8

def slots : Nat := 256

def otpDataStartAddress : Nat := 2

inductive Scan where
  | outside
  | invalid
  | free (gwOTPHdrOffset gwOTPDataOffset : Nat)
deriving DecidableEq

-- The walk down the index from its highest slot. Below slot 0 it reads in front
-- of the buffer.
def scanIndex (image : Image) : Nat → Nat → Scan
  | 0, _ => .outside
  | slot + 1, gwOTPDataOffset =>
      if Signed image (recordSize * slot) then
        if startAt image (recordSize * slot) > 0x0800 ∨ lengthAt image (recordSize * slot) > 0x0800 then .invalid
        else scanIndex image slot (startAt image (recordSize * slot) + lengthAt image (recordSize * slot))
      else .free (recordSize * slot) gwOTPDataOffset

def scanned (image : Image) : Scan := scanIndex image slots otpDataStartAddress

-- What the index of an image says, in its own terms.
structure Recorded (image : Image) (slot : Nat) : Prop where
  signature : Signed image (recordSize * slot)
  start_small : startAt image (recordSize * slot) ≤ 0x0800
  length_small : lengthAt image (recordSize * slot) ≤ 0x0800

instance (image : Image) (slot : Nat) : Decidable (Recorded image slot) :=
  decidable_of_iff
    (Signed image (recordSize * slot) ∧ startAt image (recordSize * slot) ≤ 0x0800 ∧
      lengthAt image (recordSize * slot) ≤ 0x0800)
    ⟨fun parts => ⟨parts.1, parts.2.1, parts.2.2⟩, fun it => ⟨it.signature, it.start_small, it.length_small⟩⟩

def Reached (image : Image) (slot : Nat) : Prop :=
  slot < slots ∧ ∀ above, slot < above → above < slots → Recorded image above

def Listed (image : Image) (slot : Nat) : Prop := Reached image slot ∧ Recorded image slot

def FreeSlot (image : Image) (slot : Nat) : Prop := Reached image slot ∧ ¬ Signed image (recordSize * slot)

-- Where the block of the record above a slot ends.
def dataEnd (image : Image) (slot : Nat) : Nat :=
  if slot + 1 = slots then otpDataStartAddress
  else startAt image (recordSize * (slot + 1)) + lengthAt image (recordSize * (slot + 1))

theorem scan_recorded (image : Image) (slot offset : Nat) (recorded : Recorded image slot) :
    scanIndex image (slot + 1) offset =
      scanIndex image slot (startAt image (recordSize * slot) + lengthAt image (recordSize * slot)) := by
  have small : ¬ (startAt image (recordSize * slot) > 0x0800 ∨ lengthAt image (recordSize * slot) > 0x0800) := by
    have start := recorded.start_small
    have length := recorded.length_small
    omega
  rw [scanIndex, if_pos recorded.signature, if_neg small]

theorem scan_reaches (image : Image) (slot : Nat) (reached : Reached image slot) :
    scanned image = scanIndex image (slot + 1) (dataEnd image slot) := by
  -- Downwards from the top, one recorded slot after the other.
  obtain ⟨depth, rest⟩ : ∃ depth, slot + 1 + depth = slots := ⟨slots - (slot + 1), by have := reached.1; omega⟩
  induction depth generalizing slot with
  | zero =>
      have top : slot + 1 = slots := rest
      rw [dataEnd, if_pos top, top, scanned]
  | succ depth ih =>
      have higher : Reached image (slot + 1) :=
        ⟨by omega, fun above more inside => reached.2 above (by omega) inside⟩
      have recorded := reached.2 (slot + 1) (by omega) higher.1
      rw [ih (slot + 1) higher (by omega), scan_recorded image (slot + 1) _ recorded, dataEnd, if_neg (by omega)]

theorem reached_below (image : Image) (slot : Nat) (listed : Listed image (slot + 1)) : Reached image slot := by
  rcases listed with ⟨⟨inside, above⟩, recorded⟩
  refine ⟨by omega, fun other higher small => ?_⟩
  by_cases same : other = slot + 1
  · exact same ▸ recorded
  · exact above other (by omega) small

theorem listed_of_reached (image : Image) (slot : Nat) (reached : Reached image slot) (listed : Nat)
    (above : slot < listed) (inside : listed < slots) : Listed image listed :=
  ⟨⟨inside, fun more further => reached.2 more (by omega)⟩, reached.2 listed above inside⟩

theorem listed_over (image : Image) (slot : Nat) (inside : slot < slots) (free : ¬ Recorded image slot) (listed : Nat)
    (there : Listed image listed) : slot < listed := by
  by_contra under
  by_cases same : listed = slot
  · exact free (same ▸ there.2)
  · exact free (there.1.2 slot (by omega) inside)

-- The scan of an image by what its index holds: all slots, a damaged record or
-- a free slot behind the recorded ones.
theorem scanned_free (image : Image) (slot : Nat) (free : FreeSlot image slot) :
    scanned image = .free (recordSize * slot) (dataEnd image slot) := by
  rw [scan_reaches image slot free.1, scanIndex, if_neg free.2]

theorem scanned_invalid (image : Image) (slot : Nat) (reached : Reached image slot)
    (signed : Signed image (recordSize * slot)) (damaged : ¬ Recorded image slot) : scanned image = .invalid := by
  have large : startAt image (recordSize * slot) > 0x0800 ∨ lengthAt image (recordSize * slot) > 0x0800 := by
    by_contra small
    exact damaged ⟨signed, by omega, by omega⟩
  rw [scan_reaches image slot reached, scanIndex, if_pos signed, if_pos large]

theorem scanned_outside (image : Image) (all : ∀ slot < slots, Recorded image slot) : scanned image = .outside := by
  have bottom : Listed image 0 := ⟨⟨by decide, fun above _ inside => all above inside⟩, all 0 (by decide)⟩
  rw [scan_reaches image 0 bottom.1, scan_recorded image 0 _ bottom.2, scanIndex]

theorem reached_exists (image : Image) (some_free : ∃ slot < slots, ¬ Recorded image slot) :
    ∃ slot, Reached image slot ∧ ¬ Recorded image slot := by
  by_contra none_free
  rcases some_free with ⟨slot, inside, free⟩
  have listed : ∀ depth, depth < slots → Listed image (slots - 1 - depth) := by
    intro depth bound
    have reached : Reached image (slots - 1 - depth) := by
      induction depth with
      | zero => exact ⟨by decide, fun above more small => by simp only [slots] at *; omega⟩
      | succ depth ih =>
          have higher := ih (by omega)
          have recorded : Recorded image (slots - 1 - depth) := by
            by_contra free
            exact none_free ⟨_, higher, free⟩
          have next : slots - 1 - depth = slots - 1 - (depth + 1) + 1 := by omega
          exact reached_below image _ (next ▸ ⟨higher, recorded⟩)
    refine ⟨reached, ?_⟩
    by_contra free
    exact none_free ⟨_, reached, free⟩
  have recorded := (listed (slots - 1 - slot) (by omega)).2
  rw [Nat.sub_sub_self (by omega)] at recorded
  exact free recorded

theorem free_slot_scanned (image : Image) (header offset : Nat) (ended : scanned image = .free header offset) :
    ∃ slot, FreeSlot image slot ∧ header = recordSize * slot ∧ offset = dataEnd image slot := by
  by_cases some_free : ∃ slot < slots, ¬ Recorded image slot
  · rcases reached_exists image some_free with ⟨slot, reached, damaged⟩
    by_cases signed : Signed image (recordSize * slot)
    · rw [scanned_invalid image slot reached signed damaged] at ended
      contradiction
    · rw [scanned_free image slot ⟨reached, signed⟩] at ended
      injection ended with same also
      exact ⟨slot, ⟨reached, signed⟩, same.symm, also.symm⟩
  · have all : ∀ slot < slots, Recorded image slot := by
      intro slot inside
      by_contra free
      exact some_free ⟨slot, inside, free⟩
    rw [scanned_outside image all] at ended
    contradiction

theorem reached_once (image : Image) (slot other : Nat) (reached : Reached image slot) (free : ¬ Recorded image slot)
    (also : Reached image other) (open_there : ¬ Recorded image other) : slot = other := by
  rcases Nat.lt_trichotomy slot other with below | same | above
  · exact absurd (reached.2 other below also.1) open_there
  · exact same
  · exact absurd (also.2 slot above reached.1) free

end SummitSom.Hub
