import SummitSom.Bytes.Memory

set_option autoImplicit false

namespace SummitSom.Hub

open Bytes

def FALSE : Int := 0

def TRUE : Int := 1

abbrev Image := Memory UInt8

def calculateNumberOfOnes (word : Nat) : Nat :=
  if word = 0 then 0 else calculateNumberOfOnes (word &&& (word - 1)) + 1
termination_by word
decreasing_by
  have below : word &&& (word - 1) ≤ word - 1 := Nat.and_le_right
  omega

def setWord (otp : Image) (high low : UInt8) : Image := write otp 0 [high, low]

-- The count of programmings in the first two bytes: a hub that boots from SPI
-- clears a bit of the word for each of them, one that boots from ROM sets a bit
-- of the word whose low byte is stored inverted.
def counted (spi : Bool) (otp : Image) : Image :=
  if spi then
    let wConfigBytes : BitVec 16 := (otp 0).toBitVec ++ (otp 1).toBitVec
    let wNumberOfOnes := 16 - calculateNumberOfOnes wConfigBytes.toNat
    let word := wConfigBytes &&& ~~~(1#16 <<< wNumberOfOnes)
    setWord otp (UInt8.ofBitVec (word.extractLsb' 8 8)) (UInt8.ofBitVec (word.extractLsb' 0 8))
  else
    let wConfigBytes : BitVec 16 := (otp 0).toBitVec ++ (otp 1 ^^^ 0xFF).toBitVec
    let word := wConfigBytes ||| (1#16 <<< calculateNumberOfOnes wConfigBytes.toNat)
    setWord otp (UInt8.ofBitVec (word.extractLsb' 8 8)) (UInt8.ofBitVec (word.extractLsb' 0 8) ^^^ 0xFF)

theorem counted_kept (spi : Bool) (otp : Image) (address : Nat) (above : 2 ≤ address) :
    counted spi otp address = otp address := by
  have outside : ¬ Within 0 2 address := by
    simp only [Within]
    omega
  cases spi <;> exact write_outside otp 0 _ address outside

-- BIG_ENDIAN_WORD, which swaps the halves of a word of the host.
def bigEndianWord (word : Nat) : Nat := word % 256 * 256 + word / 256 % 256

def hostWord (image : Image) (address : Nat) : Nat := (image address).toNat + 256 * (image (address + 1)).toNat

def hostBytes (word : Nat) : List UInt8 := [UInt8.ofNat word, UInt8.ofNat (word / 256)]

-- OTP_CFG_CHECKSUM_A1, packed.
def recordBytes (abyXORChecksum : UInt8) (wCfgStartOffset wCfgLength : Nat) : List UInt8 :=
  [0x49, 0x44, 0x58, abyXORChecksum] ++ hostBytes (bigEndianWord wCfgStartOffset) ++
    hostBytes (bigEndianWord wCfgLength)

def Signed (image : Image) (header : Nat) : Prop :=
  image header = 0x49 ∧ image (header + 1) = 0x44 ∧ image (header + 2) = 0x58

instance (image : Image) (header : Nat) : Decidable (Signed image header) :=
  inferInstanceAs (Decidable (_ ∧ _))

def checksumAt (image : Image) (header : Nat) : UInt8 := image (header + 3)

def startAt (image : Image) (header : Nat) : Nat := bigEndianWord (hostWord image (header + 4))

def lengthAt (image : Image) (header : Nat) : Nat := bigEndianWord (hostWord image (header + 6))

theorem host_word_written (image : Image) (start : Nat) (before after : List UInt8) (word : Nat) (fits : word < 65536) :
    hostWord (write image start (before ++ hostBytes word ++ after)) (start + before.length) = word := by
  have low := write_cell image start (before ++ hostBytes word ++ after) before.length (by simp [hostBytes])
  have high := write_cell image start (before ++ hostBytes word ++ after) (before.length + 1) (by simp [hostBytes])
  rw [hostWord, low, Nat.add_assoc start, high]
  simp only [hostBytes, List.append_assoc, List.getElem_append_right (Nat.le_refl _), Nat.sub_self, List.cons_append,
    List.getElem_cons_zero, List.getElem_append_right (Nat.le_add_right _ _), Nat.add_sub_cancel_left,
    List.getElem_cons_succ, UInt8.toNat_ofNat']
  omega

theorem big_endian_twice (word : Nat) (fits : word < 65536) : bigEndianWord (bigEndianWord word) = word := by
  have lower : (word % 256 * 256 + word / 256 % 256) % 256 = word / 256 := by omega
  have upper : (word % 256 * 256 + word / 256 % 256) / 256 = word % 256 := by omega
  simp only [bigEndianWord, lower, upper]
  omega

theorem big_endian_fits (word : Nat) : bigEndianWord word < 65536 := by
  simp only [bigEndianWord]
  omega

section Record

variable (image : Image) (header : Nat) (checksum : UInt8) (start length : Nat)

theorem record_signed : Signed (write image header (recordBytes checksum start length)) header := by
  have first := write_cell image header (recordBytes checksum start length) 0 (by simp [recordBytes, hostBytes])
  have second := write_cell image header (recordBytes checksum start length) 1 (by simp [recordBytes, hostBytes])
  have third := write_cell image header (recordBytes checksum start length) 2 (by simp [recordBytes, hostBytes])
  exact ⟨first, second, third⟩

theorem record_checksum : checksumAt (write image header (recordBytes checksum start length)) header = checksum :=
  write_cell image header (recordBytes checksum start length) 3 (by simp [recordBytes, hostBytes])

theorem record_start (fits : start < 65536) :
    startAt (write image header (recordBytes checksum start length)) header = start := by
  have stored := host_word_written image header [0x49, 0x44, 0x58, checksum] (hostBytes (bigEndianWord length))
    (bigEndianWord start) (big_endian_fits start)
  exact (congrArg bigEndianWord stored).trans (big_endian_twice start fits)

theorem record_length (fits : length < 65536) :
    lengthAt (write image header (recordBytes checksum start length)) header = length := by
  have stored := host_word_written image header
    ([0x49, 0x44, 0x58, checksum] ++ hostBytes (bigEndianWord start)) [] (bigEndianWord length) (big_endian_fits length)
  rw [List.append_nil] at stored
  exact (congrArg bigEndianWord stored).trans (big_endian_twice length fits)

end Record

end SummitSom.Hub
