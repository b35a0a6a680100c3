import SummitSom.Crc.Burst
import SummitSom.UbootEnv.CrcTable
import SummitSom.UbootEnv.Store

set_option autoImplicit false

namespace SummitSom.UbootEnv

open Crc

-- Bit k of a buffer, the bits of each byte taken least significant first.
def bufBit (buf : List UInt8) (k : Nat) : Bool := (buf.getD (k / 8) 0).toBitVec.getLsbD (k % 8)

def bufWords (buf : List UInt8) : List (BitVec 8) := buf.map UInt8.toBitVec

theorem buf_words_bit (buf : List UInt8) (k : Nat) : wordBit (bufWords buf) k = bufBit buf k := by
  rw [wordBit, bufWords, bufBit, List.getD_eq_getElem?_getD, List.getElem?_map, List.getD_eq_getElem?_getD]
  cases buf[k / 8]? with
  | none => rfl
  | some byte => rfl

theorem buf_words_injective (left right : List UInt8) (same : bufWords left = bufWords right) : left = right :=
  (List.map_inj_right fun _ _ => UInt8.toBitVec_inj.mp).mp same

theorem buf_bit_past (buf : List UInt8) (k : Nat) (past : 8 * buf.length ≤ k) : bufBit buf k = false := by
  have none : buf[k / 8]? = none := List.getElem?_eq_none (by omega)
  rw [bufBit, List.getD_eq_getElem?_getD, none]
  exact BitVec.getLsbD_zero

theorem buf_burst_below (width start : Nat) (left right : List UInt8) :
    (∀ k, k < 8 * (left.length + right.length) → bufBit left k ≠ bufBit right k → start ≤ k ∧ k < start + width) ↔
      Burst width start (bufBit left) (bufBit right) := by
  constructor
  · intro below k apart
    by_cases inside : k < 8 * (left.length + right.length)
    · exact below k inside apart
    · have silent := (buf_bit_past left k (by omega)).trans (buf_bit_past right k (by omega)).symm
      exact absurd silent apart
  · intro burst k _ apart
    exact burst k apart

instance (width start : Nat) (left right : List UInt8) : Decidable (Burst width start (bufBit left) (bufBit right)) :=
  decidable_of_iff _ (buf_burst_below width start left right)

theorem crc_byte_feed (crc : BitVec 32) (byte : UInt8) : crcByte crc byte = feedWord POLY crc byte.toBitVec := by
  rw [crcByte, crc_bits_steps, feedWord]

theorem crc_fold_feed (crc : BitVec 32) (buf : List UInt8) :
    buf.foldl crcByte crc = (bufWords buf).foldl (feedWord POLY) crc := by
  have bytes : crcByte = fun crc byte => feedWord POLY crc (UInt8.toBitVec byte) :=
    funext fun crc => funext (crc_byte_feed crc)
  rw [bufWords, List.foldl_map, bytes]

theorem crc_fold_differs (crc : BitVec 32) (left right : List UInt8) (length : left.length = right.length)
    (differ : left ≠ right) (start : Nat) (burst : Burst 32 start (bufBit left) (bufBit right)) :
    left.foldl crcByte crc ≠ right.foldl crcByte crc := by
  have lengths : (bufWords left).length = (bufWords right).length := by
    rw [bufWords, bufWords, List.length_map, List.length_map, length]
  rw [crc_fold_feed, crc_fold_feed]
  have different : bufWords left ≠ bufWords right := mt (buf_words_injective left right) differ
  apply burst_changes_words POLY (by decide) (by decide) (by decide) crc _ _ lengths different start
  intro k apart
  rw [buf_words_bit, buf_words_bit] at apart
  exact burst k apart

-- A burst of at most 32 bits, wherever it begins, changes the checksum.
theorem crc32_detects_burst (crc : BitVec 32) (left right : List UInt8) (length : left.length = right.length)
    (differ : left ≠ right) (start : Nat) (burst : Burst 32 start (bufBit left) (bufBit right)) :
    crc32 crc left ≠ crc32 crc right := by
  intro same
  exact crc_fold_differs (~~~crc) left right length differ start burst (BitVec.not_inj.mp same)

theorem crc32_detects_burst_across_bytes :
    crc32 0x1234 [0x61, 0x3d, 0x31, 0x00, 0x62, 0x3d] ≠ crc32 0x1234 [0x61, 0xfd, 0xce, 0xff, 0x9d, 0x02] :=
  crc32_detects_burst 0x1234 _ _ rfl (by decide) 14 (by decide +kernel)

-- One bit more and the burst can be the polynomial itself.
example : crc32 0 [0x00, 0x00, 0x00, 0x00, 0x00] = crc32 0 [0x41, 0x06, 0x71, 0xdb, 0x01] := by decide +kernel

-- What libuboot_load makes of a copy that was valid before a burst hit its data.
theorem burst_copy_refused (fmt : EnvFormat) (old new : Area) (valid : fmt.crcenv old = true)
    (kept : fmt.crc new = fmt.crc old) (differ : fmt.data old ≠ fmt.data new) (start : Nat)
    (burst : Burst 32 start (bufBit (fmt.data old)) (bufBit (fmt.data new))) : fmt.crcenv new = false := by
  have length : (fmt.data old).length = (fmt.data new).length := by
    rw [EnvFormat.data, EnvFormat.data, List.length_map, List.length_map]
  have changed := crc_fold_differs (~~~0) (fmt.data old) (fmt.data new) length differ start burst
  rw [EnvFormat.crcenv, beq_iff_eq] at valid
  rw [EnvFormat.crcenv, beq_eq_false_iff_ne, kept, ← valid]
  intro same
  exact changed (BitVec.not_inj.mp same).symm

end SummitSom.UbootEnv
