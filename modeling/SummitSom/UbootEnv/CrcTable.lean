import SummitSom.UbootEnv.Crc32
import SummitSom.Crc.Reflected

set_option autoImplicit false

namespace SummitSom.UbootEnv

open Crc

def POLY : BitVec 32 := 0xedb88320

-- The table-driven crc32 of zlib, with the table that it makes from the polynomial.
def crcTable : Vector (BitVec 32) 256 := Vector.ofFn fun n => bitSteps POLY 8 (BitVec.ofNat 32 n)

def tableByte (crc : BitVec 32) (byte : UInt8) : BitVec 32 :=
  crcTable.get ((crc ^^^ byte.toBitVec.setWidth 32).setWidth 8).toFin ^^^ (crc >>> 8)

def tableCrc32 (crc : BitVec 32) (buf : List UInt8) : BitVec 32 :=
  buf.foldl tableByte (crc ^^^ 0xffffffff) ^^^ 0xffffffff

theorem lowest_bit (crc : BitVec 32) : crc &&& 1 ≠ 0 ↔ crc.getLsbD 0 = true := by
  have masked : crc &&& 1 = (BitVec.ofBool (crc.getLsbD 0)).setWidth 32 := BitVec.and_one_eq_setWidth_ofBool_getLsbD
  rw [masked]
  cases crc.getLsbD 0 with
  | true => decide
  | false => decide

theorem crc_bit_step (crc : BitVec 32) : crcBit crc = bitStep POLY crc := if_congr (lowest_bit crc) rfl rfl

theorem crc_bits_steps (k : Nat) (crc : BitVec 32) : crcBits k crc = bitSteps POLY k crc := by
  induction k generalizing crc with
  | zero => rfl
  | succ k ih => rw [crcBits, bitSteps, ih, crc_bit_step]

theorem table_entry (index : BitVec 8) : crcTable.get index.toFin = bitSteps POLY 8 (index.setWidth 32) := by
  have entry : crcTable.get index.toFin = bitSteps POLY 8 (BitVec.ofNat 32 index.toNat) :=
    Vector.getElem_ofFn index.toFin.isLt
  rw [entry, BitVec.ofNat_toNat]

theorem high_of_byte (byte : UInt8) : byte.toBitVec.setWidth 32 >>> 8 = 0 := by
  apply BitVec.eq_of_getLsbD_eq
  intro i _
  rw [BitVec.getLsbD_ushiftRight, BitVec.getLsbD_setWidth, BitVec.getLsbD_of_ge byte.toBitVec _ (by omega), Bool.and_false]
  exact BitVec.getLsbD_zero.symm

theorem crc_byte_table (crc : BitVec 32) (byte : UInt8) : crcByte crc byte = tableByte crc byte := by
  rw [crcByte, crc_bits_steps, bit_steps_table, tableByte, table_entry, low, BitVec.ushiftRight_xor_distrib, high_of_byte]
  exact congrArg _ (BitVec.xor_zero)

-- The crc32 of the patch is that of zlib, in one call and over several.
theorem crc32_table_driven (crc : BitVec 32) (front back : List UInt8) :
    crc32 crc front = tableCrc32 crc front ∧ crc32 (crc32 crc front) back = crc32 crc (front ++ back) := by
  have bytes : crcByte = tableByte := funext fun crc => funext (crc_byte_table crc)
  have complement (value : BitVec 32) : ~~~value = value ^^^ 0xffffffff := (BitVec.xor_allOnes).symm
  constructor
  · rw [crc32, tableCrc32, bytes, complement, complement]
  · exact crc32_append crc front back

-- The check value of the standard for the digits 1 to 9.
example : crc32 0 [0x31, 0x32, 0x33, 0x34, 0x35, 0x36, 0x37, 0x38, 0x39] = 0xcbf43926 := by decide +kernel

end SummitSom.UbootEnv
