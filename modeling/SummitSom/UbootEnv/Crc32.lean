import Mathlib.Tactic.Common

set_option autoImplicit false

namespace SummitSom.UbootEnv

def crcBit (crc : BitVec 32) : BitVec 32 := if crc &&& 1 ≠ 0 then (crc >>> 1) ^^^ 0xedb88320 else crc >>> 1

def crcBits : Nat → BitVec 32 → BitVec 32
  | 0, crc => crc
  | k + 1, crc => crcBits k (crcBit crc)

def crcByte (crc : BitVec 32) (byte : UInt8) : BitVec 32 := crcBits 8 (crc ^^^ byte.toBitVec.setWidth 32)

def crc32 (crc : BitVec 32) (buf : List UInt8) : BitVec 32 := ~~~(buf.foldl crcByte (~~~crc))

theorem crc32_append (crc : BitVec 32) (front back : List UInt8) :
    crc32 (crc32 crc front) back = crc32 crc (front ++ back) := by
  simp only [crc32, List.foldl_append, BitVec.not_not]

end SummitSom.UbootEnv
