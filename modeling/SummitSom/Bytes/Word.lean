import SummitSom.Bytes.Memory
import Mathlib.Tactic.IntervalCases

set_option autoImplicit false

namespace Bytes

-- A word of 32 bits and its bytes, the least significant one first.
def byteOf (word : BitVec 32) (index : Nat) : BitVec 8 := word.extractLsb' (8 * index) 8

def wordOf (bytes : Memory (BitVec 8)) : BitVec 32 :=
  (bytes 0).setWidth 32 ||| (bytes 1).setWidth 32 <<< 8 ||| (bytes 2).setWidth 32 <<< 16 ||| (bytes 3).setWidth 32 <<< 24

def swapped (word : BitVec 32) : BitVec 32 :=
  (word <<< 24) ||| ((word &&& 0xFF00#32) <<< 8) ||| ((word &&& 0xFF0000#32) >>> 8) ||| ((word &&& 0xFF000000#32) >>> 24)

theorem byte_of_word (bytes : Memory (BitVec 8)) (index : Nat) (inside : index < 4) :
    byteOf (wordOf bytes) index = bytes index := by
  ext place small
  interval_cases index <;> interval_cases place <;> simp [byteOf, wordOf]

theorem byte_swapped (word : BitVec 32) (index : Nat) (inside : index < 4) :
    byteOf (swapped word) index = byteOf word (3 - index) := by
  ext place small
  interval_cases index <;> interval_cases place <;> simp [byteOf, swapped]

theorem byte_or (one other : BitVec 32) (index : Nat) : byteOf (one ||| other) index = byteOf one index ||| byteOf other index := by
  ext place small
  simp [byteOf]

theorem byte_and (one other : BitVec 32) (index : Nat) : byteOf (one &&& other) index = byteOf one index &&& byteOf other index := by
  ext place small
  simp [byteOf]

theorem byte_not (word : BitVec 32) (index : Nat) (inside : index < 4) : byteOf (~~~word) index = ~~~byteOf word index := by
  ext place small
  have bound : 8 * index + place < 32 := by omega
  simp [byteOf, bound]

theorem byte_one (bit index : Nat) (small : bit < 32) (inside : index < 4) :
    byteOf (1#32 <<< bit) index = if bit / 8 = index then 1#8 <<< (bit % 8) else 0 := by
  interval_cases index <;> interval_cases bit <;> rfl

theorem word_zero (word : BitVec 32) : word = 0 ↔ ∀ index < 4, byteOf word index = 0 := by
  constructor
  · rintro rfl index _
    simp [byteOf]
  · intro bytes
    ext place small
    have here := bytes (place / 8) (by omega)
    have bit := congrArg (fun byte => byte.getLsbD (place % 8)) here
    have position : 8 * (place / 8) + place % 8 = place := by omega
    have low : place % 8 < 8 := by omega
    simpa [byteOf, position, low, small] using bit

end Bytes
