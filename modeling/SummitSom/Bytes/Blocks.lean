import SummitSom.Bytes.Memory

set_option autoImplicit false

namespace Bytes

variable {C : Type}

-- Stretches of cells written one after another.
def writes (memory : Memory C) (pieces : List (Nat × List C)) : Memory C :=
  pieces.foldl (fun memory piece => write memory piece.1 piece.2) memory

def Covers (pieces : List (Nat × List C)) (address : Nat) : Prop :=
  ∃ piece ∈ pieces, Within piece.1 piece.2.length address

-- Blocks of one size, end to end from address 0 on.
def blocks (size count : Nat) (cell : Nat → Nat → C) : List (Nat × List C) :=
  (List.range count).map fun block => (block * size, (List.range size).map (cell block))

section Blocks

variable (size count : Nat) (cell : Nat → Nat → C)

theorem blocks_succ : blocks size (count + 1) cell =
    blocks size count cell ++ [(count * size, (List.range size).map (cell count))] := by
  rw [blocks, List.range_succ, List.map_append]
  rfl

theorem blocks_cover (address : Nat) : Covers (blocks size count cell) address ↔ address < count * size := by
  induction count with
  | zero => simp [Covers, blocks]
  | succ count ih =>
      have split : Covers (blocks size (count + 1) cell) address ↔
          Covers (blocks size count cell) address ∨ Within (count * size) size address := by
        rw [blocks_succ]
        simp only [Covers, List.mem_append, List.mem_singleton, or_and_right, exists_or, exists_eq_left, List.length_map,
          List.length_range]
      rw [split, ih, Within, Nat.succ_mul]
      omega

theorem blocks_written (memory : Memory C) (address : Nat) (inside : address < count * size) :
    writes memory (blocks size count cell) address = cell (address / size) (address % size) := by
  induction count with
  | zero =>
      rw [Nat.zero_mul] at inside
      omega
  | succ count ih =>
      rw [blocks_succ, writes, List.foldl_append, List.foldl_cons, List.foldl_nil]
      by_cases last : count * size ≤ address
      · obtain ⟨index, rfl⟩ := Nat.exists_eq_add_of_le last
        have small : index < size := by
          rw [Nat.succ_mul] at inside
          omega
        have block : (count * size + index) / size = count := by
          rw [Nat.add_comm, Nat.add_mul_div_right _ _ (by omega), Nat.div_eq_of_lt small, Nat.zero_add]
        have place : (count * size + index) % size = index := by
          rw [Nat.add_comm, Nat.add_mul_mod_self_right, Nat.mod_eq_of_lt small]
        rw [write_cell _ _ _ index (by rw [List.length_map, List.length_range]; exact small), List.getElem_map,
          List.getElem_range, block, place]
      · rw [write_outside _ _ _ _ fun within => last within.1]
        exact ih (Nat.lt_of_not_le last)

theorem blocks_kept (memory : Memory C) (address : Nat) (beyond : count * size ≤ address) :
    writes memory (blocks size count cell) address = memory address := by
  induction count with
  | zero => rfl
  | succ count ih =>
      rw [Nat.succ_mul] at beyond
      rw [blocks_succ, writes, List.foldl_append, List.foldl_cons, List.foldl_nil, write_outside]
      · exact ih (by omega)
      · simp only [Within, List.length_map, List.length_range]
        omega

end Blocks

end Bytes
