import Mathlib.Tactic.Common
import Mathlib.Data.List.Basic

set_option autoImplicit false

namespace Bytes

-- The cells of a device or of a buffer, by address.
abbrev Memory (C : Type) := Nat → C

def Within (start size address : Nat) : Prop := start ≤ address ∧ address < start + size

-- Two stretches that share no address. An empty one is apart from every other.
def Apart (start size other length : Nat) : Prop :=
  ∀ address, Within start size address → ¬ Within other length address

theorem apart_iff (start size other length : Nat) :
    Apart start size other length ↔ size = 0 ∨ length = 0 ∨ start + size ≤ other ∨ other + length ≤ start := by
  constructor
  · intro apart
    have first := apart start
    have second := apart other
    simp only [Within] at first second
    omega
  · intro sides address here there
    simp only [Within] at here there
    omega

instance (start size other length : Nat) : Decidable (Apart start size other length) :=
  decidable_of_iff _ (apart_iff start size other length).symm

section Writing

variable {C : Type}

def write (memory : Memory C) (start : Nat) (cells : List C) : Memory C := fun address =>
  if start ≤ address then cells[address - start]?.getD (memory address) else memory address

theorem write_outside (memory : Memory C) (start : Nat) (cells : List C) (address : Nat)
    (outside : ¬ Within start cells.length address) : write memory start cells address = memory address := by
  rw [write]
  split
  · rename_i after
    have beyond : cells.length ≤ address - start := by
      simp only [Within] at outside
      omega
    rw [List.getElem?_eq_none beyond, Option.getD_none]
  · rfl

theorem write_cell (memory : Memory C) (start : Nat) (cells : List C) (index : Nat) (inside : index < cells.length) :
    write memory start cells (start + index) = cells[index] := by
  rw [write, if_pos (Nat.le_add_right start index), Nat.add_sub_cancel_left, List.getElem?_eq_getElem inside,
    Option.getD_some]

theorem write_holds_iff (memory : Memory C) (start : Nat) (cells : List C) (P : C → Prop) :
    (∃ index < cells.length, P (write memory start cells (start + index))) ↔ ∃ cell ∈ cells, P cell := by
  constructor
  · rintro ⟨index, inside, holds⟩
    rw [write_cell memory start cells index inside] at holds
    exact ⟨cells[index], List.getElem_mem inside, holds⟩
  · rintro ⟨cell, member, holds⟩
    obtain ⟨index, inside, rfl⟩ := List.mem_iff_getElem.mp member
    rw [← write_cell memory start cells index inside] at holds
    exact ⟨index, inside, holds⟩

end Writing

end Bytes
