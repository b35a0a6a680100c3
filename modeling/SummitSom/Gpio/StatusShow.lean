import SummitSom.Print.Page
import Mathlib.Algebra.Ring.Nat

set_option autoImplicit false

namespace SummitSom.Gpio

open Print

-- An entry as status_show reads it: the direction that gpiod_get_direction
-- gives, and the number that desc_to_gpio gives.
structure GpioEntry where
  name : String
  direction : Int
  gpio : Int
  counter : BitVec 64
deriving DecidableEq

def statusLine (i : Nat) (entry : GpioEntry) : List Char :=
  if entry.direction ≠ 0 then
    -- "%2d %-24s %3d %-3s %llu\n"
    padLeft 2 (decimal i) ++ [' '] ++ padRight 24 entry.name.toList ++ [' '] ++ padLeft 3 (decimal entry.gpio) ++ [' '] ++
      padRight 3 ['I', 'N'] ++ [' '] ++ decimal entry.counter.toNat ++ ['\n']
  else
    -- "%2d %-24s %3d %-3s\n"
    padLeft 2 (decimal i) ++ [' '] ++ padRight 24 entry.name.toList ++ [' '] ++ padLeft 3 (decimal entry.gpio) ++ [' '] ++
      padRight 3 ['O', 'U', 'T'] ++ ['\n']

section Status

variable (PAGE_SIZE : Nat)

def statusShow (gpios : List GpioEntry) : Page := printAll PAGE_SIZE (gpios.mapIdx statusLine)

structure Honest (shown : Page) : Prop where
  bounded : shown.p ≤ PAGE_SIZE
  sizes : ∀ size ∈ shown.sizes, 0 ≤ size
  counted : shown.p = shown.stored.length

end Status

def statusLength (i : Nat) (entry : GpioEntry) : Nat :=
  max 2 (decimal i).length + max 24 entry.name.toList.length + max 3 (decimal entry.gpio).length +
    (if entry.direction ≠ 0 then (decimal entry.counter.toNat).length + 8 else 7)

theorem status_line_length (i : Nat) (entry : GpioEntry) : (statusLine i entry).length = statusLength i entry := by
  rw [statusLine, statusLength]
  split
  · simp only [List.length_append, pad_left_length, pad_right_length, List.length_cons, List.length_nil]
    omega
  · simp only [List.length_append, pad_left_length, pad_right_length, List.length_cons, List.length_nil]
    omega

theorem status_length (gpios : List GpioEntry) :
    (gpios.mapIdx statusLine).flatten.length = (gpios.mapIdx statusLength).sum := by
  have lengths : (gpios.mapIdx statusLine).map List.length = gpios.mapIdx statusLength := by
    apply List.ext_getElem
    · rw [List.length_map, List.length_mapIdx, List.length_mapIdx]
    · intro i _ _
      rw [List.getElem_map, List.getElem_mapIdx, List.getElem_mapIdx, status_line_length]
  rw [List.length_flatten, lengths]

-- The output is what status_show says it is when it fits into the page with a
-- NUL behind it.
theorem status_show_honest_iff (PAGE_SIZE : Nat) (positive : 0 < PAGE_SIZE) (gpios : List GpioEntry) :
    Honest PAGE_SIZE (statusShow PAGE_SIZE gpios) ↔ (gpios.mapIdx statusLength).sum < PAGE_SIZE := by
  rw [← status_length]
  constructor
  · intro honest
    exact (counted_iff_fits PAGE_SIZE positive _).mp honest.counted
  · intro fits
    cases print_all PAGE_SIZE positive (gpios.mapIdx statusLine) with
    | inl complete =>
        refine ⟨?_, complete.sizes, (counted_iff_fits PAGE_SIZE positive _).mpr fits⟩
        rw [statusShow, complete.p]
        exact Nat.le_of_lt fits
    | inr over_run => exact absurd fits (Nat.not_lt_of_le over_run.long)

def resetLine : GpioEntry := ⟨"bt-reset", 0, 497, 0⟩

def button : GpioEntry := ⟨"button", 1, 12, 3⟩

theorem status_show_honest_iff_two : Honest 4096 (statusShow 4096 [resetLine, button]) :=
  (status_show_honest_iff 4096 (by decide) [resetLine, button]).mpr (by decide)

-- 120 lines of 36 characters or more are too long for a page.
theorem many_gpios_overrun :
    ¬ ∀ (PAGE_SIZE : Nat) (gpios : List GpioEntry), 0 < PAGE_SIZE → Honest PAGE_SIZE (statusShow PAGE_SIZE gpios) := by
  intro honest
  have counted := (honest 4096 (List.replicate 120 resetLine) (by decide)).counted
  have fits := (counted_iff_fits 4096 (by decide) _).mp counted
  rw [status_length] at fits
  exact absurd fits (by decide +kernel)

end SummitSom.Gpio
