import SummitSom.Cstr.Scan
import SummitSom.Cstr.Strings
import SummitSom.Bytes.Memory
import Mathlib.Algebra.Ring.Nat
import Mathlib.Algebra.Ring.Int.Defs

set_option autoImplicit false

namespace Cstr

open Bytes

def signed : List Char → Bool × List Char
  | '-' :: rest => (true, rest)
  | '+' :: rest => (false, rest)
  | text => (false, text)

def digitRun (text : List Char) : List Char := (signed (skipSpace text)).2.takeWhile Char.isDigit

def digitsValue (digits : List Char) : Nat := digits.foldl (fun value digit => 10 * value + (digit.toNat - 48)) 0

-- The size of a long, which differs between the boards.
inductive Long where
  | bits32
  | bits64

def Long.modulus : Long → Nat
  | .bits32 => 4294967296
  | .bits64 => 18446744073709551616

def Long.Holds (long : Long) (number : Int) : Prop := -long.modulus ≤ 2 * number ∧ 2 * number < long.modulus

-- strtol stays at the ends of the range.
def Long.nearest (long : Long) (number : Int) : Int := max (-(long.modulus / 2)) (min (long.modulus / 2 - 1) number)

-- The number that a text begins with, 0 without one.
def number (text : List Char) : Int :=
  if (signed (skipSpace text)).1 then -(digitsValue (digitRun text) : Int) else digitsValue (digitRun text)

-- atoi by way of strtol, whose long is cut down to an int.
def atoi (long : Long) (text : List Char) : Int := (long.nearest (number text)).bmod (2 ^ 32)

theorem atoi_held (long : Long) (text : List Char) (held : long.Holds (number text)) :
    atoi long text = (number text).bmod (2 ^ 32) := by
  have nearest : long.nearest (number text) = number text := by
    cases long <;> (simp only [Long.Holds, Long.modulus, Long.nearest] at *; omega)
  rw [atoi, nearest]

-- Beyond the range an int is left with the bits of the nearest long.
theorem atoi_above (long : Long) (text : List Char) (above : long.modulus ≤ 2 * number text) :
    atoi long text = 2 ^ 31 - 1 ∨ atoi long text = -1 := by
  cases long with
  | bits32 =>
      have nearest : Long.bits32.nearest (number text) = 2147483647 := by
        simp only [Long.modulus, Long.nearest] at *
        omega
      rw [atoi, nearest]
      exact .inl (by decide)
  | bits64 =>
      have nearest : Long.bits64.nearest (number text) = 9223372036854775807 := by
        simp only [Long.modulus, Long.nearest] at *
        omega
      rw [atoi, nearest]
      exact .inr (by decide)

theorem atoi_below (long : Long) (text : List Char) (below : 2 * number text < -long.modulus) :
    (long = .bits32 ∧ atoi long text = -2 ^ 31) ∨ (long = .bits64 ∧ atoi long text = 0) := by
  cases long with
  | bits32 =>
      have nearest : Long.bits32.nearest (number text) = -2147483648 := by
        simp only [Long.modulus, Long.nearest] at *
        omega
      rw [atoi, nearest]
      exact .inl ⟨rfl, by decide⟩
  | bits64 =>
      have nearest : Long.bits64.nearest (number text) = -9223372036854775808 := by
        simp only [Long.modulus, Long.nearest] at *
        omega
      rw [atoi, nearest]
      exact .inr ⟨rfl, by decide⟩

-- The string that begins at the front of a buffer.
def stringIn (buffer : Memory Char) (size : Nat) : List Char := cellsUpToNul ((List.range size).map buffer)

theorem cells_up_to_nul_ended (front back : List Char) : cellsUpToNul (front ++ NUL :: back) = cellsUpToNul front := by
  induction front with
  | nil => rfl
  | cons cell front ih =>
      rw [cellsUpToNul] at ih
      rw [cellsUpToNul, List.cons_append, List.takeWhile_cons, ih, cellsUpToNul, cellsUpToNul, List.takeWhile_cons]

theorem string_in_ended (buffer : Memory Char) (size : Nat) (front : List Char) (inside : front.length < size)
    (same : ∀ (i : Nat) (before : i < front.length), buffer i = front[i]) (ended : buffer front.length = NUL) :
    stringIn buffer size = cellsUpToNul front := by
  have cells : (List.range size).map buffer =
      front ++ NUL :: ((List.range size).map buffer).drop (front.length + 1) := by
    apply List.ext_getElem
    · simp only [List.length_map, List.length_range, List.length_append, List.length_cons, List.length_drop]
      omega
    · intro i left right
      rw [List.getElem_map, List.getElem_range]
      rcases Nat.lt_trichotomy i front.length with before | last | after
      · rw [List.getElem_append_left before]
        exact same i before
      · subst last
        rw [List.getElem_append_right (Nat.le_refl _)]
        simp only [Nat.sub_self, List.getElem_cons_zero]
        exact ended
      · rw [List.getElem_append_right (by omega)]
        simp only [List.getElem_cons, List.getElem_drop, List.getElem_map, List.getElem_range]
        rw [dif_neg (by omega)]
        congr 1
        omega
  rw [stringIn, cells, cells_up_to_nul_ended]

end Cstr
