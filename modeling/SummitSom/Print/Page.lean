import Mathlib.Tactic.Common
import Mathlib.Data.List.Basic

set_option autoImplicit false

namespace Print

def padLeft (width : Nat) (text : List Char) : List Char := List.replicate (width - text.length) ' ' ++ text

def padRight (width : Nat) (text : List Char) : List Char := text ++ List.replicate (width - text.length) ' '

def decimal (n : Int) : List Char := if n < 0 then '-' :: Nat.toDigits 10 n.natAbs else Nat.toDigits 10 n.natAbs

theorem pad_left_length (width : Nat) (text : List Char) : (padLeft width text).length = max width text.length := by
  rw [padLeft, List.length_append, List.length_replicate]
  omega

theorem pad_right_length (width : Nat) (text : List Char) : (padRight width text).length = max width text.length := by
  rw [padRight, List.length_append, List.length_replicate]
  omega

-- The kernel's snprintf: what it stores in front of the NUL, and what it
-- returns. A negative size is too large as a size_t, and is refused.
def snprintf (size : Int) (text : List Char) : List Char × Nat :=
  if size < 0 then ([], 0) else (text.take (size.toNat - 1), text.length)

-- A buffer that is filled from p on, with the sizes that snprintf was given.
structure Page where
  p : Nat
  stored : List Char
  sizes : List Int
deriving DecidableEq

section Filling

variable (capacity : Nat)

-- p += snprintf(p, e - p, ...)
def Page.print (page : Page) (text : List Char) : Page :=
  let size : Int := capacity - page.p
  { p := page.p + (snprintf size text).2
    stored := page.stored ++ (snprintf size text).1
    sizes := page.sizes ++ [size] }

def printAll (lines : List (List Char)) : Page := lines.foldl (Page.print capacity) ⟨0, [], []⟩

structure Complete (page : Page) (text : List Char) : Prop where
  p : page.p = text.length
  stored : page.stored = text
  room : text.length < capacity
  sizes : ∀ size ∈ page.sizes, 0 ≤ size

structure Overrun (page : Page) (text : List Char) : Prop where
  stored : page.stored.length < capacity
  beyond : capacity ≤ page.p
  long : capacity ≤ text.length

theorem print_complete (page : Page) (text line : List Char) (complete : Complete capacity page text) :
    Complete capacity (page.print capacity line) (text ++ line) ∨ Overrun capacity (page.print capacity line) (text ++ line) := by
  obtain ⟨at_end, kept, room, sizes⟩ := complete
  have size : ¬ (capacity : Int) - page.p < 0 := by omega
  have last : ((capacity : Int) - page.p).toNat = capacity - text.length := by omega
  by_cases fits : (text ++ line).length < capacity
  · have whole : line.take (capacity - text.length - 1) = line := by
      rw [List.length_append] at fits
      exact List.take_of_length_le (by omega)
    refine .inl ⟨?_, ?_, fits, ?_⟩
    · rw [Page.print, snprintf, if_neg size, at_end, List.length_append]
    · rw [Page.print, snprintf, if_neg size]
      dsimp only
      rw [last, whole, kept]
    · intro given inside
      cases List.mem_append.mp inside with
      | inl before => exact sizes given before
      | inr now =>
          rw [List.mem_singleton.mp now]
          omega
  · rw [List.length_append] at fits
    refine .inr ⟨?_, ?_, ?_⟩
    · rw [Page.print, snprintf, if_neg size]
      dsimp only
      rw [last, kept, List.length_append, List.length_take]
      omega
    · rw [Page.print, snprintf, if_neg size]
      dsimp only
      omega
    · rw [List.length_append]
      omega

theorem print_overrun (page : Page) (text line : List Char) (over_run : Overrun capacity page text) :
    Overrun capacity (page.print capacity line) (text ++ line) := by
  obtain ⟨stored, beyond, long⟩ := over_run
  have nothing : (snprintf (capacity - page.p) line).1 = [] := by
    rw [snprintf]
    split
    · rfl
    · have none : ((capacity : Int) - page.p).toNat - 1 = 0 := by omega
      dsimp only
      rw [none, List.take_zero]
  refine ⟨?_, ?_, ?_⟩
  · rw [Page.print]
    dsimp only
    rw [nothing, List.append_nil]
    exact stored
  · rw [Page.print]
    dsimp only
    omega
  · rw [List.length_append]
    omega

theorem print_lines (lines : List (List Char)) (page : Page) (text : List Char)
    (before : Complete capacity page text ∨ Overrun capacity page text) :
    Complete capacity (lines.foldl (Page.print capacity) page) (text ++ lines.flatten) ∨
      Overrun capacity (lines.foldl (Page.print capacity) page) (text ++ lines.flatten) := by
  induction lines generalizing page text with
  | nil =>
      rw [List.flatten_nil, List.append_nil]
      exact before
  | cons line lines ih =>
      rw [List.flatten_cons, ← List.append_assoc]
      apply ih (page.print capacity line) (text ++ line)
      cases before with
      | inl complete => exact print_complete capacity page text line complete
      | inr over_run => exact .inr (print_overrun capacity page text line over_run)

theorem print_all (positive : 0 < capacity) (lines : List (List Char)) :
    Complete capacity (printAll capacity lines) lines.flatten ∨ Overrun capacity (printAll capacity lines) lines.flatten :=
  print_lines capacity lines ⟨0, [], []⟩ [] (.inl ⟨rfl, rfl, positive, fun _ inside => absurd inside List.not_mem_nil⟩)

-- p counts what is stored exactly when all of it fits, with room for the NUL.
theorem counted_iff_fits (positive : 0 < capacity) (lines : List (List Char)) :
    (printAll capacity lines).p = (printAll capacity lines).stored.length ↔ lines.flatten.length < capacity := by
  cases print_all capacity positive lines with
  | inl complete =>
      rw [complete.p, complete.stored]
      exact ⟨fun _ => complete.room, fun _ => rfl⟩
  | inr over_run =>
      have stored := over_run.stored
      have beyond := over_run.beyond
      have long := over_run.long
      omega

end Filling

end Print
