import Mathlib.Tactic.Common
import Mathlib.Data.List.Basic
import Mathlib.Data.List.Infix
import Mathlib.Data.List.TakeWhile

set_option autoImplicit false

namespace Cstr

def NUL : Char := Char.ofNat 0

-- The characters in front of the NUL.
structure CString where
  chars : List Char
  plain : NUL ∉ chars
deriving DecidableEq

theorem c_string_ext (text other : CString) (same : text.chars = other.chars) : text = other := by
  cases text
  cases other
  cases same
  rfl

def cellsUpToNul (cells : List Char) : List Char := cells.takeWhile fun cell => decide (cell ≠ NUL)

def ofCells (cells : List Char) : CString where
  chars := cellsUpToNul cells
  plain inside := by
    have other := List.mem_takeWhile_imp inside
    exact of_decide_eq_true other rfl

def strstr (word : List Char) : List Char → Option Nat
  | [] => if word = [] then some 0 else none
  | letter :: text => if word <+: letter :: text then some 0 else (strstr word text).map (· + 1)

structure FirstAt (word text : List Char) (i : Nat) : Prop where
  inside : i + word.length ≤ text.length
  found : word <+: text.drop i
  first : ∀ j, j < i → ¬ word <+: text.drop j

theorem strstr_some (word text : List Char) (i : Nat) (found : strstr word text = some i) : FirstAt word text i := by
  induction text generalizing i with
  | nil =>
      rw [strstr] at found
      split at found
      · next empty =>
          cases found
          subst empty
          exact ⟨Nat.le_refl _, List.nil_prefix, fun j before => absurd before (Nat.not_lt_zero j)⟩
      · cases found
  | cons letter text ih =>
      rw [strstr] at found
      split at found
      · next begins =>
          cases found
          refine ⟨?_, begins, fun j before => absurd before (Nat.not_lt_zero j)⟩
          rw [Nat.zero_add]
          exact begins.length_le
      · next elsewhere =>
          obtain ⟨index, later, rfl⟩ := Option.map_eq_some_iff.mp found
          obtain ⟨inside, here, first⟩ := ih index later
          refine ⟨?_, here, ?_⟩
          · rw [List.length_cons]
            omega
          · intro j before
            cases j with
            | zero => exact elsewhere
            | succ j => exact first j (Nat.lt_of_succ_lt_succ before)

theorem strstr_none (word text : List Char) (missing : strstr word text = none) : ¬ word <:+: text := by
  induction text with
  | nil =>
      rw [strstr] at missing
      split at missing
      · cases missing
      · next nonempty => exact fun inside => nonempty (List.infix_nil.mp inside)
  | cons letter text ih =>
      rw [strstr] at missing
      split at missing
      · cases missing
      · next elsewhere =>
          intro inside
          cases List.infix_cons_iff.mp inside with
          | inl begins => exact elsewhere begins
          | inr later => exact ih (Option.map_eq_none_iff.mp missing) later

theorem first_at_inside (word text : List Char) (i : Nat) (first : FirstAt word text i) : word <:+: text :=
  first.found.isInfix.trans (List.drop_suffix i text).isInfix

theorem first_at_unique (word text : List Char) (i j : Nat) (first : FirstAt word text i) (second : FirstAt word text j) :
    i = j := by
  rcases Nat.lt_trichotomy i j with less | same | more
  · exact absurd first.found (second.first i less)
  · exact same
  · exact absurd second.found (first.first j more)

theorem inside_strstr (word text : List Char) (inside : word <:+: text) : ∃ i, strstr word text = some i := by
  cases found : strstr word text with
  | none => exact absurd inside (strstr_none word text found)
  | some i => exact ⟨i, rfl⟩

def strncpy (text : List Char) (size : Nat) : List Char := (text ++ List.replicate size NUL).take size

def memcpy (cells : List Char) (start : Nat) (bytes : List Char) : List Char :=
  cells.take start ++ bytes ++ cells.drop (start + bytes.length)

-- A bounded copy that is ended by hand holds as much of the text as fits.
theorem bounded_copy (text : List Char) (last : Nat) :
    (strncpy text (last + 1)).set last NUL = text.take last ++ List.replicate (last + 1 - (text.take last).length) NUL := by
  induction last generalizing text with
  | zero => cases text <;> rfl
  | succ last ih =>
      cases text with
      | nil =>
          have same := ih []
          rw [strncpy, List.nil_append, List.take_replicate, List.take_nil, List.nil_append, Nat.min_self] at same ⊢
          change NUL :: (List.replicate (last + 1) NUL).set last NUL = NUL :: List.replicate (last + 1) NUL
          rw [same]
          rfl
      | cons letter text =>
          have same := ih text
          rw [strncpy] at same
          rw [strncpy, List.cons_append, List.take_succ_cons, List.set_cons_succ, List.take_succ_cons, List.length_cons,
            List.cons_append]
          have room : (text ++ List.replicate (last + 1 + 1) NUL).take (last + 1) =
              (text ++ List.replicate (last + 1) NUL).take (last + 1) := by
            rw [List.take_append, List.take_append, List.take_replicate, List.take_replicate]
            congr 2
            omega
          rw [room, same]
          congr 3
          omega

theorem cells_up_to_nul (text : List Char) (count : Nat) (plain : NUL ∉ text) :
    cellsUpToNul (text ++ List.replicate (count + 1) NUL) = text := by
  rw [cellsUpToNul, List.takeWhile_append_of_pos]
  · rw [List.replicate_succ, List.takeWhile_cons, if_neg (by decide), List.append_nil]
  · intro letter inside
    exact decide_eq_true fun same => plain (same ▸ inside)

theorem memcpy_front (front back bytes : List Char) (start : Nat) (inside : start + bytes.length ≤ front.length) :
    memcpy (front ++ back) start bytes = memcpy front start bytes ++ back := by
  rw [memcpy, memcpy, List.take_append_of_le_length (by omega), List.drop_append_of_le_length inside, List.append_assoc,
    List.append_assoc, List.append_assoc]

theorem memcpy_length (cells bytes : List Char) (start : Nat) (inside : start + bytes.length ≤ cells.length) :
    (memcpy cells start bytes).length = cells.length := by
  simp only [memcpy, List.length_append, List.length_take, List.length_drop]
  omega

theorem memcpy_plain (cells bytes : List Char) (start : Nat) (plain : NUL ∉ cells) (clean : NUL ∉ bytes) :
    NUL ∉ memcpy cells start bytes := by
  intro inside
  rcases List.mem_append.mp inside with front | back
  · rcases List.mem_append.mp front with before | copied
    · exact plain (List.mem_of_mem_take before)
    · exact clean copied
  · exact plain (List.mem_of_mem_drop back)

end Cstr
