import Mathlib.Tactic.Common
import Mathlib.Data.List.Basic
import Mathlib.Data.List.TakeWhile

set_option autoImplicit false

namespace Cstr

def isSpace (letter : Char) : Bool :=
  letter == ' ' || letter == '\n' || letter == '\t' || letter == '\r' || letter.toNat == 11 || letter.toNat == 12

def skipSpace (text : List Char) : List Char := text.dropWhile isSpace

-- sscanf with "%s"
def scanWord (text : List Char) : Option (List Char) :=
  match (skipSpace text).takeWhile fun letter => !isSpace letter with
  | [] => none
  | letter :: word => some (letter :: word)

theorem scan_word_nonempty (text word : List Char) (found : scanWord text = some word) : word ≠ [] := by
  rw [scanWord] at found
  split at found
  · cases found
  · cases found
    exact List.cons_ne_nil _ _

theorem scan_word_trailing (text : List Char) (space : Char) (blank : isSpace space = true) :
    scanWord (text ++ [space]) = scanWord text := by
  have same : (skipSpace (text ++ [space])).takeWhile (fun letter => !isSpace letter) =
      (skipSpace text).takeWhile fun letter => !isSpace letter := by
    by_cases all : ∀ letter ∈ text, isSpace letter = true
    · have nothing : skipSpace text = [] := List.dropWhile_eq_nil_iff.mpr all
      have skipped : skipSpace (text ++ [space]) = [] := by
        apply List.dropWhile_eq_nil_iff.mpr
        intro letter inside
        cases List.mem_append.mp inside with
        | inl before => exact all letter before
        | inr last => exact (List.mem_singleton.mp last) ▸ blank
      rw [nothing, skipped]
    · have some : skipSpace text ≠ [] := fun nothing => all (List.dropWhile_eq_nil_iff.mp nothing)
      have kept : skipSpace (text ++ [space]) = skipSpace text ++ [space] := by
        rw [skipSpace, List.dropWhile_append, if_neg]
        · rfl
        · rw [List.isEmpty_iff]
          exact some
      rw [kept, List.takeWhile_append]
      split
      · next whole =>
          rw [List.takeWhile_cons, blank, Bool.not_true, if_neg Bool.false_ne_true, List.append_nil]
          exact ((List.takeWhile_prefix _).eq_of_length whole).symm
      · rfl
  rw [scanWord, scanWord, same]

end Cstr
