import SummitSom.Shell.Words

set_option autoImplicit false

namespace Shell

section LastMark

variable (mark : List Char) (fits : List Char → Bool)

-- What follows the last mark in the line with a fitting rest, as ".*mark" finds it.
def afterLastMark : List Char → Option (List Char)
  | [] => if mark = [] ∧ fits [] = true then some [] else none
  | letter :: line =>
      match afterLastMark line with
      | some rest => some rest
      | none =>
          if mark <+: letter :: line ∧ fits ((letter :: line).drop mark.length) = true then
            some ((letter :: line).drop mark.length)
          else none

structure MarkedAt (line rest : List Char) : Prop where
  marked : ∃ before, line = before ++ mark ++ rest
  fitting : fits rest = true

structure LastMarked (line rest : List Char) : Prop extends MarkedAt mark fits line rest where
  last : ∀ other, MarkedAt mark fits line other → rest.length ≤ other.length

theorem marked_here (line : List Char) (begins : mark <+: line) (fitting : fits (line.drop mark.length) = true) :
    MarkedAt mark fits line (line.drop mark.length) := by
  obtain ⟨rest, rfl⟩ := begins
  rw [List.drop_left] at fitting ⊢
  exact ⟨⟨[], rfl⟩, fitting⟩

theorem marked_cons (letter : Char) (line rest : List Char) :
    MarkedAt mark fits (letter :: line) rest ↔ MarkedAt mark fits line rest ∨
      (mark <+: letter :: line ∧ rest = (letter :: line).drop mark.length ∧ fits rest = true) := by
  constructor
  · rintro ⟨⟨before, split⟩, fitting⟩
    cases before with
    | nil =>
        rw [List.nil_append] at split
        exact .inr ⟨⟨rest, split.symm⟩, by rw [split, List.drop_left], fitting⟩
    | cons first before => exact .inl ⟨⟨before, (List.cons.inj split).2⟩, fitting⟩
  · rintro (⟨⟨before, split⟩, fitting⟩ | ⟨begins, rest, fitting⟩)
    · exact ⟨⟨letter :: before, congrArg (List.cons letter) split⟩, fitting⟩
    · subst rest
      exact marked_here mark fits _ begins fitting

theorem after_last_none (line : List Char) (unmarked : afterLastMark mark fits line = none) (rest : List Char) :
    ¬MarkedAt mark fits line rest := by
  induction line with
  | nil =>
      rintro ⟨⟨before, split⟩, fitting⟩
      obtain ⟨nothing, rfl⟩ := List.append_eq_nil_iff.mp split.symm
      rw [afterLastMark, if_pos ⟨(List.append_eq_nil_iff.mp nothing).2, fitting⟩] at unmarked
      cases unmarked
  | cons letter line ih =>
      rw [afterLastMark] at unmarked
      split at unmarked
      · cases unmarked
      · next later =>
          split at unmarked
          · cases unmarked
          · next elsewhere =>
              rw [marked_cons]
              rintro (inside | ⟨begins, same, fitting⟩)
              · exact ih later inside
              · exact elsewhere ⟨begins, same ▸ fitting⟩

theorem after_last_some (line rest : List Char) (found : afterLastMark mark fits line = some rest) :
    LastMarked mark fits line rest := by
  induction line generalizing rest with
  | nil =>
      rw [afterLastMark] at found
      split at found
      · next empty =>
          cases found
          exact ⟨⟨⟨[], by rw [empty.1]; rfl⟩, empty.2⟩, fun other _ => Nat.zero_le _⟩
      · cases found
  | cons letter line ih =>
      rw [afterLastMark] at found
      split at found
      · next rest later =>
          cases found
          have inside := ih rest later
          refine ⟨(marked_cons mark fits letter line rest).mpr (.inl inside.toMarkedAt), fun other marked => ?_⟩
          rcases (marked_cons mark fits letter line other).mp marked with before | ⟨begins, rfl, _⟩
          · exact inside.last other before
          · obtain ⟨start, split⟩ := inside.marked
            have length := congrArg List.length split
            simp only [List.length_append, List.length_drop, List.length_cons] at length ⊢
            omega
      · next later =>
          split at found
          · next here =>
              cases found
              refine ⟨marked_here mark fits _ here.1 here.2, fun other marked => ?_⟩
              rcases (marked_cons mark fits letter line other).mp marked with before | ⟨_, rfl, _⟩
              · exact absurd before (after_last_none mark fits line later other)
              · exact Nat.le_refl _
          · cases found

theorem marked_suffix (line rest : List Char) (marked : MarkedAt mark fits line rest) : rest <:+ line := by
  obtain ⟨before, rfl⟩ := marked.marked
  exact List.suffix_append _ _

theorem after_last_iff (line rest : List Char) :
    afterLastMark mark fits line = some rest ↔ LastMarked mark fits line rest := by
  refine ⟨after_last_some mark fits line rest, fun last => ?_⟩
  cases found : afterLastMark mark fits line with
  | none => exact absurd last.toMarkedAt (after_last_none mark fits line found rest)
  | some other =>
      have other := after_last_some mark fits line other found
      have same : rest.length = _ := Nat.le_antisymm (last.last _ other.toMarkedAt) (other.last rest last.toMarkedAt)
      have nested := List.suffix_of_suffix_length_le (marked_suffix mark fits line rest last.toMarkedAt)
        (marked_suffix mark fits line _ other.toMarkedAt) (Nat.le_of_eq same)
      rw [nested.eq_of_length same]

theorem marked_behind (before line rest : List Char) (found : afterLastMark mark fits line = some rest) :
    afterLastMark mark fits (before ++ line) = some rest := by
  induction before with
  | nil => exact found
  | cons letter before ih => rw [List.cons_append, afterLastMark, ih]

end LastMark

-- No mark begins where its first letter is missing.
theorem unmarked_front (first : Char) (mark : List Char) (fits : List Char → Bool) (front line : List Char)
    (lacks : first ∉ front) : afterLastMark (first :: mark) fits (front ++ line) = afterLastMark (first :: mark) fits line := by
  induction front with
  | nil => rfl
  | cons letter front ih =>
      have differs : ¬(first :: mark <+: letter :: (front ++ line)) := fun begins =>
        lacks ((List.cons_prefix_cons.mp begins).1 ▸ List.mem_cons_self)
      rw [List.cons_append, afterLastMark, ih (fun inside => lacks (List.mem_cons_of_mem letter inside)),
        if_neg (fun both => differs both.1)]
      cases afterLastMark (first :: mark) fits line with
      | none => rfl
      | some rest => rfl

theorem last_mark_here (first : Char) (mark : List Char) (fits : List Char → Bool) (rest : List Char) (lacks : first ∉ mark)
    (fitting : fits rest = true) (unmarked : afterLastMark (first :: mark) fits rest = none) :
    afterLastMark (first :: mark) fits (first :: mark ++ rest) = some rest := by
  have begins : first :: mark <+: first :: (mark ++ rest) := List.prefix_append (first :: mark) rest
  have behind : (first :: mark ++ rest).drop (first :: mark).length = rest := List.drop_left
  rw [List.cons_append] at behind
  rw [List.cons_append, afterLastMark, unmarked_front first mark fits mark rest lacks, unmarked, behind, if_pos ⟨begins, fitting⟩]

end Shell
