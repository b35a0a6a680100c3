import SummitSom.Shell.Sed
import Mathlib.Data.List.Infix
import Mathlib.Data.List.TakeWhile

set_option autoImplicit false

namespace Shell

def quoteless (text : List Char) : Prop := '"' ∉ text

def upToQuote (text : List Char) : List Char := text.takeWhile fun letter => letter ≠ '"'

abbrev anyRest : List Char → Bool := fun _ => true

-- A line as the pieces between its quotes.
def joined : List Char → List (List Char) → List Char
  | piece, [] => piece
  | piece, next :: pieces => piece ++ '"' :: joined next pieces

-- The piece behind the last one that ends in the stem.
def lastBehind (stem : List Char) : List Char → List (List Char) → Option (List Char)
  | _, [] => none
  | piece, next :: pieces => (lastBehind stem next pieces).or (if stem <:+ piece then some next else none)

theorem found_tail (mark line : List Char) :
    (line.tails.reverse.find? fun rest => mark.isPrefixOf rest).map (fun rest => rest.drop mark.length) =
      afterLastMark mark anyRest line := by
  induction line with
  | nil =>
      cases mark with
      | nil => rfl
      | cons letter mark => rfl
  | cons letter line ih =>
      rw [List.tails_cons, List.reverse_cons, List.find?_append, Option.map_or, ih, afterLastMark]
      cases afterLastMark mark anyRest line with
      | some rest => rfl
      | none =>
          rw [Option.none_or, List.find?_singleton]
          by_cases begins : mark <+: letter :: line
          · rw [if_pos (List.isPrefixOf_iff_prefix.mpr begins), if_pos ⟨begins, rfl⟩]
            rfl
          · rw [if_neg (fun given => begins (List.isPrefixOf_iff_prefix.mp given)), if_neg fun given => begins given.1]
            rfl

theorem quoted_after_eq (mark line : String) :
    quotedAfter mark line = String.ofList (((afterLastMark mark.toList anyRest line.toList).map upToQuote).getD []) := by
  rw [quotedAfter, ← found_tail]
  cases line.toList.tails.reverse.find? fun rest => mark.toList.isPrefixOf rest with
  | none => rfl
  | some rest => rfl

theorem up_to_quote_joined (piece : List Char) (pieces : List (List Char)) (clean : quoteless piece) :
    upToQuote (joined piece pieces) = piece := by
  have whole : piece.takeWhile (fun letter => decide (letter ≠ '"')) = piece := by
    apply List.takeWhile_eq_self_iff.mpr
    intro letter inside
    exact decide_eq_true fun same => clean (same ▸ inside)
  cases pieces with
  | nil => exact whole
  | cons next pieces =>
      rw [upToQuote, joined, List.takeWhile_append, whole, if_pos rfl, List.takeWhile_cons, if_neg (by decide), List.append_nil]

-- A suffix that lacks a letter does not reach over it.
theorem suffix_behind (letter : Char) (stem front back : List Char) (plain : letter ∉ stem) :
    stem <:+ front ++ letter :: back ↔ stem <:+ back := by
  have next (first : Char) (rest : List Char) (inside : letter ∈ first :: rest) : stem <:+ first :: rest ↔ stem <:+ rest := by
    rw [List.suffix_cons_iff]
    constructor
    · rintro (whole | behind)
      · exact absurd (whole ▸ inside) plain
      · exact behind
    · exact .inr
  induction front with
  | nil => exact next letter back List.mem_cons_self
  | cons first front ih => exact (next first (front ++ letter :: back) (by simp)).trans ih

section Stem

variable (stem : List Char) (plain : quoteless stem)

include plain

-- The mark ends with a quote, and its stem reaches over none.
theorem marked_at_quote (front back rest : List Char) (clean : quoteless front) :
    MarkedAt (stem ++ ['"']) anyRest (front ++ '"' :: back) rest ↔
      MarkedAt (stem ++ ['"']) anyRest back rest ∨ (stem <:+ front ∧ rest = back) := by
  constructor
  · intro marked
    obtain ⟨before, split⟩ := marked.marked
    have pieces : front ++ '"' :: back = (before ++ stem) ++ '"' :: rest := by
      rw [split]
      simp only [List.append_assoc, List.singleton_append]
    rcases List.append_eq_append_iff.mp pieces with ⟨more, reach, inner⟩ | ⟨more, reach, inner⟩
    · cases more with
      | nil =>
          rw [List.append_nil] at reach
          exact .inr ⟨⟨before, reach⟩, (List.cons.inj inner).2.symm⟩
      | cons quote more =>
          obtain ⟨same, tail⟩ := List.cons.inj inner
          refine .inl ⟨?_, rfl⟩
          have long : stem <:+ front ++ '"' :: more := by
            rw [same, ← reach]
            exact List.suffix_append before stem
          obtain ⟨between, short⟩ := (suffix_behind '"' stem front more plain).mp long
          exact ⟨between, by rw [tail, ← short]; simp⟩
    · cases more with
      | nil =>
          rw [List.append_nil] at reach
          exact .inr ⟨⟨before, reach.symm⟩, (List.cons.inj inner).2⟩
      | cons quote more =>
          have same := (List.cons.inj inner).1
          exact absurd (by rw [reach, ← same]; simp) clean
  · rintro (⟨⟨before, split⟩, fitting⟩ | ⟨⟨before, reach⟩, same⟩)
    · exact ⟨⟨front ++ '"' :: before, by rw [split]; simp⟩, fitting⟩
    · exact ⟨⟨before, by rw [← reach, same]; simp⟩, rfl⟩

theorem after_last_quote (front back : List Char) (clean : quoteless front) :
    afterLastMark (stem ++ ['"']) anyRest (front ++ '"' :: back) =
      (afterLastMark (stem ++ ['"']) anyRest back).or (if stem <:+ front then some back else none) := by
  cases inside : afterLastMark (stem ++ ['"']) anyRest back with
  | some rest =>
      have last := after_last_some _ _ _ rest inside
      rw [Option.some_or]
      apply (after_last_iff _ _ _ _).mpr
      refine ⟨(marked_at_quote stem plain front back rest clean).mpr (.inl last.toMarkedAt), ?_⟩
      intro other marked
      rcases (marked_at_quote stem plain front back other clean).mp marked with later | ⟨_, same⟩
      · exact last.last other later
      · rw [same]
        exact (marked_suffix _ _ _ _ last.toMarkedAt).length_le
  | none =>
      have nowhere := after_last_none _ _ _ inside
      rw [Option.none_or]
      by_cases reach : stem <:+ front
      · rw [if_pos reach]
        apply (after_last_iff _ _ _ _).mpr
        refine ⟨(marked_at_quote stem plain front back back clean).mpr (.inr ⟨reach, rfl⟩), ?_⟩
        intro other marked
        rcases (marked_at_quote stem plain front back other clean).mp marked with later | ⟨_, same⟩
        · exact absurd later (nowhere other)
        · exact Nat.le_of_eq (congrArg List.length same.symm)
      · rw [if_neg reach]
        cases found : afterLastMark (stem ++ ['"']) anyRest (front ++ '"' :: back) with
        | none => rfl
        | some rest =>
            have last := after_last_some _ _ _ rest found
            rcases (marked_at_quote stem plain front back rest clean).mp last.toMarkedAt with later | ⟨given, _⟩
            · exact absurd later (nowhere rest)
            · exact absurd given reach

theorem after_last_joined (piece : List Char) (pieces : List (List Char)) (clean : quoteless piece)
    (cleans : ∀ next ∈ pieces, quoteless next) :
    (afterLastMark (stem ++ ['"']) anyRest (joined piece pieces)).map upToQuote = lastBehind stem piece pieces := by
  induction pieces generalizing piece with
  | nil =>
      cases found : afterLastMark (stem ++ ['"']) anyRest (joined piece []) with
      | none => rfl
      | some rest =>
          obtain ⟨before, split⟩ := (after_last_some _ _ _ rest found).marked
          have member : '"' ∈ piece := by
            change piece = _ at split
            rw [split]
            simp
          exact absurd member clean
  | cons next pieces ih =>
      rw [joined, after_last_quote stem plain piece _ clean, Option.map_or, lastBehind,
        ih next (cleans next (.head _)) fun other inside => cleans other (.tail _ inside)]
      by_cases reach : stem <:+ piece
      · rw [if_pos reach, if_pos reach, Option.map_some, up_to_quote_joined next pieces (cleans next (.head _))]
      · rw [if_neg reach, if_neg reach, Option.map_none]

end Stem

end Shell
