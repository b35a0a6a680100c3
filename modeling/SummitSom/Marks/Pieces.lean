import Mathlib.Data.List.Basic

set_option autoImplicit false

namespace Marks

section Opening

variable {A : Type} (delimiter : A → Bool)

-- A delimiter with no other behind it.
def opens : List A → Bool
  | [] => false
  | first :: rest => delimiter first && rest.all fun cell => !delimiter cell

def EndsOrOpens (text : List A) : Prop := ∀ first rest, text = first :: rest → delimiter first = true

theorem opens_cons (mark : List A) (opening : opens delimiter mark = true) :
    ∃ first rest, mark = first :: rest ∧ delimiter first = true ∧ ∀ cell ∈ rest, delimiter cell ≠ true := by
  cases mark with
  | nil => exact absurd opening Bool.false_ne_true
  | cons first rest =>
      simp only [opens, Bool.and_eq_true, List.all_eq_true, Bool.not_eq_true'] at opening
      refine ⟨first, rest, rfl, opening.1, ?_⟩
      intro cell there
      rw [opening.2 cell there]
      exact Bool.false_ne_true

-- A mark that begins where a stretch does is over before the next delimiter.
theorem opening_cut (mark behind stretch next : List A) (start : opens delimiter mark = true) (nonempty : stretch ≠ [])
    (opening : EndsOrOpens delimiter next) (same : mark ++ behind = stretch ++ next) :
    ∃ more, stretch = mark ++ more ∧ behind = more ++ next := by
  rcases List.append_eq_append_iff.mp same with ⟨more, long, rest⟩ | ⟨tail, short, rest⟩
  · exact ⟨more, long, rest⟩
  · cases tail with
    | nil => exact ⟨[], by rw [short, List.append_nil, List.append_nil], by rw [rest]; rfl⟩
    | cons cell tail =>
        obtain ⟨first, others, rfl, _, plain⟩ := opens_cons delimiter mark start
        obtain ⟨head, body, rfl⟩ := List.exists_cons_of_ne_nil nonempty
        have inside : others = body ++ cell :: tail := (List.cons.inj short).2
        have marked := opening cell (tail ++ behind) rest
        exact absurd marked (plain cell (by rw [inside]; exact List.mem_append_right _ List.mem_cons_self))

end Opening

-- Marks of which none begins another, and a gap shorter than each.
structure MarkSet (A S : Type) where
  delimiter : A → Bool
  gap : List A
  mark : S → List A
  gap_opens : opens delimiter gap = true
  mark_opens : ∀ kind, opens delimiter (mark kind) = true
  apart : ∀ kind other, mark kind <+: mark other → kind = other
  longer : ∀ kind, gap.length < (mark kind).length

inductive Piece (A S : Type) where
  | gap
  | value (kind : S) (content : List A)

section Text

variable {A S : Type} (marks : MarkSet A S)

def text : List (Piece A S) → List A
  | [] => []
  | .gap :: rest => marks.gap ++ text rest
  | .value kind content :: rest => marks.mark kind ++ (content ++ text rest)

structure Free (content : List A) : Prop where
  mark : ∀ kind, ¬ marks.mark kind <:+: content
  gap : ¬ marks.gap <:+ content

def AllFree (pieces : List (Piece A S)) : Prop := ∀ kind content, .value kind content ∈ pieces → Free marks content

theorem text_opens (pieces : List (Piece A S)) : EndsOrOpens marks.delimiter (text marks pieces) := by
  intro first rest same
  cases pieces with
  | nil => exact absurd same (by simp [text])
  | cons piece pieces =>
      cases piece with
      | gap =>
          obtain ⟨head, tail, opening, marked, _⟩ := opens_cons _ _ marks.gap_opens
          rw [text, opening] at same
          exact (List.cons.inj same).1 ▸ marked
      | value kind content =>
          obtain ⟨head, tail, opening, marked, _⟩ := opens_cons _ _ (marks.mark_opens kind)
          rw [text, opening] at same
          exact (List.cons.inj same).1 ▸ marked

theorem text_nonempty (piece : Piece A S) (pieces : List (Piece A S)) : text marks (piece :: pieces) ≠ [] := by
  cases piece with
  | gap =>
      obtain ⟨head, tail, start, _⟩ := opens_cons _ _ marks.gap_opens
      simp [text, start]
  | value kind content =>
      obtain ⟨head, tail, start, _⟩ := opens_cons _ _ (marks.mark_opens kind)
      simp [text, start]

-- What is taken off the front of a text holds a mark or ends in a gap.
theorem text_cut (pieces : List (Piece A S)) (stretch next : List A) (nonempty : stretch ≠ [])
    (opening : EndsOrOpens marks.delimiter next) (same : text marks pieces = stretch ++ next) :
    (∃ kind, marks.mark kind <:+: stretch) ∨ marks.gap <:+ stretch := by
  induction pieces generalizing stretch with
  | nil => exact absurd (List.append_eq_nil_iff.mp same.symm).1 nonempty
  | cons piece rest ih =>
      cases piece with
      | gap =>
          obtain ⟨more, long, behind⟩ :=
            opening_cut marks.delimiter marks.gap _ stretch next marks.gap_opens nonempty opening same
          by_cases none : more = []
          · rw [none, List.append_nil] at long
            exact .inr (long ▸ List.suffix_refl _)
          · rcases ih more none behind with ⟨kind, inside⟩ | ends
            · exact .inl ⟨kind, long ▸ inside.trans (List.suffix_append _ _).isInfix⟩
            · exact .inr (long ▸ ends.trans (List.suffix_append _ _))
      | value kind content =>
          obtain ⟨more, long, _⟩ :=
            opening_cut marks.delimiter (marks.mark kind) _ stretch next (marks.mark_opens kind) nonempty opening same
          exact .inl ⟨kind, long ▸ (List.prefix_append _ _).isInfix⟩

theorem shorter_content (content : List A) (more : List A) (pieces others : List (Piece A S))
    (free : Free marks (content ++ more)) (same : text marks pieces = more ++ text marks others) : more = [] := by
  by_contra nonempty
  rcases text_cut marks pieces more _ nonempty (text_opens marks others) same with ⟨kind, inside⟩ | ends
  · exact free.mark kind (inside.trans (List.suffix_append _ _).isInfix)
  · exact free.gap (ends.trans (List.suffix_append _ _))

theorem content_unique (content another : List A) (pieces others : List (Piece A S)) (free : Free marks content)
    (clear : Free marks another) (same : content ++ text marks pieces = another ++ text marks others) :
    content = another ∧ text marks pieces = text marks others := by
  rcases List.append_eq_append_iff.mp same with ⟨more, long, rest⟩ | ⟨more, long, rest⟩
  · have none := shorter_content marks content more pieces others (long ▸ clear) rest
    rw [none, List.append_nil] at long
    exact ⟨long.symm, by rw [rest, none]; rfl⟩
  · have none := shorter_content marks another more others pieces (long ▸ free) rest
    rw [none, List.append_nil] at long
    exact ⟨long, by rw [rest, none]; rfl⟩

theorem kind_unique (kind other : S) (behind beyond : List A)
    (same : marks.mark kind ++ behind = marks.mark other ++ beyond) : kind = other := by
  rcases List.append_eq_append_iff.mp same with ⟨more, long, _⟩ | ⟨more, long, _⟩
  · exact marks.apart kind other ⟨more, long.symm⟩
  · exact (marks.apart other kind ⟨more, long.symm⟩).symm

-- A mark goes on where a gap has the next delimiter behind it.
theorem gap_or_mark (kind : S) (behind : List A) (pieces : List (Piece A S)) :
    marks.gap ++ text marks pieces ≠ marks.mark kind ++ behind := by
  intro same
  have longer := marks.longer kind
  rcases List.append_eq_append_iff.mp same with ⟨more, long, rest⟩ | ⟨more, short, _⟩
  · cases more with
    | nil =>
        rw [long, List.append_nil] at longer
        exact Nat.lt_irrefl _ longer
    | cons cell more =>
        obtain ⟨first, others, opening, _, plain⟩ := opens_cons _ _ (marks.mark_opens kind)
        obtain ⟨head, tail, start, _⟩ := opens_cons _ _ marks.gap_opens
        rw [opening, start] at long
        have inside : others = tail ++ cell :: more := (List.cons.inj long).2
        have marked := text_opens marks pieces cell (more ++ behind) rest
        exact plain cell (by rw [inside]; exact List.mem_append_right _ List.mem_cons_self) marked
  · rw [short, List.length_append] at longer
    omega

theorem text_injective (pieces others : List (Piece A S)) (free : AllFree marks pieces) (clear : AllFree marks others)
    (same : text marks pieces = text marks others) : pieces = others := by
  induction pieces generalizing others with
  | nil =>
      cases others with
      | nil => rfl
      | cons piece others => exact absurd same.symm (text_nonempty marks piece others)
  | cons piece pieces ih =>
      have rest_free : AllFree marks pieces := fun kind content there => free kind content (List.mem_cons_of_mem _ there)
      cases others with
      | nil => exact absurd same (text_nonempty marks piece pieces)
      | cons other others =>
          have rest_clear : AllFree marks others := fun kind content there =>
            clear kind content (List.mem_cons_of_mem _ there)
          cases piece with
          | gap =>
              cases other with
              | gap => rw [ih others rest_free rest_clear (List.append_cancel_left same)]
              | value kind content => exact absurd same (gap_or_mark marks kind _ pieces)
          | value kind content =>
              cases other with
              | gap => exact absurd same.symm (gap_or_mark marks kind _ others)
              | value another value =>
                  have kinds := kind_unique marks kind another _ _ same
                  subst kinds
                  obtain ⟨contents, texts⟩ := content_unique marks content value pieces others
                    (free kind content List.mem_cons_self) (clear kind value List.mem_cons_self)
                    (List.append_cancel_left same)
                  rw [contents, ih others rest_free rest_clear texts]

end Text

end Marks
