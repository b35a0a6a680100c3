import SummitSom.Shell.Quoted

set_option autoImplicit false

namespace SummitSom.Automount

open Shell

def parseBlkid (blkid field : String) : String := quotedAfter (field ++ "=\"") blkid

def keyLetter (letter : Char) : Bool := letter.isAlphanum || letter == '_' || letter == '-'

structure Key where
  text : String
  given : text.toList ≠ []
  plain : ∀ letter ∈ text.toList, keyLetter letter = true

-- A device name or a value.
structure Quotable where
  text : String
  quoteless : quoteless text.toList
  oneLine : '\n' ∉ text.toList

structure Pair where
  key : Key
  value : Quotable

def Pair.name (pair : Pair) : List Char := pair.key.text.toList

def Pair.content (pair : Pair) : List Char := pair.value.text.toList

structure BlkidLine where
  device : Quotable
  pairs : List Pair
  distinct : (pairs.map Pair.name).Nodup

def opening (pair : Pair) : List Char := ' ' :: (pair.name ++ ['='])

-- KEY="value", with the blank in front of it
def pairText (pair : Pair) : List Char := opening pair ++ '"' :: (pair.content ++ ['"'])

def BlkidLine.text (line : BlkidLine) : String :=
  String.ofList (line.device.text.toList ++ ':' :: line.pairs.flatMap pairText)

section Field

variable (field : Key)

def Key.letters : List Char := field.text.toList

def valueOf (pairs : List Pair) : List Char := ((pairs.find? fun pair => pair.name = field.letters).map Pair.content).getD []

-- The value ends in KEY=, which looks like the key before a quote.
def Trailing (pair : Pair) : Prop := field.letters ++ ['='] <:+ pair.content

def Hit (pair : Pair) : Prop := field.letters <:+ pair.name ∨ Trailing field pair

-- What stands between the quote behind a value and the next one.
def behind : List Pair → List Char
  | [] => []
  | pair :: _ => opening pair

structure LastHit (pairs before : List Pair) (pair : Pair) (after : List Pair) : Prop where
  split : pairs = before ++ pair :: after
  hit : Hit field pair
  last : ∀ other ∈ after, ¬ Hit field other

instance (pair : Pair) : Decidable (Trailing field pair) := inferInstanceAs (Decidable (_ <:+ _))

instance (pair : Pair) : Decidable (Hit field pair) := inferInstanceAs (Decidable (_ ∨ _))

def shown (pair : Pair) (after : List Pair) : List Char := if Trailing field pair then behind after else pair.content

-- No pair looks like the key; or the last one that does is the key's own and
-- its value does not end in KEY=; or it is another one, and its value (or what
-- follows it, when the value ends so) is by chance the text to be found.
def Unambiguous (pairs : List Pair) : Prop :=
  (∀ pair ∈ pairs, ¬ Hit field pair) ∨
    ∃ before pair after, LastHit field pairs before pair after ∧
      (pair.name = field.letters ∧ ¬ Trailing field pair ∨
        pair.name ≠ field.letters ∧ shown field pair after = valueOf field pairs)

def firstPiece (before : List Char) : List Pair → List Char
  | [] => before
  | pair :: _ => before ++ opening pair

def laterPieces : List Pair → List (List Char)
  | [] => []
  | pair :: pairs => pair.content :: behind pairs :: laterPieces pairs

theorem first_piece_behind (pairs : List Pair) : firstPiece [] pairs = behind pairs := by
  cases pairs <;> rfl

theorem joined_pairs (before : List Char) (pairs : List Pair) :
    joined (firstPiece before pairs) (laterPieces pairs) = before ++ pairs.flatMap pairText := by
  induction pairs generalizing before with
  | nil => simp [firstPiece, laterPieces, joined]
  | cons pair pairs ih =>
      have rest := ih []
      rw [first_piece_behind, List.nil_append] at rest
      rw [firstPiece, laterPieces, joined, joined, rest, List.flatMap_cons, pairText]
      simp

-- The value of the last hit, pair by pair.
def answered : List Pair → Option (List Char)
  | [] => none
  | pair :: pairs => (answered pairs).or (if Hit field pair then some (shown field pair pairs) else none)

theorem letters_lack (letter : Char) (other : keyLetter letter = false) : letter ∉ field.letters := by
  intro inside
  have plain := field.plain letter inside
  rw [other] at plain
  cases plain

theorem stem_plain : quoteless (field.letters ++ ['=']) := by
  intro inside
  cases List.mem_append.mp inside with
  | inl letter => exact letters_lack field '"' (by decide) letter
  | inr equals => exact absurd (List.mem_singleton.mp equals) (by decide)

theorem before_quote (before : List Char) (pair : Pair) :
    field.letters ++ ['='] <:+ before ++ opening pair ↔ field.letters <:+ pair.name := by
  have ends : before ++ opening pair = (before ++ ' ' :: pair.name) ++ ['='] := by simp [opening]
  rw [ends, ← suffix_behind ' ' field.letters before pair.name (letters_lack field ' ' (by decide))]
  constructor
  · intro given
    obtain ⟨front, same⟩ := given
    rw [← List.append_assoc] at same
    exact ⟨front, List.append_cancel_right same⟩
  · intro given
    obtain ⟨front, same⟩ := given
    exact ⟨front, by rw [← same, List.append_assoc]⟩

theorem last_behind_pairs (before : List Char) (pairs : List Pair) :
    lastBehind (field.letters ++ ['=']) (firstPiece before pairs) (laterPieces pairs) = answered field pairs := by
  induction pairs generalizing before with
  | nil => rfl
  | cons pair pairs ih =>
      have rest := ih []
      rw [first_piece_behind] at rest
      rw [firstPiece, laterPieces, lastBehind, lastBehind, rest, answered, Option.or_assoc]
      congr 1
      have tail : (if field.letters ++ ['='] <:+ pair.content then some (behind pairs) else none) =
          if Trailing field pair then some (behind pairs) else none := rfl
      rw [if_congr (before_quote field before pair) rfl rfl, tail]
      by_cases trailing : Trailing field pair
      · have hit : Hit field pair := .inr trailing
        rw [if_pos trailing, if_pos hit, shown, if_pos trailing, Option.some_or]
      · rw [if_neg trailing, Option.none_or, shown, if_neg trailing]
        exact if_congr ⟨.inl, fun hit => hit.resolve_right trailing⟩ rfl rfl

theorem pieces_quoteless (pairs : List Pair) (before : List Char) (clean : quoteless before) :
    quoteless (firstPiece before pairs) ∧ ∀ piece ∈ laterPieces pairs, quoteless piece := by
  have opens (pair : Pair) : quoteless (opening pair) := by
    intro inside
    cases inside with
    | tail _ inside => exact stem_plain pair.key inside
  induction pairs generalizing before with
  | nil => exact ⟨clean, fun piece inside => absurd inside List.not_mem_nil⟩
  | cons pair pairs ih =>
      obtain ⟨next, later⟩ := ih [] List.not_mem_nil
      constructor
      · intro inside
        cases List.mem_append.mp inside with
        | inl front => exact clean front
        | inr opened => exact opens pair opened
      · intro piece inside
        rw [first_piece_behind] at next
        rcases inside with _ | ⟨_, _ | ⟨_, inside⟩⟩
        · exact pair.value.quoteless
        · exact next
        · exact later piece inside

theorem parse_blkid_answered (line : BlkidLine) :
    parseBlkid line.text field.text = String.ofList ((answered field line.pairs).getD []) := by
  have clean : quoteless (line.device.text.toList ++ [':']) := by
    intro inside
    cases List.mem_append.mp inside with
    | inl device => exact line.device.quoteless device
    | inr colon => exact absurd (List.mem_singleton.mp colon) (by decide)
  have pieces := pieces_quoteless line.pairs _ clean
  have mark : (field.text ++ "=\"").toList = (field.letters ++ ['=']) ++ ['"'] := by
    rw [String.toList_append, Key.letters]
    simp
  have text : line.text.toList = joined (firstPiece (line.device.text.toList ++ [':']) line.pairs) (laterPieces line.pairs) := by
    rw [joined_pairs, BlkidLine.text, String.toList_ofList]
    simp
  rw [parseBlkid, quoted_after_eq, mark, text, after_last_joined _ (stem_plain field) _ _ pieces.1 pieces.2,
    last_behind_pairs]

theorem last_hit (pairs : List Pair) :
    (∀ pair ∈ pairs, ¬ Hit field pair) ∨ ∃ before pair after, LastHit field pairs before pair after := by
  induction pairs with
  | nil => exact .inl fun pair inside => absurd inside List.not_mem_nil
  | cons first pairs ih =>
      cases ih with
      | inl none =>
          by_cases hit : Hit field first
          · exact .inr ⟨[], first, pairs, rfl, hit, none⟩
          · refine .inl fun pair inside => ?_
            cases inside with
            | head => exact hit
            | tail _ inside => exact none pair inside
      | inr found =>
          obtain ⟨before, pair, after, split, hit, last⟩ := found
          exact .inr ⟨first :: before, pair, after, congrArg (List.cons first) split, hit, last⟩

theorem answered_none (pairs : List Pair) (none : ∀ pair ∈ pairs, ¬ Hit field pair) : answered field pairs = .none := by
  induction pairs with
  | nil => rfl
  | cons pair pairs ih =>
      rw [answered, if_neg (none pair (.head _)), ih fun other inside => none other (.tail _ inside)]
      rfl

theorem answered_last (pairs before : List Pair) (pair : Pair) (after : List Pair)
    (found : LastHit field pairs before pair after) : answered field pairs = some (shown field pair after) := by
  obtain ⟨split, hit, last⟩ := found
  subst split
  induction before with
  | nil =>
      rw [List.nil_append, answered, answered_none field after last, Option.none_or, if_pos hit]
  | cons first before ih =>
      rw [List.cons_append, answered, ih]
      rfl

theorem own_value (pairs : List Pair) (pair : Pair) (distinct : (pairs.map Pair.name).Nodup) (inside : pair ∈ pairs)
    (own : pair.name = field.letters) : valueOf field pairs = pair.content := by
  induction pairs with
  | nil => exact absurd inside List.not_mem_nil
  | cons first pairs ih =>
      rw [List.map_cons, List.nodup_cons] at distinct
      rw [valueOf, List.find?_cons]
      cases inside with
      | head =>
          rw [decide_eq_true own]
          rfl
      | tail _ later =>
          have other : first.name ≠ field.letters := by
            intro same
            exact distinct.1 (List.mem_map.mpr ⟨pair, later, own.trans same.symm⟩)
          rw [decide_eq_false other]
          exact ih distinct.2 later

-- A value that ends in KEY= is not what is shown, for it would have to open the
-- next pair, which has such a key then.
theorem trailing_not_shown (pair : Pair) (after : List Pair) (trailing : Trailing field pair)
    (last : ∀ other ∈ after, ¬ Hit field other) : shown field pair after ≠ pair.content := by
  rw [shown, if_pos trailing]
  intro same
  cases after with
  | nil =>
      have long := trailing.length_le
      rw [← same, List.length_append] at long
      exact absurd long (Nat.not_succ_le_zero _)
  | cons next after =>
      have opened : field.letters ++ ['='] <:+ [] ++ opening next := by
        have given : opening next = pair.content := same
        rw [List.nil_append, given]
        exact trailing
      exact last next (.head _) (.inl ((before_quote field [] next).mp opened))

-- parse_blkid finds the value of the key exactly on the lines that are not ambiguous.
theorem parse_blkid_iff (line : BlkidLine) :
    parseBlkid line.text field.text = String.ofList (valueOf field line.pairs) ↔ Unambiguous field line.pairs := by
  have value : parseBlkid line.text field.text = String.ofList (valueOf field line.pairs) ↔
      (answered field line.pairs).getD [] = valueOf field line.pairs := by
    rw [parse_blkid_answered, String.ofList_inj]
  rw [value]
  cases last_hit field line.pairs with
  | inl none =>
      have absent : line.pairs.find? (fun pair => decide (pair.name = field.letters)) = .none := by
        apply List.find?_eq_none.mpr
        intro pair inside own
        exact none pair inside (.inl (of_decide_eq_true own ▸ List.suffix_refl _))
      rw [answered_none field _ none, valueOf, absent]
      exact ⟨fun _ => .inl none, fun _ => rfl⟩
  | inr found =>
      obtain ⟨before, pair, after, found⟩ := found
      have member : pair ∈ line.pairs := by
        rw [found.split]
        simp
      rw [answered_last field _ before pair after found, Option.getD_some]
      constructor
      · intro same
        refine .inr ⟨before, pair, after, found, ?_⟩
        by_cases own : pair.name = field.letters
        · refine .inl ⟨own, fun trailing => ?_⟩
          rw [own_value field line.pairs pair line.distinct member own] at same
          exact trailing_not_shown field pair after trailing found.last same
        · exact .inr ⟨own, same⟩
      · rintro (none | ⟨other, second, rest, again, condition⟩)
        · exact absurd found.hit (none pair member)
        · have same := (answered_last field _ before pair after found).symm.trans (answered_last field _ other second rest again)
          have inside : second ∈ line.pairs := by
            rw [again.split]
            simp
          rw [Option.some.inj same]
          rcases condition with ⟨own, plain⟩ | ⟨_, equal⟩
          · rw [shown, if_neg plain, own_value field line.pairs second line.distinct inside own]
          · exact equal

end Field

def keyOf (text : String) (given : text.toList ≠ []) (all : text.toList.all keyLetter = true) : Key :=
  ⟨text, given, List.all_eq_true.mp all⟩

def label : Key := keyOf "LABEL" (by decide) (by decide)

def labelPair : Pair := ⟨label, ⟨"DATA", by unfold quoteless; decide, by decide⟩⟩

def partLabelPair : Pair :=
  ⟨keyOf "PARTLABEL" (by decide) (by decide), ⟨"primary", by unfold quoteless; decide, by decide⟩⟩

-- /dev/sda1: LABEL="DATA" PARTLABEL="primary"
def partitioned : BlkidLine :=
  ⟨⟨"/dev/sda1", by unfold quoteless; decide, by decide⟩, [labelPair, partLabelPair], by decide⟩

theorem part_label_hides_label :
    ¬ ∀ (line : BlkidLine) (field : Key),
      parseBlkid line.text field.text = String.ofList (valueOf field line.pairs) := by
  intro exact_value
  have same := exact_value partitioned label
  rw [parse_blkid_answered, String.ofList_inj] at same
  exact absurd same (by decide)

end SummitSom.Automount
