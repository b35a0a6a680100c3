import SummitSom.Shell.Words

set_option autoImplicit false

namespace Shell

-- case pattern "*text"
def endsWith (text word : String) : Bool := text.toList.isSuffixOf word.toList

def isName (word : String) : Bool :=
  match word.toList with
  | [] => false
  | letter :: letters => (letter.isAlpha || letter == '_') && letters.all fun letter => letter.isAlphanum || letter == '_'

section Read

-- IFS is a blank and these marks. A word ends at blanks around at most one mark.
variable (marks : List Char)

def separates (letter : Char) : Bool := letter == ' ' || marks.contains letter

def dropBlanks (line : List Char) : List Char := line.dropWhile fun letter => letter == ' '

def skipDelimiter (rest : List Char) : List Char :=
  match dropBlanks rest with
  | [] => []
  | letter :: more => if marks.contains letter then dropBlanks more else letter :: more

def nextWord (line : List Char) : List Char × List Char :=
  (line.takeWhile fun letter => !separates marks letter,
    skipDelimiter marks (line.dropWhile fun letter => !separates marks letter))

-- The last variable takes what is left with its marks, unless that is one word.
def lastWord (rest : List Char) : List Char :=
  if (nextWord marks rest).2 = [] then (nextWord marks rest).1 else (dropBlanks rest.reverse).reverse

def readWords : Nat → List Char → List String
  | 0, rest => [String.ofList (lastWord marks rest)]
  | more + 1, rest => String.ofList (nextWord marks rest).1 :: readWords more (nextWord marks rest).2

-- IFS=... read -r with this many variables after the first
def readLine (more : Nat) (line : String) : List String := readWords marks more (dropBlanks line.toList)

def Plain (word : List Char) : Prop := ∀ letter ∈ word, separates marks letter = false

theorem plain_of_all (word : List Char) (all : (word.all fun letter => !separates marks letter) = true) : Plain marks word := by
  intro letter member
  exact Bool.not_eq_true' _ ▸ List.all_eq_true.mp all letter member

structure Word where
  text : String
  given : text.toList ≠ []
  plain : Plain marks text.toList

theorem separates_mark (mark : Char) (marked : marks.contains mark = true) : separates marks mark = true := by
  rw [separates, marked, Bool.or_true]

theorem drop_blanks_word (word rest : List Char) (given : word ≠ []) (plain : Plain marks word) :
    dropBlanks (word ++ rest) = word ++ rest := by
  cases word with
  | nil => exact absurd rfl given
  | cons letter word =>
      have solid := (Bool.or_eq_false_iff.mp (plain letter List.mem_cons_self)).1
      rw [List.cons_append, dropBlanks, List.dropWhile_cons, solid]
      rfl

theorem skip_blank_word (word rest : List Char) (given : word ≠ []) (plain : Plain marks word) :
    skipDelimiter marks (' ' :: (word ++ rest)) = word ++ rest := by
  have dropped : dropBlanks (' ' :: (word ++ rest)) = word ++ rest := drop_blanks_word marks word rest given plain
  cases word with
  | nil => exact absurd rfl given
  | cons letter word =>
      have unmarked := (Bool.or_eq_false_iff.mp (plain letter List.mem_cons_self)).2
      rw [skipDelimiter, dropped, List.cons_append]
      simp only [unmarked]
      rfl

theorem skip_mark (mark : Char) (rest : List Char) (marked : marks.contains mark = true) (visible : mark ≠ ' ') :
    skipDelimiter marks (mark :: rest) = dropBlanks rest := by
  have kept : dropBlanks (mark :: rest) = mark :: rest := by
    rw [dropBlanks, List.dropWhile_cons_of_neg]
    simpa using visible
  rw [skipDelimiter, kept]
  simp only [marked, if_true]

theorem skip_blank_mark (mark : Char) (rest : List Char) (marked : marks.contains mark = true) (visible : mark ≠ ' ') :
    skipDelimiter marks (' ' :: mark :: rest) = dropBlanks rest :=
  skip_mark marks mark rest marked visible

theorem next_word (word rest : List Char) (letter : Char) (plain : Plain marks word)
    (ends : separates marks letter = true) :
    nextWord marks (word ++ letter :: rest) = (word, skipDelimiter marks (letter :: rest)) := by
  have inside (other : Char) (member : other ∈ word) : (!separates marks other) = true := by
    rw [plain other member]
    rfl
  rw [nextWord, List.takeWhile_append_of_pos inside, List.dropWhile_append_of_pos inside]
  simp [ends]

theorem prefix_take_while (text line : List Char) (p : Char → Bool) (all : ∀ letter ∈ text, p letter = true) :
    text <+: line.takeWhile p ↔ text <+: line := by
  constructor
  · exact fun begins => begins.trans (List.takeWhile_prefix p)
  · rintro ⟨rest, rfl⟩
    rw [List.takeWhile_append_of_pos all]
    exact List.prefix_append _ _

theorem last_word_begins (text word : List Char) (mark : Char) (plain : Plain marks text)
    (marked : separates marks mark = true) (visible : mark ≠ ' ') :
    text <+: lastWord marks (word ++ [mark]) ↔ text <+: word := by
  have unmarked : text <+: word ++ [mark] ↔ text <+: word := by
    rw [List.prefix_concat_iff, or_iff_right]
    rintro rfl
    exact absurd (marked.symm.trans (plain mark (by simp))) (by decide)
  rw [← unmarked, lastWord]
  split
  · apply prefix_take_while
    intro letter member
    rw [plain letter member]
    rfl
  · simp [dropBlanks, visible]

end Read

example : readLine [':', '"'] 3 "mtd0: 00040000 00020000 \"u-boot-spl\"" = ["mtd0", "00040000", "00020000", "u-boot-spl"] := by
  decide

end Shell
