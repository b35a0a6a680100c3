import SummitSom.Crc.Reflected

set_option autoImplicit false

namespace Crc

-- Two streams of bits that are alike outside the window of width bits at start.
def Burst (width start : Nat) (left right : Nat → Bool) : Prop :=
  ∀ k, left k ≠ right k → start ≤ k ∧ k < start + width

def bitsOf {n : Nat} (x : BitVec n) : List Bool := (List.range n).map x.getLsbD

theorem bits_of_length {n : Nat} (x : BitVec n) : (bitsOf x).length = n := by
  rw [bitsOf, List.length_map, List.length_range]

theorem bits_of_bit {n : Nat} (x : BitVec n) (k : Nat) : (bitsOf x).getD k false = x.getLsbD k := by
  by_cases inside : k < n
  · rw [bitsOf, List.getD_eq_getElem?_getD, List.getElem?_map, List.getElem?_range inside]
    rfl
  · have outside : n ≤ k := Nat.le_of_not_lt inside
    have none : (bitsOf x)[k]? = none := List.getElem?_eq_none ((bits_of_length x).symm ▸ outside)
    rw [List.getD_eq_getElem?_getD, none, BitVec.getLsbD_of_ge x k outside]
    rfl

theorem wide_bit {n w : Nat} (fits : n ≤ w) (x : BitVec n) (k : Nat) : (x.setWidth w).getLsbD k = x.getLsbD k := by
  rw [BitVec.getLsbD_setWidth]
  by_cases inside : k < w
  · rw [decide_eq_true inside, Bool.true_and]
  · rw [BitVec.getLsbD_of_ge x k (by omega), Bool.and_false]

theorem diff_bit (left right : List Bool) (length : left.length = right.length) (k : Nat) :
    (List.zipWith xor left right).getD k false = xor (left.getD k false) (right.getD k false) := by
  induction left generalizing right k with
  | nil =>
      rw [List.length_eq_zero_iff.mp length.symm]
      rfl
  | cons bit left ih =>
      cases right with
      | nil => cases length
      | cons other right =>
          cases k with
          | zero => rfl
          | succ k => exact ih right (Nat.succ.inj length) k

theorem take_bit (bits : List Bool) (count k : Nat) :
    (bits.take count).getD k false = (decide (k < count) && bits.getD k false) := by
  rw [List.getD_eq_getElem?_getD, List.getD_eq_getElem?_getD, List.getElem?_take]
  by_cases inside : k < count
  · rw [if_pos inside, decide_eq_true inside, Bool.true_and]
  · rw [if_neg inside, decide_eq_false inside, Bool.false_and]
    rfl

theorem drop_bit (bits : List Bool) (count k : Nat) : (bits.drop count).getD k false = bits.getD (count + k) false := by
  rw [List.getD_eq_getElem?_getD, List.getD_eq_getElem?_getD, List.getElem?_drop]

theorem bits_ext (left right : List Bool) (length : left.length = right.length)
    (same : ∀ k, left.getD k false = right.getD k false) : left = right := by
  apply List.ext_getElem length
  intro k _ _
  rw [List.getElem_eq_getD false, List.getElem_eq_getD false]
  exact same k

section Words

variable {n : Nat}

-- Bit k of a sequence of words, those of each word taken least significant first.
def wordBit (words : List (BitVec n)) (k : Nat) : Bool := (words.getD (k / n) 0#n).getLsbD (k % n)

def wordsBits (words : List (BitVec n)) : List Bool := words.flatMap bitsOf

theorem words_bits_cons (word : BitVec n) (words : List (BitVec n)) :
    wordsBits (word :: words) = bitsOf word ++ wordsBits words := List.flatMap_cons

theorem words_bits_length (words : List (BitVec n)) : (wordsBits words).length = words.length * n := by
  induction words with
  | nil => exact (Nat.zero_mul n).symm
  | cons word words ih =>
      rw [words_bits_cons, List.length_append, bits_of_length, ih, List.length_cons, Nat.succ_mul, Nat.add_comm]

theorem words_bits_bit (positive : 0 < n) (words : List (BitVec n)) (k : Nat) :
    (wordsBits words).getD k false = wordBit words k := by
  induction words generalizing k with
  | nil => exact BitVec.getLsbD_zero.symm
  | cons word words ih =>
      rw [words_bits_cons, wordBit]
      by_cases inside : k < n
      · have first : k < (bitsOf word).length := by rw [bits_of_length]; exact inside
        rw [List.getD_eq_getElem?_getD, List.getElem?_append_left first, ← List.getD_eq_getElem?_getD, bits_of_bit,
          Nat.div_eq_of_lt inside, Nat.mod_eq_of_lt inside]
        rfl
      · have after : n ≤ k := Nat.le_of_not_lt inside
        have later : (bitsOf word).length ≤ k := by rw [bits_of_length]; exact after
        rw [List.getD_eq_getElem?_getD, List.getElem?_append_right later, ← List.getD_eq_getElem?_getD, bits_of_length,
          Nat.div_eq_sub_div positive after, Nat.mod_eq_sub_mod after]
        exact ih (k - n)

theorem words_ext (left right : List (BitVec n)) (length : left.length = right.length)
    (same : ∀ k, wordBit left k = wordBit right k) : left = right := by
  apply List.ext_getElem length
  intro index _ _
  apply BitVec.eq_of_getLsbD_eq
  intro bit inside
  have place : (n * index + bit) / n = index ∧ (n * index + bit) % n = bit := by
    rw [Nat.mul_add_div (by omega), Nat.mul_add_mod, Nat.div_eq_of_lt inside, Nat.mod_eq_of_lt inside]
    exact ⟨rfl, rfl⟩
  have equal := same (n * index + bit)
  rw [wordBit, wordBit, place.1, place.2] at equal
  rw [List.getElem_eq_getD 0#n, List.getElem_eq_getD 0#n]
  exact equal

end Words

section Feed

variable {w : Nat} (poly : BitVec w)

def feedBit (crc : BitVec w) (bit : Bool) : BitVec w := bitStep poly (crc ^^^ (BitVec.ofBool bit).setWidth w)

def feed (crc : BitVec w) (bits : List Bool) : BitVec w := bits.foldl (feedBit poly) crc

theorem feed_append (crc : BitVec w) (front back : List Bool) :
    feed poly crc (front ++ back) = feed poly (feed poly crc front) back := List.foldl_append

theorem feed_bit_xor (x y : BitVec w) (bit other : Bool) :
    feedBit poly (x ^^^ y) (xor bit other) = feedBit poly x bit ^^^ feedBit poly y other := by
  have mixed : (BitVec.ofBool (xor bit other)).setWidth w =
      (BitVec.ofBool bit).setWidth w ^^^ (BitVec.ofBool other).setWidth w := by
    rw [BitVec.ofBool_xor_ofBool.symm, BitVec.setWidth_xor]
  rw [feedBit, feedBit, feedBit, ← bit_step_xor, mixed]
  congr 1
  ac_rfl

-- The runs of two registers differ by the run of their differences.
theorem feed_xor (left right : List Bool) (length : left.length = right.length) (x y : BitVec w) :
    feed poly (x ^^^ y) (List.zipWith xor left right) = feed poly x left ^^^ feed poly y right := by
  induction left generalizing right x y with
  | nil =>
      rw [List.length_eq_zero_iff.mp length.symm]
      rfl
  | cons bit left ih =>
      cases right with
      | nil => cases length
      | cons other right =>
          calc feed poly (x ^^^ y) (List.zipWith xor (bit :: left) (other :: right))
              = feed poly (feedBit poly (x ^^^ y) (xor bit other)) (List.zipWith xor left right) := rfl
            _ = feed poly (feedBit poly x bit ^^^ feedBit poly y other) (List.zipWith xor left right) := by
                rw [feed_bit_xor]
            _ = feed poly x (bit :: left) ^^^ feed poly y (other :: right) := ih right (Nat.succ.inj length) _ _

theorem feed_difference (left right : List Bool) (length : left.length = right.length) (crc : BitVec w) :
    feed poly crc left ^^^ feed poly crc right = feed poly 0#w (List.zipWith xor left right) := by
  rw [← feed_xor poly left right length, BitVec.xor_self]

-- Bits put into the register all at once, as the bits of a word.
theorem feed_spelled (bits : List Bool) (crc x : BitVec w) (spelled : ∀ k, x.getLsbD k = bits.getD k false) :
    feed poly crc bits = bitSteps poly bits.length (crc ^^^ x) := by
  induction bits generalizing crc x with
  | nil =>
      have empty : x = 0#w := BitVec.eq_of_getLsbD_eq fun k _ => (spelled k).trans BitVec.getLsbD_zero.symm
      rw [empty, BitVec.xor_zero]
      rfl
  | cons bit bits ih =>
      have rest : ∀ k, (x >>> 1).getLsbD k = bits.getD k false := by
        intro k
        rw [BitVec.getLsbD_ushiftRight, Nat.add_comm]
        exact spelled (k + 1)
      have lowest : low 1 x = (BitVec.ofBool bit).setWidth w := by
        rw [low, BitVec.setWidth_one, spelled 0]
        rfl
      have stepped : bitStep poly (crc ^^^ x) = feedBit poly crc bit ^^^ (x >>> 1) := by
        have taken : bitStep poly x = bitStep poly (low 1 x) ^^^ (x >>> 1) := bit_steps_table poly 1 x
        rw [bit_step_xor, taken, ← BitVec.xor_assoc, ← bit_step_xor, lowest]
        rfl
      calc feed poly crc (bit :: bits)
          = feed poly (feedBit poly crc bit) bits := rfl
        _ = bitSteps poly bits.length (feedBit poly crc bit ^^^ (x >>> 1)) := ih _ _ rest
        _ = bitSteps poly (bit :: bits).length (crc ^^^ x) := by rw [← stepped]; rfl

theorem feed_clear (bits : List Bool) (clear : ∀ k, bits.getD k false = false) (crc : BitVec w) :
    feed poly crc bits = bitSteps poly bits.length crc := by
  have spelled : ∀ k, (0#w).getLsbD k = bits.getD k false := fun k => BitVec.getLsbD_zero.trans (clear k).symm
  rw [feed_spelled poly bits crc 0#w spelled, BitVec.xor_zero]

theorem feed_bits_of {n : Nat} (fits : n ≤ w) (crc : BitVec w) (x : BitVec n) :
    feed poly crc (bitsOf x) = bitSteps poly n (crc ^^^ x.setWidth w) := by
  have spelled : ∀ k, (x.setWidth w).getLsbD k = (bitsOf x).getD k false := by
    intro k
    rw [bits_of_bit, wide_bit fits]
  rw [feed_spelled poly (bitsOf x) crc _ spelled, bits_of_length]

theorem feed_silent (bits : List Bool) (clear : ∀ k, bits.getD k false = false) : feed poly 0#w bits = 0#w := by
  rw [feed_clear poly bits clear, clear_low_shifts, BitVec.zero_ushiftRight]
  exact fun _ _ => BitVec.getLsbD_zero

section Top

variable (top : poly.msb = true)

include top

-- The top bit of the polynomial tells what fell out, so nothing but zero steps to zero.
theorem bit_step_clears (x : BitVec w) (cleared : bitStep poly x = 0#w) : x = 0#w := by
  have shifted : (x >>> 1).msb = false := by
    rw [BitVec.msb_ushiftRight]
    rfl
  cases fell : x.getLsbD 0 with
  | true =>
      rw [bitStep, if_pos fell] at cleared
      have high := congrArg BitVec.msb cleared
      rw [BitVec.msb_xor, shifted, top, BitVec.msb_zero] at high
      cases high
  | false =>
      rw [bitStep, fell, if_neg Bool.false_ne_true] at cleared
      apply BitVec.eq_of_getLsbD_eq
      intro k _
      rw [BitVec.getLsbD_zero]
      cases k with
      | zero => exact fell
      | succ k =>
          have bit : (x >>> 1).getLsbD k = (0#w).getLsbD k := by rw [cleared]
          rw [BitVec.getLsbD_ushiftRight, BitVec.getLsbD_zero, Nat.add_comm] at bit
          exact bit

theorem bit_steps_clears (count : Nat) (x : BitVec w) (cleared : bitSteps poly count x = 0#w) : x = 0#w := by
  induction count generalizing x with
  | zero => exact cleared
  | succ count ih => exact bit_step_clears poly top x (ih _ cleared)

-- A burst that fits the register stays in it as a word.
theorem feed_window (bits : List Bool) (short : bits.length ≤ w) (lost : feed poly 0#w bits = 0#w) (k : Nat) :
    bits.getD k false = false := by
  let word : BitVec w := (BitVec.ofBoolListLE bits).setWidth w
  have spelled : ∀ k, word.getLsbD k = bits.getD k false := by
    intro k
    rw [wide_bit short, BitVec.getLsbD_ofBoolListLE]
  rw [feed_spelled poly bits 0#w word spelled, BitVec.zero_xor] at lost
  rw [← spelled, bit_steps_clears poly top _ word lost, BitVec.getLsbD_zero]

-- Silent bits before the window leave the register at zero, and those after it
-- cannot bring it back there.
theorem feed_burst (bits : List Bool) (start : Nat)
    (burst : ∀ k, bits.getD k false = true → start ≤ k ∧ k < start + w) (lost : feed poly 0#w bits = 0#w) (k : Nat) :
    bits.getD k false = false := by
  let front := bits.take start
  let middle := (bits.drop start).take w
  let back := (bits.drop start).drop w
  have parts : bits = front ++ (middle ++ back) := by rw [List.take_append_drop, List.take_append_drop]
  have silent_front (k : Nat) : front.getD k false = false := by
    apply Bool.eq_false_iff.mpr
    intro set
    rw [take_bit, Bool.and_eq_true, decide_eq_true_iff] at set
    have after := (burst k set.2).1
    omega
  have silent_back (k : Nat) : back.getD k false = false := by
    apply Bool.eq_false_iff.mpr
    intro set
    rw [drop_bit, drop_bit] at set
    have before := (burst _ set).2
    omega
  rw [parts, feed_append, feed_append, feed_silent poly front silent_front, feed_clear poly back silent_back] at lost
  have silent_middle := feed_window poly top middle (List.length_take_le _ _) (bit_steps_clears poly top _ _ lost)
  apply Bool.eq_false_iff.mpr
  intro set
  obtain ⟨after, before⟩ := burst k set
  have inside : middle.getD (k - start) false = true := by
    rw [take_bit, drop_bit, decide_eq_true (by omega), Bool.true_and, Nat.add_sub_cancel' after]
    exact set
  rw [silent_middle] at inside
  cases inside

theorem burst_changes_feed (crc : BitVec w) (left right : List Bool) (length : left.length = right.length) (start : Nat)
    (burst : Burst w start (left.getD · false) (right.getD · false)) (differ : left ≠ right) :
    feed poly crc left ≠ feed poly crc right := by
  intro same
  have lost : feed poly 0#w (List.zipWith xor left right) = 0#w := by
    rw [← feed_difference poly left right length crc, same, BitVec.xor_self]
  have inside (k : Nat) (set : (List.zipWith xor left right).getD k false = true) : start ≤ k ∧ k < start + w := by
    rw [diff_bit left right length, bne_iff_ne] at set
    exact burst k set
  apply differ
  apply bits_ext left right length
  intro k
  have silent := feed_burst poly top _ start inside lost k
  rw [diff_bit left right length, bne_eq_false_iff_eq] at silent
  exact silent

end Top

end Feed

section Register

variable {w n : Nat} (poly : BitVec w)

def feedWord (crc : BitVec w) (word : BitVec n) : BitVec w := bitSteps poly n (crc ^^^ word.setWidth w)

theorem feed_words (fits : n ≤ w) (words : List (BitVec n)) (crc : BitVec w) :
    words.foldl (feedWord poly) crc = feed poly crc (wordsBits words) := by
  induction words generalizing crc with
  | nil => rfl
  | cons word words ih =>
      rw [List.foldl_cons, ih, words_bits_cons, feed_append, feed_bits_of poly fits, feedWord]

-- A register of w bits over a polynomial with its top bit set tells two
-- sequences apart that differ in a burst of at most w bits.
theorem burst_changes_words (top : poly.msb = true) (positive : 0 < n) (fits : n ≤ w) (crc : BitVec w)
    (left right : List (BitVec n)) (length : left.length = right.length) (differ : left ≠ right) (start : Nat)
    (burst : Burst w start (wordBit left) (wordBit right)) :
    left.foldl (feedWord poly) crc ≠ right.foldl (feedWord poly) crc := by
  rw [feed_words poly fits, feed_words poly fits]
  have lengths : (wordsBits left).length = (wordsBits right).length := by
    rw [words_bits_length, words_bits_length, length]
  apply burst_changes_feed poly top crc _ _ lengths start
  · intro k apart
    simp only [words_bits_bit positive] at apart
    exact burst k apart
  · intro same
    apply differ
    apply words_ext left right length
    intro k
    rw [← words_bits_bit positive, ← words_bits_bit positive, same]

end Register

end Crc
