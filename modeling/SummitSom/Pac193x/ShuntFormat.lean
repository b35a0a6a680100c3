import Mathlib.Data.List.TakeWhile
import Mathlib.Logic.Function.Basic
import SummitSom.Pac193x.Attributes

set_option autoImplicit false

namespace SummitSom.Pac193x

-- A call of shunt_value_store: what it returns and the shunts it leaves. A copy
-- past the end of mybuff leaves nothing to rely on.
def shuntCall (phys_channels : Nat) (buf : List Char) (shunts : Nat → Nat) : Option (Int × (Nat → Nat)) :=
  match shuntValueStore phys_channels buf with
  | .refused _ => some (-EINVAL, shunts)
  | .stored chan sh_val => some (buf.length, Function.update shunts chan sh_val)
  | .overrun _ => none

-- What memcpy is told to copy into mybuff.
def memcpyLength (buf : List Char) : Nat :=
  match buf.dropWhile fun letter => letter ≠ ' ' with
  | [] => 0
  | _ :: _ => (buf.takeWhile fun letter => letter ≠ ' ').length

def Format (phys_channels : Nat) (buf : List Char) (chan sh_val : Nat) : Prop :=
  ∃ before after, buf = before ++ ' ' :: after ∧ ' ' ∉ before ∧ before.length ≤ 7 ∧
    kstrtoint before = some (chan : Int) ∧ chan < phys_channels ∧ kstrtoint after = some (sh_val : Int)

structure ParsesFormat (phys_channels : Nat) (buf : List Char) : Prop where
  accepts : ∀ chan sh_val, Format phys_channels buf chan sh_val → ∀ shunts,
    shuntCall phys_channels buf shunts = some ((buf.length : Int), Function.update shunts chan sh_val)
  refuses : (∀ chan sh_val, ¬Format phys_channels buf chan sh_val) → ∀ shunts,
    shuntCall phys_channels buf shunts = some (-EINVAL, shunts)
  copies : memcpyLength buf ≤ mybuffSize - 1

theorem first_blank (before after : List Char) (absent : ' ' ∉ before) :
    (before ++ ' ' :: after).takeWhile (fun letter => letter ≠ ' ') = before ∧
      (before ++ ' ' :: after).dropWhile (fun letter => letter ≠ ' ') = ' ' :: after := by
  have passed : ∀ letter ∈ before, decide (letter ≠ ' ') = true := by
    intro letter member
    exact decide_eq_true fun same => absent (same ▸ member)
  constructor
  · rw [List.takeWhile_append_of_pos passed, List.takeWhile_cons_of_neg (by decide), List.append_nil]
  · rw [List.dropWhile_append_of_pos passed, List.dropWhile_cons_of_neg (by decide)]

theorem no_blank (buf : List Char) (absent : ' ' ∉ buf) : buf.dropWhile (fun letter => letter ≠ ' ') = [] := by
  refine List.dropWhile_eq_nil_iff.mpr fun letter member => ?_
  exact decide_eq_true fun same => absent (same ▸ member)

theorem blank_unique (before after other rest : List Char) (absent : ' ' ∉ before) (without : ' ' ∉ other)
    (same : before ++ ' ' :: after = other ++ ' ' :: rest) : before = other ∧ after = rest := by
  have first := first_blank before after absent
  rw [same] at first
  have second := first_blank other rest without
  exact ⟨first.1.symm.trans second.1, List.tail_eq_of_cons_eq (first.2.symm.trans second.2)⟩

section Stores

variable (phys_channels : Nat)

theorem format_parts (before after : List Char) (chan sh_val : Nat) (absent : ' ' ∉ before)
    (format : Format phys_channels (before ++ ' ' :: after) chan sh_val) :
    kstrtoint before = some (chan : Int) ∧ chan < phys_channels ∧ kstrtoint after = some (sh_val : Int) := by
  obtain ⟨other, rest, same, without, _, number, range, value⟩ := format
  obtain ⟨rfl, rfl⟩ := blank_unique before after other rest absent without same
  exact ⟨number, range, value⟩

theorem format_excluded (before after : List Char) (absent : ' ' ∉ before)
    (wrong : ∀ chan sh_val : Nat, kstrtoint before = some (chan : Int) → chan < phys_channels →
      kstrtoint after = some (sh_val : Int) → False) (chan sh_val : Nat) :
    ¬Format phys_channels (before ++ ' ' :: after) chan sh_val := by
  intro format
  have parts := format_parts phys_channels before after chan sh_val absent format
  exact wrong chan sh_val parts.1 parts.2.1 parts.2.2

theorem shunt_value_store_split (before after : List Char) (absent : ' ' ∉ before) :
    shuntValueStore phys_channels (before ++ ' ' :: after) =
      if mybuffSize ≤ before.length then .overrun before.length else
        match kstrtoint before with
        | none => .refused "shunt_value: Channel index is not a number"
        | some chan =>
            if chan < 0 then .refused "shunt_value: Negative channel values not allowed"
            else if (phys_channels : Int) ≤ chan then .refused "shunt_value: Channel index out of range"
            else shuntText after chan.toNat := by
  rewrite [shuntValueStore, (first_blank before after absent).1, (first_blank before after absent).2]
  rfl

-- Whatever is wrong with a text of the right length, it is refused.
theorem shunt_value_store_cases (before after : List Char) (absent : ' ' ∉ before) (short : before.length < mybuffSize) :
    (∃ chan sh_val, Format phys_channels (before ++ ' ' :: after) chan sh_val ∧
        shuntValueStore phys_channels (before ++ ' ' :: after) = .stored chan sh_val) ∨
      (∃ message, shuntValueStore phys_channels (before ++ ' ' :: after) = .refused message) ∧
        ∀ chan sh_val, ¬Format phys_channels (before ++ ' ' :: after) chan sh_val := by
  rw [shunt_value_store_split phys_channels before after absent, if_neg (Nat.not_le.mpr short)]
  cases number : kstrtoint before with
  | none =>
      refine .inr ⟨⟨_, rfl⟩, format_excluded phys_channels before after absent fun chan sh_val channel _ _ => ?_⟩
      exact nomatch number.symm.trans channel
  | some chan =>
      dsimp only
      by_cases negative : chan < 0
      · rw [if_pos negative]
        refine .inr ⟨⟨_, rfl⟩, format_excluded phys_channels before after absent fun other sh_val channel _ _ => ?_⟩
        have same := Option.some.inj (number.symm.trans channel)
        omega
      · rw [if_neg negative]
        by_cases beyond : (phys_channels : Int) ≤ chan
        · rw [if_pos beyond]
          refine .inr ⟨⟨_, rfl⟩, format_excluded phys_channels before after absent fun other sh_val channel inside _ => ?_⟩
          have same := Option.some.inj (number.symm.trans channel)
          omega
        · rw [if_neg beyond, shuntText]
          cases value : kstrtoint after with
          | none =>
              refine .inr ⟨⟨_, rfl⟩, format_excluded phys_channels before after absent fun other sh_val _ _ shunt => ?_⟩
              exact nomatch value.symm.trans shunt
          | some sh_val =>
              dsimp only
              by_cases below : sh_val < 0
              · rw [if_pos below]
                refine .inr ⟨⟨_, rfl⟩, format_excluded phys_channels before after absent fun other sh_val _ _ shunt => ?_⟩
                have same := Option.some.inj (value.symm.trans shunt)
                omega
              · rw [if_neg below]
                have whole : ((chan.toNat : Nat) : Int) = chan := Int.toNat_of_nonneg (by omega)
                have shunt : ((sh_val.toNat : Nat) : Int) = sh_val := Int.toNat_of_nonneg (by omega)
                refine .inl ⟨chan.toNat, sh_val.toNat, ?_, rfl⟩
                have room : before.length ≤ 7 := Nat.le_of_lt_succ short
                exact ⟨before, after, rfl, absent, room, by rw [whole, number], by omega, by rw [shunt, value]⟩

theorem format_unique (buf : List Char) (chan other sh_val shunt : Nat) (format : Format phys_channels buf chan sh_val)
    (again : Format phys_channels buf other shunt) : other = chan ∧ shunt = sh_val := by
  obtain ⟨before, after, rfl, absent, _, number, _, value⟩ := format
  have parts := format_parts phys_channels before after other shunt absent again
  have sameChan := Option.some.inj (number.symm.trans parts.1)
  have sameValue := Option.some.inj (value.symm.trans parts.2.2)
  omega

theorem shunt_value_store_exact_iff (buf : List Char) :
    ParsesFormat phys_channels buf ↔ ' ' ∉ buf ∨ buf.idxOf ' ' < mybuffSize := by
  by_cases present : ' ' ∈ buf
  · obtain ⟨before, after, rfl, absent⟩ := List.eq_append_cons_of_mem present
    have copied : memcpyLength (before ++ ' ' :: after) = before.length := by
      rw [memcpyLength, (first_blank before after absent).1, (first_blank before after absent).2]
    have place : (before ++ ' ' :: after).idxOf ' ' = before.length := by
      simp [List.idxOf_append, absent]
    rw [place]
    constructor
    · intro parses
      have copies := parses.copies
      rw [copied] at copies
      exact .inr (Nat.lt_succ_of_le copies)
    · intro short
      have room := short.resolve_left (not_not_intro present)
      have copies : memcpyLength (before ++ ' ' :: after) ≤ mybuffSize - 1 := copied ▸ Nat.le_sub_one_of_lt room
      rcases shunt_value_store_cases phys_channels before after absent room with
        ⟨chan, sh_val, format, stored⟩ | ⟨⟨message, refused⟩, malformed⟩
      · refine ⟨fun other shunt again shunts => ?_, fun malformed => absurd format (malformed chan sh_val), copies⟩
        obtain ⟨rfl, rfl⟩ := format_unique phys_channels _ chan other sh_val shunt format again
        rw [shuntCall, stored]
      · refine ⟨fun chan sh_val format => absurd format (malformed chan sh_val), fun _ shunts => ?_, copies⟩
        rw [shuntCall, refused]
  · have dropped := no_blank buf present
    have malformed : ∀ chan sh_val, ¬Format phys_channels buf chan sh_val := by
      intro chan sh_val format
      obtain ⟨before, after, rfl, _⟩ := format
      exact present (List.mem_append_right before List.mem_cons_self)
    refine ⟨fun _ => .inl present, fun _ => ⟨fun chan sh_val format => absurd format (malformed chan sh_val), ?_, ?_⟩⟩
    · intro _ shunts
      rw [shuntCall, shuntValueStore, dropped]
    · rw [memcpyLength, dropped]
      exact Nat.zero_le _

end Stores

-- "00000001 5": the copy fills mybuff and leaves no room for its NUL.
theorem eight_digits_overrun : ¬ ∀ (phys_channels : Nat) (buf : List Char), ParsesFormat phys_channels buf := by
  intro parses
  have copies := (parses 4 "00000001 5".toList).copies
  exact absurd copies (by decide)

end SummitSom.Pac193x
