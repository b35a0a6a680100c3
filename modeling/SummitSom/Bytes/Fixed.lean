import SummitSom.Bytes.Memory
import Mathlib.Data.List.Infix

set_option autoImplicit false

namespace Bytes

-- Some bits of a cell that are to have some values.
structure Fix (w : Nat) where
  address : Nat
  mask : BitVec w
  value : BitVec w

section Fixes

variable {w : Nat}

def Fix.apply (fix : Fix w) (memory : Memory (BitVec w)) : Memory (BitVec w) := fun address =>
  if address = fix.address then memory address &&& ~~~fix.mask ||| fix.value &&& fix.mask else memory address

def Fix.Touches (fix : Fix w) (address bit : Nat) : Prop := address = fix.address ∧ fix.mask.getLsbD bit = true

def Fix.Holds (fix : Fix w) (memory : Memory (BitVec w)) : Prop :=
  ∀ bit, fix.mask.getLsbD bit = true → (memory fix.address).getLsbD bit = fix.value.getLsbD bit

-- No bit is asked to have two values.
def Fix.Agrees (fix other : Fix w) : Prop :=
  fix.address = other.address → (fix.value ^^^ other.value) &&& (fix.mask &&& other.mask) = 0

instance (fix other : Fix w) : Decidable (fix.Agrees other) := inferInstanceAs (Decidable (_ → _))

def applied (fixes : List (Fix w)) (memory : Memory (BitVec w)) : Memory (BitVec w) :=
  fixes.foldl (fun memory fix => fix.apply memory) memory

theorem apply_own (fix : Fix w) (memory : Memory (BitVec w)) : fix.Holds (fix.apply memory) := by
  intro bit masked
  rw [Fix.apply, if_pos rfl, BitVec.getLsbD_or, BitVec.getLsbD_and, BitVec.getLsbD_and, BitVec.getLsbD_not, masked]
  simp

theorem apply_untouched (fix : Fix w) (memory : Memory (BitVec w)) (address bit : Nat) (spared : ¬ fix.Touches address bit) :
    (fix.apply memory address).getLsbD bit = (memory address).getLsbD bit := by
  rw [Fix.apply]
  split
  · next here =>
      have clear : fix.mask.getLsbD bit = false := Bool.not_eq_true _ ▸ fun masked => spared ⟨here, masked⟩
      by_cases inside : bit < w
      · rw [BitVec.getLsbD_or, BitVec.getLsbD_and, BitVec.getLsbD_and, BitVec.getLsbD_not, clear]
        simp [inside]
      · rw [BitVec.getLsbD_of_ge _ _ (Nat.le_of_not_lt inside), BitVec.getLsbD_of_ge _ _ (Nat.le_of_not_lt inside)]
  · rfl

theorem agrees_bit (fix other : Fix w) (agrees : fix.Agrees other) (same : fix.address = other.address) (bit : Nat)
    (first : fix.mask.getLsbD bit = true) (second : other.mask.getLsbD bit = true) :
    fix.value.getLsbD bit = other.value.getLsbD bit := by
  have none_differ := congrArg (fun bits : BitVec w => bits.getLsbD bit) (agrees same)
  simp only [BitVec.getLsbD_and, BitVec.getLsbD_xor, first, second, Bool.and_true] at none_differ
  simpa using none_differ

theorem apply_keeps (fix other : Fix w) (agrees : fix.Agrees other) (memory : Memory (BitVec w)) (holds : fix.Holds memory) :
    fix.Holds (other.apply memory) := by
  intro bit masked
  by_cases touched : other.Touches fix.address bit
  · have own := apply_own other memory bit touched.2
    rw [← touched.1] at own
    exact own.trans (agrees_bit fix other agrees touched.1 bit masked touched.2).symm
  · rw [apply_untouched other memory fix.address bit touched]
    exact holds bit masked

theorem applied_keeps (fix : Fix w) (fixes : List (Fix w)) (agree : ∀ other ∈ fixes, fix.Agrees other)
    (memory : Memory (BitVec w)) (holds : fix.Holds memory) : fix.Holds (applied fixes memory) := by
  induction fixes generalizing memory with
  | nil => exact holds
  | cons other fixes ih =>
      exact ih (fun later inside => agree later (List.mem_cons_of_mem other inside)) (other.apply memory)
        (apply_keeps fix other (agree other List.mem_cons_self) memory holds)

-- Where all agree, every one of them holds in the end, whatever their order.
theorem applied_hold (fixes : List (Fix w)) (agree : ∀ fix ∈ fixes, ∀ other ∈ fixes, fix.Agrees other)
    (memory : Memory (BitVec w)) (fix : Fix w) (inside : fix ∈ fixes) : fix.Holds (applied fixes memory) := by
  induction fixes generalizing memory with
  | nil => cases inside
  | cons first fixes ih =>
      cases List.mem_cons.mp inside with
      | inl same =>
          subst same
          exact applied_keeps fix fixes (fun other later => agree fix inside other (List.mem_cons_of_mem fix later)) (fix.apply memory)
            (apply_own fix memory)
      | inr later =>
          exact ih (fun one member other listed => agree one (List.mem_cons_of_mem first member) other
            (List.mem_cons_of_mem first listed)) (first.apply memory) later

theorem applied_untouched (fixes : List (Fix w)) (memory : Memory (BitVec w)) (address bit : Nat)
    (spared : ∀ fix ∈ fixes, ¬ fix.Touches address bit) :
    (applied fixes memory address).getLsbD bit = (memory address).getLsbD bit := by
  induction fixes generalizing memory with
  | nil => rfl
  | cons fix fixes ih =>
      exact (ih (fix.apply memory) (fun other later => spared other (List.mem_cons_of_mem fix later))).trans
        (apply_untouched fix memory address bit (spared fix List.mem_cons_self))

end Fixes

end Bytes
