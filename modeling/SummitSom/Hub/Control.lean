import SummitSom.Interact.Program
import SummitSom.Cstr.Numbers
import SummitSom.Hub.Otp

set_option autoImplicit false

namespace SummitSom.Hub

open Interact

-- A call of libusb_control_transfer on the handle of a hub. The data are those
-- that it sends.
structure Control where
  requestType : Nat
  bRequest : Nat
  wValue : Nat
  wIndex : Nat
  wLength : Nat
  data : List UInt8
deriving DecidableEq

inductive Undefined where
  | dividesByZero
deriving DecidableEq

abbrev Exchange (A : Type) : Type := Prog Control (fun _ => Int) Undefined A

-- What libusb answers to each transfer of a call: a count of bytes, or a
-- negative error.
abbrev Answers : Type := Nat → Int

def issueNext (usb : Answers) (issued : List Control) (control : Control) : Int × List Control :=
  (usb issued.length, issued ++ [control])

def exchange {A : Type} (usb : Answers) (program : Exchange A) : Except Undefined A × List Control :=
  eval (issueNext usb) program []

def Succeed (usb : Answers) (issued : List Control) : Prop :=
  ∀ place control, issued[place]? = some control → 0 ≤ usb place ∧ usb place ≤ control.wLength

instance (usb : Answers) (issued : List Control) : Decidable (Succeed usb issued) :=
  decidable_of_iff (∀ place, ∀ inside : place < issued.length, 0 ≤ usb place ∧ usb place ≤ issued[place].wLength) (by
    constructor
    · intro all place control found
      obtain ⟨inside, rfl⟩ := List.getElem?_eq_some_iff.mp found
      exact all place inside
    · intro succeed place inside
      exact succeed place issued[place] (List.getElem?_eq_getElem inside))

-- Transfers in a row, given up at the first one that fails.
def inTurn : List Control → Int → Exchange Int
  | [], rc => pure rc
  | control :: rest, _ => do
      let rc ← issue control
      if rc < 0 then pure rc else inTurn rest rc

section Answered

variable {A : Type} (usb : Answers)

theorem issued_before (program : Exchange A) (before : List Control) :
    ∃ after, (eval (issueNext usb) program before).2 = before ++ after := by
  induction program generalizing before with
  | done value => exact ⟨[], (List.append_nil before).symm⟩
  | stop code => exact ⟨[], (List.append_nil before).symm⟩
  | call control rest ih =>
      obtain ⟨after, issued⟩ := ih (usb before.length) (before ++ [control])
      exact ⟨control :: after, by rw [eval, issueNext, issued, List.append_assoc, List.singleton_append]⟩

theorem succeeds_first (control : Control) (rest : Int → Exchange A) (before : List Control)
    (succeed : Succeed usb (eval (issueNext usb) (.call control rest) before).2) :
    0 ≤ usb before.length ∧ usb before.length ≤ control.wLength := by
  obtain ⟨after, issued⟩ := issued_before usb (rest (usb before.length)) (before ++ [control])
  apply succeed before.length control
  rw [eval, issueNext, issued, List.append_assoc, List.getElem?_append_right (Nat.le_refl _), Nat.sub_self,
    List.singleton_append, List.getElem?_cons_zero]

theorem in_turn_succeeds (controls : List Control) (rc : Int) (start : 0 ≤ rc) (before : List Control)
    (succeed : Succeed usb (eval (issueNext usb) (inTurn controls rc) before).2) :
    ∃ last, 0 ≤ last ∧ eval (issueNext usb) (inTurn controls rc) before = (.ok last, before ++ controls) := by
  induction controls generalizing rc before with
  | nil =>
      have ended : eval (issueNext usb) (inTurn [] rc) before = (.ok rc, before) := rfl
      exact ⟨rc, start, by rw [ended, List.append_nil]⟩
  | cons control rest ih =>
      have answered := (succeeds_first usb control _ before succeed).1
      have onward : eval (issueNext usb) (inTurn (control :: rest) rc) before =
          eval (issueNext usb) (inTurn rest (usb before.length)) (before ++ [control]) := by
        rw [inTurn, issue_bind, eval, issueNext, if_neg (by omega)]
      rw [onward] at succeed ⊢
      obtain ⟨last, positive, reached⟩ := ih (usb before.length) answered (before ++ [control]) succeed
      exact ⟨last, positive, by rw [reached, List.append_assoc, List.singleton_append]⟩

end Answered

end SummitSom.Hub
