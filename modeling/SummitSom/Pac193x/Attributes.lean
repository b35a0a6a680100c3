import SummitSom.Pac193x.Driver

set_option autoImplicit false

namespace SummitSom.Pac193x

def decimal (digits : List Char) : Nat := digits.foldl (fun value digit => value * 10 + (digit.toNat - '0'.toNat)) 0

-- kstrtoull with base 10: at least one digit, and at most a newline after them.
def kstrtoull (text : List Char) : Option Nat :=
  let digits := text.takeWhile Char.isDigit
  let rest := text.dropWhile Char.isDigit
  if digits = [] then none else if rest = [] ∨ rest = ['\n'] then some (decimal digits) else none

def kstrtoint (text : List Char) : Option Int :=
  let value :=
    match text with
    | '-' :: rest => (kstrtoull rest).map fun value => -(value : Int)
    | '+' :: rest => (kstrtoull rest).map fun value => (value : Int)
    | _ => (kstrtoull text).map fun value => (value : Int)
  value.filter fun value => decide (-2 ^ 31 ≤ value ∧ value < 2 ^ 31)

example : ["-12\n", "+7", "", "3 ", "2147483648"].map (fun text => kstrtoint text.toList) =
    [some (-12), some 7, none, none, none] := by decide

def rstEnRegsWoParamStore (phys_channels : Nat) (buf : List Char) (data : RegData) : Int × RegData :=
  match kstrtoint buf with
  | none => (-EINVAL, data)
  | some val =>
      if val = 0 ∨ val = 1 then
        (buf.length, { data with energy_sec_acc := fun cnt => if cnt < phys_channels then 0 else data.energy_sec_acc cnt })
      else (-EINVAL, data)

def mybuffSize : Nat := 8

-- What shunt_value_store makes of a string: a message and -EINVAL, or the
-- channel and its new shunt. The copy in front of the first blank leaves its
-- buffer no room for a NUL when it is too long.
inductive ShuntWrite where
  | refused (message : String)
  | stored (chan sh_val : Nat)
  | overrun (copied : Nat)
deriving DecidableEq

def shuntText (after : List Char) (chan : Nat) : ShuntWrite :=
  match kstrtoint after with
  | none => .refused "shunt_value: Shunt value is not a number"
  | some sh_val =>
      if sh_val < 0 then .refused "shunt_value: Negative shunt values not allowed" else .stored chan sh_val.toNat

def shuntValueStore (phys_channels : Nat) (buf : List Char) : ShuntWrite :=
  match buf.dropWhile fun letter => letter ≠ ' ' with
  | [] => .refused "shunt_value: Missing parameters"
  | _ :: after =>
      let mybuff := buf.takeWhile fun letter => letter ≠ ' '
      if mybuffSize ≤ mybuff.length then .overrun mybuff.length else
        match kstrtoint mybuff with
        | none => .refused "shunt_value: Channel index is not a number"
        | some chan =>
            if chan < 0 then .refused "shunt_value: Negative channel values not allowed"
            else if (phys_channels : Int) ≤ chan then .refused "shunt_value: Channel index out of range"
            else shuntText after chan.toNat

example : ["1 0\n", "5000", "4 10", "0 -3", "00000000 1"].map (fun buf => shuntValueStore 4 buf.toList) =
    [.stored 1 0, .refused "shunt_value: Missing parameters", .refused "shunt_value: Channel index out of range",
      .refused "shunt_value: Negative shunt values not allowed", .overrun 8] := by decide

end SummitSom.Pac193x
