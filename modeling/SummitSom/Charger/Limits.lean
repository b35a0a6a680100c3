import SummitSom.Charger.Bq25790
import Mathlib.Algebra.Order.Ring.Int

set_option autoImplicit false

namespace SummitSom.Charger

def Property.least : Property → Int
  | .INPUT_CURRENT_LIMIT => 100000
  | .CONSTANT_CHARGE_VOLTAGE => 3000000
  | .CONSTANT_CHARGE_CURRENT => 50000
  | .PRECHARGE_CURRENT => 40000
  | .CHARGE_TERM_CURRENT => 40000
  | .INPUT_VOLTAGE_LIMIT => 3600000

def Property.chipMost : Property → Int
  | .INPUT_CURRENT_LIMIT => 3300000
  | .CONSTANT_CHARGE_VOLTAGE => 18800000
  | .CONSTANT_CHARGE_CURRENT => 5000000
  | .PRECHARGE_CURRENT => 2000000
  | .CHARGE_TERM_CURRENT => 1000000
  | .INPUT_VOLTAGE_LIMIT => 22000000

def Property.step : Property → Int
  | .PRECHARGE_CURRENT | .CHARGE_TERM_CURRENT => 40000
  | .INPUT_VOLTAGE_LIMIT => 100000
  | _ => 10000

def BatteryInfo.rating (info : BatteryInfo) : Property → Int
  | .CONSTANT_CHARGE_VOLTAGE => info.constant_charge_voltage_max_uv
  | .CONSTANT_CHARGE_CURRENT => info.constant_charge_current_max_ua
  | _ => -EINVAL

-- A maximum that is absent or omitted counts as that of the chip.
def most (battery : Option BatteryInfo) (prop : Property) : Int :=
  match battery with
  | none => prop.chipMost
  | some info => if info.rating prop = -EINVAL then prop.chipMost else min prop.chipMost (info.rating prop)

def Described (battery : Option BatteryInfo) : Prop :=
  ∀ info prop, battery = some info → info.rating prop = -EINVAL ∨ prop.least ≤ info.rating prop

def code (battery : Option BatteryInfo) (prop : Property) (intval : Int) : Int :=
  max prop.least (min (most battery prop) intval) / prop.step

def granted (battery : Option BatteryInfo) (prop : Property) (intval : Int) : Int := code battery prop intval * prop.step

theorem most_range (battery : Option BatteryInfo) (prop : Property) (described : Described battery) :
    prop.least ≤ most battery prop ∧ most battery prop ≤ prop.chipMost := by
  have chip : prop.least ≤ prop.chipMost := by cases prop <;> decide
  cases battery with
  | none => exact ⟨chip, le_refl _⟩
  | some info =>
      rw [most]
      split
      · exact ⟨chip, le_refl _⟩
      · rename_i given
        have rated := (described info prop rfl).resolve_left given
        exact ⟨le_min chip rated, min_le_left _ _⟩

theorem code_range (battery : Option BatteryInfo) (prop : Property) (intval : Int) (described : Described battery) :
    prop.least ≤ granted battery prop intval ∧ granted battery prop intval ≤ most battery prop := by
  have range := most_range battery prop described
  cases prop <;> simp only [granted, code, Property.least, Property.step] at range ⊢ <;> omega

theorem code_most (battery : Option BatteryInfo) (prop : Property) (intval : Int) (described : Described battery) :
    code battery prop intval ≤ prop.chipMost / prop.step := by
  have range := most_range battery prop described
  have positive : 0 < prop.step := by cases prop <;> decide
  exact Int.ediv_le_ediv positive (max_le (le_trans range.1 range.2) (le_trans (min_le_left _ _) range.2))

theorem code_bytes (battery : Option BatteryInfo) (prop : Property) (intval : Int) (described : Described battery) :
    0 ≤ code battery prop intval ∧ code battery prop intval < 65536 := by
  have range := most_range battery prop described
  cases prop <;> simp only [code, Property.least, Property.step, Property.chipMost] at range ⊢ <;> omega

theorem word_bytes (val : Int) (least : 0 ≤ val) (most : val < 65536) : word (highByte val) (lowByte val) = val := by
  have high : highByte val = (val / 256).toNat := by
    rw [highByte, lowByte, Int.shiftRight_eq_div_pow]
    omega
  have low : lowByte val < 2 ^ 8 := by
    rw [lowByte]
    omega
  rw [word, ← Nat.shiftLeft_add_eq_or_of_lt low, Nat.shiftLeft_eq, high, lowByte]
  omega

theorem fitting_code (least most intval limit : Int) (steps : Nat) (whole : least = 10000 * steps) (range : least ≤ most)
    (fitting : limit / 10000 = most / 10000 ∨ intval < limit ∧ intval / 10000 ≤ most / 10000) :
    (clamp intval least limit).tdiv 10000 = max least (min most intval) / 10000 := by
  have nonneg : 0 ≤ clamp intval least limit := by
    rw [clamp]
    split
    · omega
    · split <;> omega
  rw [Int.tdiv_eq_ediv_of_nonneg nonneg, clamp]
  split
  · omega
  · split <;> omega

theorem clamp_between (val lo hi : Int) (range : lo ≤ hi) : clamp val lo hi = max lo (min hi val) := by
  rw [clamp]
  split
  · omega
  · split <;> omega

theorem fixed_code (battery : Option BatteryInfo) (prop : Property) (intval : Int)
    (fixed : ∀ info : BatteryInfo, info.rating prop = -EINVAL) :
    (clamp intval prop.least prop.chipMost).tdiv prop.step = code battery prop intval := by
  have range : prop.least ≤ prop.chipMost := by cases prop <;> decide
  have positive : 0 ≤ prop.least := by cases prop <;> decide
  have whole : most battery prop = prop.chipMost := by
    cases battery with
    | none => rfl
    | some info => exact if_pos (fixed info)
  rw [clamp_between intval _ _ range, code, whole]
  exact Int.tdiv_eq_ediv_of_nonneg (le_trans positive (le_max_left _ _))

theorem field_fits (val bits : Nat) (small : val < 2 ^ bits) : val &&& (2 ^ bits - 1) = val := by
  rw [Nat.and_two_pow_sub_one_eq_mod]
  exact Nat.mod_eq_of_lt small

end SummitSom.Charger
