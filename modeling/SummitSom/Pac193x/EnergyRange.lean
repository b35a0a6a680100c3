import SummitSom.Pac193x.Attributes
import SummitSom.Pac193x.SkipLayout
import Mathlib.Data.List.Induction

set_option autoImplicit false

namespace SummitSom.Pac193x

def FitsS64 (value : Int) : Prop := -2 ^ 63 ≤ value ∧ value < 2 ^ 63

theorem wrap_eq_iff (value : Int) : wrap 64 value = value ↔ FitsS64 value := wrap_fits_iff 63 value

-- What happens to the accumulated energy: a snapshot with the two blocks that
-- it read, or a write to rst_en_regs_wo_param.
inductive Update where
  | snapshot (ctrl_regs meas_regs : Bytes)
  | reset (buf : List Char)

section Updates

variable (phys_channels : Nat)

def RegData.update (data : RegData) : Update → RegData
  | .snapshot ctrl_regs meas_regs => decode phys_channels { data with ctrl_regs := ctrl_regs, meas_regs := meas_regs }
  | .reset buf => (rstEnRegsWoParamStore phys_channels buf data).2

def RegData.after (data : RegData) (updates : List Update) : RegData := updates.foldl (RegData.update phys_channels) data

def Update.resets : Update → Bool
  | .snapshot _ _ => false
  | .reset buf => kstrtoint buf = some 0 || kstrtoint buf = some 1

section Channel

variable (cnt : Nat)

def Update.takes : Update → Bool
  | .snapshot ctrl_regs _ => active ctrl_regs cnt
  | .reset _ => false

-- VPOWER_ACC times ACC_COUNT, as the two fields of the block have them.
def Update.product (bi_dir : Bool) : Update → Int
  | .snapshot ctrl_regs meas_regs =>
      Reg.vpower_acc.decoder bi_dir meas_regs (Reg.vpower_acc.slot ctrl_regs phys_channels cnt) * mACC_COUNT meas_regs 0
  | .reset _ => 0

def Update.shift : Update → Nat
  | .snapshot ctrl_regs _ => sampShift ctrl_regs
  | .reset _ => 0

-- The formula of the driver over the integers.
def exactStep (bi_dir : Bool) (total : Int) (update : Update) : Int :=
  if update.resets then 0
  else if update.takes cnt then total + update.product phys_channels cnt bi_dir >>> update.shift
  else total

def exactTotal (bi_dir : Bool) (start : Int) (updates : List Update) : Int :=
  updates.foldl (exactStep phys_channels cnt bi_dir) start

-- The product as the driver has it in an s64, from the fields it has stored.
def RegData.product (data : RegData) : Int := wrap 64 (data.vpower_acc cnt * data.acc_count)

structure ExactRun (data : RegData) (updates : List Update) : Prop where
  product : ∀ before update, before ++ [update] <+: updates → update.takes cnt = true →
    (data.after phys_channels (before ++ [update])).product cnt = update.product phys_channels cnt (data.bi_dir cnt)
  shifted : ∀ before update, before ++ [update] <+: updates → update.takes cnt = true →
    (data.after phys_channels (before ++ [update])).product cnt >>> update.shift =
      update.product phys_channels cnt (data.bi_dir cnt) >>> update.shift
  total : ∀ before, before <+: updates →
    (data.after phys_channels before).energy_sec_acc cnt =
      exactTotal phys_channels cnt (data.bi_dir cnt) (data.energy_sec_acc cnt) before
  increasing : data.bi_dir cnt = false → ∀ before between, before ++ between <+: updates →
    (∀ update ∈ between, update.resets = false) →
      (data.after phys_channels before).energy_sec_acc cnt ≤ (data.after phys_channels (before ++ between)).energy_sec_acc cnt

theorem after_snoc (data : RegData) (before : List Update) (update : Update) :
    data.after phys_channels (before ++ [update]) = (data.after phys_channels before).update phys_channels update := by
  simp [RegData.after]

theorem total_snoc (bi_dir : Bool) (start : Int) (before : List Update) (update : Update) :
    exactTotal phys_channels cnt bi_dir start (before ++ [update]) =
      exactStep phys_channels cnt bi_dir (exactTotal phys_channels cnt bi_dir start before) update := by
  simp [exactTotal]

theorem reset_energy (buf : List Char) (data : RegData) (present : cnt < phys_channels) :
    (rstEnRegsWoParamStore phys_channels buf data).2.energy_sec_acc cnt =
      if (Update.reset buf).resets then 0 else data.energy_sec_acc cnt := by
  rw [rstEnRegsWoParamStore]
  cases parsed : kstrtoint buf with
  | none => simp [Update.resets, parsed]
  | some val =>
      by_cases accepted : val = 0 ∨ val = 1
      · simp [Update.resets, parsed, accepted, present]
      · simp [Update.resets, parsed, accepted]

theorem update_bi_dir (data : RegData) (update : Update) : (data.update phys_channels update).bi_dir = data.bi_dir := by
  cases update with
  | snapshot ctrl_regs meas_regs => exact (decode_input phys_channels _).bi_dir
  | reset buf =>
      simp only [RegData.update, rstEnRegsWoParamStore]
      split
      · rfl
      · split <;> rfl

theorem after_bi_dir (data : RegData) (updates : List Update) : (data.after phys_channels updates).bi_dir = data.bi_dir := by
  induction updates generalizing data with
  | nil => rfl
  | cons update rest ih => exact (ih (data.update phys_channels update)).trans (update_bi_dir phys_channels data update)

theorem update_product (data : RegData) (update : Update) (present : cnt < phys_channels) (takes : update.takes cnt = true) :
    (data.update phys_channels update).product cnt = wrap 64 (update.product phys_channels cnt (data.bi_dir cnt)) := by
  cases update with
  | snapshot ctrl_regs meas_regs =>
      have stored := decode_stored phys_channels cnt { data with ctrl_regs := ctrl_regs, meas_regs := meas_regs } .vpower_acc
        present takes
      have count := (decode_input phys_channels { data with ctrl_regs := ctrl_regs, meas_regs := meas_regs }).acc_count
      simp only [RegData.stored] at stored
      simp only [RegData.product, RegData.update, stored, count]
      rfl
  | reset buf => cases takes

theorem update_energy (data : RegData) (update : Update) (present : cnt < phys_channels)
    (fits : update.takes cnt = true → FitsS64 (update.product phys_channels cnt (data.bi_dir cnt))) :
    (data.update phys_channels update).energy_sec_acc cnt =
        exactStep phys_channels cnt (data.bi_dir cnt) (data.energy_sec_acc cnt) update ∨
      (data.update phys_channels update).energy_sec_acc cnt =
        wrap 64 (exactStep phys_channels cnt (data.bi_dir cnt) (data.energy_sec_acc cnt) update) := by
  cases update with
  | snapshot ctrl_regs meas_regs =>
      by_cases on : active ctrl_regs cnt = true
      · right
        have energy := decode_energy_sec_acc phys_channels cnt { data with ctrl_regs := ctrl_regs, meas_regs := meas_regs }
          present on
        have stored := decode_stored phys_channels cnt { data with ctrl_regs := ctrl_regs, meas_regs := meas_regs } .vpower_acc
          present on
        simp only [RegData.stored] at stored
        rw [stored] at energy
        have exact : wrap 64 (Update.product phys_channels cnt (data.bi_dir cnt) (.snapshot ctrl_regs meas_regs)) = _ :=
          (wrap_eq_iff _).mpr (fits on)
        simp only [Update.product] at exact
        simp only [RegData.update, exactStep, Update.resets, Bool.false_eq_true, if_false, Update.takes, on, if_true,
          Update.product, Update.shift]
        rw [energy, exact]
      · left
        have kept := (decode_disabled phys_channels cnt { data with ctrl_regs := ctrl_regs, meas_regs := meas_regs }
          (.inr (Bool.eq_false_iff.mpr on))).1
        simp only [RegData.update, exactStep, Update.resets, if_false, Update.takes, on, Bool.false_eq_true]
        exact kept
  | reset buf =>
      left
      simp [RegData.update, reset_energy phys_channels cnt buf data present, exactStep, Update.takes]

def ProductsFit (bi_dir : Bool) (updates : List Update) : Prop :=
  ∀ update ∈ updates, update.takes cnt = true → FitsS64 (update.product phys_channels cnt bi_dir)

def TotalsFit (data : RegData) (updates : List Update) : Prop :=
  ∀ before, before <+: updates →
    FitsS64 (exactTotal phys_channels cnt (data.bi_dir cnt) (data.energy_sec_acc cnt) before)

theorem after_total (data : RegData) (updates : List Update) (present : cnt < phys_channels)
    (totals : TotalsFit phys_channels cnt data updates)
    (products : ProductsFit phys_channels cnt (data.bi_dir cnt) updates) :
    (data.after phys_channels updates).energy_sec_acc cnt =
      exactTotal phys_channels cnt (data.bi_dir cnt) (data.energy_sec_acc cnt) updates := by
  induction updates using List.reverseRecOn with
  | nil => rfl
  | append_singleton before update ih =>
      have earlier := ih (fun front within => totals front (within.trans (List.prefix_append before [update])))
        (fun other member => products other (by simp [member]))
      have whole := totals (before ++ [update]) List.prefix_rfl
      have way := congrFun (after_bi_dir phys_channels data before) cnt
      have step := update_energy phys_channels cnt (data.after phys_channels before) update present
        (by rw [way]; exact products update (by simp))
      rw [way, earlier, ← total_snoc, ← after_snoc] at step
      cases step with
      | inl same => exact same
      | inr wrapped => exact wrapped.trans ((wrap_eq_iff _).mpr whole)

theorem exact_step_increases (total : Int) (update : Update) (kept : update.resets = false) :
    total ≤ exactStep phys_channels cnt false total update := by
  rw [exactStep, kept, if_neg Bool.false_ne_true]
  by_cases takes : update.takes cnt = true
  · rw [if_pos takes]
    have positive : 0 ≤ update.product phys_channels cnt false := by
      cases update with
      | snapshot ctrl_regs meas_regs => exact Int.mul_nonneg (Int.natCast_nonneg _) (Int.natCast_nonneg _)
      | reset buf => exact le_refl 0
    have shifted : 0 ≤ update.product phys_channels cnt false >>> update.shift := by
      rw [Int.shiftRight_eq_div_pow]
      exact Int.ediv_nonneg positive (by positivity)
    omega
  · rw [if_neg takes]

theorem exact_total_increases (start : Int) (before between : List Update)
    (kept : ∀ update ∈ between, update.resets = false) :
    exactTotal phys_channels cnt false start before ≤ exactTotal phys_channels cnt false start (before ++ between) := by
  induction between using List.reverseRecOn with
  | nil => rw [List.append_nil]
  | append_singleton front update ih =>
      rw [← List.append_assoc, total_snoc]
      exact le_trans (ih fun other member => kept other (by simp [member]))
        (exact_step_increases phys_channels cnt _ update (kept update (by simp)))

theorem after_product (data : RegData) (before : List Update) (update : Update) (present : cnt < phys_channels)
    (takes : update.takes cnt = true) :
    (data.after phys_channels (before ++ [update])).product cnt =
      wrap 64 (update.product phys_channels cnt (data.bi_dir cnt)) := by
  rw [after_snoc, update_product phys_channels cnt _ update present takes, after_bi_dir]

-- Totals that fit are computed exactly just when every product fits too.
theorem energy_exact_iff (data : RegData) (updates : List Update) (present : cnt < phys_channels)
    (totals : TotalsFit phys_channels cnt data updates) :
    ExactRun phys_channels cnt data updates ↔ ProductsFit phys_channels cnt (data.bi_dir cnt) updates := by
  constructor
  · intro run update member takes
    obtain ⟨before, after, rfl⟩ := List.append_of_mem member
    have product := run.product before update ⟨after, by simp⟩ takes
    rw [after_product phys_channels cnt data before update present takes] at product
    exact (wrap_eq_iff _).mp product
  · intro products
    have product (before : List Update) (update : Update) (within : before ++ [update] <+: updates)
        (takes : update.takes cnt = true) :
        (data.after phys_channels (before ++ [update])).product cnt = update.product phys_channels cnt (data.bi_dir cnt) := by
      rw [after_product phys_channels cnt data before update present takes]
      exact (wrap_eq_iff _).mpr (products update (within.subset (by simp)) takes)
    have total (before : List Update) (within : before <+: updates) :=
      after_total phys_channels cnt data before present (fun front inside => totals front (inside.trans within))
        (fun update member => products update (within.subset member))
    refine ⟨product, fun before update within takes => ?_, total, fun way before between within kept => ?_⟩
    · rw [product before update within takes]
    · rw [total before ((List.prefix_append before between).trans within), total (before ++ between) within, way]
      exact exact_total_increases phys_channels cnt _ before between kept

end Channel

end Updates

def everyOn : Bytes := List.replicate 12 0

-- One snapshot with the largest count and the given accumulator.
def fullWindow (acc : Nat) : Update := .snapshot everyOn (bytesOf accRegLen (2 ^ 24 - 1) ++ bytesOf vpowerAccRegLen acc)

theorem full_window_totals (acc : Nat)
    (fits : FitsS64 (exactTotal 1 0 false 0 [fullWindow acc])) : TotalsFit 1 0 clearedData [fullWindow acc] := by
  intro before within
  cases List.prefix_cons_iff.mp within with
  | inl none =>
      subst none
      exact ⟨by decide, by decide⟩
  | inr whole =>
      obtain ⟨rest, rfl, ended⟩ := whole
      obtain rfl := List.prefix_nil.mp ended
      exact fits

theorem energy_exact_iff_small :
    ExactRun 1 0 clearedData [fullWindow 5] ↔ ProductsFit 1 0 false [fullWindow 5] :=
  energy_exact_iff 1 0 clearedData [fullWindow 5] (by decide)
    (full_window_totals 5 ⟨by decide +kernel, by decide +kernel⟩)

theorem full_window_wraps :
    ¬ ∀ (phys_channels cnt : Nat) (data : RegData) (updates : List Update), cnt < phys_channels →
      TotalsFit phys_channels cnt data updates → ExactRun phys_channels cnt data updates := by
  intro exact
  have run := exact 1 0 clearedData [fullWindow (2 ^ 48 - 1)] (by decide)
    (full_window_totals _ ⟨by decide +kernel, by decide +kernel⟩)
  have increasing := run.increasing rfl [] [fullWindow (2 ^ 48 - 1)] List.prefix_rfl (by simp [fullWindow, Update.resets])
  exact absurd increasing (by decide +kernel)

end SummitSom.Pac193x
