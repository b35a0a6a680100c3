import SummitSom.Charger.Requests
import SummitSom.Lookup.Thresholds

set_option autoImplicit false

namespace SummitSom.Charger

open Interact Lookup

def WATCHDOG_DIS : Int := 0
def WATCHDOG_MAX : Int := 160000

-- What device_property_read_u32 finds in the device tree; none is a property
-- that it cannot read.
structure ChargerNode where
  watchdog_timeout_ms : Option (BitVec 32)
  input_voltage_limit_microvolt : Option (BitVec 32)
  input_current_limit_microamp : Option (BitVec 32)

def orDefault (property : Option (BitVec 32)) (convert : BitVec 32 → Int) (dflt : Int) : Int :=
  match property with
  | none => dflt
  | some val => convert val

-- watchdog_timer is an int, the limits are u32.
def parseDt (node : ChargerNode) (bq : Bq25790) : Except Int Bq25790 :=
  let watchdog_timer := orDefault node.watchdog_timeout_ms BitVec.toInt WATCHDOG_DIS
  let vlim := orDefault node.input_voltage_limit_microvolt (fun val => val.toNat) 3600000
  let ilim := orDefault node.input_current_limit_microamp (fun val => val.toNat) 1000000
  if WATCHDOG_MAX < watchdog_timer ∨ watchdog_timer < WATCHDOG_DIS then .error (-EINVAL)
  else if 22000000 < vlim ∨ vlim < 3600000 then .error (-EINVAL)
  else if 3300000 < ilim ∨ ilim < 100000 then .error (-EINVAL)
  else .ok { bq with watchdog_timer := watchdog_timer, vlim := vlim, ilim := ilim }

def Changes (reg : Reg) : Cmd → Prop
  | .regmapWrite other _ | .regmapUpdateBits other _ _ => other = reg
  | _ => False

-- Whatever the chip and the battery description answer.
def timerWorld (bq : Bq25790) : World Cmd Cmd.Reply Unit where
  midst _ _ _ := True
  reply _ cmd answer _ :=
    match cmd, answer with
    | .watchdogTimer, answer => answer = bq.watchdog_timer
    | _, _ => True

-- bq25790_hw_init sets the watchdog to the code, and to nothing else.
def Programs (bq : Bq25790) (code : Nat) : Prop :=
  ∀ cmd, Changes CHRG_CTRL_1 cmd →
    (Issues (timerWorld bq) hwInit () cmd () ↔ cmd = .regmapUpdateBits CHRG_CTRL_1 0xff code)

def watchdogTime (i : Nat) : Int := watchdog_time.getD i 0

structure WellChosen (bq : Bq25790) (code : Nat) : Prop where
  largest : Largest watchdogTime (NUM_WD_VAL - 1) bq.watchdog_timer code
  enabled : 500 ≤ bq.watchdog_timer → (code : Int) ≠ WATCHDOG_DIS
  longest : ∀ (other : Bq25790) (shorter : Nat), 0 ≤ other.watchdog_timer → other.watchdog_timer ≤ bq.watchdog_timer →
    Programs other shorter → shorter ≤ code

abbrev Elsewhere (cmd : Cmd) : Prop := ¬ Changes CHRG_CTRL_1 cmd

theorem or_return_only (allowed : Cmd → Prop) (step rest : Act Int) (first : Only allowed step) (second : Only allowed rest) :
    Only allowed (orReturn step rest) := by
  apply only_bind allowed step _ first
  intro ret
  split
  · trivial
  · exact second

theorem property_elsewhere (prop : Property) (intval : Int) : Only Elsewhere (setProperty prop intval) := by
  apply only_mono _ _ _ _ (set_property_only prop intval)
  intro cmd writes changes
  have apart : CHRG_CTRL_1 ∉ prop.regs := by cases prop <;> decide
  cases cmd with
  | regmapWrite reg val => exact apart (changes ▸ writes)
  | regmapUpdateBits reg mask val => exact apart (changes ▸ writes)
  | _ => cases changes

theorem init_limits_elsewhere (bat_info : BatteryInfo) : Only Elsewhere (initLimits bat_info) := by
  refine ⟨id, fun _ => ⟨id, fun _ => ?_⟩⟩
  apply or_return_only Elsewhere _ _ (property_elsewhere .CONSTANT_CHARGE_CURRENT _)
  apply or_return_only Elsewhere _ _ (property_elsewhere .PRECHARGE_CURRENT _)
  apply or_return_only Elsewhere _ _ (property_elsewhere .CONSTANT_CHARGE_VOLTAGE _)
  apply or_return_only Elsewhere _ _ (property_elsewhere .CHARGE_TERM_CURRENT _)
  refine ⟨id, fun vlim => ?_⟩
  apply or_return_only Elsewhere _ _ (property_elsewhere .INPUT_VOLTAGE_LIMIT _)
  exact ⟨id, fun ilim => property_elsewhere .INPUT_CURRENT_LIMIT _⟩

theorem init_controls_elsewhere : Only Elsewhere initControls := by
  have apart (reg : Reg) (mask val : Nat) (other : reg ≠ CHRG_CTRL_1) :
      Only Elsewhere (exec (.regmapUpdateBits reg mask val) : Act Int) := ⟨other, fun _ => trivial⟩
  apply or_return_only Elsewhere _ _ (apart ADC_CTRL _ _ (by decide))
  apply or_return_only Elsewhere _ _ (apart CHRG_CTRL_5 _ _ (by decide))
  apply or_return_only Elsewhere _ _ (apart CHRG_CTRL_2 _ _ (by decide))
  exact ⟨id, fun _ => trivial⟩

theorem hw_init_programs (bq : Bq25790) : Programs bq (wdRegVal bq.watchdog_timer) := by
  intro cmd changes
  constructor
  · intro issued
    rcases issued_call _ _ _ _ _ _ issued with ⟨rfl, _⟩ | ⟨timer, _, answered, issued⟩
    · cases changes
    · have timer : timer = bq.watchdog_timer := answered
      subst timer
      rcases issued_call _ _ _ _ _ _ issued with ⟨rfl, _⟩ | ⟨ret, _, _, issued⟩
      · rfl
      · -- Behind the watchdog, only other registers are written.
        refine absurd changes (only_issues _ Elsewhere _ _ _ cmd ?_ issued)
        rw [Prog.bind]
        split
        · trivial
        · refine ⟨id, fun bat_info => ?_⟩
          cases bat_info with
          | none => trivial
          | some bat_info =>
              exact or_return_only Elsewhere _ _ (init_limits_elsewhere bat_info) init_controls_elsewhere
  · intro same
    subst same
    have answered : (timerWorld bq).reply () .watchdogTimer bq.watchdog_timer () := rfl
    exact issues_call (timerWorld bq) Cmd.watchdogTimer _ _ bq.watchdog_timer () () () answered ⟨_, .here _ _⟩

theorem programs_unique (bq : Bq25790) (code : Nat) (programs : Programs bq code) : code = wdRegVal bq.watchdog_timer := by
  have issued := (programs (.regmapUpdateBits CHRG_CTRL_1 0xff code) rfl).mpr rfl
  have same := (hw_init_programs bq (.regmapUpdateBits CHRG_CTRL_1 0xff code) rfl).mp issued
  injection same

theorem watchdog_times_increase : Increasing watchdogTime (NUM_WD_VAL - 1) := by
  have all : ∀ j, j < NUM_WD_VAL → ∀ i, i < j → watchdogTime i < watchdogTime j := by decide
  intro i j earlier inside
  exact all j (Nat.lt_succ_of_le inside) i earlier

theorem wd_reg_val_eq (t : Int) :
    wdRegVal t = if t = 0 then 0 else if 160000 ≤ t then NUM_WD_VAL - 1
      else (between watchdogTime (NUM_WD_VAL - 1) t).getD 0 := rfl

-- The selected code is the largest one, except on the six inner thresholds,
-- where none is found.
theorem wd_reg_val_largest (t : Int) (nonneg : 0 ≤ t) (inner : t ∉ [500, 1000, 2000, 20000, 40000, 80000]) :
    Largest watchdogTime (NUM_WD_VAL - 1) t (wdRegVal t) := by
  by_cases top : 160000 ≤ t
  · have last : wdRegVal t = NUM_WD_VAL - 1 := by rw [wd_reg_val_eq, if_neg (by omega), if_pos top]
    rw [last]
    exact largest_top watchdogTime _ t top
  · by_cases zero : t = 0
    · subst zero
      exact largest_entry watchdogTime _ watchdog_times_increase 0 (by decide)
    · obtain ⟨index, largest⟩ := largest_exists watchdogTime (NUM_WD_VAL - 1) t nonneg
      have below : index < NUM_WD_VAL - 1 := by
        cases Nat.lt_or_eq_of_le largest.inside with
        | inl below => exact below
        | inr last =>
            have reached := largest.reached
            rw [last] at reached
            exact absurd reached top
      have off : watchdogTime index ≠ t := by
        intro same
        have all : ∀ i, i < NUM_WD_VAL - 1 → watchdogTime i = 0 ∨ watchdogTime i ∈ [500, 1000, 2000, 20000, 40000, 80000] := by
          decide
        cases all index below with
        | inl start => exact zero (same ▸ start)
        | inr listed => exact inner (same ▸ listed)
      have found := between_inside watchdogTime _ watchdog_times_increase t index largest below off
      rw [wd_reg_val_eq, if_neg zero, if_neg top, found]
      exact largest

-- An entry of the table is not strictly inside of any interval.
theorem wd_reg_val_inner (t : Int) (inner : t ∈ [500, 1000, 2000, 20000, 40000, 80000]) : wdRegVal t = 0 := by
  have all : ∀ t ∈ [(500 : Int), 1000, 2000, 20000, 40000, 80000],
      t ≠ 0 ∧ t < 160000 ∧ ∃ index, index < NUM_WD_VAL ∧ watchdogTime index = t := by decide
  obtain ⟨positive, short, index, inside, entry⟩ := all t inner
  have missed := between_entry watchdogTime _ watchdog_times_increase index (Nat.le_of_lt_succ inside)
  rw [entry] at missed
  rw [wd_reg_val_eq, if_neg positive, if_neg (by omega), missed, Option.getD_none]

theorem wd_reg_val_mono (small great : Int) (nonneg : 0 ≤ small) (below : small ≤ great)
    (inner : great ∉ [500, 1000, 2000, 20000, 40000, 80000]) : wdRegVal small ≤ wdRegVal great := by
  by_cases missed : small ∈ [500, 1000, 2000, 20000, 40000, 80000]
  · rw [wd_reg_val_inner small missed]
    exact Nat.zero_le _
  · exact largest_mono watchdogTime _ small great _ _ below (wd_reg_val_largest small nonneg missed)
      (wd_reg_val_largest great (by omega) inner)

theorem parsed_timer (node : ChargerNode) (zeroed bq : Bq25790) (accepted : parseDt node zeroed = .ok bq) :
    0 ≤ bq.watchdog_timer := by
  rw [parseDt] at accepted
  split at accepted
  · cases accepted
  · next range =>
      split at accepted
      · cases accepted
      · split at accepted
        · cases accepted
        · cases accepted
          simp only [WATCHDOG_DIS] at range
          exact Int.not_lt.mp fun negative => range (.inr negative)

-- The watchdog that bq25790_hw_init programs is the one that fits the timeout,
-- unless the timeout is one of the table's own inner entries.
theorem watchdog_code_iff (node : ChargerNode) (zeroed bq : Bq25790) (accepted : parseDt node zeroed = .ok bq) :
    (∃ code, Programs bq code ∧ WellChosen bq code) ↔ bq.watchdog_timer ∉ [500, 1000, 2000, 20000, 40000, 80000] := by
  have nonneg := parsed_timer node zeroed bq accepted
  constructor
  · intro given inner
    obtain ⟨code, programs, chosen⟩ := given
    have none : code = 0 := (programs_unique bq code programs).trans (wd_reg_val_inner _ inner)
    have least : 500 ≤ bq.watchdog_timer := by
      have all : ∀ t ∈ [(500 : Int), 1000, 2000, 20000, 40000, 80000], 500 ≤ t := by decide
      exact all _ inner
    exact chosen.enabled least (by rw [none]; rfl)
  · intro inner
    have largest := wd_reg_val_largest bq.watchdog_timer nonneg inner
    refine ⟨wdRegVal bq.watchdog_timer, hw_init_programs bq, largest, ?_, ?_⟩
    · intro least disabled
      have one : 1 ≤ wdRegVal bq.watchdog_timer := largest.last 1 (by decide) least
      have zero : wdRegVal bq.watchdog_timer = 0 := Int.ofNat.inj disabled
      omega
    · intro other shorter start below programs
      rw [programs_unique other shorter programs]
      exact wd_reg_val_mono _ _ start below inner

def timedNode (timeout : BitVec 32) : ChargerNode := ⟨some timeout, none, none⟩

-- The driver data that probe has allocated, once the device tree is read.
def timed (watchdog_timer : Int) : Bq25790 :=
  { ichg_max := 0, vreg_max := 0, vlim := 3600000, ilim := 1000000, watchdog_timer := watchdog_timer, battery := none,
    chip := fun _ => 0, cache := fun _ => 0 }

theorem watchdog_code_iff_between : ∃ code, Programs (timed 700) code ∧ WellChosen (timed 700) code :=
  (watchdog_code_iff (timedNode 700) (timed 0) (timed 700) rfl).mpr (by decide)

-- 500 ms leave the watchdog off.
theorem half_second_disables :
    ¬ ∀ (node : ChargerNode) (zeroed bq : Bq25790), parseDt node zeroed = .ok bq →
      ∃ code, Programs bq code ∧ WellChosen bq code := by
  intro sound
  obtain ⟨code, programs, chosen⟩ := sound (timedNode 500) (timed 0) (timed 500) rfl
  apply chosen.enabled (Int.le_refl 500)
  rw [programs_unique (timed 500) code programs]
  decide

end SummitSom.Charger
