import SummitSom.Charger.Watchdog
import SummitSom.Interact.Determined

set_option autoImplicit false

namespace SummitSom.Charger

open Interact

def bq25790_reg_defs : List (Reg × Nat) :=
  [(INPUT_V_LIM, 0x24), (INPUT_I_LIM_MSB, 0x01), (INPUT_I_LIM_LSB, 0x2c), (PRECHRG_CTRL, 0xc3), (TERM_CTRL, 0x5), (0x0b, 0xdc),
    (0x0d, 0x4b), (0x0e, 0x3d), (CHRG_CTRL_0, 0xa2), (CHRG_CTRL_1, 0x85), (CHRG_CTRL_2, 0x40), (0x12, 0x12),
    (CHRG_CTRL_5, 0x16), (0x15, 0xaa), (0x16, 0xc0), (0x17, 0x7a), (0x18, 0x54), (ADC_CTRL, 0x30)]

-- A flat cache starts with the defaults, and with 0 where there is none.
def defaultCache (reg : Reg) : Nat := ((bq25790_reg_defs.find? fun dflt => dflt.1 = reg).map Prod.snd).getD 0

theorem ends_answered {A : Type} (program : Act A) (s t : Bq25790) (result : Except Fault A) :
    Ends chargerWorld program s result t ↔ (result, t) = eval answered program s := by
  have same : chargerWorld = World.determined answered := by
    rw [chargerWorld, World.determined, World.mk.injEq]
    refine ⟨rfl, ?_⟩
    funext s cmd answer t
    exact propext (charger_determined s t cmd answer)
  rw [same, ends_determined]

section Steps

variable (s : Bq25790)

theorem eval_or_return (step rest : Act Int) (t : Bq25790) (taken : eval answered step s = (.ok 0, t)) :
    eval answered (orReturn step rest) s = eval answered rest t := by
  induction step generalizing s with
  | done value =>
      cases taken
      rfl
  | stop code => cases taken
  | call cmd next ih => exact ih (answered s cmd).1 (answered s cmd).2 taken

def Bq25790.pair (msb lsb : Reg) (code : Int) : Bq25790 := (s.write msb (highByte code)).write lsb (lowByte code)

theorem eval_set_ichrg (current : Int) : eval answered (setIchrgCurr current) s =
    (.ok 0, s.pair CHRG_I_LIM_MSB CHRG_I_LIM_LSB ((clamp current 50000 s.ichg_max).tdiv 10000)) := rfl

theorem eval_set_prechrg (current : Int) : eval answered (setPrechrgCurr current) s =
    (.ok 0, s.update PRECHRG_CTRL PRECHRG_CUR_MASK ((clamp current 40000 2000000).tdiv 40000).toNat) := rfl

theorem eval_set_volt (volt : Int) : eval answered (setChrgVolt volt) s =
    (.ok 0, s.pair CHRG_V_LIM_MSB CHRG_V_LIM_LSB ((clamp volt 3000000 s.vreg_max).tdiv 10000)) := rfl

theorem eval_set_term (current : Int) : eval answered (setTermCurr current) s =
    (.ok 0, s.update TERM_CTRL TERMCHRG_CUR_MASK ((clamp current 40000 1000000).tdiv 40000).toNat) := rfl

-- A write or an update changes the chip and the cache at its register only.
theorem write_chip_other (reg other : Reg) (val : Nat) (apart : other ≠ reg) : (s.write reg val).chip other = s.chip other :=
  Function.update_of_ne apart ..

theorem write_cache_other (reg other : Reg) (val : Nat) (apart : other ≠ reg) : (s.write reg val).cache other = s.cache other :=
  Function.update_of_ne apart ..

theorem write_chip_own (reg : Reg) (val : Nat) : (s.write reg val).chip reg = val := Function.update_self ..

theorem write_cache_own (reg : Reg) (val : Nat) : (s.write reg val).cache reg = val := Function.update_self ..

theorem update_chip_other (reg other : Reg) (mask val : Nat) (apart : other ≠ reg) :
    (s.update reg mask val).chip other = s.chip other := by
  rw [Bq25790.update]
  split
  · rfl
  · exact write_chip_other s reg other _ apart

theorem update_cache_other (reg other : Reg) (mask val : Nat) (apart : other ≠ reg) :
    (s.update reg mask val).cache other = s.cache other := by
  rw [Bq25790.update]
  split
  · rfl
  · exact write_cache_other s reg other _ apart

def merged (old mask val : Nat) : Nat := (old &&& (0xff ^^^ mask)) ||| (val &&& mask)

theorem update_own (reg : Reg) (mask val : Nat) (steady : volatileReg reg = false) :
    (s.update reg mask val).chip reg =
        (if merged (s.cache reg) mask val = s.cache reg then s.chip reg else merged (s.cache reg) mask val) ∧
      (s.update reg mask val).cache reg = merged (s.cache reg) mask val := by
  have read : s.read reg = s.cache reg := if_neg (by rw [steady]; exact Bool.false_ne_true)
  rw [Bq25790.update, Bq25790.updated, read, ← merged]
  split
  · rename_i same
    exact ⟨rfl, same.symm⟩
  · exact ⟨write_chip_own s reg _, write_cache_own s reg _⟩

theorem update_rest (reg : Reg) (mask val : Nat) : (s.update reg mask val).battery = s.battery ∧
    (s.update reg mask val).vreg_max = s.vreg_max ∧ (s.update reg mask val).vlim = s.vlim ∧
      (s.update reg mask val).ilim = s.ilim := by
  rw [Bq25790.update]
  split <;> exact ⟨rfl, rfl, rfl, rfl⟩

end Steps

def ichgCode (info : BatteryInfo) : Int :=
  (clamp info.constant_charge_current_max_ua 50000 info.constant_charge_current_max_ua).tdiv 10000

def vregCode (info : BatteryInfo) : Int :=
  (clamp info.constant_charge_voltage_max_uv 3000000 info.constant_charge_voltage_max_uv).tdiv 10000

def prechrgCode (info : BatteryInfo) : Nat := ((clamp info.precharge_current_ua 40000 2000000).tdiv 40000).toNat

def termCode (info : BatteryInfo) : Nat := ((clamp info.charge_term_current_ua 40000 1000000).tdiv 40000).toNat

def vlimCode (bq : Bq25790) : Nat := ((clamp bq.vlim 3600000 22000000).tdiv 100000).toNat

def ilimCode (bq : Bq25790) : Int := (clamp bq.ilim 100000 3300000).tdiv 10000

-- The driver after bq25790_hw_init, write by write.
def Bq25790.initBattery (s : Bq25790) (info : BatteryInfo) : Bq25790 :=
  let s := { s with ichg_max := info.constant_charge_current_max_ua, vreg_max := info.constant_charge_voltage_max_uv }
  (((s.pair CHRG_I_LIM_MSB CHRG_I_LIM_LSB (ichgCode info)).update PRECHRG_CTRL PRECHRG_CUR_MASK (prechrgCode info)).pair
    CHRG_V_LIM_MSB CHRG_V_LIM_LSB (vregCode info)).update TERM_CTRL TERMCHRG_CUR_MASK (termCode info)

def Bq25790.initInput (s : Bq25790) : Bq25790 :=
  (s.write INPUT_V_LIM (vlimCode s)).pair INPUT_I_LIM_MSB INPUT_I_LIM_LSB (ilimCode s)

def Bq25790.initControlled (s : Bq25790) : Bq25790 :=
  ((s.update ADC_CTRL ADC_EN ADC_EN).update CHRG_CTRL_5 0x3A 0x20).update CHRG_CTRL_2 0x40 0

theorem eval_init_limits (s : Bq25790) (info : BatteryInfo) :
    eval answered (initLimits info) s = (.ok 0, (s.initBattery info).initInput) := by
  have begun : eval answered (initLimits info) s = eval answered (orReturn (setIchrgCurr info.constant_charge_current_max_ua)
      (orReturn (setPrechrgCurr info.precharge_current_ua) (orReturn (setChrgVolt info.constant_charge_voltage_max_uv)
        (orReturn (setTermCurr info.charge_term_current_ua) do
          let vlim ← exec .vlim
          orReturn (setInputVoltLim vlim) do
            let ilim ← exec .ilim
            setInputCurrLim ilim))))
      { s with ichg_max := info.constant_charge_current_max_ua, vreg_max := info.constant_charge_voltage_max_uv } := rfl
  rw [begun, eval_or_return _ _ _ _ (eval_set_ichrg _ _), eval_or_return _ _ _ _ (eval_set_prechrg _ _),
    eval_or_return _ _ _ _ (eval_set_volt _ _), eval_or_return _ _ _ _ (eval_set_term _ _),
    (update_rest _ _ _ _).2.1]
  rfl

theorem eval_init_controls (s : Bq25790) : eval answered initControls s = (.ok 0, s.initControlled) := rfl

def withBattery : Option BatteryInfo → Act Int
  | none => .stop .unsetPointer
  | some bat_info => orReturn (initLimits bat_info) initControls

theorem eval_hw_init (s : Bq25790) (info : BatteryInfo) (described : s.battery = some info) :
    eval answered hwInit s =
      (.ok 0, ((s.update CHRG_CTRL_1 0xff (wdRegVal s.watchdog_timer)).initBattery info).initInput.initControlled) := by
  have battery := (update_rest s CHRG_CTRL_1 0xff (wdRegVal s.watchdog_timer)).1
  have first : eval answered hwInit s =
      eval answered (withBattery s.battery) (s.update CHRG_CTRL_1 0xff (wdRegVal s.watchdog_timer)) := by
    rw [← battery]
    rfl
  rw [first, described]
  exact (eval_or_return _ _ _ _ (eval_init_limits _ info)).trans (eval_init_controls _)

def Bq25790.probed (s : Bq25790) (info : BatteryInfo) : Bq25790 :=
  ((s.update CHRG_CTRL_1 0xff (wdRegVal s.watchdog_timer)).initBattery info).initInput.initControlled

-- The registers that are written in any case, each with what it gets.
def settings (s : Bq25790) (info : BatteryInfo) : List (Reg × Nat) :=
  [(CHRG_CTRL_1, wdRegVal s.watchdog_timer), (CHRG_I_LIM_MSB, highByte (ichgCode info)),
    (CHRG_I_LIM_LSB, lowByte (ichgCode info)), (CHRG_V_LIM_MSB, highByte (vregCode info)),
    (CHRG_V_LIM_LSB, lowByte (vregCode info)), (INPUT_V_LIM, vlimCode s), (INPUT_I_LIM_MSB, highByte (ilimCode s)),
    (INPUT_I_LIM_LSB, lowByte (ilimCode s)), (ADC_CTRL, 0xb0), (CHRG_CTRL_5, 0x24), (CHRG_CTRL_2, 0x00)]

theorem probed_other (s : Bq25790) (info : BatteryInfo) (reg : Reg)
    (apart : reg ∉ PRECHRG_CTRL :: TERM_CTRL :: (settings s info).map Prod.fst) :
    (s.probed info).chip reg = s.chip reg ∧ (s.probed info).cache reg = s.cache reg := by
  simp only [settings, List.map_cons, List.map_nil, List.mem_cons, List.not_mem_nil, or_false, not_or] at apart
  simp only [Bq25790.probed, Bq25790.initBattery, Bq25790.initInput, Bq25790.initControlled, Bq25790.pair,
    update_chip_other, update_cache_other, write_chip_other, write_cache_other, apart, not_false_eq_true, ne_eq, and_self]

theorem input_codes (s : Bq25790) (info : BatteryInfo) :
    vlimCode ((s.update CHRG_CTRL_1 0xff (wdRegVal s.watchdog_timer)).initBattery info) = vlimCode s ∧
      ilimCode ((s.update CHRG_CTRL_1 0xff (wdRegVal s.watchdog_timer)).initBattery info) = ilimCode s := by
  simp only [vlimCode, ilimCode, Bq25790.initBattery, update_rest, Bq25790.pair, Bq25790.write, and_self]

theorem wd_reg_val_small (t : Int) : wdRegVal t < 8 := by
  rw [wd_reg_val_eq]
  split
  · decide
  · split
    · decide
    · cases found : Lookup.between watchdogTime (NUM_WD_VAL - 1) t with
      | none => decide
      | some index =>
          have inside := List.mem_range.mp (List.mem_of_find?_eq_some found)
          exact Nat.lt_succ_of_lt inside

section Probed

variable (s : Bq25790) (info : BatteryInfo) (fresh : s.cache = defaultCache)

include fresh

theorem probed_settings : ∀ entry ∈ settings s info, (s.probed info).chip entry.1 = entry.2 := by
  obtain ⟨vlim, ilim⟩ := input_codes s info
  simp only [settings, List.mem_cons, List.not_mem_nil, or_false, forall_eq_or_imp, forall_eq]
  simp (disch := decide) only [Bq25790.probed, Bq25790.initInput, Bq25790.initControlled, vlim, ilim]
  simp (disch := decide) only [Bq25790.initBattery, Bq25790.pair,
    update_chip_other, update_cache_other, write_chip_other, write_cache_other, write_chip_own, true_and, update_own, fresh]
  have timer : ∀ val < 8, merged (defaultCache CHRG_CTRL_1) 255 val = val ∧ val ≠ defaultCache CHRG_CTRL_1 := by decide
  obtain ⟨whole, apart⟩ := timer _ (wd_reg_val_small s.watchdog_timer)
  rw [whole, if_neg apart]
  exact ⟨rfl, rfl, rfl, rfl⟩

-- The two fields that are only written where they differ from the default.
theorem probed_fields :
    (s.probed info).chip PRECHRG_CTRL = (if merged 0xc3 PRECHRG_CUR_MASK (prechrgCode info) = 0xc3 then s.chip PRECHRG_CTRL
        else merged 0xc3 PRECHRG_CUR_MASK (prechrgCode info)) ∧
      (s.probed info).cache PRECHRG_CTRL = merged 0xc3 PRECHRG_CUR_MASK (prechrgCode info) ∧
      (s.probed info).chip TERM_CTRL = (if merged 0x5 TERMCHRG_CUR_MASK (termCode info) = 0x5 then s.chip TERM_CTRL
        else merged 0x5 TERMCHRG_CUR_MASK (termCode info)) ∧
      (s.probed info).cache TERM_CTRL = merged 0x5 TERMCHRG_CUR_MASK (termCode info) := by
  have pre : defaultCache PRECHRG_CTRL = 0xc3 := rfl
  have term : defaultCache TERM_CTRL = 0x5 := rfl
  simp (disch := decide) only [Bq25790.probed, Bq25790.initInput, Bq25790.initControlled, Bq25790.initBattery,
    Bq25790.pair, update_chip_other, update_cache_other, write_chip_other, write_cache_other, update_own, fresh, pre, term,
    and_self]

end Probed

theorem clamp_range (val lo hi : Int) (order : lo ≤ hi) : lo ≤ clamp val lo hi ∧ clamp val lo hi ≤ hi := by
  rw [clamp]
  split
  · exact ⟨order, le_refl hi⟩
  · split <;> omega

theorem field_codes (info : BatteryInfo) : prechrgCode info < 64 ∧ termCode info < 32 := by
  have pre := clamp_range info.precharge_current_ua 40000 2000000 (by decide)
  have term := clamp_range info.charge_term_current_ua 40000 1000000 (by decide)
  rw [prechrgCode, termCode, Int.tdiv_eq_ediv_of_nonneg (by omega), Int.tdiv_eq_ediv_of_nonneg (by omega)]
  omega

theorem field_kept_iff (dflt mask usual val found : Nat) (merges : merged dflt mask val = dflt ↔ val = usual)
    (field : merged dflt mask val &&& mask = val) :
    (if merged dflt mask val = dflt then found else merged dflt mask val) &&& mask = val ↔
      val ≠ usual ∨ found &&& mask = usual := by
  split
  · rename_i same
    rw [merges.mp same]
    exact ⟨.inr, fun either => either.resolve_left (not_not_intro rfl)⟩
  · rename_i apart
    exact iff_of_true field (.inl fun same => apart (merges.mpr same))

theorem prechrg_merged : ∀ val < 64, (merged 0xc3 PRECHRG_CUR_MASK val = 0xc3 ↔ val = 3) ∧
    merged 0xc3 PRECHRG_CUR_MASK val &&& PRECHRG_CUR_MASK = val := by decide

theorem term_merged : ∀ val < 32, (merged 0x5 TERMCHRG_CUR_MASK val = 0x5 ↔ val = 5) ∧
    merged 0x5 TERMCHRG_CUR_MASK val &&& TERMCHRG_CUR_MASK = val := by decide

theorem field_reported (s : Bq25790) (reg : Reg) (mask val : Nat) (steady : volatileReg reg = false)
    (cached : s.cache reg &&& mask = val) : eval answered (getField reg mask 40000) s = (.ok (val * 40000), s) := by
  have read : s.read reg = s.cache reg := if_neg (by rw [steady]; exact Bool.false_ne_true)
  have value : eval answered (getField reg mask 40000) s = (.ok (((s.read reg &&& mask : Nat) : Int) * 40000), s) := rfl
  rw [value, read, cached]

-- What the chip runs with after bq25790_hw_init, whatever it held before. The
-- driver reports the configured currents all the same.
structure Programmed (s t : Bq25790) (info : BatteryInfo) : Prop where
  written : ∀ entry ∈ settings s info, t.chip entry.1 = entry.2
  prechrg : t.chip PRECHRG_CTRL &&& PRECHRG_CUR_MASK = prechrgCode info ↔
    prechrgCode info ≠ 3 ∨ s.chip PRECHRG_CTRL &&& PRECHRG_CUR_MASK = 3
  term : t.chip TERM_CTRL &&& TERMCHRG_CUR_MASK = termCode info ↔
    termCode info ≠ 5 ∨ s.chip TERM_CTRL &&& TERMCHRG_CUR_MASK = 5
  reported : eval answered (getLimit .PRECHARGE_CURRENT) t = (.ok (prechrgCode info * 40000), t) ∧
    eval answered (getLimit .CHARGE_TERM_CURRENT) t = (.ok (termCode info * 40000), t)
  others : ∀ reg, reg ∉ PRECHRG_CTRL :: TERM_CTRL :: (settings s info).map Prod.fst → t.chip reg = s.chip reg

theorem probed_programmed (s : Bq25790) (info : BatteryInfo) (fresh : s.cache = defaultCache) :
    Programmed s (s.probed info) info := by
  obtain ⟨pre, preCached, term, termCached⟩ := probed_fields s info fresh
  obtain ⟨preSmall, termSmall⟩ := field_codes info
  obtain ⟨preMerges, preField⟩ := prechrg_merged _ preSmall
  obtain ⟨termMerges, termField⟩ := term_merged _ termSmall
  constructor
  · exact probed_settings s info fresh
  · rw [pre]
    exact field_kept_iff 0xc3 _ 3 _ _ preMerges preField
  · rw [term]
    exact field_kept_iff 0x5 _ 5 _ _ termMerges termField
  · exact ⟨field_reported _ _ _ _ rfl (by rw [preCached, preField]), field_reported _ _ _ _ rfl (by rw [termCached, termField])⟩
  · exact fun reg apart => (probed_other s info reg apart).1

theorem hw_init_programmed (s t : Bq25790) (info : BatteryInfo) (result : Except Fault Int) (described : s.battery = some info)
    (fresh : s.cache = defaultCache) (ended : Ends chargerWorld hwInit s result t) :
    result = .ok 0 ∧ Programmed s t info := by
  have ran := (ends_answered hwInit s t result).mp ended
  rw [eval_hw_init s info described, ← Bq25790.probed, Prod.mk.injEq] at ran
  obtain ⟨rfl, rfl⟩ := ran
  exact ⟨rfl, probed_programmed s info fresh⟩

-- A chip left at 400 mA of pre-charge stays there when 120 mA are configured.
def usedCharger : Bq25790 where
  ichg_max := 0
  vreg_max := 0
  vlim := 3600000
  ilim := 1000000
  watchdog_timer := 0
  battery := some ⟨1000000, 8400000, 120000, 200000⟩
  chip := fun _ => 10
  cache := defaultCache

theorem used_charger_programmed : ((usedCharger.probed ⟨1000000, 8400000, 120000, 200000⟩).chip PRECHRG_CTRL &&& 0x3f) = 10 ∧
    Programmed usedCharger (usedCharger.probed ⟨1000000, 8400000, 120000, 200000⟩) ⟨1000000, 8400000, 120000, 200000⟩ := by
  have ended : Ends chargerWorld hwInit usedCharger (.ok 0) (usedCharger.probed ⟨1000000, 8400000, 120000, 200000⟩) :=
    (ends_answered hwInit usedCharger _ _).mpr (eval_hw_init usedCharger _ rfl).symm
  exact ⟨by decide +kernel, (hw_init_programmed usedCharger _ _ _ rfl rfl ended).2⟩

end SummitSom.Charger
