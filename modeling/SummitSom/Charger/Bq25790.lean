import SummitSom.Interact.Program
import Mathlib.Logic.Function.Basic

set_option autoImplicit false

namespace SummitSom.Charger

open Interact

abbrev Reg := Nat

def CHRG_V_LIM_MSB : Reg := 0x01
def CHRG_V_LIM_LSB : Reg := 0x02
def CHRG_I_LIM_MSB : Reg := 0x03
def CHRG_I_LIM_LSB : Reg := 0x04
def INPUT_V_LIM : Reg := 0x05
def INPUT_I_LIM_MSB : Reg := 0x06
def INPUT_I_LIM_LSB : Reg := 0x07
def PRECHRG_CTRL : Reg := 0x08
def TERM_CTRL : Reg := 0x09
def CHRG_CTRL_0 : Reg := 0x0f
def CHRG_CTRL_1 : Reg := 0x10
def CHRG_CTRL_2 : Reg := 0x11
def CHRG_CTRL_5 : Reg := 0x14
def ADC_CTRL : Reg := 0x2e

def PRECHRG_CUR_MASK : Nat := 0x3f
def TERMCHRG_CUR_MASK : Nat := 0x1f
def ADC_EN : Nat := 0x80

def EINVAL : Int := 22

def watchdog_time : List Int := [0, 500, 1000, 2000, 20000, 40000, 80000, 160000]

def NUM_WD_VAL : Nat := 8

-- What power_supply_get_battery_info has found; a field that the description
-- omits is -EINVAL.
structure BatteryInfo where
  constant_charge_current_max_ua : Int
  constant_charge_voltage_max_uv : Int
  precharge_current_ua : Int
  charge_term_current_ua : Int

inductive Cmd where
  | ichgMax
  | setIchgMax (max : Int)
  | vregMax
  | setVregMax (max : Int)
  | vlim
  | ilim
  | watchdogTimer
  | regmapRead (reg : Reg)
  | regmapWrite (reg : Reg) (val : Nat)
  | regmapUpdateBits (reg : Reg) (mask val : Nat)
  | getBatteryInfo
  | putBatteryInfo

abbrev Cmd.Reply : Cmd → Type
  | .ichgMax | .vregMax | .vlim | .ilim | .watchdogTimer => Int
  | .regmapRead _ => Int × Nat
  | .regmapWrite _ _ | .regmapUpdateBits _ _ _ => Int
  | .getBatteryInfo => Option BatteryInfo
  | _ => Unit

inductive Fault where
  | unsetPointer

abbrev Act (A : Type) := Prog Cmd Cmd.Reply Fault A

abbrev exec (cmd : Cmd) : Act cmd.Reply := issue cmd

-- The kernel's clamp, for any order of the bounds.
def clamp (val lo hi : Int) : Int := if hi ≤ val then hi else if val ≤ lo then lo else val

def lowByte (code : Int) : Nat := (code % 256).toNat

def highByte (code : Int) : Nat := lowByte (code >>> (8 : Nat))

def setPair (msb lsb : Reg) (step val : Int) : Act Int := do
  let ret ← exec (.regmapWrite msb (highByte (val.tdiv step)))
  if ret ≠ 0 then pure ret else exec (.regmapWrite lsb (lowByte (val.tdiv step)))

def setField (reg : Reg) (mask : Nat) (step lo hi val : Int) : Act Int :=
  exec (.regmapUpdateBits reg mask ((clamp val lo hi).tdiv step).toNat)

def setTermCurr (term_current : Int) : Act Int :=
  setField TERM_CTRL TERMCHRG_CUR_MASK 40000 40000 1000000 term_current

def setPrechrgCurr (pre_current : Int) : Act Int :=
  setField PRECHRG_CTRL PRECHRG_CUR_MASK 40000 40000 2000000 pre_current

def setIchrgCurr (chrg_curr : Int) : Act Int := do
  let chrg_curr_max ← exec .ichgMax
  setPair CHRG_I_LIM_MSB CHRG_I_LIM_LSB 10000 (clamp chrg_curr 50000 chrg_curr_max)

def setChrgVolt (chrg_volt : Int) : Act Int := do
  let chrg_volt_max ← exec .vregMax
  setPair CHRG_V_LIM_MSB CHRG_V_LIM_LSB 10000 (clamp chrg_volt 3000000 chrg_volt_max)

def setInputVoltLim (vindpm : Int) : Act Int :=
  exec (.regmapWrite INPUT_V_LIM ((clamp vindpm 3600000 22000000).tdiv 100000).toNat)

def setInputCurrLim (iindpm : Int) : Act Int :=
  setPair INPUT_I_LIM_MSB INPUT_I_LIM_LSB 10000 (clamp iindpm 100000 3300000)

def getReg (reg : Reg) (rest : Nat → Act Int) : Act Int := do
  let (ret, val) ← exec (.regmapRead reg)
  if ret ≠ 0 then pure ret else rest val

def getField (reg : Reg) (mask : Nat) (step : Int) : Act Int :=
  getReg reg fun reg_val => pure (((reg_val &&& mask : Nat) : Int) * step)

def word (msb lsb : Nat) : Int := ((msb <<< 8 ||| lsb : Nat) : Int)

def getTermCurr : Act Int := getField TERM_CTRL TERMCHRG_CUR_MASK 40000

def getPrechrgCurr : Act Int := getField PRECHRG_CTRL PRECHRG_CUR_MASK 40000

def getIchgCurr : Act Int :=
  getReg CHRG_I_LIM_LSB fun ichg_lsb => getReg CHRG_I_LIM_MSB fun ichg_msb => pure (word ichg_msb ichg_lsb * 10000)

def getChrgVolt : Act Int :=
  getReg CHRG_V_LIM_MSB fun vlim_msb => getReg CHRG_V_LIM_LSB fun vlim_lsb => pure (word vlim_msb vlim_lsb * 10000)

def getInputVoltLim : Act Int := getReg INPUT_V_LIM fun vlim => pure (vlim * 100000)

def getInputCurrLim : Act Int :=
  getReg INPUT_I_LIM_MSB fun ilim_msb => getReg INPUT_I_LIM_LSB fun ilim_lsb => pure (word ilim_msb ilim_lsb * 10000)

inductive Property where
  | INPUT_CURRENT_LIMIT
  | CONSTANT_CHARGE_VOLTAGE
  | CONSTANT_CHARGE_CURRENT
  | PRECHARGE_CURRENT
  | CHARGE_TERM_CURRENT
  | INPUT_VOLTAGE_LIMIT
deriving DecidableEq

def setProperty (prop : Property) (intval : Int) : Act Int :=
  match prop with
  | .INPUT_CURRENT_LIMIT => setInputCurrLim intval
  | .CONSTANT_CHARGE_VOLTAGE => setChrgVolt intval
  | .CONSTANT_CHARGE_CURRENT => setIchrgCurr intval
  | .PRECHARGE_CURRENT => setPrechrgCurr intval
  | .CHARGE_TERM_CURRENT => setTermCurr intval
  | .INPUT_VOLTAGE_LIMIT => setInputVoltLim intval

def getLimit : Property → Act Int
  | .INPUT_CURRENT_LIMIT => getInputCurrLim
  | .CONSTANT_CHARGE_VOLTAGE => getChrgVolt
  | .CONSTANT_CHARGE_CURRENT => getIchgCurr
  | .PRECHARGE_CURRENT => getPrechrgCurr
  | .CHARGE_TERM_CURRENT => getTermCurr
  | .INPUT_VOLTAGE_LIMIT => getInputVoltLim

-- The value is also what the function returns.
def getProperty (psp : Property) : Act (Int × Option Int) := do
  let ret ← getLimit psp
  if ret < 0 then pure (ret, none) else pure (ret, some ret)

def wdRegVal (watchdog_timer : Int) : Nat :=
  if watchdog_timer = 0 then 0
  else if watchdog_time.getD (NUM_WD_VAL - 1) 0 ≤ watchdog_timer then NUM_WD_VAL - 1
  else ((List.range (NUM_WD_VAL - 1)).find? fun i =>
    watchdog_time.getD i 0 < watchdog_timer && watchdog_timer < watchdog_time.getD (i + 1) 0).getD 0

def orReturn (step : Act Int) (rest : Act Int) : Act Int := do
  let ret ← step
  if ret ≠ 0 then pure ret else rest

def initLimits (bat_info : BatteryInfo) : Act Int := do
  exec (.setIchgMax bat_info.constant_charge_current_max_ua)
  exec (.setVregMax bat_info.constant_charge_voltage_max_uv)
  orReturn (setIchrgCurr bat_info.constant_charge_current_max_ua)
    (orReturn (setPrechrgCurr bat_info.precharge_current_ua)
      (orReturn (setChrgVolt bat_info.constant_charge_voltage_max_uv)
        (orReturn (setTermCurr bat_info.charge_term_current_ua) do
          let vlim ← exec .vlim
          orReturn (setInputVoltLim vlim) do
            let ilim ← exec .ilim
            setInputCurrLim ilim)))

def initControls : Act Int :=
  orReturn (exec (.regmapUpdateBits ADC_CTRL ADC_EN ADC_EN))
    (orReturn (exec (.regmapUpdateBits CHRG_CTRL_5 0x3A 0x20))
      (orReturn (exec (.regmapUpdateBits CHRG_CTRL_2 0x40 0)) do
        exec .putBatteryInfo
        pure 0))

-- Without a battery description the defaults are written through a pointer that
-- nothing has set.
def hwInit : Act Int := do
  let watchdog_timer ← exec .watchdogTimer
  orReturn (exec (.regmapUpdateBits CHRG_CTRL_1 0xff (wdRegVal watchdog_timer))) do
    let bat_info ← exec .getBatteryInfo
    match bat_info with
    | none => .stop .unsetPointer
    | some bat_info => orReturn (initLimits bat_info) initControls

structure Bq25790 where
  ichg_max : Int
  vreg_max : Int
  vlim : Int
  ilim : Int
  watchdog_timer : Int
  battery : Option BatteryInfo
  chip : Reg → Nat
  cache : Reg → Nat

def volatileReg (reg : Reg) : Bool := (0x19 ≤ reg && reg ≤ 0x27) || (0x31 ≤ reg && reg ≤ 0x46) || reg == CHRG_CTRL_0

def Bq25790.read (s : Bq25790) (reg : Reg) : Nat := if volatileReg reg then s.chip reg else s.cache reg

def Bq25790.write (s : Bq25790) (reg : Reg) (val : Nat) : Bq25790 :=
  { s with chip := Function.update s.chip reg val, cache := Function.update s.cache reg val }

@[simp] theorem write_chip (s : Bq25790) (reg : Reg) (val : Nat) : (s.write reg val).chip = Function.update s.chip reg val := rfl

@[simp] theorem write_cache (s : Bq25790) (reg : Reg) (val : Nat) : (s.write reg val).cache = Function.update s.cache reg val := rfl

def Bq25790.updated (s : Bq25790) (reg : Reg) (mask val : Nat) : Nat := (s.read reg &&& (0xff ^^^ mask)) ||| (val &&& mask)

-- Every transfer succeeds. An update that changes nothing is not written.
def chargerReply (s : Bq25790) : (cmd : Cmd) → cmd.Reply → Bq25790 → Prop
  | .ichgMax, answer, t => answer = s.ichg_max ∧ t = s
  | .setIchgMax max, _, t => t = { s with ichg_max := max }
  | .vregMax, answer, t => answer = s.vreg_max ∧ t = s
  | .setVregMax max, _, t => t = { s with vreg_max := max }
  | .vlim, answer, t => answer = s.vlim ∧ t = s
  | .ilim, answer, t => answer = s.ilim ∧ t = s
  | .watchdogTimer, answer, t => answer = s.watchdog_timer ∧ t = s
  | .regmapRead reg, answer, t => answer = (0, s.read reg) ∧ t = s
  | .regmapWrite reg val, ret, t => ret = 0 ∧ t = s.write reg val
  | .regmapUpdateBits reg mask val, ret, t =>
      ret = 0 ∧ t = if s.updated reg mask val = s.read reg then s else s.write reg (s.updated reg mask val)
  | .getBatteryInfo, answer, t => answer = s.battery ∧ t = s
  | .putBatteryInfo, _, t => t = s

def Bq25790.update (s : Bq25790) (reg : Reg) (mask val : Nat) : Bq25790 :=
  if s.updated reg mask val = s.read reg then s else s.write reg (s.updated reg mask val)

-- The one answer that a command can have then.
def answered (s : Bq25790) : (cmd : Cmd) → cmd.Reply × Bq25790
  | .ichgMax => (s.ichg_max, s)
  | .setIchgMax max => ((), { s with ichg_max := max })
  | .vregMax => (s.vreg_max, s)
  | .setVregMax max => ((), { s with vreg_max := max })
  | .vlim => (s.vlim, s)
  | .ilim => (s.ilim, s)
  | .watchdogTimer => (s.watchdog_timer, s)
  | .regmapRead reg => ((0, s.read reg), s)
  | .regmapWrite reg val => (0, s.write reg val)
  | .regmapUpdateBits reg mask val => (0, s.update reg mask val)
  | .getBatteryInfo => (s.battery, s)
  | .putBatteryInfo => ((), s)

theorem charger_determined (s t : Bq25790) (cmd : Cmd) (answer : cmd.Reply) :
    chargerReply s cmd answer t ↔ answer = (answered s cmd).1 ∧ t = (answered s cmd).2 := by
  cases cmd with
  | setIchgMax max | setVregMax max | putBatteryInfo => exact ⟨fun same => ⟨rfl, same⟩, fun both => both.2⟩
  | ichgMax | vregMax | vlim | ilim | watchdogTimer | regmapRead reg | regmapWrite reg val | regmapUpdateBits reg mask val
  | getBatteryInfo => rfl

theorem charger_answered (s : Bq25790) (cmd : Cmd) : chargerReply s cmd (answered s cmd).1 (answered s cmd).2 :=
  (charger_determined s _ cmd _).mpr ⟨rfl, rfl⟩

end SummitSom.Charger
