import SummitSom.Charger.Probing
import SummitSom.Charger.Limits

set_option autoImplicit false

namespace SummitSom.Charger

open Interact

inductive Request where
  | write (prop : Property) (intval : Int)
  | read (prop : Property)

def Request.program : Request → Act (Int × Option Int)
  | .write prop intval => do
      let ret ← setProperty prop intval
      pure (ret, none)
  | .read prop => getProperty prop

-- The limit that a write finds in init_data rounds to the step of the maximum,
-- or the write asks for less.
def Fitting (battery : Option BatteryInfo) (prop : Property) (intval limit : Int) : Prop :=
  limit / prop.step = most battery prop / prop.step ∨ intval < limit ∧ intval / prop.step ≤ most battery prop / prop.step

def Fits (battery : Option BatteryInfo) : Request → (cmd : Cmd) → cmd.Reply → Prop
  | .write prop intval, .ichgMax, limit => Fitting battery prop intval limit
  | .write prop intval, .vregMax, limit => Fitting battery prop intval limit
  | _, _, _ => True

def Shows (val cached programmed : Nat) : Prop := cached = val ∧ programmed = val

def ShowsField (mask val cached _programmed : Nat) : Prop := cached &&& mask = val

def HoldsPair (msb lsb : Reg) (val : Int) (s : Watched) : Prop :=
  Settled msb (Shows (highByte val)) s ∧ Settled lsb (Shows (lowByte val)) s

def Holds (prop : Property) (val : Int) (s : Watched) : Prop :=
  match prop with
  | .INPUT_CURRENT_LIMIT => HoldsPair INPUT_I_LIM_MSB INPUT_I_LIM_LSB val s
  | .CONSTANT_CHARGE_VOLTAGE => HoldsPair CHRG_V_LIM_MSB CHRG_V_LIM_LSB val s
  | .CONSTANT_CHARGE_CURRENT => HoldsPair CHRG_I_LIM_MSB CHRG_I_LIM_LSB val s
  | .PRECHARGE_CURRENT => Settled PRECHRG_CTRL (ShowsField PRECHRG_CUR_MASK val.toNat) s
  | .CHARGE_TERM_CURRENT => Settled TERM_CTRL (ShowsField TERMCHRG_CUR_MASK val.toNat) s
  | .INPUT_VOLTAGE_LIMIT => Settled INPUT_V_LIM (Shows val.toNat) s

theorem write_settled (reg : Reg) (val : Nat) (s t : Watched) (ret : Int)
    (reply : propertyWorld.reply s (.regmapWrite reg val) ret t) : ret = 0 ∧ Settled reg (Shows val) t := by
  obtain ⟨⟨succeeded, written⟩, kept⟩ := reply
  rw [Settled, written, kept]
  refine ⟨succeeded, ?_, ?_⟩
  · simp only [keep, decide_true, Bool.true_or]
  · exact ⟨Function.update_self .., Function.update_self ..⟩

theorem updated_field (orig mask val : Nat) (apart : (0xff ^^^ mask) &&& mask = 0) (fits : val &&& mask = val) :
    ((orig &&& (0xff ^^^ mask)) ||| (val &&& mask)) &&& mask = val := by
  rw [Nat.and_or_distrib_right, Nat.and_assoc, apart, Nat.and_zero, Nat.zero_or, Nat.and_assoc, Nat.and_self, fits]

theorem update_settled (reg : Reg) (mask val : Nat) (s t : Watched) (ret : Int) (steady : volatileReg reg = false)
    (apart : (0xff ^^^ mask) &&& mask = 0) (fits : val &&& mask = val)
    (reply : propertyWorld.reply s (.regmapUpdateBits reg mask val) ret t) :
    ret = 0 ∧ Settled reg (ShowsField mask val) t := by
  obtain ⟨⟨succeeded, written⟩, kept⟩ := reply
  have field : s.1.updated reg mask val &&& mask = val := updated_field (s.1.read reg) mask val apart fits
  rw [Settled, written, kept]
  refine ⟨succeeded, ?_, ?_⟩
  · simp only [keep, decide_true, Bool.true_or]
  · rw [ShowsField]
    split
    · rename_i same
      rw [same, Bq25790.read, if_neg (by rw [steady]; exact Bool.false_ne_true)] at field
      exact field
    · rw [write_cache, Function.update_self]
      exact field

section Writes

variable (accepts : (cmd : Cmd) → cmd.Reply → Prop)

abbrev Leads {A : Type} (held : Watched → Prop) (returned : A → Prop) (program : Act A) (s : Probing) : Prop :=
  Safe (probingWorld Spares accepts) (fun _ => True) (Returns fun value t => returned value ∧ held t.1) program s

theorem set_pair_leads (msb lsb : Reg) (step val : Int) (s : Probing) (apart : msb ≠ lsb ∧ msb ≠ lowOf lsb) :
    Leads accepts (HoldsPair msb lsb (val.tdiv step)) (fun ret : Int => ret = 0) (setPair msb lsb step val) s := by
  apply request_call accepts (fun _ => True) _ _ _ s trivial (fun _ _ _ _ _ _ _ => trivial)
  intro u ret t _ _ reply
  obtain ⟨succeeded, high⟩ := write_settled msb _ u t.1 ret reply
  subst succeeded
  apply request_call accepts _ _ _ _ t high (init_settled msb _)
  intro v ret w high _ reply
  obtain ⟨succeeded, low⟩ := write_settled lsb _ v w.1 ret reply
  exact ⟨trivial, ret, rfl, succeeded, avoided_settled msb _ v w.1 _ ret high apart reply, low⟩

theorem set_field_leads (reg : Reg) (mask : Nat) (step lo hi val : Int) (s : Probing) (steady : volatileReg reg = false)
    (apart : (0xff ^^^ mask) &&& mask = 0)
    (fits : ((clamp val lo hi).tdiv step).toNat &&& mask = ((clamp val lo hi).tdiv step).toNat) :
    Leads accepts (Settled reg (ShowsField mask ((clamp val lo hi).tdiv step).toNat)) (fun ret : Int => ret = 0)
      (setField reg mask step lo hi val) s := by
  apply request_call accepts (fun _ => True) _ _ _ s trivial (fun _ _ _ _ _ _ _ => trivial)
  intro u ret t _ _ reply
  exact ⟨trivial, ret, rfl, update_settled reg mask _ u t.1 ret steady apart fits reply⟩

end Writes

-- A property in a field of that many bits.
theorem fixed_field_leads (accepts : (cmd : Cmd) → cmd.Reply → Prop) (battery : Option BatteryInfo) (described : Described battery)
    (prop : Property) (intval : Int) (reg : Reg) (bits : Nat) (s : Probing)
    (fixed : ∀ info : BatteryInfo, info.rating prop = -EINVAL) (steady : volatileReg reg = false)
    (apart : (0xff ^^^ (2 ^ bits - 1)) &&& (2 ^ bits - 1) = 0) (room : (prop.chipMost / prop.step).toNat < 2 ^ bits) :
    Leads accepts (Settled reg (ShowsField (2 ^ bits - 1) (code battery prop intval).toNat)) (fun ret : Int => ret = 0)
      (setField reg (2 ^ bits - 1) prop.step prop.least prop.chipMost intval) s := by
  have coded := fixed_code battery prop intval fixed
  have small : (code battery prop intval).toNat < 2 ^ bits :=
    lt_of_le_of_lt (Int.toNat_le_toNat (code_most battery prop intval described)) room
  have written := set_field_leads accepts reg (2 ^ bits - 1) prop.step prop.least prop.chipMost intval s steady apart
    (by rw [coded]; exact field_fits _ bits small)
  rw [coded] at written
  exact written

theorem set_property_leads (battery : Option BatteryInfo) (described : Described battery) (prop : Property) (intval : Int)
    (s : Probing) :
    Leads (Fits battery (.write prop intval)) (Holds prop (code battery prop intval)) (fun ret : Int => ret = 0)
      (setProperty prop intval) s := by
  have range := most_range battery prop described
  cases prop with
  | INPUT_CURRENT_LIMIT =>
      have coded : (clamp intval 100000 3300000).tdiv 10000 = code battery .INPUT_CURRENT_LIMIT intval :=
        fixed_code battery .INPUT_CURRENT_LIMIT intval fun _ => rfl
      have written := set_pair_leads (Fits battery (.write .INPUT_CURRENT_LIMIT intval)) INPUT_I_LIM_MSB INPUT_I_LIM_LSB 10000
        (clamp intval 100000 3300000) s (by decide)
      rw [coded] at written
      exact written
  | CONSTANT_CHARGE_VOLTAGE =>
      apply request_call _ (fun _ => True) _ _ _ s trivial (fun _ _ _ _ _ _ _ => trivial)
      intro u limit t _ fitting _
      have written := set_pair_leads (Fits battery (.write .CONSTANT_CHARGE_VOLTAGE intval)) CHRG_V_LIM_MSB CHRG_V_LIM_LSB
        10000 (clamp intval 3000000 limit) t (by decide)
      rw [fitting_code 3000000 _ intval limit 300 rfl range.1 fitting] at written
      exact written
  | CONSTANT_CHARGE_CURRENT =>
      apply request_call _ (fun _ => True) _ _ _ s trivial (fun _ _ _ _ _ _ _ => trivial)
      intro u limit t _ fitting _
      have written := set_pair_leads (Fits battery (.write .CONSTANT_CHARGE_CURRENT intval)) CHRG_I_LIM_MSB CHRG_I_LIM_LSB
        10000 (clamp intval 50000 limit) t (by decide)
      rw [fitting_code 50000 _ intval limit 5 rfl range.1 fitting] at written
      exact written
  | PRECHARGE_CURRENT =>
      exact fixed_field_leads _ battery described .PRECHARGE_CURRENT intval PRECHRG_CTRL 6 s (fun _ => rfl) rfl rfl (by decide)
  | CHARGE_TERM_CURRENT =>
      exact fixed_field_leads _ battery described .CHARGE_TERM_CURRENT intval TERM_CTRL 5 s (fun _ => rfl) rfl rfl (by decide)
  | INPUT_VOLTAGE_LIMIT =>
      have coded : (clamp intval 3600000 22000000).tdiv 100000 = code battery .INPUT_VOLTAGE_LIMIT intval :=
        fixed_code battery .INPUT_VOLTAGE_LIMIT intval fun _ => rfl
      apply request_call _ (fun _ => True) _ _ _ s trivial (fun _ _ _ _ _ _ _ => trivial)
      intro u ret t _ _ reply
      obtain ⟨succeeded, shown⟩ := write_settled INPUT_V_LIM _ u t.1 ret reply
      rw [coded] at shown
      exact ⟨trivial, ret, rfl, succeeded, shown⟩

section Reads

variable (accepts : (cmd : Cmd) → cmd.Reply → Prop)

def Lasting (held : Watched → Prop) : Prop :=
  (∀ s t cmd answer, held s → Spares s cmd → initWorld.reply s cmd answer t → held t) ∧
    ∀ s t reg answer, held s → propertyWorld.reply s (.regmapRead reg) answer t → held t

theorem settled_lasting (reg : Reg) (fact : Nat → Nat → Prop) : Lasting (Settled reg fact) := by
  constructor
  · exact init_settled reg fact
  · intro s t other answer settled reply
    exact avoided_settled reg fact s t _ answer settled trivial reply

theorem both_lasting (first second : Watched → Prop) (one : Lasting first) (two : Lasting second) :
    Lasting fun s => first s ∧ second s := by
  constructor
  · intro s t cmd answer held spared reply
    exact ⟨one.1 s t cmd answer held.1 spared reply, two.1 s t cmd answer held.2 spared reply⟩
  · intro s t reg answer held reply
    exact ⟨one.2 s t reg answer held.1 reply, two.2 s t reg answer held.2 reply⟩

abbrev Reading (value : Int) (program : Act Int) (s : Probing) : Prop :=
  Leads accepts (fun _ => True) (fun given => given = value) program s

theorem get_reg_reading (reg : Reg) (steady : volatileReg reg = false) (held : Watched → Prop) (value : Int)
    (rest : Nat → Act Int) (s : Probing) (start : held s.1) (lasting : Lasting held)
    (onward : ∀ (u : Watched) (t : Probing), held u → held t.1 → Reading accepts value (rest (u.1.cache reg)) t) :
    Reading accepts value (getReg reg rest) s := by
  apply request_call accepts held _ _ _ s start lasting.1
  intro u answer t before _ reply
  have after := lasting.2 u t.1 reg answer before reply
  obtain ⟨⟨rfl, _⟩, _⟩ := reply
  have cached : u.1.read reg = u.1.cache reg := if_neg (by rw [steady]; exact Bool.false_ne_true)
  rw [cached]
  exact onward u t before after

theorem get_one_reading (reg : Reg) (steady : volatileReg reg = false) (fact : Nat → Nat → Prop) (convert : Nat → Int)
    (value : Int) (s : Probing) (start : Settled reg fact s.1)
    (shown : ∀ cached programmed, fact cached programmed → convert cached = value) :
    Reading accepts value (getReg reg fun val => pure (convert val)) s := by
  apply get_reg_reading accepts reg steady _ value _ s start (settled_lasting reg fact)
  intro u t before after
  exact ⟨trivial, _, rfl, shown _ _ before.2, trivial⟩

theorem get_both_reading (first second : Reg) (steady : volatileReg first = false ∧ volatileReg second = false)
    (one two : Nat) (convert : Nat → Nat → Int) (value : Int) (s : Probing)
    (start : Settled first (Shows one) s.1 ∧ Settled second (Shows two) s.1) (same : convert one two = value) :
    Reading accepts value (getReg first fun a => getReg second fun b => pure (convert a b)) s := by
  have lasting := both_lasting _ _ (settled_lasting first (Shows one)) (settled_lasting second (Shows two))
  apply get_reg_reading accepts first steady.1 _ value _ s start lasting
  intro u t before after
  apply get_reg_reading accepts second steady.2 _ value _ t after lasting
  intro v w later last
  rw [before.1.2.1, later.2.2.1]
  exact ⟨trivial, _, rfl, same, trivial⟩

theorem get_limit_reading (battery : Option BatteryInfo) (described : Described battery) (prop : Property) (intval : Int)
    (s : Probing) (start : Holds prop (code battery prop intval) s.1) :
    Reading accepts (granted battery prop intval) (getLimit prop) s := by
  have bytes := code_bytes battery prop intval described
  have whole : word (highByte (code battery prop intval)) (lowByte (code battery prop intval)) = code battery prop intval :=
    word_bytes _ bytes.1 bytes.2
  have natural : ((code battery prop intval).toNat : Int) = code battery prop intval := Int.toNat_of_nonneg bytes.1
  cases prop with
  | INPUT_CURRENT_LIMIT =>
      exact get_both_reading accepts INPUT_I_LIM_MSB INPUT_I_LIM_LSB ⟨rfl, rfl⟩ _ _ (fun msb lsb => word msb lsb * 10000) _ s
        start (congrArg (· * (10000 : Int)) whole)
  | CONSTANT_CHARGE_VOLTAGE =>
      exact get_both_reading accepts CHRG_V_LIM_MSB CHRG_V_LIM_LSB ⟨rfl, rfl⟩ _ _ (fun msb lsb => word msb lsb * 10000) _ s
        start (congrArg (· * (10000 : Int)) whole)
  | CONSTANT_CHARGE_CURRENT =>
      exact get_both_reading accepts CHRG_I_LIM_LSB CHRG_I_LIM_MSB ⟨rfl, rfl⟩ _ _ (fun lsb msb => word msb lsb * 10000) _ s
        start.symm (congrArg (· * (10000 : Int)) whole)
  | PRECHARGE_CURRENT =>
      apply get_one_reading accepts PRECHRG_CTRL rfl _ (fun val => ((val &&& PRECHRG_CUR_MASK : Nat) : Int) * 40000) _ s start
      intro cached programmed field
      have held : cached &&& PRECHRG_CUR_MASK = _ := field
      rw [held, natural]
      rfl
  | CHARGE_TERM_CURRENT =>
      apply get_one_reading accepts TERM_CTRL rfl _ (fun val => ((val &&& TERMCHRG_CUR_MASK : Nat) : Int) * 40000) _ s start
      intro cached programmed field
      have held : cached &&& TERMCHRG_CUR_MASK = _ := field
      rw [held, natural]
      rfl
  | INPUT_VOLTAGE_LIMIT =>
      apply get_one_reading accepts INPUT_V_LIM rfl _ (fun val => (val : Int) * 100000) _ s start
      intro cached programmed shown
      rw [shown.1, natural]
      rfl

theorem get_property_reads (battery : Option BatteryInfo) (described : Described battery) (prop : Property) (intval : Int)
    (s : Probing) (start : Holds prop (code battery prop intval) s.1) :
    Safe (probingWorld Spares accepts) (fun _ => True)
      (fun result _ => result = .ok (granted battery prop intval, some (granted battery prop intval))) (getProperty prop) s := by
  have range := code_range battery prop intval described
  have positive : 0 ≤ prop.least := by cases prop <;> decide
  apply safe_returns _ _ _ _ (getLimit prop) _ s (get_limit_reading accepts battery described prop intval s start)
  intro value t given
  rw [given.1, if_neg (by omega)]
  exact ⟨trivial, rfl⟩

end Reads

def Property.regs : Property → List Reg
  | .INPUT_CURRENT_LIMIT => [INPUT_I_LIM_MSB, INPUT_I_LIM_LSB]
  | .CONSTANT_CHARGE_VOLTAGE => [CHRG_V_LIM_MSB, CHRG_V_LIM_LSB]
  | .CONSTANT_CHARGE_CURRENT => [CHRG_I_LIM_MSB, CHRG_I_LIM_LSB]
  | .PRECHARGE_CURRENT => [PRECHRG_CTRL]
  | .CHARGE_TERM_CURRENT => [TERM_CTRL]
  | .INPUT_VOLTAGE_LIMIT => [INPUT_V_LIM]

def WritesTo (regs : List Reg) : Cmd → Prop
  | .regmapWrite reg _ | .regmapUpdateBits reg _ _ => reg ∈ regs
  | _ => True

theorem regs_apart (prop other : Property) (apart : prop ≠ other) (reg written : Reg) (own : reg ∈ prop.regs)
    (foreign : written ∈ other.regs) : reg ≠ written ∧ reg ≠ lowOf written := by
  have all : ∀ reg ∈ prop.regs, ∀ written ∈ other.regs, reg ≠ written ∧ reg ≠ lowOf written := by
    cases prop <;> cases other <;> first | exact absurd rfl apart | decide
  exact all reg own written foreign

theorem writes_to_avoids (prop other : Property) (apart : prop ≠ other) (reg : Reg) (own : reg ∈ prop.regs) (cmd : Cmd)
    (writes : WritesTo other.regs cmd) : Avoids reg cmd := by
  cases cmd with
  | regmapWrite written val => exact regs_apart prop other apart reg written own writes
  | regmapUpdateBits written mask val => exact (regs_apart prop other apart reg written own writes).1
  | _ => trivial

theorem set_pair_only (msb lsb : Reg) (step val : Int) (regs : List Reg) (high : msb ∈ regs) (low : lsb ∈ regs) :
    Only (WritesTo regs) (setPair msb lsb step val) := by
  apply only_bind (WritesTo regs) (exec (.regmapWrite msb (highByte (val.tdiv step)))) _ ⟨high, fun _ => trivial⟩
  intro ret
  split
  · trivial
  · exact ⟨low, fun _ => trivial⟩

theorem set_property_only (prop : Property) (intval : Int) : Only (WritesTo prop.regs) (setProperty prop intval) := by
  cases prop with
  | INPUT_CURRENT_LIMIT => exact set_pair_only _ _ _ _ _ (by decide) (by decide)
  | CONSTANT_CHARGE_VOLTAGE => exact ⟨trivial, fun limit => set_pair_only _ _ _ _ _ (by decide) (by decide)⟩
  | CONSTANT_CHARGE_CURRENT => exact ⟨trivial, fun limit => set_pair_only _ _ _ _ _ (by decide) (by decide)⟩
  | PRECHARGE_CURRENT => exact ⟨List.mem_singleton_self _, fun _ => trivial⟩
  | CHARGE_TERM_CURRENT => exact ⟨List.mem_singleton_self _, fun _ => trivial⟩
  | INPUT_VOLTAGE_LIMIT => exact ⟨List.mem_singleton_self _, fun _ => trivial⟩

theorem get_reg_only (allowed : Cmd → Prop) (reads : ∀ reg, allowed (.regmapRead reg)) (reg : Reg) (rest : Nat → Act Int)
    (onward : ∀ val, Only allowed (rest val)) : Only allowed (getReg reg rest) := by
  apply only_bind allowed (exec (.regmapRead reg)) _ ⟨reads reg, fun _ => trivial⟩
  intro answer
  obtain ⟨ret, val⟩ := answer
  dsimp only
  split
  · trivial
  · exact onward val

theorem get_both_only (allowed : Cmd → Prop) (reads : ∀ reg, allowed (.regmapRead reg)) (first second : Reg)
    (convert : Nat → Nat → Int) :
    Only allowed (getReg first fun a => getReg second fun b => (pure (convert a b) : Act Int)) :=
  get_reg_only allowed reads first _ fun _ => get_reg_only allowed reads second _ fun _ => trivial

theorem get_limit_only (allowed : Cmd → Prop) (reads : ∀ reg, allowed (.regmapRead reg)) (prop : Property) :
    Only allowed (getLimit prop) := by
  cases prop with
  | INPUT_CURRENT_LIMIT =>
      exact get_both_only allowed reads INPUT_I_LIM_MSB INPUT_I_LIM_LSB fun msb lsb => word msb lsb * 10000
  | CONSTANT_CHARGE_VOLTAGE =>
      exact get_both_only allowed reads CHRG_V_LIM_MSB CHRG_V_LIM_LSB fun msb lsb => word msb lsb * 10000
  | CONSTANT_CHARGE_CURRENT =>
      exact get_both_only allowed reads CHRG_I_LIM_LSB CHRG_I_LIM_MSB fun lsb msb => word msb lsb * 10000
  | PRECHARGE_CURRENT =>
      rw [getLimit, getPrechrgCurr, getField]
      exact get_reg_only allowed reads _ _ fun _ => trivial
  | CHARGE_TERM_CURRENT =>
      rw [getLimit, getTermCurr, getField]
      exact get_reg_only allowed reads _ _ fun _ => trivial
  | INPUT_VOLTAGE_LIMIT =>
      rw [getLimit, getInputVoltLim]
      exact get_reg_only allowed reads _ _ fun _ => trivial

theorem get_property_only (allowed : Cmd → Prop) (reads : ∀ reg, allowed (.regmapRead reg)) (prop : Property) :
    Only allowed (getProperty prop) := by
  apply only_bind allowed _ _ (get_limit_only allowed reads prop)
  intro ret
  split <;> trivial

theorem holds_kept (accepts : (cmd : Cmd) → cmd.Reply → Prop) {A : Type} (prop : Property) (val : Int) (program : Act A)
    (s t : Probing) (result : Except Fault A) (held : Holds prop val s.1)
    (avoids : ∀ reg ∈ prop.regs, Only (Avoids reg) program)
    (ended : Ends (probingWorld Spares accepts) program s result t) : Holds prop val t.1 := by
  have settles (reg : Reg) (fact : Nat → Nat → Prop) (own : reg ∈ prop.regs) (settled : Settled reg fact s.1) :
      Settled reg fact t.1 := request_settled accepts reg fact program s t result settled (avoids reg own) ended
  cases prop with
  | INPUT_CURRENT_LIMIT => exact ⟨settles _ _ (by decide) held.1, settles _ _ (by decide) held.2⟩
  | CONSTANT_CHARGE_VOLTAGE => exact ⟨settles _ _ (by decide) held.1, settles _ _ (by decide) held.2⟩
  | CONSTANT_CHARGE_CURRENT => exact ⟨settles _ _ (by decide) held.1, settles _ _ (by decide) held.2⟩
  | PRECHARGE_CURRENT => exact settles _ _ (by decide) held
  | CHARGE_TERM_CURRENT => exact settles _ _ (by decide) held
  | INPUT_VOLTAGE_LIMIT => exact settles _ _ (by decide) held

theorem holds_spared (prop : Property) (val : Int) (s t : Watched) (cmd : Cmd) (answer : cmd.Reply)
    (held : Holds prop val s) (spared : Spares s cmd) (reply : initWorld.reply s cmd answer t) : Holds prop val t := by
  have settles (reg : Reg) (fact : Nat → Nat → Prop) (settled : Settled reg fact s) : Settled reg fact t :=
    init_settled reg fact s t cmd answer settled spared reply
  cases prop with
  | INPUT_CURRENT_LIMIT => exact ⟨settles _ _ held.1, settles _ _ held.2⟩
  | CONSTANT_CHARGE_VOLTAGE => exact ⟨settles _ _ held.1, settles _ _ held.2⟩
  | CONSTANT_CHARGE_CURRENT => exact ⟨settles _ _ held.1, settles _ _ held.2⟩
  | PRECHARGE_CURRENT => exact settles _ _ held
  | CHARGE_TERM_CURRENT => exact settles _ _ held
  | INPUT_VOLTAGE_LIMIT => exact settles _ _ held

end SummitSom.Charger
