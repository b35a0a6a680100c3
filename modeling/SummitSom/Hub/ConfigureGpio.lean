import SummitSom.Bytes.Fixed
import SummitSom.Hub.GpioPins

set_option autoImplicit false

namespace SummitSom.Hub

open Bytes Interact

def LED0_PIO0_CTL_1 : Nat := 0x0807
def LED0_PIO0_CTL_1_LED_PIO : BitVec 8 := 0x01
def LED1_PIO1_CTL_1 : Nat := 0x0809
def LED1_PIO1_CTL_1_LED_PIO : BitVec 8 := 0x01
def SUSP_SEL : Nat := 0x3C52
def SUSP_SEL_SUSP_SEL : BitVec 8 := 0x01
def CHRG_DET_BYPASS : Nat := 0x3C50
def CHRGEDET_BYPASS_BIT : BitVec 8 := 0x80
def PORT_SEL1 : Nat := 0x3C00
def PORT_SEL2 : Nat := 0x3C04
def PORT_SEL3 : Nat := 0x3C08
def PORT_SEL4 : Nat := 0x3C0C
def VBUS_PASS_THRU : Nat := 0x3C40
def PORT_DISABLE_GPIO_EN_VAL : BitVec 8 := 0x04
def VBUS_GPIO_VAL : BitVec 8 := 0x02
def UTIL_CONFIG1_ADDR : Nat := 0x080A
def UTIL_CONFIG1_SOFENABLE : BitVec 8 := 0x80
def UTIL_CONFIG1_TXDSEL : BitVec 8 := 0x20
def UTIL_CONFIG1_RXDSEL : BitVec 8 := 0x08
def UTIL_CONFIG1_SPIMASTERDIS : BitVec 8 := 0x04
def I2C_CTL_ADDR : Nat := 0x0954
def I2C_CTL_EXTHWI2CEN : BitVec 8 := 0x02
def I2C_CTL_INTI2CEN : BitVec 8 := 0x01

-- MchpUsbRegisterRead and MchpUsbRegisterWrite of one byte.
def mchpUsbRegisterRead (address : Nat) (byData : BitVec 8) : Gpio (BitVec 8) := do
  let reply ← issue (.read address)
  if reply.1 < 0 then .stop FALSE else pure (fetched reply.1.toNat reply.2 (fun _ => byData) 0)

def mchpUsbRegisterWrite (address : Nat) (byData : BitVec 8) : Gpio Unit := do
  let reply ← issue (.write address [byData])
  if reply.1 < 0 then .stop FALSE else pure ()

section Configuring

-- byData is not initialised.
variable (stale : BitVec 8)

def usbSetBitXdata (wXDataAddress : Nat) (byBitToSet : BitVec 8) : Gpio Unit := do
  let byData ← mchpUsbRegisterRead wXDataAddress stale
  mchpUsbRegisterWrite wXDataAddress (byData ||| byBitToSet)

def usbClearBitXdata (wXDataAddress : Nat) (byBitToClear : BitVec 8) : Gpio Unit := do
  let byData ← mchpUsbRegisterRead wXDataAddress stale
  mchpUsbRegisterWrite wXDataAddress (byData &&& ~~~byBitToClear)

-- case 17, which case 16 falls into.
def configurePort1 : Gpio Unit := do
  usbClearBitXdata stale 0x3c00 0x80
  mchpUsbRegisterWrite 0x3c20 0x02

def mchpUsbConfigureGpio (PIONumber : UInt8) : Gpio Unit :=
  match PIONumber.toNat with
  | 0 => do
      usbClearBitXdata stale LED0_PIO0_CTL_1 LED0_PIO0_CTL_1_LED_PIO
      usbClearBitXdata stale SUSP_SEL SUSP_SEL_SUSP_SEL
  | 1 => do
      usbClearBitXdata stale LED1_PIO1_CTL_1 LED1_PIO1_CTL_1_LED_PIO
      usbClearBitXdata stale UTIL_CONFIG1_ADDR UTIL_CONFIG1_SOFENABLE
  | 2 => usbClearBitXdata stale I2C_CTL_ADDR I2C_CTL_INTI2CEN
  | 3 => pure ()
  | 4 => usbSetBitXdata stale UTIL_CONFIG1_ADDR UTIL_CONFIG1_SPIMASTERDIS
  | 5 => do
      usbClearBitXdata stale UTIL_CONFIG1_ADDR UTIL_CONFIG1_TXDSEL
      usbSetBitXdata stale UTIL_CONFIG1_ADDR UTIL_CONFIG1_SPIMASTERDIS
  | 6 => usbSetBitXdata stale CHRG_DET_BYPASS CHRGEDET_BYPASS_BIT
  | 7 => usbSetBitXdata stale CHRG_DET_BYPASS CHRGEDET_BYPASS_BIT
  | 8 => pure ()
  | 9 => do
      usbClearBitXdata stale UTIL_CONFIG1_ADDR UTIL_CONFIG1_RXDSEL
      usbSetBitXdata stale UTIL_CONFIG1_ADDR UTIL_CONFIG1_SPIMASTERDIS
  | 10 => pure ()
  | 14 => do
      mchpUsbRegisterWrite 0x3C51 0xC0
      usbClearBitXdata stale SUSP_SEL SUSP_SEL_SUSP_SEL
  | 16 => do
      usbSetBitXdata stale VBUS_PASS_THRU VBUS_GPIO_VAL
      configurePort1 stale
  | 17 => configurePort1 stale
  | 18 => do
      usbClearBitXdata stale 0x3c04 0x80
      mchpUsbRegisterWrite 0x3c24 0x02
  | 19 => do
      usbClearBitXdata stale UTIL_CONFIG1_ADDR UTIL_CONFIG1_RXDSEL
      usbClearBitXdata stale 0x3c08 0x80
      mchpUsbRegisterWrite 0x3c28 0x02
  | 20 => do
      usbClearBitXdata stale UTIL_CONFIG1_ADDR UTIL_CONFIG1_TXDSEL
      usbClearBitXdata stale 0x3c0c 0x80
      mchpUsbRegisterWrite 0x3c2c 0x02
  | 41 => mchpUsbRegisterWrite PORT_SEL1 PORT_DISABLE_GPIO_EN_VAL
  | 42 => mchpUsbRegisterWrite PORT_SEL2 PORT_DISABLE_GPIO_EN_VAL
  | 43 => mchpUsbRegisterWrite PORT_SEL3 PORT_DISABLE_GPIO_EN_VAL
  | 44 => mchpUsbRegisterWrite PORT_SEL4 PORT_DISABLE_GPIO_EN_VAL
  | 45 => usbClearBitXdata stale I2C_CTL_ADDR (I2C_CTL_EXTHWI2CEN ||| I2C_CTL_INTI2CEN)
  | _ => .stop FALSE

end Configuring

def clearing (address : Nat) (bits : BitVec 8) : Fix 8 := ⟨address, bits, 0⟩

def setting (address : Nat) (bits : BitVec 8) : Fix 8 := ⟨address, bits, bits⟩

def putting (address : Nat) (byte : BitVec 8) : Fix 8 := ⟨address, 0xFF, byte⟩

-- The bits that make a pin a GPIO.
def pinFixes : Nat → List (Fix 8)
  | 0 => [clearing LED0_PIO0_CTL_1 LED0_PIO0_CTL_1_LED_PIO, clearing SUSP_SEL SUSP_SEL_SUSP_SEL]
  | 1 => [clearing LED1_PIO1_CTL_1 LED1_PIO1_CTL_1_LED_PIO, clearing UTIL_CONFIG1_ADDR UTIL_CONFIG1_SOFENABLE]
  | 2 => [clearing I2C_CTL_ADDR I2C_CTL_INTI2CEN]
  | 4 => [setting UTIL_CONFIG1_ADDR UTIL_CONFIG1_SPIMASTERDIS]
  | 5 => [clearing UTIL_CONFIG1_ADDR UTIL_CONFIG1_TXDSEL, setting UTIL_CONFIG1_ADDR UTIL_CONFIG1_SPIMASTERDIS]
  | 6 => [setting CHRG_DET_BYPASS CHRGEDET_BYPASS_BIT]
  | 7 => [setting CHRG_DET_BYPASS CHRGEDET_BYPASS_BIT]
  | 9 => [clearing UTIL_CONFIG1_ADDR UTIL_CONFIG1_RXDSEL, setting UTIL_CONFIG1_ADDR UTIL_CONFIG1_SPIMASTERDIS]
  | 14 => [putting 0x3C51 0xC0, clearing SUSP_SEL SUSP_SEL_SUSP_SEL]
  | 16 => [setting VBUS_PASS_THRU VBUS_GPIO_VAL, clearing 0x3c00 0x80, putting 0x3c20 0x02]
  | 17 => [clearing 0x3c00 0x80, putting 0x3c20 0x02]
  | 18 => [clearing 0x3c04 0x80, putting 0x3c24 0x02]
  | 19 => [clearing UTIL_CONFIG1_ADDR UTIL_CONFIG1_RXDSEL, clearing 0x3c08 0x80, putting 0x3c28 0x02]
  | 20 => [clearing UTIL_CONFIG1_ADDR UTIL_CONFIG1_TXDSEL, clearing 0x3c0c 0x80, putting 0x3c2c 0x02]
  | 41 => [putting PORT_SEL1 PORT_DISABLE_GPIO_EN_VAL]
  | 42 => [putting PORT_SEL2 PORT_DISABLE_GPIO_EN_VAL]
  | 43 => [putting PORT_SEL3 PORT_DISABLE_GPIO_EN_VAL]
  | 44 => [putting PORT_SEL4 PORT_DISABLE_GPIO_EN_VAL]
  | 45 => [clearing I2C_CTL_ADDR (I2C_CTL_EXTHWI2CEN ||| I2C_CTL_INTI2CEN)]
  | _ => []

theorem apply_written (registers : Registers) (fix : Fix 8) (byte : BitVec 8)
    (same : byte = registers fix.address &&& ~~~fix.mask ||| fix.value &&& fix.mask) :
    write registers fix.address [byte] = fix.apply registers := by
  funext address
  rw [Fix.apply]
  by_cases here : address = fix.address
  · subst here
    rw [if_pos rfl, ← same]
    exact write_cell registers fix.address [byte] 0 Nat.one_pos
  · rw [if_neg here]
    apply write_outside
    intro inside
    simp only [Within, List.length_cons, List.length_nil] at inside
    omega

section Whole

-- A transfer fails or moves its byte.
variable (usb : Answers) (whole : ∀ place, usb place < 0 ∨ 1 ≤ usb place)

-- The program brings about the fixes, or some first ones of them if it fails.
def Fixes (fixes : List (Fix 8)) (program : Gpio Unit) : Prop :=
  ∀ bus, ∃ done, done <+: fixes ∧ (eval (onBus usb) program bus).2.registers = applied done bus.registers ∧
    ((eval (onBus usb) program bus).1 = .ok () → done = fixes)

theorem fixes_nothing : Fixes usb [] (pure ()) := fun _ => ⟨[], List.prefix_rfl, rfl, fun _ => rfl⟩

theorem fixes_refused (fixes : List (Fix 8)) : Fixes usb fixes (.stop FALSE) := fun _ =>
  ⟨[], List.nil_prefix, rfl, fun ok => nomatch ok⟩

def onward {A B : Type} (rest : A → Gpio B) : Except Int A × Bus → Except Int B × Bus
  | (.ok value, bus) => eval (onBus usb) (rest value) bus
  | (.error code, bus) => (.error code, bus)

theorem eval_bind {A B : Type} (program : Gpio A) (rest : A → Gpio B) (bus : Bus) :
    eval (onBus usb) (program >>= rest) bus = onward usb rest (eval (onBus usb) program bus) := by
  induction program generalizing bus with
  | done value => rfl
  | stop code => rfl
  | call cmd next ih => exact ih _ _

theorem fixes_then (first second : List (Fix 8)) (program rest : Gpio Unit) (begins : Fixes usb first program)
    (ends : Fixes usb second rest) : Fixes usb (first ++ second) (program >>= fun _ => rest) := by
  intro bus
  obtain ⟨done, front, registers, complete⟩ := begins bus
  rw [eval_bind]
  cases result : eval (onBus usb) program bus with
  | mk outcome after =>
      rw [result] at registers complete
      cases outcome with
      | error code => exact ⟨done, front.trans (List.prefix_append first second), registers, fun ok => nomatch ok⟩
      | ok value =>
          obtain ⟨more, back, later, all⟩ := ends after
          cases complete rfl
          refine ⟨first ++ more, (List.prefix_append_right_inj first).mpr back, ?_, fun ok => by rw [all ok]⟩
          rw [applied, List.foldl_append]
          exact later.trans (congrArg (applied more) registers)

include whole

theorem write_fixes (fix : Fix 8) (byData : BitVec 8) (bus : Bus)
    (same : byData = bus.registers fix.address &&& ~~~fix.mask ||| fix.value &&& fix.mask) :
    ∃ done, done <+: [fix] ∧
      (eval (onBus usb) (mchpUsbRegisterWrite fix.address byData) bus).2.registers = applied done bus.registers ∧
      ((eval (onBus usb) (mchpUsbRegisterWrite fix.address byData) bus).1 = .ok () → done = [fix]) := by
  rw [mchpUsbRegisterWrite, issue_bind, eval]
  cases whole bus.accesses.length with
  | inl failed =>
      have broken : (onBus usb bus (.write fix.address [byData])).1.1 < 0 := failed
      rw [if_pos broken]
      have nothing : (usb bus.accesses.length).toNat = 0 := Int.toNat_of_nonpos (Int.le_of_lt failed)
      have refused : ¬ (Except.error FALSE : Except Int Unit) = .ok () := by simp
      refine ⟨[], List.nil_prefix, ?_, fun ok => absurd ok refused⟩
      change write bus.registers fix.address (List.take (usb bus.accesses.length).toNat [byData]) = bus.registers
      rw [nothing, List.take_zero]
      funext address
      exact write_outside bus.registers fix.address [] address (fun inside => Nat.not_lt.mpr inside.1 inside.2)
  | inr moved =>
      have fine : ¬ (onBus usb bus (.write fix.address [byData])).1.1 < 0 := by
        change ¬ usb bus.accesses.length < 0
        omega
      rw [if_neg fine]
      refine ⟨[fix], List.prefix_rfl, ?_, fun _ => rfl⟩
      change write bus.registers fix.address (List.take (usb bus.accesses.length).toNat [byData]) = fix.apply bus.registers
      rw [List.take_of_length_le (by rw [List.length_singleton]; omega)]
      exact apply_written bus.registers fix byData same

-- A byte is read, changed and written back.
theorem change_fixes (stale : BitVec 8) (fix : Fix 8) (change : BitVec 8 → BitVec 8)
    (changes : ∀ byte, change byte = byte &&& ~~~fix.mask ||| fix.value &&& fix.mask) :
    Fixes usb [fix] (mchpUsbRegisterRead fix.address stale >>= fun byData => mchpUsbRegisterWrite fix.address (change byData)) := by
  intro bus
  rw [eval_bind, mchpUsbRegisterRead, issue_bind, eval]
  cases whole bus.accesses.length with
  | inl failed =>
      have broken : (onBus usb bus (.read fix.address)).1.1 < 0 := failed
      rw [if_pos broken]
      refine ⟨[], List.nil_prefix, rfl, ?_⟩
      intro ok
      cases ok
  | inr moved =>
      have fine : ¬ (onBus usb bus (.read fix.address)).1.1 < 0 := by
        change ¬ usb bus.accesses.length < 0
        omega
      have cell : fetched (usb bus.accesses.length).toNat (fun index => bus.registers (fix.address + index)) (fun _ => stale) 0 =
          bus.registers fix.address := by
        rw [fetched, if_pos (by omega)]
        rfl
      rw [if_neg fine]
      have written := write_fixes usb whole fix (change (bus.registers fix.address))
        ⟨bus.registers, bus.accesses ++ [.read fix.address]⟩ (changes _)
      rw [← cell] at written
      exact written

theorem clear_fixes (stale : BitVec 8) (address : Nat) (bits : BitVec 8) :
    Fixes usb [clearing address bits] (usbClearBitXdata stale address bits) := by
  apply change_fixes usb whole stale (clearing address bits) (fun byData => byData &&& ~~~bits)
  intro byte
  simp [clearing]

theorem set_fixes (stale : BitVec 8) (address : Nat) (bits : BitVec 8) :
    Fixes usb [setting address bits] (usbSetBitXdata stale address bits) := by
  apply change_fixes usb whole stale (setting address bits) (fun byData => byData ||| bits)
  intro byte
  apply BitVec.eq_of_getLsbD_eq
  intro bit inside
  simp only [setting, BitVec.and_self, BitVec.getLsbD_or, BitVec.getLsbD_and, BitVec.getLsbD_not, inside, decide_true,
    Bool.true_and]
  cases byte.getLsbD bit <;> cases bits.getLsbD bit <;> rfl

theorem put_fixes (address : Nat) (byte : BitVec 8) : Fixes usb [putting address byte] (mchpUsbRegisterWrite address byte) := by
  intro bus
  apply write_fixes usb whole (putting address byte) byte bus
  have off : ~~~BitVec.allOnes 8 = 0#8 := by decide
  change byte = bus.registers address &&& ~~~BitVec.allOnes 8 ||| byte &&& BitVec.allOnes 8
  rw [off, BitVec.and_allOnes, BitVec.and_zero, BitVec.zero_or]

theorem port1_fixes (stale : BitVec 8) : Fixes usb (pinFixes 17) (configurePort1 stale) :=
  fixes_then usb _ _ _ _ (clear_fixes usb whole stale _ _) (put_fixes usb whole _ _)

theorem configure_fixes (stale : BitVec 8) (PIONumber : UInt8) :
    Fixes usb (pinFixes PIONumber.toNat) (mchpUsbConfigureGpio stale PIONumber) := by
  have clears := clear_fixes usb whole stale
  have sets := set_fixes usb whole stale
  have puts := put_fixes usb whole
  rw [mchpUsbConfigureGpio]
  split
  · next pin =>
      rw [pin]
      exact fixes_then usb _ _ _ _ (clears _ _) (clears _ _)
  · next pin =>
      rw [pin]
      exact fixes_then usb _ _ _ _ (clears _ _) (clears _ _)
  · next pin =>
      rw [pin]
      exact clears _ _
  · next pin =>
      rw [pin]
      exact fixes_nothing usb
  · next pin =>
      rw [pin]
      exact sets _ _
  · next pin =>
      rw [pin]
      exact fixes_then usb _ _ _ _ (clears _ _) (sets _ _)
  · next pin =>
      rw [pin]
      exact sets _ _
  · next pin =>
      rw [pin]
      exact sets _ _
  · next pin =>
      rw [pin]
      exact fixes_nothing usb
  · next pin =>
      rw [pin]
      exact fixes_then usb _ _ _ _ (clears _ _) (sets _ _)
  · next pin =>
      rw [pin]
      exact fixes_nothing usb
  · next pin =>
      rw [pin]
      exact fixes_then usb _ _ _ _ (puts _ _) (clears _ _)
  · next pin =>
      rw [pin]
      exact fixes_then usb _ _ _ _ (sets _ _) (port1_fixes usb whole stale)
  · next pin =>
      rw [pin]
      exact port1_fixes usb whole stale
  · next pin =>
      rw [pin]
      exact fixes_then usb _ _ _ _ (clears _ _) (puts _ _)
  · next pin =>
      rw [pin]
      exact fixes_then usb _ _ _ _ (clears _ _) (fixes_then usb _ _ _ _ (clears _ _) (puts _ _))
  · next pin =>
      rw [pin]
      exact fixes_then usb _ _ _ _ (clears _ _) (fixes_then usb _ _ _ _ (clears _ _) (puts _ _))
  · next pin =>
      rw [pin]
      exact puts _ _
  · next pin =>
      rw [pin]
      exact puts _ _
  · next pin =>
      rw [pin]
      exact puts _ _
  · next pin =>
      rw [pin]
      exact puts _ _
  · next pin =>
      rw [pin]
      exact clears _ _
  · exact fixes_refused usb _

end Whole

-- What the pins ask for nowhere differs.
def allFixes : List (Fix 8) := (List.range 46).flatMap pinFixes

theorem pin_fixes_listed (pin : Nat) (fix : Fix 8) (asked : fix ∈ pinFixes pin) : fix ∈ allFixes := by
  by_cases small : pin < 46
  · exact List.mem_flatMap.mpr ⟨pin, List.mem_range.mpr small, asked⟩
  · obtain ⟨more, rfl⟩ := Nat.exists_eq_add_of_le' (Nat.le_of_not_lt small)
    have nothing : pinFixes (more + 46) = [] := rfl
    rw [nothing] at asked
    cases asked

theorem all_fixes_agree : ∀ fix ∈ allFixes, ∀ other ∈ allFixes, fix.Agrees other := by
  decide +kernel

section Calls

variable (usb : Answers) (stale : BitVec 8)

-- The pins are configured one after the other, whatever the calls return.
def configureAll : List UInt8 → Bus → List Bool × Bus
  | [], bus => ([], bus)
  | pin :: pins, bus =>
      let done := eval (onBus usb) (mchpUsbConfigureGpio stale pin) bus
      let rest := configureAll pins done.2
      (done.1.isOk :: rest.1, rest.2)

variable (whole : ∀ place, usb place < 0 ∨ 1 ≤ usb place)

include whole

theorem configure_all_fixes (pins : List UInt8) (bus : Bus) :
    ∃ done, (∀ fix ∈ done, ∃ pin ∈ pins, fix ∈ pinFixes pin.toNat) ∧
      (configureAll usb stale pins bus).2.registers = applied done bus.registers ∧
      ∀ (place : Nat) (caller : UInt8), pins[place]? = some caller → (configureAll usb stale pins bus).1[place]? = some true →
        ∀ fix ∈ pinFixes caller.toNat, fix ∈ done := by
  induction pins generalizing bus with
  | nil =>
      refine ⟨[], ?_, rfl, ?_⟩
      · intro fix inside
        cases inside
      · intro place caller found
        cases found
  | cons pin pins ih =>
      obtain ⟨first, front, registers, complete⟩ := configure_fixes usb whole stale pin bus
      obtain ⟨later, asked, behind, all⟩ := ih (eval (onBus usb) (mchpUsbConfigureGpio stale pin) bus).2
      refine ⟨first ++ later, ?_, ?_, ?_⟩
      · intro fix inside
        cases List.mem_append.mp inside with
        | inl own => exact ⟨pin, List.mem_cons_self, front.subset own⟩
        | inr other =>
            obtain ⟨caller, called, fixes⟩ := asked fix other
            exact ⟨caller, List.mem_cons_of_mem pin called, fixes⟩
      · rw [applied, List.foldl_append, configureAll]
        exact behind.trans (congrArg (applied later) registers)
      · intro place caller found succeeded fix fixes
        cases place with
        | zero =>
            cases found
            have fine := Option.some.inj succeeded
            cases outcome : (eval (onBus usb) (mchpUsbConfigureGpio stale pin) bus).1 with
            | error code =>
                rw [outcome] at fine
                cases fine
            | ok value =>
                cases complete outcome
                exact List.mem_append_left later fixes
        | succ place => exact List.mem_append_right first (all place caller found succeeded fix fixes)

end Calls

-- A pin that a call has made a GPIO stays one, whichever pins are configured
-- before and after it and whichever of those calls fail, and no bit changes that
-- none of the pins asks for.
theorem gpio_configured (usb : Answers) (whole : ∀ place, usb place < 0 ∨ 1 ≤ usb place) (stale : BitVec 8)
    (pins : List UInt8) (bus : Bus) :
    (∀ (place : Nat) (pin : UInt8), pins[place]? = some pin → (configureAll usb stale pins bus).1[place]? = some true →
        ∀ fix ∈ pinFixes pin.toNat, fix.Holds (configureAll usb stale pins bus).2.registers) ∧
      ∀ address bit, (∀ pin ∈ pins, ∀ fix ∈ pinFixes pin.toNat, ¬ fix.Touches address bit) →
        ((configureAll usb stale pins bus).2.registers address).getLsbD bit = (bus.registers address).getLsbD bit := by
  obtain ⟨done, asked, registers, all⟩ := configure_all_fixes usb stale whole pins bus
  have listed (fix : Fix 8) (inside : fix ∈ done) : fix ∈ allFixes := by
    obtain ⟨pin, _, fixes⟩ := asked fix inside
    exact pin_fixes_listed pin.toNat fix fixes
  have agree : ∀ fix ∈ done, ∀ other ∈ done, fix.Agrees other := fun fix inside other member =>
    all_fixes_agree fix (listed fix inside) other (listed other member)
  rw [registers]
  constructor
  · intro place pin found succeeded fix fixes
    exact applied_hold done agree bus.registers fix (all place pin found succeeded fix fixes)
  · intro address bit spared
    apply applied_untouched done bus.registers address bit
    intro fix inside
    obtain ⟨pin, called, fixes⟩ := asked fix inside
    exact spared pin called fix fixes

-- The third transfer of the calls fails: pin 41 is a GPIO in the end, and pin 17
-- is not.
theorem gpio_configured_41 :
    ((configureAll (fun place => if place = 2 then -4 else 1) 0 [17, 41] ⟨fun _ => 0x80, []⟩).2.registers PORT_SEL1).getLsbD 7 =
      false := by
  have whole (place : Nat) : (if place = 2 then (-4 : Int) else 1) < 0 ∨ 1 ≤ (if place = 2 then (-4 : Int) else 1) := by
    split <;> decide
  have configured := (gpio_configured (fun place => if place = 2 then -4 else 1) whole 0 [17, 41] ⟨fun _ => 0x80, []⟩).1
  exact configured 1 41 rfl (by decide) (putting PORT_SEL1 PORT_DISABLE_GPIO_EN_VAL) List.mem_cons_self 7 rfl

end SummitSom.Hub
