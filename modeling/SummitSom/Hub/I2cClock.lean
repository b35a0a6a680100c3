import SummitSom.Hub.Control

set_option autoImplicit false

namespace SummitSom.Hub

open Interact

def enterPassthrough : Control := ⟨0x41, 0x70, 0, 0, 0, []⟩

-- The code that sets the clock, to 0x4800, with its byte YY.
def downloadCode (byte : UInt8) : Control :=
  ⟨0x41, 0x03, 0x4800, 0, 22,
    [0x75, 0x8D, byte, 0xAF, 0x89, 0x53, 0x07, 0xCF, 0xEF, 0x44, 0x20, 0xF5, 0x89, 0x75, 0x8B, 0x00, 0xD2, 0x8E, 0x75, 0xDC,
      0xC3, 0x22]⟩

def mapMemory (byte : UInt8) : Control := ⟨0x41, 0x03, 0x0844, 0, 2, [byte, 0x02]⟩

def invokeCode : Control := ⟨0x41, 0x05, 0xA000, 0, 0, []⟩

def tableRate (nValue : Int) : Option Int :=
  if nValue = 1 then some 62
  else if nValue = 2 then some 235
  else if nValue = 3 then some 268
  else if nValue = 4 then some 312
  else if nValue = 5 then some 375
  else none

-- wFreq has 16 bits, and its low byte goes to the code. The division of C drops
-- the fraction.
def clockByte (CRValue : Int) : UInt8 :=
  let wFreq := (256 - Int.tdiv 625 CRValue) % 65536
  UInt8.ofNat wFreq.toNat

def setClock (CRValue rc : Int) : Exchange Int :=
  if CRValue = 0 then .stop .dividesByZero
  else inTurn [downloadCode (clockByte CRValue), mapMemory 0x14, invokeCode, mapMemory 0x89] rc

def mchpUsbI2CSetConfig (CRValue nValue : Int) : Exchange Int := do
  let rc ← issue enterPassthrough
  if rc < 0 then pure rc
  else if nValue ≠ 0 ∨ CRValue ≠ 0 then setClock ((tableRate nValue).getD CRValue) rc
  else pure rc

-- The rates that the header gives for the selectors, in tenths of a kHz. Those
-- from 6 on and the negative ones are reserved.
def headerRate (nValue : Int) : Option Int :=
  if nValue = 1 then some 625
  else if nValue = 2 then some 2350
  else if nValue = 3 then some 2680
  else if nValue = 4 then some 3120
  else if nValue = 5 then some 3750
  else none

def askedRate (CRValue nValue : Int) : Option Int := if nValue = 0 then some (10 * CRValue) else headerRate nValue

structure ClockFor (rate byte : Int) : Prop where
  rounded : rate ≠ 0 ∧ byte = 256 - Int.fdiv 6250 rate
  range : 0 ≤ byte ∧ byte ≤ 255

def Downloads (issued : List Control) (byte : UInt8) : Prop := downloadCode byte ∈ issued

-- What a request may come to: the clock it asked for, or no download at all.
def Clocked (CRValue nValue : Int) : Except Undefined Int × List Control → Prop
  | (.error _, _) => False
  | (.ok bRetval, issued) =>
      (∀ byte, Downloads issued byte → ∃ rate, askedRate CRValue nValue = some rate ∧ ClockFor rate byte.toNat ∧
        rate * (256 - byte.toNat) ≤ 6250) ∧
      ((¬ ∃ rate byte, askedRate CRValue nValue = some rate ∧ ClockFor rate byte) →
        bRetval = FALSE ∧ ∀ byte, ¬ Downloads issued byte)

theorem quotient_range (rate : Int) (least : 3 ≤ rate) (most : rate ≤ 625) :
    1 ≤ 625 / rate ∧ 625 / rate ≤ 208 ∧ rate * (625 / rate) ≤ 625 := by
  have low := Int.le_ediv_of_mul_le (a := 1) (b := 625) (by omega : 0 < rate) (by omega)
  have high := Int.ediv_lt_of_lt_mul (a := 625) (b := 209) (by omega : 0 < rate) (by omega)
  have product := Int.mul_ediv_self_le (x := 625) (by omega : rate ≠ 0)
  exact ⟨low, by omega, product⟩

theorem clock_kilohertz (rate byte : Int) :
    ClockFor (10 * rate) byte ↔ (rate ≠ 0 ∧ byte = 256 - Int.fdiv 625 rate) ∧ 0 ≤ byte ∧ byte ≤ 255 := by
  have cancelled : Int.fdiv 6250 (10 * rate) = Int.fdiv 625 rate := Int.mul_fdiv_mul_of_pos 625 rate (by decide : (0 : Int) < 10)
  constructor
  · rintro ⟨⟨nonzero, same⟩, range⟩
    exact ⟨⟨by omega, by rw [same, cancelled]⟩, range⟩
  · rintro ⟨⟨nonzero, same⟩, range⟩
    exact ⟨⟨by omega, by rw [same, cancelled]⟩, range⟩

theorem clock_exists (rate : Int) : (∃ byte, ClockFor (10 * rate) byte) ↔ 3 ≤ rate ∧ rate ≤ 625 := by
  simp only [clock_kilohertz]
  constructor
  · rintro ⟨byte, ⟨nonzero, same⟩, low, high⟩
    by_cases positive : 0 < rate
    · rw [Int.fdiv_eq_ediv_of_nonneg _ (by omega)] at same
      have least := (Int.le_ediv_iff_mul_le (a := 1) (b := 625) positive).mp (by omega)
      refine ⟨?_, by omega⟩
      by_contra small
      have few : rate = 1 ∨ rate = 2 := by omega
      cases few with
      | inl one =>
          subst one
          omega
      | inr two =>
          subst two
          omega
    · have below := Int.fdiv_nonpos_of_nonneg_of_nonpos (a := 625) (b := rate) (by omega) (by omega)
      omega
  · rintro ⟨least, most⟩
    have range := quotient_range rate least most
    exact ⟨256 - 625 / rate, ⟨by omega, by rw [Int.fdiv_eq_ediv_of_nonneg _ (by omega)]⟩, by omega, by omega⟩

theorem clock_byte_fits (rate : Int) (least : 3 ≤ rate) (most : rate ≤ 625) :
    ((clockByte rate).toNat : Int) = 256 - 625 / rate := by
  have range := quotient_range rate least most
  have truncated : Int.tdiv 625 rate = 625 / rate := Int.tdiv_eq_ediv_of_nonneg (by omega)
  simp only [clockByte, truncated, UInt8.toNat_ofNat']
  omega

section Configured

variable (usb : Answers) (CRValue nValue : Int)

theorem config_idle (entered : usb 0 = 0) (nothing : nValue = 0 ∧ CRValue = 0) :
    exchange usb (mchpUsbI2CSetConfig CRValue nValue) = (.ok FALSE, [enterPassthrough]) := by
  rw [exchange, mchpUsbI2CSetConfig, issue_bind, eval, issueNext, List.length_nil, entered, if_neg (by omega),
    if_neg (by omega)]
  rfl

theorem config_divides (entered : usb 0 = 0) (asked : nValue ≠ 0 ∨ CRValue ≠ 0)
    (zero : (tableRate nValue).getD CRValue = 0) :
    exchange usb (mchpUsbI2CSetConfig CRValue nValue) = (.error .dividesByZero, [enterPassthrough]) := by
  rw [exchange, mchpUsbI2CSetConfig, issue_bind, eval, issueNext, List.length_nil, entered, if_neg (by omega),
    if_pos asked, zero, setClock, if_pos rfl]
  rfl

theorem config_downloads (asked : nValue ≠ 0 ∨ CRValue ≠ 0) (nonzero : (tableRate nValue).getD CRValue ≠ 0)
    (succeed : Succeed usb (exchange usb (mchpUsbI2CSetConfig CRValue nValue)).2) :
    ∃ last, exchange usb (mchpUsbI2CSetConfig CRValue nValue) =
      (.ok last, [enterPassthrough, downloadCode (clockByte ((tableRate nValue).getD CRValue)), mapMemory 0x14, invokeCode,
        mapMemory 0x89]) := by
  have entered := (succeeds_first usb enterPassthrough _ [] succeed).1
  have onward : exchange usb (mchpUsbI2CSetConfig CRValue nValue) =
      eval (issueNext usb) (inTurn [downloadCode (clockByte ((tableRate nValue).getD CRValue)), mapMemory 0x14,
        invokeCode, mapMemory 0x89] (usb 0)) [enterPassthrough] := by
    rw [exchange, mchpUsbI2CSetConfig, issue_bind, eval, issueNext, if_neg (Int.not_lt.mpr entered), if_pos asked,
      setClock, if_neg nonzero]
    rfl
  rw [onward] at succeed ⊢
  obtain ⟨last, _, reached⟩ := in_turn_succeeds usb _ (usb 0) entered [enterPassthrough] succeed
  exact ⟨last, reached⟩

end Configured

theorem table_rate_range (nValue rate : Int) (found : tableRate nValue = some rate) :
    (1 ≤ nValue ∧ nValue ≤ 5) ∧ 3 ≤ rate ∧ rate ≤ 625 := by
  simp only [tableRate] at found
  split_ifs at found <;> cases found <;> omega

theorem table_rate_none (nValue : Int) : tableRate nValue = none ↔ nValue < 1 ∨ 5 < nValue := by
  simp only [tableRate]
  split_ifs <;> simp <;> omega

theorem header_rate_none (nValue : Int) (outside : nValue < 1 ∨ 5 < nValue) : headerRate nValue = none := by
  simp only [headerRate]
  split_ifs <;> first | rfl | omega

-- The table drops the half kHz of the first rate, and the bytes are the same.
theorem table_clocked (nValue rate : Int) (found : tableRate nValue = some rate) :
    ∃ asked, headerRate nValue = some asked ∧ ClockFor asked (clockByte rate).toNat ∧
      asked * (256 - (clockByte rate).toNat) ≤ 6250 := by
  simp only [tableRate] at found
  split_ifs at found with one two three four five <;> cases found
  · exact ⟨625, if_pos one, ⟨by decide, by decide⟩, by decide⟩
  · exact ⟨2350, by rw [headerRate, if_neg one, if_pos two], ⟨by decide, by decide⟩, by decide⟩
  · exact ⟨2680, by rw [headerRate, if_neg one, if_neg two, if_pos three], ⟨by decide, by decide⟩, by decide⟩
  · exact ⟨3120, by rw [headerRate, if_neg one, if_neg two, if_neg three, if_pos four], ⟨by decide, by decide⟩, by decide⟩
  · exact ⟨3750, by rw [headerRate, if_neg one, if_neg two, if_neg three, if_neg four, if_pos five],
      ⟨by decide, by decide⟩, by decide⟩

theorem downloads_once (byte other : UInt8) :
    Downloads [enterPassthrough, downloadCode byte, mapMemory 0x14, invokeCode, mapMemory 0x89] other ↔ other = byte := by
  simp [Downloads, downloadCode, enterPassthrough, mapMemory, invokeCode]

theorem clocked_download (CRValue nValue last : Int) (byte : UInt8) :
    Clocked CRValue nValue
        (.ok last, [enterPassthrough, downloadCode byte, mapMemory 0x14, invokeCode, mapMemory 0x89]) ↔
      ∃ rate, askedRate CRValue nValue = some rate ∧ ClockFor rate byte.toNat ∧ rate * (256 - byte.toNat) ≤ 6250 := by
  constructor
  · intro clocked
    exact clocked.1 byte ((downloads_once byte byte).mpr rfl)
  · intro found
    constructor
    · intro other download
      rw [(downloads_once byte other).mp download]
      exact found
    · intro missing
      obtain ⟨rate, asked, fits, _⟩ := found
      exact absurd ⟨rate, byte.toNat, asked, fits⟩ missing

theorem rate_clocked (rate : Int) :
    (ClockFor (10 * rate) (clockByte rate).toNat ∧ 10 * rate * (256 - (clockByte rate).toNat) ≤ 6250) ↔
      3 ≤ rate ∧ rate ≤ 625 := by
  constructor
  · intro clock
    exact (clock_exists rate).mp ⟨_, clock.1⟩
  · rintro ⟨least, most⟩
    have range := quotient_range rate least most
    have floor : Int.fdiv 625 rate = 625 / rate := Int.fdiv_eq_ediv_of_nonneg _ (by omega)
    rw [clock_kilohertz, clock_byte_fits rate least most, floor, Int.sub_sub_self, Int.mul_assoc]
    refine ⟨⟨⟨by omega, rfl⟩, by omega, by omega⟩, ?_⟩
    exact Int.mul_le_mul_of_nonneg_left range.2.2 (by decide)

theorem i2c_clock_iff (usb : Answers) (CRValue nValue : Int)
    (succeed : Succeed usb (exchange usb (mchpUsbI2CSetConfig CRValue nValue)).2) :
    Clocked CRValue nValue (exchange usb (mchpUsbI2CSetConfig CRValue nValue)) ↔
      (1 ≤ nValue ∧ nValue ≤ 5) ∨ (nValue = 0 ∧ (CRValue = 0 ∨ (3 ≤ CRValue ∧ CRValue ≤ 625))) := by
  have first := succeeds_first usb enterPassthrough _ [] succeed
  have entered : usb 0 = 0 := Int.le_antisymm first.2 first.1
  by_cases nothing : nValue = 0 ∧ CRValue = 0
  · rw [config_idle usb CRValue nValue entered nothing]
    obtain ⟨rfl, rfl⟩ := nothing
    simp [Clocked, Downloads, enterPassthrough, downloadCode]
  have asked : nValue ≠ 0 ∨ CRValue ≠ 0 := by omega
  by_cases zero : (tableRate nValue).getD CRValue = 0
  · rw [config_divides usb CRValue nValue entered asked zero]
    cases found : tableRate nValue with
    | none =>
        have outside := (table_rate_none nValue).mp found
        rw [found, Option.getD_none] at zero
        simp only [Clocked, false_iff]
        omega
    | some rate =>
        have range := table_rate_range nValue rate found
        rw [found, Option.getD_some] at zero
        omega
  · obtain ⟨last, reached⟩ := config_downloads usb CRValue nValue asked zero succeed
    rw [reached, clocked_download]
    cases found : tableRate nValue with
    | none =>
        have outside := (table_rate_none nValue).mp found
        rw [Option.getD_none]
        by_cases chosen : nValue = 0
        · simp only [askedRate, if_pos chosen, Option.some.injEq, exists_eq_left', rate_clocked]
          omega
        · simp only [askedRate, if_neg chosen, header_rate_none nValue outside, reduceCtorEq, false_and, exists_false, false_iff]
          omega
    | some rate =>
        have range := table_rate_range nValue rate found
        have chosen : nValue ≠ 0 := by omega
        obtain ⟨asked, given, clocked⟩ := table_clocked nValue rate found
        simp only [Option.getD_some, askedRate, if_neg chosen, given, Option.some.injEq, exists_eq_left']
        exact iff_of_true clocked (.inl range.1)

theorem i2c_clock_second : Clocked 0 2 (exchange (fun place => [0, 22, 2, 0, 2].getD place 0) (mchpUsbI2CSetConfig 0 2)) :=
  (i2c_clock_iff (fun place => [0, 22, 2, 0, 2].getD place 0) 0 2 (by decide)).mpr (.inl (by decide))

-- A reserved selector and no rate of its own: 625 is divided by zero.
theorem i2c_clock_reserved : ¬ ∀ (usb : Answers) (CRValue nValue : Int),
    Succeed usb (exchange usb (mchpUsbI2CSetConfig CRValue nValue)).2 →
      Clocked CRValue nValue (exchange usb (mchpUsbI2CSetConfig CRValue nValue)) := by
  intro all
  have clocked := all (fun _ => 0) 0 6 (by decide)
  rw [config_divides (fun _ => 0) 0 6 rfl (by decide) (by decide)] at clocked
  exact clocked

end SummitSom.Hub
