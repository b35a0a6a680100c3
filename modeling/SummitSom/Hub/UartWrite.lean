import SummitSom.Hub.Control
import Mathlib.Data.Nat.Find

set_option autoImplicit false

namespace SummitSom.Hub

open Bytes
open Cstr (Long)

-- MchpUsbUartWrite between two transfers, with the bytes the device received.
inductive UartWrite where
  | sending (dwPendingLen : Nat) (received : List UInt8)
  | returned (bRetVal : Int) (received : List UInt8)

def firstBytes (buffer : Memory UInt8) (count : Nat) : List UInt8 := (List.range count).map buffer

-- The count is kept in an unsigned long: an error is a large count, and no
-- count is below zero. Each packet starts at OutputData.
def uartPacket (long : Long) (OutputData : Memory UInt8) (count : Int) : UartWrite → UartWrite
  | .returned bRetVal received => .returned bRetVal received
  | .sending dwPendingLen received =>
      if count = 0 then .returned FALSE received
      else
        let pending := ((dwPendingLen - count) % long.modulus).toNat
        if pending = 0 then .returned TRUE (received ++ firstBytes OutputData count.toNat)
        else .sending pending (received ++ firstBytes OutputData count.toNat)

def uartRun (long : Long) (BytesToWrite : UInt32) (OutputData : Memory UInt8) (usb : Answers) : Nat → UartWrite
  | 0 => if BytesToWrite.toNat = 0 then .returned TRUE [] else .sending BytesToWrite.toNat []
  | transfers + 1 => uartPacket long OutputData (usb transfers) (uartRun long BytesToWrite OutputData usb transfers)

-- MchpUsbUartWrite, as far as it has come after a number of transfers.
def mchpUsbUartWrite (long : Long) (BytesToWrite : UInt32) (OutputData : Option (Memory UInt8)) (usb : Answers) :
    Nat → UartWrite :=
  match OutputData with
  | none => fun _ => .returned FALSE []
  | some buffer => uartRun long BytesToWrite buffer usb

-- No transfer moves more than the packet it was given.
def Fits (usb : Answers) (run : Nat → UartWrite) : Prop :=
  ∀ transfers pending received, run transfers = .sending pending received → usb transfers ≤ min 64 pending

def Delivered (buffer : List UInt8) (run : Nat → UartWrite) : Prop :=
  ∃ transfers bRetVal received, run transfers = .returned bRetVal received ∧ received <+: buffer ∧
    (bRetVal = TRUE ↔ received = buffer)

-- The sum of the outcomes, errors included, and the bytes that went out.
def outcomeSum (usb : Answers) : Nat → Int
  | 0 => 0
  | transfers + 1 => outcomeSum usb transfers + usb transfers

def bytesSent (usb : Answers) : Nat → Nat
  | 0 => 0
  | transfers + 1 => bytesSent usb transfers + (usb transfers).toNat

section Run

variable (long : Long) (BytesToWrite : UInt32) (OutputData : Memory UInt8) (usb : Answers)

def stillPending (transfers : Nat) : Nat := ((BytesToWrite.toNat - outcomeSum usb transfers) % long.modulus).toNat

structure Stops (transfers : Nat) : Prop where
  before : ∀ earlier < transfers, stillPending long BytesToWrite usb earlier ≠ 0 ∧ usb earlier ≠ 0
  now : stillPending long BytesToWrite usb transfers = 0 ∨ usb transfers = 0

-- Every packet repeats at its place what stands at the start of the buffer.
def Repeating (transfers : Nat) : Prop :=
  ∀ earlier < transfers, ∀ index < (usb earlier).toNat, OutputData (bytesSent usb earlier + index) = OutputData index

structure Deliverable (transfers : Nat) : Prop where
  stops : Stops long BytesToWrite usb transfers
  within : bytesSent usb transfers ≤ BytesToWrite.toNat
  complete : stillPending long BytesToWrite usb transfers = 0 ↔ bytesSent usb transfers = BytesToWrite.toNat
  repeating : Repeating OutputData usb transfers

-- What the device has after some transfers.
def packets : Nat → List UInt8
  | 0 => []
  | transfers + 1 => packets transfers ++ firstBytes OutputData (usb transfers).toNat

theorem first_bytes_add (one other : Nat) :
    firstBytes OutputData (one + other) = firstBytes OutputData one ++ (List.range other).map fun index => OutputData (one + index) := by
  rw [firstBytes, List.range_add, List.map_append, List.map_map]
  rfl

theorem packets_length (transfers : Nat) : (packets OutputData usb transfers).length = bytesSent usb transfers := by
  induction transfers with
  | zero => rfl
  | succ transfers ih => simp [packets, bytesSent, firstBytes, ih]

theorem packets_repeating (transfers : Nat) :
    packets OutputData usb transfers = firstBytes OutputData (bytesSent usb transfers) ↔ Repeating OutputData usb transfers := by
  induction transfers with
  | zero => exact iff_of_true rfl fun earlier none => absurd none (Nat.not_lt_zero earlier)
  | succ transfers ih =>
      have lengths : (packets OutputData usb transfers).length = (firstBytes OutputData (bytesSent usb transfers)).length := by
        rw [packets_length, firstBytes, List.length_map, List.length_range]
      rw [packets, bytesSent, first_bytes_add]
      constructor
      · intro same earlier small
        obtain ⟨before, last⟩ := List.append_inj same lengths
        by_cases newest : earlier = transfers
        · subst newest
          intro index inside
          exact (List.map_inj_left.mp last index (List.mem_range.mpr inside)).symm
        · exact ih.mp before earlier (by omega)
      · intro repeating
        have before := ih.mpr fun earlier small => repeating earlier (by omega)
        have last := repeating transfers (by omega)
        rw [before, firstBytes, firstBytes]
        congr 1
        exact List.map_inj_left.mpr fun index inside => (last index (List.mem_range.mp inside)).symm

theorem packets_front (transfers count : Nat) :
    packets OutputData usb transfers <+: firstBytes OutputData count ↔
      bytesSent usb transfers ≤ count ∧ Repeating OutputData usb transfers := by
  have size : (firstBytes OutputData count).length = count := by rw [firstBytes, List.length_map, List.length_range]
  rw [← packets_repeating]
  constructor
  · intro before
    have short := before.length_le
    rw [packets_length, size] at short
    refine ⟨short, ?_⟩
    rw [List.prefix_iff_eq_take.mp before, packets_length, firstBytes, ← List.map_take, List.take_range,
      Nat.min_eq_left short, firstBytes]
  · rintro ⟨short, same⟩
    rw [same, ← Nat.add_sub_of_le short, first_bytes_add]
    exact List.prefix_append _ _

-- Where a run stands as long as it has not stopped.
theorem uart_run_sending (transfers : Nat)
    (going : ∀ earlier < transfers, stillPending long BytesToWrite usb earlier ≠ 0 ∧ usb earlier ≠ 0) :
    uartRun long BytesToWrite OutputData usb transfers =
      if stillPending long BytesToWrite usb transfers = 0 then .returned TRUE (packets OutputData usb transfers)
      else .sending (stillPending long BytesToWrite usb transfers) (packets OutputData usb transfers) := by
  have bound := BytesToWrite.toNat_lt
  have wide : 4294967296 ≤ long.modulus := by cases long <;> decide
  induction transfers with
  | zero =>
      have all : stillPending long BytesToWrite usb 0 = BytesToWrite.toNat := by
        rw [stillPending, outcomeSum, Int.sub_zero, Int.emod_eq_of_lt (by omega) (by omega), Int.toNat_natCast]
      rw [uartRun, all, packets]
  | succ transfers ih =>
      have now := going transfers (by omega)
      have next : ((stillPending long BytesToWrite usb transfers - usb transfers) % long.modulus).toNat =
          stillPending long BytesToWrite usb (transfers + 1) := by
        have rest : ((stillPending long BytesToWrite usb transfers : Nat) : Int) =
            (BytesToWrite.toNat - outcomeSum usb transfers) % long.modulus :=
          Int.toNat_of_nonneg (Int.emod_nonneg _ (by omega))
        rw [rest, Int.emod_sub_emod, stillPending, outcomeSum, Int.sub_sub]
      rw [uartRun, ih fun earlier small => going earlier (by omega), if_neg now.1, uartPacket, if_neg now.2]
      simp only [next, packets]

theorem returned_later (transfers later : Nat) (bRetVal : Int) (received : List UInt8)
    (returned : uartRun long BytesToWrite OutputData usb transfers = .returned bRetVal received) :
    uartRun long BytesToWrite OutputData usb (transfers + later) = .returned bRetVal received := by
  induction later with
  | zero => exact returned
  | succ later ih => rw [← Nat.add_assoc, uartRun, ih, uartPacket]

theorem returned_once (transfers other : Nat) (bRetVal value : Int) (received got : List UInt8)
    (returned : uartRun long BytesToWrite OutputData usb transfers = .returned bRetVal received)
    (also : uartRun long BytesToWrite OutputData usb other = .returned value got) : bRetVal = value ∧ received = got := by
  have one := returned_later long BytesToWrite OutputData usb transfers other bRetVal received returned
  have two := returned_later long BytesToWrite OutputData usb other transfers value got also
  rw [Nat.add_comm, two] at one
  injection one with same also
  exact ⟨same.symm, also.symm⟩

theorem uart_run_stopped (transfers : Nat) (stops : Stops long BytesToWrite usb transfers) :
    uartRun long BytesToWrite OutputData usb (transfers + 1) =
      .returned (if stillPending long BytesToWrite usb transfers = 0 then TRUE else FALSE) (packets OutputData usb transfers) := by
  rw [uartRun, uart_run_sending long BytesToWrite OutputData usb transfers stops.before]
  by_cases done : stillPending long BytesToWrite usb transfers = 0
  · rw [if_pos done, if_pos done, uartPacket]
  · rw [if_neg done, if_neg done, uartPacket, if_pos (stops.now.resolve_left done)]

theorem returned_stops (transfers : Nat) (bRetVal : Int) (received : List UInt8)
    (returned : uartRun long BytesToWrite OutputData usb transfers = .returned bRetVal received) :
    ∃ last, Stops long BytesToWrite usb last := by
  have some_stop : ∃ last, stillPending long BytesToWrite usb last = 0 ∨ usb last = 0 := by
    by_contra none
    have going : ∀ last, stillPending long BytesToWrite usb last ≠ 0 ∧ usb last ≠ 0 := fun last =>
      ⟨fun zero => none ⟨last, .inl zero⟩, fun zero => none ⟨last, .inr zero⟩⟩
    rw [uart_run_sending long BytesToWrite OutputData usb transfers fun earlier _ => going earlier,
      if_neg (going transfers).1] at returned
    cases returned
  refine ⟨Nat.find some_stop, fun earlier small => ?_, Nat.find_spec some_stop⟩
  have going := Nat.find_min some_stop small
  exact ⟨fun zero => going (.inl zero), fun zero => going (.inr zero)⟩

end Run

theorem uart_write_iff (long : Long) (BytesToWrite : UInt32) (OutputData : Memory UInt8) (usb : Answers) :
    Delivered (firstBytes OutputData BytesToWrite.toNat) (mchpUsbUartWrite long BytesToWrite (some OutputData) usb) ↔
      ∃ transfers, Deliverable long BytesToWrite OutputData usb transfers := by
  have size : (firstBytes OutputData BytesToWrite.toNat).length = BytesToWrite.toNat := by
    rw [firstBytes, List.length_map, List.length_range]
  -- A prefix of the buffer is all of it when as many bytes went out.
  have whole : ∀ transfers, packets OutputData usb transfers <+: firstBytes OutputData BytesToWrite.toNat →
      (packets OutputData usb transfers = firstBytes OutputData BytesToWrite.toNat ↔
        bytesSent usb transfers = BytesToWrite.toNat) := by
    intro transfers before
    rw [← packets_length OutputData]
    exact ⟨fun same => (congrArg List.length same).trans size, fun same => before.eq_of_length (same.trans size.symm)⟩
  have reported : ∀ pending : Nat, (if pending = 0 then TRUE else FALSE) = TRUE ↔ pending = 0 := by
    intro pending
    split <;> simp_all [TRUE, FALSE]
  constructor
  · rintro ⟨transfers, bRetVal, received, returned, before, result⟩
    obtain ⟨last, stops⟩ := returned_stops long BytesToWrite OutputData usb transfers bRetVal received returned
    obtain ⟨rfl, rfl⟩ := returned_once long BytesToWrite OutputData usb transfers (last + 1) _ _ _ _ returned
      (uart_run_stopped long BytesToWrite OutputData usb last stops)
    obtain ⟨within, repeating⟩ := (packets_front OutputData usb last BytesToWrite.toNat).mp before
    rw [reported, whole last before] at result
    exact ⟨last, stops, within, result, repeating⟩
  · rintro ⟨last, stops, within, complete, repeating⟩
    have before := (packets_front OutputData usb last BytesToWrite.toNat).mpr ⟨within, repeating⟩
    refine ⟨last + 1, _, _, uart_run_stopped long BytesToWrite OutputData usb last stops, before, ?_⟩
    rw [reported, whole last before]
    exact complete

-- Two bytes, one for each transfer: the device gets the first of them twice.
theorem uart_write_twice : ¬ ∀ (long : Long) (BytesToWrite : UInt32) (OutputData : Memory UInt8) (usb : Answers),
    Fits usb (mchpUsbUartWrite long BytesToWrite (some OutputData) usb) →
      Delivered (firstBytes OutputData BytesToWrite.toNat) (mchpUsbUartWrite long BytesToWrite (some OutputData) usb) := by
  intro all
  have second : uartRun .bits32 2 UInt8.ofNat (fun _ => 1) 2 = .returned TRUE [0, 0] := rfl
  have fits : Fits (fun _ => 1) (uartRun .bits32 2 UInt8.ofNat (fun _ => 1)) := by
    intro transfers pending received sending
    rcases transfers with _ | _ | later
    · injection sending with same
      subst same
      decide
    · injection sending with same
      subst same
      decide
    · rw [Nat.add_assoc, Nat.add_comm, returned_later _ _ _ _ 2 later _ _ second] at sending
      cases sending
  obtain ⟨transfers, bRetVal, received, returned, before, _⟩ := all .bits32 2 UInt8.ofNat (fun _ => 1) fits
  obtain ⟨_, rfl⟩ := returned_once .bits32 2 UInt8.ofNat (fun _ => 1) transfers 2 _ _ _ _ returned second
  exact absurd before (by decide)

end SummitSom.Hub
