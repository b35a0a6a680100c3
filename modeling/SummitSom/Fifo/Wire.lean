import Mathlib.Tactic.Common
import Mathlib.Data.List.Basic
import Mathlib.Algebra.Ring.Nat

set_option autoImplicit false

namespace Fifo

-- One direction of a line: what is on its way, and what the port at its end
-- holds until it is read.
structure Wire (B : Type) where
  onWay : List B
  arrived : List B

variable {B : Type}

def Wire.idle : Wire B := ⟨[], []⟩

def Wire.bytes (wire : Wire B) : List B := wire.arrived ++ wire.onWay

def Wire.put (wire : Wire B) (bytes : List B) : Wire B := { wire with onWay := wire.onWay ++ bytes }

def Wire.carry (wire : Wire B) : Option (Wire B) :=
  match wire.onWay with
  | [] => none
  | byte :: later => some ⟨later, wire.arrived ++ [byte]⟩

-- A read that waits for a number of bytes. It ends when they are there, or,
-- where waits are limited, with what there is when its time has run out.
def Wire.read (wire : Wire B) (limited : Bool) (size : Nat) (expired : Bool) : Option (List B × Wire B) :=
  match expired with
  | false =>
      if size ≤ wire.arrived.length then some (wire.arrived.take size, { wire with arrived := wire.arrived.drop size }) else none
  | true =>
      if limited = true ∧ wire.arrived.length < size then some (wire.arrived, { wire with arrived := [] }) else none

-- How far the bytes have to go: two steps for one on its way.
def Wire.load (wire : Wire B) : Nat := 2 * wire.onWay.length + wire.arrived.length

theorem put_bytes (wire : Wire B) (bytes : List B) : (wire.put bytes).bytes = wire.bytes ++ bytes :=
  (List.append_assoc wire.arrived wire.onWay bytes).symm

theorem put_load (wire : Wire B) (bytes : List B) : (wire.put bytes).load = wire.load + 2 * bytes.length := by
  simp only [Wire.load, Wire.put, List.length_append]
  omega

theorem carry_some (wire next : Wire B) (carried : wire.carry = some next) :
    next.bytes = wire.bytes ∧ next.load + 1 = wire.load := by
  obtain ⟨onWay, arrived⟩ := wire
  cases onWay with
  | nil => cases carried
  | cons byte later =>
      cases carried
      refine ⟨List.append_assoc arrived [byte] later, ?_⟩
      simp only [Wire.load, List.length_append, List.length_cons, List.length_nil]
      omega

theorem carry_none (wire : Wire B) (stays : wire.carry = none) : wire.bytes = wire.arrived := by
  obtain ⟨onWay, arrived⟩ := wire
  cases onWay with
  | nil => exact List.append_nil arrived
  | cons byte later => cases stays

theorem read_full (wire next : Wire B) (limited : Bool) (size : Nat) (pkt : List B)
    (done : wire.read limited size false = some (pkt, next)) :
    pkt.length = size ∧ pkt ++ next.bytes = wire.bytes ∧ next.load + size = wire.load := by
  rw [Wire.read] at done
  split at done
  · next enough =>
      cases done
      refine ⟨List.length_take_of_le enough, ?_, ?_⟩
      · rw [Wire.bytes, Wire.bytes, ← List.append_assoc, List.take_append_drop]
      · simp only [Wire.load, List.length_drop]
        omega
  · cases done

theorem read_short (wire next : Wire B) (limited : Bool) (size : Nat) (pkt : List B)
    (done : wire.read limited size true = some (pkt, next)) :
    limited = true ∧ pkt.length < size ∧ pkt ++ next.bytes = wire.bytes := by
  rw [Wire.read] at done
  split at done
  · next expired =>
      cases done
      exact ⟨expired.1, expired.2, rfl⟩
  · cases done

theorem read_waits (wire : Wire B) (limited : Bool) (size : Nat) (waits : wire.read limited size false = none) :
    wire.arrived.length < size := by
  rw [Wire.read] at waits
  split at waits
  · cases waits
  · next missing => exact Nat.lt_of_not_le missing

end Fifo
