import SummitSom.Hub.OpenBridge
import Mathlib.Data.List.Induction
import Mathlib.Data.List.Perm.Basic

set_option autoImplicit false

namespace SummitSom.Hub

open Bytes

def MAX_HUBS : Nat := 20

def INVALID_HANDLE_VALUE : UInt8 := 0xFF

def VID_MICROCHIP : UInt16 := 0x0424

def MICROCHIP_HUB_VID : UInt16 := 0x424

def LIBUSB_CLASS_HUB : UInt8 := 9

-- What libusb finds: the result of its start, and the devices of each
-- enumeration of the call in turn.
structure Libusb where
  init : Int
  enumeration : Nat → Option (List Device)

def compareHubs (pHub1 pHub2 : HInfo) : Int :=
  if VID_MICROCHIP = pHub1.wVID ∧ VID_MICROCHIP = pHub2.wVID then 0
  else if VID_MICROCHIP = pHub1.wVID then -1
  else if VID_MICROCHIP = pHub2.wVID then 1
  else 0

-- qsort, which may order hubs that compare equal in any way.
structure Qsort where
  sort : List HInfo → List HInfo
  permutes : ∀ hubs, (sort hubs).Perm hubs
  ordered : ∀ hubs, (sort hubs).Pairwise fun pHub1 pHub2 => compareHubs pHub1 pHub2 ≤ 0

def Answering (device : Device) : Prop :=
  device.descriptor = 0 ∧ device.bDeviceClass = LIBUSB_CLASS_HUB ∧ ¬ device.opening < 0 ∧ ¬ device.hub_descriptor < 0

instance (device : Device) : Decidable (Answering device) := inferInstanceAs (Decidable (_ ∧ _ ∧ ¬ _ ∧ ¬ _))

-- The list of hubs as it grows, with the slots that were written. The cells from
-- MAX_HUBS on are whatever lies behind the table.
structure Listing where
  hubs : Hubs
  hubcnt : Nat
  written : List Nat

-- The number of ports is kept in a byte, where an error is no number below one. A
-- hub without ports leaves its number of ports in a slot that stays free.
def listHub (list : Listing) (device : Device) : Listing :=
  if Answering device then
    let slot := { list.hubs list.hubcnt with port_max := UInt8.ofInt device.port_cnt, port_list := device.port_list }
    let written := list.written ++ [list.hubcnt]
    if slot.port_max ≤ 0 then ⟨write list.hubs list.hubcnt [slot], list.hubcnt, written⟩
    else
      let entry := { slot with wVID := device.idVendor, wPID := device.idProduct }
      ⟨write list.hubs list.hubcnt [entry], list.hubcnt + 1, written⟩
  else list

structure HubList where
  hubcnt : Int
  hubs : Hubs
  written : List Nat

-- The sorting moves entries within the slots already written.
def usbGetHubs (qsort : Qsort) (usb : Libusb) (pHubInfoList : Hubs) : HubList :=
  if usb.init < 0 then ⟨-1, pHubInfoList, []⟩
  else
    match usb.enumeration 0 with
    | none => ⟨-1, pHubInfoList, []⟩
    | some devs =>
        let list := devs.foldl listHub ⟨pHubInfoList, 0, []⟩
        ⟨list.hubcnt, write list.hubs 0 (qsort.sort ((List.range list.hubcnt).map list.hubs)), list.written⟩

def enableDevice (device : Device) : Int :=
  if device.opening < 0 then -1
  else if device.kernel_driver = 1 ∧ device.detaching ≠ 0 then -1
  else if device.claiming < 0 then -1
  else if device.vsm_command < 0 then -1
  else device.vsm_enable

def enableFrom : List Device → Int
  | [] => -1
  | device :: rest =>
      if device.descriptor < 0 then -1
      else if MICROCHIP_HUB_VID = device.idVendor then enableDevice device
      else enableFrom rest

def usbEnableHCEDevice (devices : Option (List Device)) : Int :=
  match devices with
  | none => -1
  | some devices => enableFrom devices

def HasIds (wVID wPID : UInt16) (hub : HInfo) : Prop := hub.wVID = wVID ∧ hub.wPID = wPID

instance (wVID wPID : UInt16) (hub : HInfo) : Decidable (HasIds wVID wPID hub) := inferInstanceAs (Decidable (_ ∧ _))

-- The loop goes on after a hub that matches, and its condition leaves the index
-- one higher than the last that was looked at.
def searchHubs (gasHubInfo : Hubs) (wVID wPID : UInt16) (hub_cnt : Int) (hub_index : Nat) (bhub_found : Bool) : Bool × Nat :=
  let bhub_found := bhub_found || decide (HasIds wVID wPID (gasHubInfo hub_index))
  if hub_index < hub_cnt then searchHubs gasHubInfo wVID wPID hub_cnt (hub_index + 1) bhub_found
  else (bhub_found, hub_index + 1)
termination_by (hub_cnt - hub_index).toNat

-- The first enumerations are those of the list, of the first opening and of the
-- enabling.
def retryOpening (usb : Libusb) (hub_index : UInt8) : Nat → Nat → Hubs → UInt8 × Hubs
  | restart_count, enumeration, gasHubInfo =>
      let opened := usbOpenHCEDevice gasHubInfo hub_index (usb.enumeration enumeration)
      if opened.1 = 0 then (hub_index, opened.2)
      else
        match restart_count with
        | 0 => (INVALID_HANDLE_VALUE, opened.2)
        | restart_count + 1 => retryOpening usb hub_index restart_count (enumeration + 1) opened.2

def openFound (usb : Libusb) (gasHubInfo : Hubs) (hub_index : UInt8) : UInt8 × Hubs :=
  let opened := usbOpenHCEDevice gasHubInfo hub_index (usb.enumeration 1)
  if opened.1 < 0 then
    if usbEnableHCEDevice (usb.enumeration 2) < 0 then (INVALID_HANDLE_VALUE, opened.2)
    else retryOpening usb hub_index 5 3 opened.2
  else (hub_index, opened.2)

def mchpUsbOpenID (qsort : Qsort) (usb : Libusb) (gasHubInfo : Hubs) (wVID wPID : UInt16) : UInt8 × Hubs :=
  let list := usbGetHubs qsort usb gasHubInfo
  let search := searchHubs list.hubs wVID wPID list.hubcnt 0 false
  if search.1 = false then (INVALID_HANDLE_VALUE, list.hubs) else openFound usb list.hubs (UInt8.ofNat search.2)

section Claim

variable (qsort : Qsort) (usb : Libusb) (gasHubInfo : Hubs) (wVID wPID : UInt16)

structure OpensRight : Prop where
  few : (usbGetHubs qsort usb gasHubInfo).hubcnt ≤ MAX_HUBS
  inside : ∀ slot ∈ (usbGetHubs qsort usb gasHubInfo).written, slot < MAX_HUBS
  right : (mchpUsbOpenID qsort usb gasHubInfo wVID wPID).1 ≠ INVALID_HANDLE_VALUE →
    ∃ index : Nat, (mchpUsbOpenID qsort usb gasHubInfo wVID wPID).1.toNat = index ∧
      index < (usbGetHubs qsort usb gasHubInfo).hubcnt ∧ HasIds wVID wPID ((usbGetHubs qsort usb gasHubInfo).hubs index) ∧
      ∀ earlier < index, ¬ HasIds wVID wPID ((usbGetHubs qsort usb gasHubInfo).hubs earlier)
  missing : (∀ index : Nat, index < (usbGetHubs qsort usb gasHubInfo).hubcnt →
      ¬ HasIds wVID wPID ((usbGetHubs qsort usb gasHubInfo).hubs index)) →
    (mchpUsbOpenID qsort usb gasHubInfo wVID wPID).1 = INVALID_HANDLE_VALUE

def Stored (device : Device) : Prop := Answering device ∧ UInt8.ofInt device.port_cnt ≠ 0

instance (device : Device) : Decidable (Stored device) := inferInstanceAs (Decidable (_ ∧ _))

def Libusb.devices : List Device := if usb.init < 0 then [] else (usb.enumeration 0).getD []

def storedOf (devices : List Device) : List Device := devices.filter fun device => Stored device

def Libusb.hubs : List Device := storedOf usb.devices

-- A hub that answers is written behind the hubs with ports that came before it.
def InTable : Prop :=
  ∀ place (inside : place < usb.devices.length), Answering usb.devices[place] →
    (storedOf (usb.devices.take place)).length < MAX_HUBS

instance : Decidable (InTable usb) := inferInstanceAs (Decidable (∀ _ (_ : _ < _), _))

def afterLast : UInt8 := UInt8.ofNat (usb.hubs.length + 1)

structure StaysShut : Prop where
  first : (usbOpenHCEDevice gasHubInfo (afterLast usb) (usb.enumeration 1)).1 < 0
  retried : usbEnableHCEDevice (usb.enumeration 2) < 0 ∨
    ∀ attempt < 6, (usbOpenHCEDevice gasHubInfo (afterLast usb) (usb.enumeration (3 + attempt))).1 ≠ 0

structure NeverOpened : Prop where
  inside : InTable usb
  shut : (∀ device ∈ usb.hubs, ¬ (device.idVendor = wVID ∧ device.idProduct = wPID)) ∧
      ¬ HasIds wVID wPID (gasHubInfo usb.hubs.length) ∨
    StaysShut usb gasHubInfo

end Claim

theorem write_one (gasHubInfo : Hubs) (slot : Nat) (hub : HInfo) (index : Nat) :
    write gasHubInfo slot [hub] index = if index = slot then hub else gasHubInfo index := by
  by_cases here : index = slot
  · rw [here, if_pos rfl]
    exact write_cell gasHubInfo slot [hub] 0 Nat.one_pos
  · rw [if_neg here]
    apply write_outside
    simp only [Within, List.length_singleton]
    omega

-- What the devices of an enumeration change in the list.
structure Enumerated (before : Listing) (found : List Device) (after : Listing) : Prop where
  count : after.hubcnt = before.hubcnt + found.length
  kept : ∀ index < before.hubcnt, after.hubs index = before.hubs index
  entries : ∀ index device, found[index]? = some device →
    HasIds device.idVendor device.idProduct (after.hubs (before.hubcnt + index))
  stale : HasIds (before.hubs after.hubcnt).wVID (before.hubs after.hubcnt).wPID (after.hubs after.hubcnt)
  beyond : ∀ index, after.hubcnt < index → after.hubs index = before.hubs index

theorem listed_none (list : Listing) : Enumerated list [] list :=
  ⟨rfl, fun _ _ => rfl, fun _ _ none => absurd none (by simp), ⟨rfl, rfl⟩, fun _ _ => rfl⟩

theorem listed_append (first second third : Listing) (found more : List Device) (one : Enumerated first found second)
    (two : Enumerated second more third) : Enumerated first (found ++ more) third := by
  have counted := one.count
  have recounted := two.count
  refine ⟨?_, ?_, ?_, ?_, ?_⟩
  · rw [List.length_append]
    omega
  · intro index small
    rw [two.kept index (by omega), one.kept index small]
  · intro index device there
    by_cases early : index < found.length
    · rw [List.getElem?_append_left early] at there
      rw [two.kept _ (by omega)]
      exact one.entries index device there
    · rw [List.getElem?_append_right (Nat.le_of_not_lt early)] at there
      have place : first.hubcnt + index = second.hubcnt + (index - found.length) := by omega
      rw [place]
      exact two.entries _ device there
  · by_cases last : third.hubcnt = second.hubcnt
    · have old := one.stale
      have kept := two.stale
      rw [last] at kept ⊢
      exact ⟨kept.1.trans old.1, kept.2.trans old.2⟩
    · rw [← one.beyond third.hubcnt (by omega)]
      exact two.stale
  · intro index behind
    rw [two.beyond index behind, one.beyond index (by omega)]

theorem stored_one (device : Device) (stored : Stored device) : storedOf [device] = [device] := by
  rw [storedOf, List.filter_singleton, decide_eq_true stored, cond_true]

theorem stored_none (device : Device) (unlisted : ¬ Stored device) : storedOf [device] = [] := by
  rw [storedOf, List.filter_singleton, decide_eq_false unlisted, cond_false]

theorem stored_append (first second : List Device) : storedOf (first ++ second) = storedOf first ++ storedOf second :=
  List.filter_append first second

theorem hubs_stored_cons (device : Device) (rest : List Device) :
    (storedOf (device :: rest)).length = (storedOf [device]).length + (storedOf rest).length := by
  rw [← List.singleton_append, stored_append, List.length_append]

theorem list_hub (list : Listing) (device : Device) : Enumerated list (storedOf [device]) (listHub list device) := by
  by_cases answering : Answering device
  · by_cases zero : UInt8.ofInt device.port_cnt = 0
    · have unlisted : ¬ Stored device := fun stored => stored.2 zero
      rw [listHub, if_pos answering, if_pos (UInt8.le_zero_iff.mpr zero), stored_none device unlisted]
      refine ⟨rfl, ?_, fun _ _ none => absurd none (by simp), ?_, ?_⟩
      · intro index small
        exact (write_one _ _ _ _).trans (if_neg (Nat.ne_of_lt small))
      · simp only [write_one, if_true]
        exact ⟨rfl, rfl⟩
      · intro index behind
        exact (write_one _ _ _ _).trans (if_neg (Nat.ne_of_gt behind))
    · have stored : Stored device := ⟨answering, zero⟩
      rw [listHub, if_pos answering, if_neg fun none => zero (UInt8.le_zero_iff.mp none), stored_one device stored]
      refine ⟨rfl, ?_, ?_, ?_, ?_⟩
      · intro index small
        exact (write_one _ _ _ _).trans (if_neg (Nat.ne_of_lt small))
      · intro index other there
        cases index with
        | zero =>
            have same : device = other := by simpa using there
            simp only [Nat.add_zero, write_one, if_true, same]
            exact ⟨rfl, rfl⟩
        | succ index => exact absurd there (by simp)
      · simp only [write_one, if_neg (Nat.succ_ne_self list.hubcnt)]
        exact ⟨rfl, rfl⟩
      · intro index behind
        exact (write_one _ _ _ _).trans (if_neg (Nat.ne_of_gt (Nat.lt_of_succ_lt behind)))
  · have unlisted : ¬ Stored device := fun stored => answering stored.1
    rw [listHub, if_neg answering, stored_none device unlisted]
    exact listed_none list

theorem list_hubs (devices : List Device) (list : Listing) :
    Enumerated list (storedOf devices) (devices.foldl listHub list) := by
  induction devices generalizing list with
  | nil => exact listed_none list
  | cons device rest ih =>
      have step := listed_append list (listHub list device) _ _ _ (list_hub list device) (ih (listHub list device))
      rw [← stored_append, List.singleton_append] at step
      exact step

theorem written_one (list : Listing) (device : Device) (slot : Nat) :
    slot ∈ (listHub list device).written ↔ slot ∈ list.written ∨ Answering device ∧ slot = list.hubcnt := by
  by_cases answering : Answering device
  · rw [listHub, if_pos answering]
    simp only
    split
    · simp [answering]
    · simp [answering]
  · rw [listHub, if_neg answering]
    simp [answering]

-- The slot of a hub that answers is the number of hubs stored before it.
theorem written_iff (devices : List Device) (list : Listing) (slot : Nat) :
    slot ∈ (devices.foldl listHub list).written ↔ slot ∈ list.written ∨
      ∃ place, ∃ inside : place < devices.length, Answering devices[place] ∧
        slot = list.hubcnt + (storedOf (devices.take place)).length := by
  induction devices generalizing list with
  | nil => simp
  | cons device rest ih =>
      have count := (list_hub list device).count
      rw [List.foldl_cons, ih (listHub list device), written_one, or_assoc]
      apply or_congr_right
      constructor
      · rintro (⟨answering, rfl⟩ | ⟨place, inside, answering, rfl⟩)
        · exact ⟨0, Nat.succ_pos _, answering, rfl⟩
        · refine ⟨place + 1, Nat.succ_lt_succ inside, answering, ?_⟩
          rw [count, List.take_succ_cons, hubs_stored_cons device (rest.take place), Nat.add_assoc]
      · rintro ⟨place, inside, answering, rfl⟩
        cases place with
        | zero => exact .inl ⟨answering, rfl⟩
        | succ place =>
            refine .inr ⟨place, Nat.lt_of_succ_lt_succ inside, answering, ?_⟩
            rw [count, List.take_succ_cons, hubs_stored_cons device (rest.take place), Nat.add_assoc]

-- The last hub that is stored was written to the slot before the end.
theorem stored_few (devices : List Device) (limit : Nat) (inside : ∀ place (there : place < devices.length),
    Answering devices[place] → (storedOf (devices.take place)).length < limit) : (storedOf devices).length ≤ limit := by
  induction devices using List.reverseRec with
  | nil => exact Nat.zero_le limit
  | append_singleton before device ih =>
      rw [stored_append, List.length_append]
      by_cases stored : Stored device
      · have last := inside before.length (by simp) (by simpa using stored.1)
        rw [List.take_left] at last
        rw [stored_one device stored, List.length_singleton]
        exact last
      · rw [stored_none device stored, List.length_nil, Nat.add_zero]
        apply ih
        intro place there answering
        have early := inside place (by simp; omega) (by rwa [List.getElem_append_left there])
        rwa [List.take_append_of_le_length (Nat.le_of_lt there)] at early

structure GotHubs (usb : Libusb) (before : Hubs) (list : HubList) : Prop where
  most : list.hubcnt ≤ usb.hubs.length
  count : list.hubcnt.toNat = usb.hubs.length
  asked : ∀ wVID wPID, (∃ index < usb.hubs.length, HasIds wVID wPID (list.hubs index)) ↔
    ∃ device ∈ usb.hubs, device.idVendor = wVID ∧ device.idProduct = wPID
  stale : HasIds (before usb.hubs.length).wVID (before usb.hubs.length).wPID (list.hubs usb.hubs.length)
  beyond : ∀ index, usb.hubs.length < index → list.hubs index = before index
  inside : (∀ slot ∈ list.written, slot < MAX_HUBS) ↔ InTable usb

theorem got_none (usb : Libusb) (gasHubInfo : Hubs) (none : usb.devices = []) :
    GotHubs usb gasHubInfo ⟨-1, gasHubInfo, []⟩ := by
  have hubs : usb.hubs = [] := by rw [Libusb.hubs, none, storedOf, List.filter_nil]
  refine ⟨?_, ?_, ?_, ⟨rfl, rfl⟩, fun _ _ => rfl, ?_⟩
  · rw [hubs]
    exact Int.le_of_lt (Int.negSucc_lt_zero 0)
  · rw [hubs]
    rfl
  · simp [hubs]
  · simp [InTable, none]

theorem listed_asked (list after : Listing) (found : List Device) (listed : Enumerated list found after)
    (wVID wPID : UInt16) : (∃ slot < found.length, HasIds wVID wPID (after.hubs (list.hubcnt + slot))) ↔
      ∃ device ∈ found, device.idVendor = wVID ∧ device.idProduct = wPID := by
  constructor
  · rintro ⟨slot, bound, asked⟩
    have entry := listed.entries slot found[slot] (List.getElem?_eq_getElem bound)
    exact ⟨found[slot], List.getElem_mem bound, entry.1.symm.trans asked.1, entry.2.symm.trans asked.2⟩
  · rintro ⟨device, there, rfl, rfl⟩
    obtain ⟨slot, place⟩ := List.mem_iff_getElem?.mp there
    exact ⟨slot, (List.getElem?_eq_some_iff.mp place).1, listed.entries slot device place⟩

section Sorted

variable (qsort : Qsort) (cells : Hubs) (count : Nat)

theorem sorted_length : (qsort.sort ((List.range count).map cells)).length = count := by
  rw [(qsort.permutes _).length_eq, List.length_map, List.length_range]

-- Sorting in place moves the hubs and loses none.
theorem sorted_holds_iff (P : HInfo → Prop) :
    (∃ index < count, P (write cells 0 (qsort.sort ((List.range count).map cells)) index)) ↔
      ∃ slot < count, P (cells slot) := by
  have written := write_holds_iff cells 0 (qsort.sort ((List.range count).map cells)) P
  simp only [Nat.zero_add, sorted_length, (qsort.permutes _).mem_iff] at written
  rw [written]
  constructor
  · rintro ⟨hub, member, holds⟩
    obtain ⟨slot, inside, rfl⟩ := List.mem_map.mp member
    exact ⟨slot, List.mem_range.mp inside, holds⟩
  · rintro ⟨slot, inside, holds⟩
    exact ⟨cells slot, List.mem_map_of_mem (List.mem_range.mpr inside), holds⟩

theorem sorted_beyond (index : Nat) (behind : count ≤ index) :
    write cells 0 (qsort.sort ((List.range count).map cells)) index = cells index := by
  apply write_outside
  simp only [Within, sorted_length]
  omega

end Sorted

theorem got_hubs (qsort : Qsort) (usb : Libusb) (gasHubInfo : Hubs) :
    GotHubs usb gasHubInfo (usbGetHubs qsort usb gasHubInfo) := by
  by_cases started : usb.init < 0
  · rw [usbGetHubs, if_pos started]
    exact got_none usb gasHubInfo (if_pos started)
  · cases enumerated : usb.enumeration 0 with
    | none =>
        rw [usbGetHubs, if_neg started, enumerated]
        exact got_none usb gasHubInfo (by rw [Libusb.devices, if_neg started, enumerated]; rfl)
    | some devs =>
        have devices : usb.devices = devs := by rw [Libusb.devices, if_neg started, enumerated, Option.getD_some]
        have listed := list_hubs devs ⟨gasHubInfo, 0, []⟩
        have written := written_iff devs ⟨gasHubInfo, 0, []⟩
        rw [← devices, ← Libusb.hubs] at listed
        rw [devices] at listed
        rw [usbGetHubs, if_neg started, enumerated]
        simp only
        generalize devs.foldl listHub ⟨gasHubInfo, 0, []⟩ = list at listed written ⊢
        have count : list.hubcnt = usb.hubs.length := by rw [listed.count, Nat.zero_add]
        refine ⟨by simp only; omega, by simp only [Int.toNat_natCast, count], ?_, ?_, ?_, ?_⟩
        · intro wVID wPID
          have asked := listed_asked _ list _ listed wVID wPID
          simp only [Nat.zero_add] at asked
          rw [← asked, ← count]
          exact sorted_holds_iff qsort list.hubs list.hubcnt (HasIds wVID wPID)
        · simp only
          rw [← count, sorted_beyond qsort list.hubs list.hubcnt _ (Nat.le_refl _)]
          exact listed.stale
        · intro index behind
          simp only
          rw [sorted_beyond qsort list.hubs list.hubcnt index (by omega)]
          exact listed.beyond index (by omega)
        · simp only [written, List.not_mem_nil, false_or, Nat.zero_add, InTable, devices]
          constructor
          · intro all place there answering
            exact all _ ⟨place, there, answering, rfl⟩
          · rintro all slot ⟨place, there, answering, rfl⟩
            exact all place there answering

theorem search_result (gasHubInfo : Hubs) (wVID wPID : UInt16) (hub_cnt : Int) (hub_index : Nat) (bhub_found : Bool) :
    (searchHubs gasHubInfo wVID wPID hub_cnt hub_index bhub_found).2 = max hub_index hub_cnt.toNat + 1 ∧
      ((searchHubs gasHubInfo wVID wPID hub_cnt hub_index bhub_found).1 = true ↔ bhub_found = true ∨
        ∃ index, hub_index ≤ index ∧ index ≤ max hub_index hub_cnt.toNat ∧ HasIds wVID wPID (gasHubInfo index)) := by
  fun_induction searchHubs gasHubInfo wVID wPID hub_cnt hub_index bhub_found with
  | case1 hub_index bhub_found looked more ih =>
      obtain ⟨last, found⟩ := ih
      have limit : max (hub_index + 1) hub_cnt.toNat = max hub_index hub_cnt.toNat := by omega
      rw [limit] at last found
      refine ⟨last, found.trans ?_⟩
      simp only [looked, Bool.or_eq_true, decide_eq_true_iff, or_assoc]
      apply or_congr_right
      constructor
      · rintro (here | ⟨index, above, below, asked⟩)
        · exact ⟨hub_index, Nat.le_refl _, by omega, here⟩
        · exact ⟨index, by omega, below, asked⟩
      · rintro ⟨index, above, below, asked⟩
        by_cases here : index = hub_index
        · exact .inl (here ▸ asked)
        · exact .inr ⟨index, by omega, below, asked⟩
  | case2 hub_index bhub_found looked done =>
      have limit : max hub_index hub_cnt.toNat = hub_index := by omega
      refine ⟨by rw [limit], ?_⟩
      rw [limit]
      simp only [looked, Bool.or_eq_true, decide_eq_true_iff]
      apply or_congr_right
      constructor
      · exact fun here => ⟨hub_index, Nat.le_refl _, Nat.le_refl _, here⟩
      · rintro ⟨index, above, below, asked⟩
        exact Nat.le_antisymm below above ▸ asked

section Reopening

variable (hub_index : UInt8)

-- An opening depends on the ports of the entry alone, and keeps them.
structure SameEntry (one other : Hubs) : Prop where
  max : (one hub_index.toNat).port_max = (other hub_index.toNat).port_max
  ports : (one hub_index.toNat).port_list = (other hub_index.toNat).port_list

theorem same_entry_ports (one other : Hubs) (same : SameEntry hub_index one other) (device : Device) :
    SamePorts (one hub_index.toNat) device ↔ SamePorts (other hub_index.toNat) device := by
  rw [SamePorts, SamePorts, same.max, same.ports]

theorem open_device_same (one other : Hubs) (same : SameEntry hub_index one other) (i : Nat) (device : Device) :
    (openDevice one hub_index i device).1 = (openDevice other hub_index i device).1 := by
  simp only [openDevice, same_entry_ports hub_index one other same, apply_ite Prod.fst]

theorem open_same (one other : Hubs) (same : SameEntry hub_index one other) (devices : Option (List Device)) :
    (usbOpenHCEDevice one hub_index devices).1 = (usbOpenHCEDevice other hub_index devices).1 := by
  have from_place : ∀ (devices : List Device) (i : Nat),
      (openFrom one hub_index i devices).1 = (openFrom other hub_index i devices).1 := by
    intro devices
    induction devices with
    | nil => exact fun _ => rfl
    | cons device rest ih =>
        intro i
        simp only [openFrom, apply_ite Prod.fst, open_device_same hub_index one other same, ih]
  cases devices with
  | none => rfl
  | some devices => exact from_place devices 0

theorem store_same (gasHubInfo : Hubs) (dev handle : Nat) :
    SameEntry hub_index (store gasHubInfo hub_index dev handle) gasHubInfo := by
  have entry := write_one gasHubInfo hub_index.toNat
    { gasHubInfo hub_index.toNat with dev := dev, handle := handle, byHubIndex := hub_index } hub_index.toNat
  rw [if_pos rfl] at entry
  constructor
  · rw [store, entry]
  · rw [store, entry]

theorem open_keeps (gasHubInfo : Hubs) (devices : Option (List Device)) :
    SameEntry hub_index (usbOpenHCEDevice gasHubInfo hub_index devices).2 gasHubInfo := by
  have opened : ∀ i device, SameEntry hub_index (openDevice gasHubInfo hub_index i device).2 gasHubInfo := by
    intro i device
    rw [openDevice]
    split
    · exact ⟨rfl, rfl⟩
    split
    · exact ⟨rfl, rfl⟩
    split
    · exact ⟨rfl, rfl⟩
    simp only
    split
    · exact ⟨rfl, rfl⟩
    split
    · exact ⟨rfl, rfl⟩
    · exact store_same hub_index gasHubInfo _ _
  have from_place : ∀ (devices : List Device) (i : Nat),
      SameEntry hub_index (openFrom gasHubInfo hub_index i devices).2 gasHubInfo := by
    intro devices
    induction devices with
    | nil => exact fun _ => ⟨rfl, rfl⟩
    | cons device rest ih =>
        intro i
        rw [openFrom]
        split
        · exact ⟨rfl, rfl⟩
        split
        · exact opened i device
        · exact ih (i + 1)
  cases devices with
  | none => exact ⟨rfl, rfl⟩
  | some devices => exact from_place devices 0

theorem same_trans (one other another : Hubs) (first : SameEntry hub_index one other)
    (second : SameEntry hub_index other another) : SameEntry hub_index one another :=
  ⟨first.max.trans second.max, first.ports.trans second.ports⟩

variable (usb : Libusb) (valid : hub_index ≠ INVALID_HANDLE_VALUE)
include valid

theorem retry_result (gasHubInfo : Hubs) (restart_count enumeration : Nat) (current : Hubs)
    (same : SameEntry hub_index current gasHubInfo) :
    ((retryOpening usb hub_index restart_count enumeration current).1 = hub_index ∨
        (retryOpening usb hub_index restart_count enumeration current).1 = INVALID_HANDLE_VALUE) ∧
      ((retryOpening usb hub_index restart_count enumeration current).1 = INVALID_HANDLE_VALUE ↔
        ∀ attempt < restart_count + 1,
          (usbOpenHCEDevice gasHubInfo hub_index (usb.enumeration (enumeration + attempt))).1 ≠ 0) := by
  induction restart_count generalizing enumeration current with
  | zero =>
      rw [retryOpening, open_same hub_index current gasHubInfo same]
      by_cases opened : (usbOpenHCEDevice gasHubInfo hub_index (usb.enumeration enumeration)).1 = 0
      · rw [if_pos opened]
        exact ⟨.inl rfl, iff_of_false valid fun all => all 0 Nat.one_pos opened⟩
      · rw [if_neg opened]
        refine ⟨.inr rfl, iff_of_true rfl ?_⟩
        intro attempt small
        rw [Nat.lt_one_iff.mp small]
        exact opened
  | succ restart_count ih =>
      have onward := same_trans hub_index _ _ _ (open_keeps hub_index current (usb.enumeration enumeration)) same
      obtain ⟨either, shut⟩ := ih (enumeration + 1) _ onward
      rw [retryOpening, open_same hub_index current gasHubInfo same]
      by_cases opened : (usbOpenHCEDevice gasHubInfo hub_index (usb.enumeration enumeration)).1 = 0
      · rw [if_pos opened]
        exact ⟨.inl rfl, iff_of_false valid fun all => all 0 (Nat.succ_pos _) opened⟩
      · rw [if_neg opened]
        refine ⟨either, shut.trans ?_⟩
        constructor
        · intro all attempt small
          cases attempt with
          | zero => exact opened
          | succ attempt =>
              have next := all attempt (by omega)
              rw [Nat.add_right_comm] at next
              exact next
        · intro all attempt small
          have next := all (attempt + 1) (by omega)
          rw [← Nat.add_assoc, Nat.add_right_comm] at next
          exact next

theorem open_found_result (gasHubInfo current : Hubs) (same : SameEntry hub_index current gasHubInfo) :
    ((openFound usb current hub_index).1 = hub_index ∨ (openFound usb current hub_index).1 = INVALID_HANDLE_VALUE) ∧
      ((openFound usb current hub_index).1 = INVALID_HANDLE_VALUE ↔
        (usbOpenHCEDevice gasHubInfo hub_index (usb.enumeration 1)).1 < 0 ∧
          (usbEnableHCEDevice (usb.enumeration 2) < 0 ∨
            ∀ attempt < 6, (usbOpenHCEDevice gasHubInfo hub_index (usb.enumeration (3 + attempt))).1 ≠ 0)) := by
  have kept := same_trans hub_index _ _ _ (open_keeps hub_index current (usb.enumeration 1)) same
  obtain ⟨either, shut⟩ := retry_result hub_index usb valid gasHubInfo 5 3 _ kept
  rw [openFound, open_same hub_index current gasHubInfo same]
  by_cases failed : (usbOpenHCEDevice gasHubInfo hub_index (usb.enumeration 1)).1 < 0
  · rw [if_pos failed]
    by_cases disabled : usbEnableHCEDevice (usb.enumeration 2) < 0
    · rw [if_pos disabled]
      exact ⟨.inr rfl, iff_of_true rfl ⟨failed, .inl disabled⟩⟩
    · rw [if_neg disabled]
      refine ⟨either, shut.trans ?_⟩
      constructor
      · exact fun all => ⟨failed, .inr all⟩
      · rintro ⟨_, none | all⟩
        · exact absurd none disabled
        · exact all
  · rw [if_neg failed]
    exact ⟨.inl rfl, iff_of_false valid fun both => failed both.1⟩

end Reopening

section Call

variable (qsort : Qsort) (usb : Libusb) (gasHubInfo : Hubs) (wVID wPID : UInt16)

theorem searched : (searchHubs (usbGetHubs qsort usb gasHubInfo).hubs wVID wPID (usbGetHubs qsort usb gasHubInfo).hubcnt 0 false).2 =
      usb.hubs.length + 1 ∧
    ((searchHubs (usbGetHubs qsort usb gasHubInfo).hubs wVID wPID (usbGetHubs qsort usb gasHubInfo).hubcnt 0 false).1 = true ↔
      ¬ ((∀ device ∈ usb.hubs, ¬ (device.idVendor = wVID ∧ device.idProduct = wPID)) ∧
        ¬ HasIds wVID wPID (gasHubInfo usb.hubs.length))) := by
  have got := got_hubs qsort usb gasHubInfo
  obtain ⟨last, found⟩ := search_result (usbGetHubs qsort usb gasHubInfo).hubs wVID wPID
    (usbGetHubs qsort usb gasHubInfo).hubcnt 0 false
  rw [got.count, Nat.zero_max] at last found
  have stale : HasIds wVID wPID ((usbGetHubs qsort usb gasHubInfo).hubs usb.hubs.length) ↔
      HasIds wVID wPID (gasHubInfo usb.hubs.length) := by
    rw [HasIds, HasIds, got.stale.1, got.stale.2]
  refine ⟨last, found.trans ?_⟩
  rw [← stale]
  constructor
  · rintro (never | ⟨index, _, within, asked⟩) ⟨none, behind⟩
    · exact absurd never Bool.false_ne_true
    · by_cases ends : index = usb.hubs.length
      · exact behind (ends ▸ asked)
      · obtain ⟨device, there, same⟩ := (got.asked wVID wPID).mp ⟨index, by omega, asked⟩
        exact none device there same
  · intro some
    by_cases behind : HasIds wVID wPID ((usbGetHubs qsort usb gasHubInfo).hubs usb.hubs.length)
    · exact .inr ⟨usb.hubs.length, Nat.zero_le _, Nat.le_refl _, behind⟩
    · by_contra none
      apply some
      refine ⟨?_, behind⟩
      intro device there same
      obtain ⟨index, small, asked⟩ := (got.asked wVID wPID).mpr ⟨device, there, same⟩
      exact none (.inr ⟨index, Nat.zero_le _, Nat.le_of_lt small, asked⟩)

theorem call_result (inside : InTable usb) :
    ((mchpUsbOpenID qsort usb gasHubInfo wVID wPID).1.toNat = usb.hubs.length + 1 ∨
        (mchpUsbOpenID qsort usb gasHubInfo wVID wPID).1 = INVALID_HANDLE_VALUE) ∧
      ((mchpUsbOpenID qsort usb gasHubInfo wVID wPID).1 = INVALID_HANDLE_VALUE ↔
        NeverOpened usb gasHubInfo wVID wPID) := by
  obtain ⟨last, found⟩ := searched qsort usb gasHubInfo wVID wPID
  have few := stored_few usb.devices MAX_HUBS inside
  rw [← Libusb.hubs] at few
  have index : (afterLast usb).toNat = usb.hubs.length + 1 := by
    rw [afterLast, UInt8.toNat_ofNat']
    rw [MAX_HUBS] at few
    omega
  have valid : afterLast usb ≠ INVALID_HANDLE_VALUE := by
    intro same
    rw [same] at index
    rw [MAX_HUBS] at few
    have top : INVALID_HANDLE_VALUE.toNat = 255 := rfl
    omega
  have entry : SameEntry (afterLast usb) (usbGetHubs qsort usb gasHubInfo).hubs gasHubInfo := by
    have beyond := (got_hubs qsort usb gasHubInfo).beyond (afterLast usb).toNat (by omega)
    exact ⟨by rw [beyond], by rw [beyond]⟩
  obtain ⟨either, shut⟩ := open_found_result (afterLast usb) usb valid gasHubInfo _ entry
  rw [mchpUsbOpenID]
  simp only [last]
  by_cases there : (searchHubs (usbGetHubs qsort usb gasHubInfo).hubs wVID wPID (usbGetHubs qsort usb gasHubInfo).hubcnt 0 false).1 = true
  · rw [if_neg (by rw [there]; decide)]
    refine ⟨either.imp_left fun same => (congrArg UInt8.toNat same).trans index, shut.trans ?_⟩
    constructor
    · exact fun both => ⟨inside, .inr ⟨both.1, both.2⟩⟩
    · rintro ⟨_, none | shut⟩
      · exact absurd none (found.mp there)
      · exact ⟨shut.first, shut.retried⟩
  · have none := not_not.mp (found.not.mp there)
    rw [if_pos (Bool.eq_false_iff.mpr there)]
    exact ⟨.inr rfl, iff_of_true rfl ⟨inside, .inl none⟩⟩

theorem open_id_iff : OpensRight qsort usb gasHubInfo wVID wPID ↔ NeverOpened usb gasHubInfo wVID wPID := by
  have got := got_hubs qsort usb gasHubInfo
  have most := got.most
  have count := got.count
  constructor
  · intro right
    obtain ⟨either, never⟩ := call_result qsort usb gasHubInfo wVID wPID (got.inside.mp right.inside)
    rw [← never]
    by_contra opened
    obtain ⟨index, result, small, _⟩ := right.right opened
    rcases either with behind | invalid
    · omega
    · exact opened invalid
  · intro never
    have invalid := (call_result qsort usb gasHubInfo wVID wPID never.inside).2.mpr never
    refine ⟨?_, got.inside.mpr never.inside, fun opened => absurd invalid opened, fun _ => invalid⟩
    have few : usb.hubs.length ≤ MAX_HUBS := stored_few usb.devices MAX_HUBS never.inside
    omega

end Call

theorem compare_trans (one other another : HInfo) (first : compareHubs one other ≤ 0) (second : compareHubs other another ≤ 0) :
    compareHubs one another ≤ 0 := by
  grind [compareHubs]

theorem compare_total (one other : HInfo) : compareHubs one other ≤ 0 ∨ compareHubs other one ≤ 0 := by
  grind [compareHubs]

def mergedSort : Qsort where
  sort hubs := hubs.mergeSort fun pHub1 pHub2 => compareHubs pHub1 pHub2 ≤ 0
  permutes hubs := List.mergeSort_perm hubs _
  ordered hubs := by
    have sorted : (hubs.mergeSort fun pHub1 pHub2 => compareHubs pHub1 pHub2 ≤ 0).Pairwise
        fun pHub1 pHub2 => decide (compareHubs pHub1 pHub2 ≤ 0) = true := by
      apply List.pairwise_mergeSort
      · intro one other another first second
        exact decide_eq_true (compare_trans one other another (of_decide_eq_true first) (of_decide_eq_true second))
      · intro one other
        simpa using compare_total one other
    exact sorted.imp of_decide_eq_true

-- One hub is attached that matches, and its bridge opens: the handle is 2.
theorem open_id_behind : ¬ ∀ (qsort : Qsort) (usb : Libusb) (gasHubInfo : Hubs) (wVID wPID : UInt16),
    OpensRight qsort usb gasHubInfo wVID wPID := by
  intro all
  let hub : Device := { attached 0x4914 1 with bDeviceClass := 9 }
  let usb : Libusb := ⟨0, fun call => if call = 0 then some [hub] else some [attached 0x2530 2]⟩
  have right := all mergedSort usb (fun _ => listed 0) 0x0424 0x4914
  have hubs : usb.hubs = [hub] := rfl
  obtain ⟨either, never⟩ := call_result mergedSort usb (fun _ => listed 0) 0x0424 0x4914 (by decide)
  have opened : ¬ NeverOpened usb (fun _ => listed 0) 0x0424 0x4914 := by
    rintro ⟨_, none | shut⟩
    · exact none.1 hub (by rw [hubs]; exact List.mem_singleton_self hub) ⟨rfl, rfl⟩
    · exact absurd shut.first (by decide)
  rcases either with two | invalid
  · obtain ⟨index, same, small, _⟩ := right.right (never.not.mpr opened)
    have most := (got_hubs mergedSort usb fun _ => listed 0).most
    omega
  · exact opened (never.mp invalid)

end SummitSom.Hub
