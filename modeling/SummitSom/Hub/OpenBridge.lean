import SummitSom.Bytes.Memory
import Mathlib.Data.Nat.Find

set_option autoImplicit false

namespace SummitSom.Hub

open Bytes

def PID_HCE_DEVICE : UInt16 := 0x2530

-- A device as an enumeration finds it, with the result of each call on it. The
-- cells of port_list behind the port_cnt first ones hold anything.
structure Device where
  idVendor : UInt16
  idProduct : UInt16
  bDeviceClass : UInt8
  descriptor : Int
  opening : Int
  hub_descriptor : Int
  port_cnt : Int
  port_list : Memory UInt8
  kernel_driver : Int
  detaching : Int
  claiming : Int
  vsm_command : Int
  vsm_enable : Int

-- An entry of gasHubInfo. The device and the handle are those of a place in the
-- list of devices of the call that opened them.
structure HInfo where
  wVID : UInt16
  wPID : UInt16
  port_list : Memory UInt8
  port_max : UInt8
  dev : Nat
  handle : Nat
  byHubIndex : UInt8

abbrev Hubs := Memory HInfo

def SamePorts (hub : HInfo) (device : Device) : Prop :=
  ∀ place < hub.port_max.toNat, hub.port_list place = device.port_list place

instance (hub : HInfo) (device : Device) : Decidable (SamePorts hub device) := inferInstanceAs (Decidable (∀ _ < _, _))

def store (gasHubInfo : Hubs) (hub_index : UInt8) (dev handle : Nat) : Hubs :=
  write gasHubInfo hub_index.toNat
    [{ gasHubInfo hub_index.toNat with dev := dev, handle := handle, byHubIndex := hub_index }]

section Opening

variable (gasHubInfo : Hubs) (hub_index : UInt8)

-- The loop that prints the ports leaves their number in i.
def openDevice (i : Nat) (device : Device) : Int × Hubs :=
  if device.opening < 0 then (-1, gasHubInfo)
  else if device.port_cnt ≤ 1 then (-1, gasHubInfo)
  else if ¬ SamePorts (gasHubInfo hub_index.toNat) device then (-1, gasHubInfo)
  else
    let printed := device.port_cnt.toNat
    if device.kernel_driver = 1 ∧ device.detaching ≠ 0 then (-1, gasHubInfo)
    else if device.claiming < 0 then (-1, gasHubInfo)
    else (device.claiming, store gasHubInfo hub_index printed i)

def openFrom : Nat → List Device → Int × Hubs
  | _, [] => (-1, gasHubInfo)
  | i, device :: rest =>
      if device.descriptor < 0 then (-1, gasHubInfo)
      else if PID_HCE_DEVICE = device.idProduct then openDevice gasHubInfo hub_index i device
      else openFrom (i + 1) rest

-- usb_open_HCE_device, where there is no list if libusb cannot enumerate.
def usbOpenHCEDevice (devices : Option (List Device)) : Int × Hubs :=
  match devices with
  | none => (-1, gasHubInfo)
  | some devices => openFrom gasHubInfo hub_index 0 devices

end Opening

def HInfo.path (hub : HInfo) : List UInt8 := (List.range hub.port_max.toNat).map hub.port_list

def Device.path (device : Device) : List UInt8 := (List.range device.port_cnt.toNat).map device.port_list

structure Succeeding (device : Device) : Prop where
  descriptor : device.descriptor = 0
  opening : device.opening = 0
  ports : 0 ≤ device.port_cnt ∧ device.port_cnt ≤ 7
  detaching : device.detaching = 0
  claiming : device.claiming = 0

section Own

variable (gasHubInfo : Hubs) (hub_index : UInt8) (devices : List Device)

structure BridgeOf (place : Nat) (device : Device) : Prop where
  there : devices[place]? = some device
  bridge : device.idProduct = PID_HCE_DEVICE
  behind : (gasHubInfo hub_index.toNat).path <+: device.path
  further : (gasHubInfo hub_index.toNat).path.length < device.path.length

structure OnlyBridge (place : Nat) (device : Device) : Prop where
  own : BridgeOf gasHubInfo hub_index devices place device
  only : ∀ other another, BridgeOf gasHubInfo hub_index devices other another → other = place

structure OpensOwn : Prop where
  own : ∀ place device, OnlyBridge gasHubInfo hub_index devices place device →
    0 ≤ (usbOpenHCEDevice gasHubInfo hub_index (some devices)).1 ∧
      ((usbOpenHCEDevice gasHubInfo hub_index (some devices)).2 hub_index.toNat).dev = place ∧
      ((usbOpenHCEDevice gasHubInfo hub_index (some devices)).2 hub_index.toNat).handle = place
  none : (∀ place device, ¬ BridgeOf gasHubInfo hub_index devices place device) →
    (usbOpenHCEDevice gasHubInfo hub_index (some devices)).1 < 0

structure FirstBridge (place : Nat) (device : Device) : Prop where
  there : devices[place]? = some device
  bridge : device.idProduct = PID_HCE_DEVICE
  before : ∀ earlier < place, ∀ another, devices[earlier]? = some another → another.idProduct ≠ PID_HCE_DEVICE

structure OwnFirst : Prop where
  own : ∀ place device, OnlyBridge gasHubInfo hub_index devices place device →
    FirstBridge devices place device ∧ 1 < device.port_cnt ∧ device.port_cnt = place
  none : (∀ place device, ¬ BridgeOf gasHubInfo hub_index devices place device) →
    ∀ place device, FirstBridge devices place device →
      device.port_cnt ≤ 1 ∨ ¬ SamePorts (gasHubInfo hub_index.toNat) device

end Own

theorem same_ports_iff (hub : HInfo) (device : Device) (short : hub.path.length ≤ device.path.length) :
    hub.path <+: device.path ↔ SamePorts hub device := by
  have lengths : hub.port_max.toNat ≤ device.port_cnt.toNat := by
    simpa [HInfo.path, Device.path] using short
  have cut : device.path.take hub.path.length = (List.range hub.port_max.toNat).map device.port_list := by
    rw [HInfo.path, Device.path, List.length_map, List.length_range, ← List.map_take, List.take_range,
      Nat.min_eq_left lengths]
  rw [List.prefix_iff_eq_take, cut, HInfo.path, List.map_inj_left]
  simp only [List.mem_range, SamePorts]

theorem first_bridge (devices : List Device) (place : Nat) (device : Device) (there : devices[place]? = some device)
    (bridge : device.idProduct = PID_HCE_DEVICE) : ∃ first another, FirstBridge devices first another := by
  classical
  have found : ∃ first, ∃ another : Device, devices[first]? = some another ∧ another.idProduct = PID_HCE_DEVICE :=
    ⟨place, device, there, bridge⟩
  obtain ⟨another, here, product⟩ := Nat.find_spec found
  refine ⟨Nat.find found, another, here, product, ?_⟩
  intro earlier small other present same
  exact Nat.find_min found small ⟨other, present, same⟩

section Search

variable (gasHubInfo : Hubs) (hub_index : UInt8) (devices : List Device)

theorem open_from_none (described : ∀ device ∈ devices, device.descriptor = 0)
    (none : ∀ device ∈ devices, device.idProduct ≠ PID_HCE_DEVICE) (i : Nat) :
    openFrom gasHubInfo hub_index i devices = (-1, gasHubInfo) := by
  induction devices generalizing i with
  | nil => rfl
  | cons device rest ih =>
      have head := described device List.mem_cons_self
      rw [openFrom, if_neg (by omega), if_neg (none device List.mem_cons_self).symm]
      exact ih (fun other there => described other (List.mem_cons_of_mem _ there))
        (fun other there => none other (List.mem_cons_of_mem _ there)) (i + 1)

-- The search ends at the first bridge, whosever it is.
theorem open_from_first (described : ∀ device ∈ devices, device.descriptor = 0) (place : Nat) (device : Device)
    (first : FirstBridge devices place device) (i : Nat) :
    openFrom gasHubInfo hub_index i devices = openDevice gasHubInfo hub_index (i + place) device := by
  induction devices generalizing i place with
  | nil => exact absurd first.there (by simp)
  | cons head rest ih =>
      have described_head := described head List.mem_cons_self
      rw [openFrom, if_neg (by omega)]
      cases place with
      | zero =>
          have same : head = device := by simpa using first.there
          rw [same, if_pos first.bridge.symm, Nat.add_zero]
      | succ place =>
          have other := first.before 0 (Nat.succ_pos place) head rfl
          have onward : FirstBridge rest place device :=
            ⟨first.there, first.bridge, fun earlier small another there =>
              first.before (earlier + 1) (Nat.succ_lt_succ small) another there⟩
          rw [if_neg other.symm, ih (fun other there => described other (List.mem_cons_of_mem _ there)) place onward,
            Nat.add_right_comm, Nat.add_assoc]

theorem device_opened (i : Nat) (device : Device) (succeeding : Succeeding device) :
    openDevice gasHubInfo hub_index i device =
      if device.port_cnt ≤ 1 ∨ ¬ SamePorts (gasHubInfo hub_index.toNat) device then (-1, gasHubInfo)
      else (0, store gasHubInfo hub_index device.port_cnt.toNat i) := by
  rw [openDevice, if_neg (by rw [succeeding.opening]; decide)]
  by_cases short : device.port_cnt ≤ 1
  · rw [if_pos short, if_pos (.inl short)]
  · by_cases same : SamePorts (gasHubInfo hub_index.toNat) device
    · have goes : ¬ (device.port_cnt ≤ 1 ∨ ¬ SamePorts (gasHubInfo hub_index.toNat) device) := by
        rintro (few | other)
        · exact short few
        · exact other same
      rw [if_neg short, if_neg (not_not_intro same), if_neg fun both => both.2 succeeding.detaching,
        if_neg (by rw [succeeding.claiming]; decide), if_neg goes, succeeding.claiming]
    · rw [if_neg short, if_pos same, if_pos (.inr same)]

theorem store_entry (dev handle : Nat) :
    (store gasHubInfo hub_index dev handle hub_index.toNat).dev = dev ∧
      (store gasHubInfo hub_index dev handle hub_index.toNat).handle = handle := by
  have entry : store gasHubInfo hub_index dev handle hub_index.toNat =
      { gasHubInfo hub_index.toNat with dev := dev, handle := handle, byHubIndex := hub_index } :=
    write_cell gasHubInfo hub_index.toNat [_] 0 Nat.one_pos
  rw [entry]
  exact ⟨rfl, rfl⟩

theorem result_first (succeeding : ∀ device ∈ devices, Succeeding device) (place : Nat) (device : Device)
    (first : FirstBridge devices place device) : usbOpenHCEDevice gasHubInfo hub_index (some devices) =
      if device.port_cnt ≤ 1 ∨ ¬ SamePorts (gasHubInfo hub_index.toNat) device then (-1, gasHubInfo)
      else (0, store gasHubInfo hub_index device.port_cnt.toNat place) := by
  have present : device ∈ devices := List.mem_of_getElem? first.there
  have ended := open_from_first gasHubInfo hub_index devices (fun other there => (succeeding other there).descriptor) place
    device first 0
  rw [usbOpenHCEDevice, ended, Nat.zero_add, device_opened gasHubInfo hub_index place device (succeeding device present)]

theorem own_first (succeeding : ∀ device ∈ devices, Succeeding device) (opens : OpensOwn gasHubInfo hub_index devices) :
    OwnFirst gasHubInfo hub_index devices := by
  constructor
  · intro place device only
    obtain ⟨first, another, found⟩ := first_bridge devices place device only.own.there only.own.bridge
    obtain ⟨positive, dev, handle⟩ := opens.own place device only
    rw [result_first gasHubInfo hub_index devices succeeding first another found] at positive dev handle
    by_cases fails : another.port_cnt ≤ 1 ∨ ¬ SamePorts (gasHubInfo hub_index.toNat) another
    · rw [if_pos fails] at positive
      exact absurd positive (Int.not_le.mpr (Int.negSucc_lt_zero 0))
    · rw [if_neg fails, (store_entry gasHubInfo hub_index _ _).1] at dev
      rw [if_neg fails, (store_entry gasHubInfo hub_index _ _).2] at handle
      subst handle
      have same : another = device := Option.some.inj (found.there.symm.trans only.own.there)
      subst same
      have long : 1 < another.port_cnt := Int.not_le.mp fun short => fails (.inl short)
      exact ⟨found, long, by omega⟩
  · intro none place device first
    have negative := opens.none none
    rw [result_first gasHubInfo hub_index devices succeeding place device first] at negative
    by_contra goes
    rw [if_neg goes] at negative
    exact absurd negative (Int.lt_irrefl 0)

theorem opens_own (succeeding : ∀ device ∈ devices, Succeeding device) (first : OwnFirst gasHubInfo hub_index devices) :
    OpensOwn gasHubInfo hub_index devices := by
  constructor
  · intro place device only
    obtain ⟨found, long, position⟩ := first.own place device only
    have same : SamePorts (gasHubInfo hub_index.toNat) device :=
      (same_ports_iff _ device (Nat.le_of_lt only.own.further)).mp only.own.behind
    have goes : ¬ (device.port_cnt ≤ 1 ∨ ¬ SamePorts (gasHubInfo hub_index.toNat) device) := by
      rintro (short | other)
      · omega
      · exact other same
    rw [result_first gasHubInfo hub_index devices succeeding place device found, if_neg goes]
    obtain ⟨dev, handle⟩ := store_entry gasHubInfo hub_index device.port_cnt.toNat place
    exact ⟨Int.le_refl 0, by rw [dev, position, Int.toNat_natCast], handle⟩
  · intro none
    by_cases bridge : ∃ place : Nat, ∃ device : Device, devices[place]? = some device ∧ device.idProduct = PID_HCE_DEVICE
    · obtain ⟨place, device, there, product⟩ := bridge
      obtain ⟨place, device, found⟩ := first_bridge devices place device there product
      rw [result_first gasHubInfo hub_index devices succeeding place device found, if_pos (first.none none place device found)]
      exact Int.negSucc_lt_zero 0
    · have absent : ∀ device ∈ devices, device.idProduct ≠ PID_HCE_DEVICE := by
        intro device there product
        obtain ⟨place, found⟩ := List.mem_iff_getElem?.mp there
        exact bridge ⟨place, device, found, product⟩
      rw [usbOpenHCEDevice, open_from_none gasHubInfo hub_index devices
        (fun device there => (succeeding device there).descriptor) absent 0]
      exact Int.negSucc_lt_zero 0

theorem open_bridge_iff :
    ((∀ device ∈ devices, Succeeding device) → OpensOwn gasHubInfo hub_index devices) ↔
      ((∀ device ∈ devices, Succeeding device) → OwnFirst gasHubInfo hub_index devices) :=
  ⟨fun opens succeeding => own_first gasHubInfo hub_index devices succeeding (opens succeeding),
    fun first succeeding => opens_own gasHubInfo hub_index devices succeeding (first succeeding)⟩

end Search

def attached (idProduct : UInt16) (port_cnt : Int) : Device where
  idVendor := 0x0424
  idProduct := idProduct
  bDeviceClass := 0
  descriptor := 0
  opening := 0
  hub_descriptor := 9
  port_cnt := port_cnt
  port_list := fun _ => 1
  kernel_driver := 0
  detaching := 0
  claiming := 0
  vsm_command := 2
  vsm_enable := 2

def listed (wPID : UInt16) : HInfo := ⟨0x0424, wPID, fun _ => 1, 1, 0, 0, 0⟩

-- A hub on port 1 and its bridge behind it, which is the second device of the
-- list and gets the third, as its path has two ports.
theorem open_bridge_beyond : ¬ ∀ (gasHubInfo : Hubs) (hub_index : UInt8) (devices : List Device),
    (∀ device ∈ devices, Succeeding device) → OpensOwn gasHubInfo hub_index devices := by
  intro all
  have succeeding : ∀ device ∈ [attached 0x4914 1, attached 0x2530 2], Succeeding device := by
    intro device there
    simp only [List.mem_cons, List.not_mem_nil, or_false] at there
    rcases there with rfl | rfl
    · exact ⟨rfl, rfl, by decide, rfl, rfl⟩
    · exact ⟨rfl, rfl, by decide, rfl, rfl⟩
  have opens := all (fun _ => listed 0x4914) 0 _ succeeding
  have bridge : BridgeOf (fun _ => listed 0x4914) 0 [attached 0x4914 1, attached 0x2530 2] 1 (attached 0x2530 2) :=
    ⟨rfl, rfl, ⟨[1], rfl⟩, by decide⟩
  have only : OnlyBridge (fun _ => listed 0x4914) 0 [attached 0x4914 1, attached 0x2530 2] 1 (attached 0x2530 2) := by
    refine ⟨bridge, ?_⟩
    intro other another own
    rcases other with _ | _ | other
    · have first := own.bridge
      rw [← Option.some.inj own.there] at first
      exact absurd first (by decide)
    · rfl
    · exact absurd own.there (by simp)
  have dev := (opens.own 1 (attached 0x2530 2) only).2.1
  exact absurd dev (by decide)

end SummitSom.Hub
