import SummitSom.Pac193x.Driver
import Mathlib.Logic.Function.Basic

set_option autoImplicit false

namespace SummitSom.Pac193x

structure ChildNode where
  channel_enabled : Bool
  uohms_shunt_res : Option Nat
  bi_dir : Bool

structure DeviceNode where
  samp_rate : Option Nat
  children : List ChildNode

-- What probe keeps in chip_info before the chip is configured.
structure Setup where
  sample_rate_value : Nat
  crt_samp_speed_bitfield : Nat
  active_channels : Nat → Bool
  bi_dir : Nat → Bool
  shunts : Nat → Nat

def shuntUohmsDefault : Nat := 100000

def loadDefaults (phys_channels : Nat) : Setup where
  sample_rate_value := 0
  crt_samp_speed_bitfield := 0
  active_channels cnt := cnt < phys_channels
  bi_dir _ := false
  shunts cnt := if cnt < phys_channels then shuntUohmsDefault else 0

def Setup.disable (setup : Setup) (crt_ch : Nat) : Setup :=
  { setup with
    active_channels := Function.update setup.active_channels crt_ch false
    shunts := Function.update setup.shunts crt_ch 0 }

def Setup.enable (setup : Setup) (crt_ch resistance : Nat) (bi_dir : Bool) : Setup :=
  { setup with
    active_channels := Function.update setup.active_channels crt_ch true
    shunts := Function.update setup.shunts crt_ch resistance
    bi_dir := Function.update setup.bi_dir crt_ch bi_dir }

def matchChildren (phys_channels : Nat) : Nat → List ChildNode → Setup → Option Setup
  | _, [], setup => some setup
  | crt_ch, node :: rest, setup =>
      if phys_channels ≤ crt_ch then none
      else if node.channel_enabled then
        match node.uohms_shunt_res with
        | none => none
        | some resistance => matchChildren phys_channels (crt_ch + 1) rest (setup.enable crt_ch resistance node.bi_dir)
      else matchChildren phys_channels (crt_ch + 1) rest (setup.disable crt_ch)

-- pac193x_match_of_device: none is the NULL that makes probe fail.
def matchOfDevice (phys_channels : Nat) (node : DeviceNode) : Option Setup :=
  match node.samp_rate with
  | none => none
  | some samp_rate =>
      match samp_rate_map_tbl.findIdx? (fun known => samp_rate == known) with
      | none => none
      | some cnt =>
          matchChildren phys_channels 0 node.children
            { loadDefaults phys_channels with sample_rate_value := samp_rate, crt_samp_speed_bitfield := cnt }

-- The six IIO channels of one chip channel, and the timestamp channel, whose
-- channel number is -1 and is not looked at.
def singleChannel (cnt : Nat) (bi_dir : Bool) : List ChanSpec :=
  let sign := if bi_dir then 's' else 'u'
  [⟨.energy, cnt + vpowerAccAddr, cnt, sign⟩, ⟨.power, cnt + vpowerAddr, cnt, sign⟩, ⟨.voltage, cnt + vbusAddr, cnt, 'u'⟩,
    ⟨.current, cnt + vsenseAddr, cnt, sign⟩, ⟨.voltage, cnt + vbusAvgAddr, cnt, 'u'⟩, ⟨.current, cnt + vsenseAvgAddr, cnt, sign⟩]

def timestampChannel : ChanSpec := ⟨.timestamp, 0, 0, 's'⟩

def prepIioChannels (phys_channels : Nat) (setup : Setup) : List ChanSpec :=
  ((List.range phys_channels).filter setup.active_channels).flatMap (fun cnt => singleChannel cnt (setup.bi_dir cnt)) ++
    [timestampChannel]

theorem prep_iio_channels_active (phys_channels : Nat) (setup : Setup) (chan : ChanSpec)
    (registered : chan ∈ prepIioChannels phys_channels setup) :
    chan.address = 0 ∨ chan.channel < phys_channels ∧ setup.active_channels chan.channel = true := by
  cases List.mem_append.mp registered with
  | inl single =>
      obtain ⟨cnt, found, member⟩ := List.mem_flatMap.mp single
      obtain ⟨present, on⟩ := List.mem_filter.mp found
      have own : chan.channel = cnt := by
        simp only [singleChannel, List.mem_cons, List.not_mem_nil, or_false] at member
        rcases member with rfl | rfl | rfl | rfl | rfl | rfl <;> rfl
      right
      rw [own]
      exact ⟨List.mem_range.mp present, on⟩
  | inr last =>
      obtain rfl := List.mem_singleton.mp last
      exact .inl rfl

def Setup.Resistive (phys_channels : Nat) (setup : Setup) : Prop :=
  ∀ cnt, cnt < phys_channels → setup.active_channels cnt = true → setup.shunts cnt ≠ 0

theorem enable_resistive (phys_channels crt_ch resistance : Nat) (bi_dir : Bool) (setup : Setup) (present : resistance ≠ 0)
    (before : setup.Resistive phys_channels) : (setup.enable crt_ch resistance bi_dir).Resistive phys_channels := by
  intro cnt inside on
  by_cases own : cnt = crt_ch
  · subst own
    simpa [Setup.enable] using present
  · simp only [Setup.enable, Function.update_of_ne own] at on ⊢
    exact before cnt inside on

theorem disable_resistive (phys_channels crt_ch : Nat) (setup : Setup) (before : setup.Resistive phys_channels) :
    (setup.disable crt_ch).Resistive phys_channels := by
  intro cnt inside on
  by_cases own : cnt = crt_ch
  · subst own
    simp [Setup.disable] at on
  · simp only [Setup.disable, Function.update_of_ne own] at on ⊢
    exact before cnt inside on

theorem load_defaults_resistive (phys_channels samp_rate cnt : Nat) :
    Setup.Resistive phys_channels
      { loadDefaults phys_channels with sample_rate_value := samp_rate, crt_samp_speed_bitfield := cnt } := by
  intro cnt inside _
  simp [loadDefaults, inside, shuntUohmsDefault]

theorem match_children_resistive (phys_channels crt_ch : Nat) (children : List ChildNode) (setup result : Setup)
    (matched : matchChildren phys_channels crt_ch children setup = some result) (before : setup.Resistive phys_channels)
    (resistors : ∀ node ∈ children, node.channel_enabled = true → node.uohms_shunt_res ≠ some 0) :
    result.Resistive phys_channels ∧ result.sample_rate_value = setup.sample_rate_value := by
  induction children generalizing crt_ch setup with
  | nil =>
      cases matched
      exact ⟨before, rfl⟩
  | cons node rest ih =>
      have others : ∀ other ∈ rest, other.channel_enabled = true → other.uohms_shunt_res ≠ some 0 :=
        fun other member => resistors other (by simp [member])
      rw [matchChildren] at matched
      by_cases full : phys_channels ≤ crt_ch
      · rw [if_pos full] at matched
        cases matched
      · rw [if_neg full] at matched
        by_cases enabled : node.channel_enabled = true
        · rw [if_pos enabled] at matched
          cases read : node.uohms_shunt_res with
          | none =>
              rw [read] at matched
              cases matched
          | some resistance =>
              rw [read] at matched
              have present : resistance ≠ 0 := by
                intro zero
                exact resistors node (by simp) enabled (by rw [read, zero])
              exact ih (crt_ch + 1) (setup.enable crt_ch resistance node.bi_dir) matched
                (enable_resistive phys_channels crt_ch resistance _ setup present before) others
        · rw [if_neg enabled] at matched
          exact ih (crt_ch + 1) (setup.disable crt_ch) matched (disable_resistive phys_channels crt_ch setup before) others

theorem found_rate (samp_rate cnt : Nat) (found : samp_rate_map_tbl.findIdx? (fun known => samp_rate == known) = some cnt) :
    samp_rate ∈ samp_rate_map_tbl := by
  have any : samp_rate_map_tbl.any (fun known => samp_rate == known) = true := by
    rw [← List.findIdx?_isSome, found]
    rfl
  obtain ⟨known, member, same⟩ := List.any_eq_true.mp any
  rw [eq_of_beq same]
  exact member

theorem match_of_device_resistive (phys_channels : Nat) (node : DeviceNode) (setup : Setup)
    (matched : matchOfDevice phys_channels node = some setup)
    (resistors : ∀ child ∈ node.children, child.channel_enabled = true → child.uohms_shunt_res ≠ some 0) :
    setup.Resistive phys_channels ∧ setup.sample_rate_value ∈ samp_rate_map_tbl := by
  rw [matchOfDevice] at matched
  cases read : node.samp_rate with
  | none =>
      rw [read] at matched
      cases matched
  | some samp_rate =>
      rw [read] at matched
      dsimp only at matched
      cases found : samp_rate_map_tbl.findIdx? (fun known => samp_rate == known) with
      | none =>
          rw [found] at matched
          cases matched
      | some cnt =>
          rw [found] at matched
          have known := found_rate samp_rate cnt found
          have kept := match_children_resistive phys_channels 0 node.children _ setup matched
            (load_defaults_resistive phys_channels samp_rate cnt) resistors
          exact ⟨kept.1, kept.2 ▸ known⟩

end SummitSom.Pac193x
