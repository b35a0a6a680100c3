import SummitSom.Boot.ConfName
import SummitSom.Boot.SideDetection
import SummitSom.Update.CrashSafety

set_option autoImplicit false

namespace SummitSom.Boot.Environment

open Shell Cstr Update

-- What get_boot_side finds of a card.
structure Mmc where
  inits : Bool
  isSd : Bool
  part_config : BitVec 8

def extCsdExtractBootPart (part_config : BitVec 8) : Nat := ((part_config >>> 3) &&& 7).toNat

def getBootSide (card : Option Mmc) : Nat :=
  match card with
  | none => 0
  | some mmc => if mmc.inits = false then 0 else if mmc.isSd = true then 0 else extCsdExtractBootPart mmc.part_config

-- SD1_BOOT to SD3_BOOT and MMC1_BOOT to MMC3_BOOT, by their distance from the first.
inductive BootDevice where
  | sd (devno : Nat)
  | mmc (devno : Nat)
  | elsewhere
deriving DecidableEq

section Uboot

variable (CONFIG_SYS_MMC_ENV_PART : Nat) (bdev : BootDevice) (cards : Nat → Option Mmc)

def mmcGetEnvPart : Nat :=
  match bdev with
  | .sd _ => CONFIG_SYS_MMC_ENV_PART
  | .mmc devno => getBootSide (cards devno)
  | .elsewhere => 0

-- The variables mmcdev and bootside.
def setBootside : Option (Nat × Side) :=
  match bdev with
  | .sd devno => some (devno, .a)
  | .mmc devno => some (devno, if getBootSide (cards devno) = 2 then .b else .a)
  | .elsewhere => none

end Uboot

-- setenv bootargs console=${console} quiet bootside=${bootside} ${mcore_clk} ..
def mmcargs (console : List Char) (side : Side) (others : List Char) : List Char :=
  "console=".toList ++ console ++ " quiet ".toList ++ ("bootside=".toList ++ (side.name.toList ++ ' ' :: others))

def envNode (disk mmcenv : String) : String := "/dev/" ++ disk ++ mmcenv ++ " 0x3f0000 0x4000"

def mmcenvOf (rootDevType bootside : String) : String :=
  if rootDevType ≠ "MMC" then "" else if bootside = "b" then "boot1" else "boot0"

-- What rootDevActual is left with where the script means to die: gen_fw_env.sh
-- has no die, and goes on.
def undied (booted : Booted) : String :=
  let dev := if startsWith "dm-" (rootDev booted.cmdline) then booted.slaves (rootDev booted.cmdline) else rootDev booted.cmdline
  if startsWith "ubiblock" dev then "" else dev

-- gen_fw_env.sh. deviceType is what it reads from /sys/block.
def genFwEnv (booted : Booted) (deviceType : String → String) : String :=
  match rootDevActual booted with
  | none => envNode (diskOf (undied booted)) ""
  | some actual =>
      let rootDevType := if startsWith "mmcblk" actual then deviceType (diskOf actual) else "ubi"
      envNode (diskOf actual) (mmcenvOf rootDevType (getSide booted actual))

theorem gen_fw_env_found (booted : Booted) (deviceType : String → String) (actual : String)
    (found : rootDevActual booted = some actual) : genFwEnv booted deviceType =
      envNode (diskOf actual) (mmcenvOf (if startsWith "mmcblk" actual then deviceType (diskOf actual) else "ubi")
        (getSide booted actual)) := by
  unfold genFwEnv
  simp only [found]

-- The hardware partition of the card behind a line of fw_env.config.
def hwPartition (disk config : String) : Option Nat :=
  if config = envNode disk "boot0" then some 1
  else if config = envNode disk "boot1" then some 2
  else if config = envNode disk "" then some 0
  else none

theorem env_node_injective (disk mmcenv other : String) (same : envNode disk mmcenv = envNode disk other) : mmcenv = other := by
  have lists := congrArg String.toList same
  simp only [envNode, String.toList_append] at lists
  exact String.toList_inj.mp (List.append_cancel_left (List.append_cancel_right lists))

theorem hw_partition_node (disk rootDevType bootside : String) :
    hwPartition disk (envNode disk (mmcenvOf rootDevType bootside)) =
      some (if rootDevType ≠ "MMC" then 0 else if bootside = "b" then 2 else 1) := by
  have apart (mmcenv other : String) (differ : mmcenv ≠ other) : envNode disk mmcenv ≠ envNode disk other :=
    fun same => differ (env_node_injective disk mmcenv other same)
  rw [mmcenvOf, hwPartition]
  by_cases mmc : rootDevType ≠ "MMC"
  · rw [if_pos mmc, if_pos mmc, if_neg (apart "" "boot0" (by decide)), if_neg (apart "" "boot1" (by decide)), if_pos rfl]
  · rw [if_neg mmc, if_neg mmc]
    by_cases second : bootside = "b"
    · rw [if_pos second, if_pos second, if_neg (apart "boot1" "boot0" (by decide)), if_pos rfl]
    · rw [if_neg second, if_neg second, if_pos rfl]

def bootsideMark : List Char := ['b', 'o', 'o', 't', 's', 'i', 'd', 'e', '=']

theorem bootside_word_marked (cmdline : String) (rest : List Char)
    (found : afterLastMark bootsideMark beginsSide cmdline.toList = some rest) :
    bootsideWord cmdline = String.ofList (rest.take 1) := by
  have literal : afterLastMark "bootside=".toList beginsSide cmdline.toList = some rest := found
  rw [bootsideWord, literal]

theorem side_behind (side : Side) (others : List Char) (last : afterLastMark bootsideMark beginsSide others = none) :
    afterLastMark bootsideMark beginsSide (side.name.toList ++ ' ' :: others) = none := by
  cases side with
  | a => exact (unmarked_front 'b' bootsideMark.tail beginsSide ['a', ' '] others (by decide)).trans last
  | b =>
      have blank := (unmarked_front 'b' bootsideMark.tail beginsSide [' '] others (by decide)).trans last
      change afterLastMark ('b' :: bootsideMark.tail) beginsSide ('b' :: ([' '] ++ others)) = none
      rw [afterLastMark, blank, if_neg]
      intro both
      have second := (List.cons_prefix_cons.mp both.1).2
      cases (List.cons_prefix_cons.mp second).1

-- The side that mmcargs writes is the one that is read, when nothing behind it
-- looks like another.
theorem mmcargs_side (console others : List Char) (side : Side) (last : afterLastMark bootsideMark beginsSide others = none) :
    bootsideWord (String.ofList (mmcargs console side others)) = side.name := by
  have fitting : beginsSide (side.name.toList ++ ' ' :: others) = true := by
    cases side with
    | a => rfl
    | b => rfl
  have own := last_mark_here 'b' bootsideMark.tail beginsSide _ (by decide) fitting (side_behind side others last)
  have found := marked_behind _ _ ("console=".toList ++ console ++ " quiet ".toList) _ _ own
  have text : (String.ofList (mmcargs console side others)).toList = mmcargs console side others := String.toList_ofList
  rw [bootside_word_marked _ _ ((congrArg (afterLastMark bootsideMark beginsSide) text).trans found)]
  cases side with
  | a => rfl
  | b => rfl

-- What Linux is started with, when U-Boot has come from a card.
structure Started (booted : Booted) (deviceType : String → String) (side : Side) (mmc : Mmc) (disk : String) : Prop where
  said : bootsideWord booted.cmdline = side.name
  root : ∃ actual, rootDevActual booted = some actual ∧ diskOf actual = disk ∧ startsWith "mmcblk" actual = true
  type : deviceType disk = if mmc.isSd = true then "SD" else "MMC"

theorem linux_partition (booted : Booted) (deviceType : String → String) (side : Side) (mmc : Mmc) (disk : String)
    (started : Started booted deviceType side mmc disk) :
    hwPartition disk (genFwEnv booted deviceType) =
      some (if mmc.isSd = true then 0 else if side = .b then 2 else 1) := by
  obtain ⟨actual, found, rfl, mmcblk⟩ := started.root
  have sided : getSide booted actual = side.name := by
    rw [getSide, started.said, if_pos]
    cases side with
    | a => decide
    | b => decide
  rw [gen_fw_env_found booted deviceType actual found, if_pos mmcblk, hw_partition_node, started.type, sided]
  cases mmc.isSd with
  | true => rfl
  | false =>
      cases side with
      | a => rfl
      | b => rfl

def EnvShared (CONFIG_SYS_MMC_ENV_PART : Nat) (bdev : BootDevice) (mmc : Mmc) : Prop :=
  match bdev with
  | .sd _ => CONFIG_SYS_MMC_ENV_PART = if mmc.isSd = true then 0 else 1
  | .mmc _ =>
      mmc.isSd = true ∨
        mmc.inits = true ∧ (extCsdExtractBootPart mmc.part_config = 1 ∨ extCsdExtractBootPart mmc.part_config = 2)
  | .elsewhere => False

-- Linux writes the environment that U-Boot reads exactly if the card is an SD
-- card, or an eMMC that starts from one of its boot partitions.
theorem env_shared_iff (CONFIG_SYS_MMC_ENV_PART : Nat) (bdev : BootDevice) (cards : Nat → Option Mmc) (devno : Nat)
    (side : Side) (mmc : Mmc) (chosen : setBootside bdev cards = some (devno, side)) (card : cards devno = some mmc)
    (booted : Booted) (deviceType : String → String) (disk : String) (started : Started booted deviceType side mmc disk) :
    hwPartition disk (genFwEnv booted deviceType) = some (mmcGetEnvPart CONFIG_SYS_MMC_ENV_PART bdev cards) ↔
      EnvShared CONFIG_SYS_MMC_ENV_PART bdev mmc := by
  rw [linux_partition booted deviceType side mmc disk started, Option.some_inj]
  cases bdev with
  | sd other =>
      cases chosen
      rw [mmcGetEnvPart, EnvShared]
      cases mmc.isSd with
      | true => exact eq_comm
      | false => exact eq_comm
  | mmc other =>
      have same : other = devno := congrArg Prod.fst (Option.some.inj chosen)
      have named : (if getBootSide (cards other) = 2 then Side.b else Side.a) = side := congrArg Prod.snd (Option.some.inj chosen)
      subst same
      rw [mmcGetEnvPart, EnvShared, ← named, card, getBootSide]
      cases mmc.isSd with
      | true =>
          cases mmc.inits with
          | true => simp
          | false => simp
      | false =>
          cases mmc.inits with
          | true =>
              simp only [Bool.true_eq_false, Bool.false_eq_true, if_false, false_or, true_and]
              by_cases second : extCsdExtractBootPart mmc.part_config = 2
              · simp [second]
              · simp [second, eq_comm]
          | false => simp
  | elsewhere => cases chosen

def emmcKernel (side : Side) : Booted where
  cmdline := String.ofList (mmcargs [] side "root=/dev/mmcblk2p2".toList)
  slaves := id
  soc_id := "i.MX8MP"
  lsblk := fun _ => []
  blockName := fun _ => none
  find_ubi_device := fun _ => none
  ubiName := fun _ => ""

def emmcType : String → String := fun _ => "MMC"

theorem emmc_kernel_said (side : Side) : bootsideWord (emmcKernel side).cmdline = side.name :=
  mmcargs_side [] _ side (by decide)

theorem emmc_kernel_root (side : Side) : ∃ actual, rootDevActual (emmcKernel side) = some actual ∧
    diskOf actual = "mmcblk2" ∧ startsWith "mmcblk" actual = true := by
  refine ⟨"mmcblk2p2", ?_, by decide, by decide⟩
  cases side with
  | a => decide +kernel
  | b => decide +kernel

-- Of an eMMC on which no boot partition is selected U-Boot reads another
-- environment than the one that Linux changes.
theorem env_shared_iff_unselected :
    hwPartition "mmcblk2" (genFwEnv (emmcKernel .a) emmcType) ≠
      some (mmcGetEnvPart 0 (.mmc 2) fun _ => some ⟨true, false, 0⟩) := by
  intro same
  have started : Started (emmcKernel .a) emmcType .a ⟨true, false, 0⟩ "mmcblk2" :=
    ⟨emmc_kernel_said .a, emmc_kernel_root .a, rfl⟩
  have shared := (env_shared_iff 0 (.mmc 2) (fun _ => some ⟨true, false, 0⟩) 2 .a ⟨true, false, 0⟩ rfl rfl _ _ _ started).mp same
  revert shared
  rw [EnvShared]
  decide

open ConfName

-- The card that U-Boot comes from, the environments on its partitions and the
-- firmware link of the root file system of each side. No environment is there
-- when its checksum is wrong.
structure Device where
  mmc : Mmc
  running : Side
  area : Nat → Option UbootEnv
  firmware : Side → List Char

def partOf : Side → Nat
  | .a => 1
  | .b => 2

-- mmc bootpart enable part 1, as update_support.sh calls it.
def bootpartEnable (side : String) (part_config : BitVec 8) : BitVec 8 :=
  part_config &&& 0x87 ||| 0x40 ||| (if side = "b" then 2 else 1) <<< 3

inductive DeviceEvent where
  | boot (wbx3 : Bool)
  | setRadioMode (lrdmwl : Lrdmwl) (argument : List Char)
  | setM7BootMode (argument : List Char)
  | install (side : Side) (content : Option Config) (firmware : List Char)
  | select (side : String)

section Device

variable (devno : Nat) (kernel : Side → Booted) (deviceType : String → String) (disk : String)

def Device.cards (device : Device) : Nat → Option Mmc := fun other => if other = devno then some device.mmc else none

-- env_load and board_late_init.
def Device.boot (device : Device) (wbx3 : Bool) : Option Device :=
  let part := mmcGetEnvPart 0 (.mmc devno) (device.cards devno)
  match setBootside (.mmc devno) (device.cards devno) with
  | none => none
  | some chosen =>
      (boardLateInit wbx3 ⟨(device.area part).getD defaultEnv, device.firmware chosen.2⟩).map fun som =>
        { device with running := chosen.2, area := Function.update device.area part (some som.env) }

-- fw_printenv and fw_setenv on a hardware partition.
def Device.changeAt (device : Device) (script : Som → Som) (part : Option Nat) : Device :=
  match part with
  | none => device
  | some part =>
      match device.area part with
      | none => device
      | some env =>
          let som := script ⟨env, device.firmware device.running⟩
          { device with
            area := Function.update device.area part (some som.env)
            firmware := Function.update device.firmware device.running som.firmware }

-- They go by the file that gen_fw_env.sh has written.
def Device.change (device : Device) (script : Som → Som) : Device :=
  device.changeAt script (hwPartition disk (genFwEnv (kernel device.running) deviceType))

def settingEnv (setting : Config) : UbootEnv := ⟨fwSetenv setting.name, 0⟩

-- An update writes the side that is not running. Its environment is not there
-- when the update is cut short.
def Device.install (device : Device) (side : Side) (content : Option Config) (firmware : List Char) : Option Device :=
  if side = device.running then none
  else
    some { device with
      area := Function.update device.area (partOf side) (content.map settingEnv)
      firmware := Function.update device.firmware side firmware }

def Device.step (device : Device) : DeviceEvent → Option Device
  | .boot wbx3 => device.boot devno wbx3
  | .setRadioMode lrdmwl argument => some (device.change kernel deviceType disk fun som => (setRadioMode lrdmwl argument som).2)
  | .setM7BootMode argument => some (device.change kernel deviceType disk fun som => (setM7BootMode argument som).2)
  | .install side content firmware => device.install side content firmware
  | .select side => some { device with mmc.part_config := bootpartEnable side device.mmc.part_config }

def Device.run (device : Device) (events : List DeviceEvent) : Option Device :=
  events.foldlM (Device.step devno kernel deviceType disk) device

end Device

-- The choices of the two sides.
structure Sides where
  selected : Side
  running : Side
  choice : Side → Choice

def defaultSetting : Config := ⟨.dvk, .pcieUart, false⟩

def Sides.act (sides : Sides) (event : Event) : Sides :=
  { sides with choice := Function.update sides.choice sides.running ((sides.choice sides.running).step event) }

def Sides.step (sides : Sides) : DeviceEvent → Sides
  | .boot wbx3 => { sides with running := sides.selected }.act (.boot wbx3)
  | .setRadioMode lrdmwl argument => sides.act (.setRadioMode lrdmwl argument)
  | .setM7BootMode argument => sides.act (.setM7BootMode argument)
  | .install side content firmware =>
      { sides with choice := Function.update sides.choice side ⟨content.getD defaultSetting, firmware⟩ }
  | .select side => { sides with selected := if side = "b" then .b else .a }

def Sides.run (sides : Sides) (events : List DeviceEvent) : Sides := events.foldl Sides.step sides

structure Keeps (device : Device) (sides : Sides) : Prop where
  inits : device.mmc.inits = true
  emmc : device.mmc.isSd = false
  selected : extCsdExtractBootPart device.mmc.part_config = partOf sides.selected
  running : device.running = sides.running
  own : (device.area (partOf device.running)).isSome = true
  shows : ∀ side, Shows ⟨(device.area (partOf side)).getD defaultEnv, device.firmware side⟩ (sides.choice side)

theorem bootpart_selected (side : String) (part_config : BitVec 8) :
    extCsdExtractBootPart (bootpartEnable side part_config) = partOf (if side = "b" then .b else .a) := by
  by_cases second : side = "b"
  · rw [bootpartEnable, if_pos second, if_pos second]
    revert part_config
    decide +kernel
  · rw [bootpartEnable, if_neg second, if_neg second]
    revert part_config
    decide +kernel

theorem part_of_injective (side other : Side) (same : partOf side = partOf other) : side = other := by
  cases side <;> cases other <;> first | rfl | cases same

theorem kept_boot_side (devno : Nat) (device : Device) (sides : Sides) (keeps : Keeps device sides) :
    getBootSide (device.cards devno devno) = partOf sides.selected := by
  rw [Device.cards, if_pos rfl, getBootSide, keeps.inits, keeps.emmc]
  exact keeps.selected

theorem config_env_shows (config : Config) (choice : Choice) (firmware : List Char) (same : choice.setting = config)
    (linked : firmware = choice.firmware) : Shows ⟨settingEnv config, firmware⟩ choice :=
  ⟨same ▸ setting_name_word config, linked⟩

theorem default_env_shows (choice : Choice) (firmware : List Char) (same : choice.setting = defaultSetting)
    (linked : firmware = choice.firmware) : Shows ⟨defaultEnv, firmware⟩ choice := by
  refine ⟨?_, linked⟩
  rw [same]
  rfl

theorem boot_keeps (devno : Nat) (device : Device) (sides : Sides) (keeps : Keeps device sides) (wbx3 : Bool) :
    ∃ next, device.boot devno wbx3 = some next ∧ Keeps next (sides.step (.boot wbx3)) := by
  have side := kept_boot_side devno device sides keeps
  have chosen : setBootside (.mmc devno) (device.cards devno) = some (devno, sides.selected) := by
    rw [setBootside, side]
    cases sides.selected with
    | a => rfl
    | b => rfl
  obtain ⟨som, booted, shown⟩ := boot_shown wbx3 _ _ (keeps.shows sides.selected)
  refine ⟨{ device with running := sides.selected, area := Function.update device.area (partOf sides.selected) (some som.env) },
    ?_, ⟨keeps.inits, keeps.emmc, keeps.selected, rfl, ?_, ?_⟩⟩
  · rw [Device.boot, chosen, mmcGetEnvPart, side]
    dsimp only
    rw [booted, Option.map_some]
  · dsimp only
    rw [Function.update_self, Option.isSome_some]
  · intro other
    dsimp only
    rw [Sides.step, Sides.act]
    dsimp only
    by_cases same : other = sides.selected
    · subst same
      rw [Function.update_self, Function.update_self, Option.getD_some]
      exact ⟨shown.conf, (keeps.shows sides.selected).firmware⟩
    · rw [Function.update_of_ne same, Function.update_of_ne (fun parts => same (part_of_injective _ _ parts))]
      exact keeps.shows other

-- The kernels of both sides are started from the card.
def Starts (kernel : Side → Booted) (deviceType : String → String) (disk : String) : Prop :=
  ∀ side, bootsideWord (kernel side).cmdline = side.name ∧
    (∃ actual, rootDevActual (kernel side) = some actual ∧ diskOf actual = disk ∧ startsWith "mmcblk" actual = true) ∧
    deviceType disk = "MMC"

theorem change_keeps (kernel : Side → Booted) (deviceType : String → String) (disk : String)
    (starts : Starts kernel deviceType disk) (device : Device) (sides : Sides) (keeps : Keeps device sides)
    (script : Som → Som) (event : Event)
    (acts : ∀ som choice, Shows som choice → Shows (script som) (choice.step event)) :
    Keeps (device.change kernel deviceType disk script) (sides.act event) := by
  obtain ⟨said, root, type⟩ := starts device.running
  have started : Started (kernel device.running) deviceType device.running device.mmc disk :=
    ⟨said, root, by rw [keeps.emmc, if_neg Bool.false_ne_true]; exact type⟩
  have partition := linux_partition _ _ _ _ _ started
  have own : (if device.mmc.isSd = true then 0 else if device.running = .b then 2 else 1) = partOf device.running := by
    rw [keeps.emmc]
    cases device.running with
    | a => rfl
    | b => rfl
  rw [own] at partition
  obtain ⟨env, stored⟩ := Option.isSome_iff_exists.mp keeps.own
  have shown := keeps.shows device.running
  rw [stored, Option.getD_some] at shown
  have after := acts _ _ shown
  rw [Device.change, partition, Device.changeAt]
  dsimp only
  rw [stored]
  refine ⟨keeps.inits, keeps.emmc, keeps.selected, keeps.running, ?_, ?_⟩
  · dsimp only
    rw [Function.update_self, Option.isSome_some]
  · intro other
    dsimp only
    rw [Sides.act, ← keeps.running]
    dsimp only
    by_cases same : other = device.running
    · subst same
      rw [Function.update_self, Function.update_self, Function.update_self, Option.getD_some]
      exact after
    · rw [Function.update_of_ne same, Function.update_of_ne same,
        Function.update_of_ne (fun parts => same (part_of_injective _ _ parts))]
      exact keeps.shows other

theorem install_keeps (device next : Device) (sides : Sides) (keeps : Keeps device sides) (side : Side)
    (content : Option Config) (firmware : List Char) (installed : device.install side content firmware = some next) :
    Keeps next (sides.step (.install side content firmware)) := by
  rw [Device.install] at installed
  split at installed
  · cases installed
  · next aside =>
      cases installed
      have apart : partOf device.running ≠ partOf side := fun parts => aside (part_of_injective _ _ parts).symm
      refine ⟨keeps.inits, keeps.emmc, keeps.selected, keeps.running, ?_, ?_⟩
      · dsimp only
        rw [Function.update_of_ne apart]
        exact keeps.own
      · intro other
        dsimp only
        rw [Sides.step]
        dsimp only
        by_cases same : other = side
        · subst same
          rw [Function.update_self, Function.update_self, Function.update_self]
          cases content with
          | none => exact default_env_shows _ _ rfl rfl
          | some config => exact config_env_shows config _ _ rfl rfl
        · rw [Function.update_of_ne same, Function.update_of_ne same,
            Function.update_of_ne (fun parts => same (part_of_injective _ _ parts))]
          exact keeps.shows other

theorem mode_shown (lrdmwl : Lrdmwl) (argument : List Char) (som : Som) (choice : Choice) (shows : Shows som choice) :
    Shows (setRadioMode lrdmwl argument som).2 (choice.step (.setRadioMode lrdmwl argument)) := by
  obtain ⟨next, stepped, shown⟩ := step_shown (.setRadioMode lrdmwl argument) som choice shows
  cases stepped
  exact shown

section Device

variable (devno : Nat) (kernel : Side → Booted) (deviceType : String → String) (disk : String)
  (starts : Starts kernel deviceType disk)

include starts

theorem step_keeps (device next : Device) (sides : Sides) (keeps : Keeps device sides) (event : DeviceEvent)
    (stepped : device.step devno kernel deviceType disk event = some next) : Keeps next (sides.step event) := by
  cases event with
  | boot wbx3 =>
      obtain ⟨after, booted, kept⟩ := boot_keeps devno device sides keeps wbx3
      rw [Device.step, booted] at stepped
      cases stepped
      exact kept
  | setRadioMode lrdmwl argument =>
      rw [← Option.some.inj stepped]
      exact change_keeps kernel deviceType disk starts device sides keeps _ (.setRadioMode lrdmwl argument) (mode_shown lrdmwl argument)
  | setM7BootMode argument =>
      rw [← Option.some.inj stepped]
      exact change_keeps kernel deviceType disk starts device sides keeps _ (.setM7BootMode argument) (m7_mode_shown argument)
  | install side content firmware => exact install_keeps device next sides keeps side content firmware stepped
  | select side =>
      cases stepped
      exact ⟨keeps.inits, keeps.emmc, bootpart_selected side _, keeps.running, keeps.own, keeps.shows⟩

theorem run_keeps (events : List DeviceEvent) (device last : Device) (sides : Sides) (keeps : Keeps device sides)
    (ran : device.run devno kernel deviceType disk events = some last) : Keeps last (sides.run events) := by
  induction events generalizing device sides with
  | nil =>
      cases ran
      exact keeps
  | cons event events ih =>
      rw [Device.run, List.foldlM_cons] at ran
      obtain ⟨next, stepped, later⟩ := Option.bind_eq_some_iff.mp ran
      exact ih next (sides.step event) (step_keeps devno kernel deviceType disk starts device next sides keeps event stepped) later

end Device

-- In any history of starts, mode changes, updates and selections each side keeps
-- the choices made on it, in the environment that U-Boot reads when it starts
-- that side and Linux changes while it runs there.
theorem sides_apart (devno : Nat) (kernel : Side → Booted) (deviceType : String → String) (disk : String)
    (starts : Starts kernel deviceType disk) (events : List DeviceEvent) (device last : Device) (sides : Sides)
    (keeps : Keeps device sides) (ran : device.run devno kernel deviceType disk events = some last) :
    (∀ side, ((last.area (partOf side)).getD defaultEnv).conf.map CString.chars =
        some ((sides.run events).choice side).setting.name ∧
      last.firmware side = ((sides.run events).choice side).firmware) ∧
      mmcGetEnvPart 0 (.mmc devno) (last.cards devno) = partOf (sides.run events).selected ∧
      hwPartition disk (genFwEnv (kernel last.running) deviceType) = some (partOf (sides.run events).running) := by
  have kept := run_keeps devno kernel deviceType disk starts events device last sides keeps ran
  refine ⟨fun side => ⟨(kept.shows side).conf, (kept.shows side).firmware⟩, kept_boot_side devno last _ kept, ?_⟩
  obtain ⟨said, root, type⟩ := starts last.running
  have started : Started (kernel last.running) deviceType last.running last.mmc disk :=
    ⟨said, root, by rw [kept.emmc, if_neg Bool.false_ne_true]; exact type⟩
  rw [linux_partition _ _ _ _ _ started, kept.emmc, ← kept.running]
  cases last.running with
  | a => rfl
  | b => rfl

theorem emmc_kernel_starts : Starts emmcKernel emmcType "mmcblk2" := fun side =>
  ⟨emmc_kernel_said side, emmc_kernel_root side, rfl⟩

def newDevice : Device := ⟨⟨true, false, 0x48⟩, .a, fun _ => some defaultEnv, fun _ => []⟩

def newSides : Sides := ⟨.a, .a, fun _ => ⟨defaultSetting, []⟩⟩

theorem new_device_keeps : Keeps newDevice newSides :=
  ⟨rfl, rfl, by decide, rfl, rfl, fun _ => default_env_shows _ _ rfl rfl⟩

def updateEvents : List DeviceEvent :=
  [.boot true, .setRadioMode lrdmwlFiles "sdio-uart".toList, .install .b (some defaultSetting) [], .select "b", .boot true]

-- An update leads to a side on which the radio mode has not been set.
theorem sides_apart_update :
    ∃ last, newDevice.run 2 emmcKernel emmcType "mmcblk2" updateEvents = some last ∧
      (((last.area 1).getD defaultEnv).conf.map CString.chars = some "conf-imx8mp-summitsom-wbx-sdio-uart.dtb".toList ∧
        ((last.area 2).getD defaultEnv).conf.map CString.chars = some "conf-imx8mp-summitsom-wbx-pcie-uart.dtb".toList) := by
  have runs : (newDevice.run 2 emmcKernel emmcType "mmcblk2" updateEvents).isSome = true := by decide +kernel
  obtain ⟨last, ran⟩ := Option.isSome_iff_exists.mp runs
  have apart := (sides_apart 2 emmcKernel emmcType "mmcblk2" emmc_kernel_starts updateEvents newDevice last newSides
    new_device_keeps ran).1
  refine ⟨last, ran, (apart .a).1.trans ?_, (apart .b).1.trans ?_⟩
  · decide +kernel
  · decide +kernel

end SummitSom.Boot.Environment
