import SummitSom.Boot.BoardVariant
import SummitSom.Fit.Assemble

set_option autoImplicit false

namespace SummitSom.Boot.ConfName

open Cstr

-- [^-]\+ at the head of a text.
def dashPart (text : List Char) : Option (List Char × List Char) :=
  let part := text.takeWhile fun letter => letter ≠ '-'
  if part = [] then none else some (part, text.dropWhile fun letter => letter ≠ '-')

def fourParts (text : List Char) : Option (List Char) := do
  let first ← dashPart text
  let second ← dashPart (first.2.drop 1)
  let third ← dashPart (second.2.drop 1)
  let fourth ← dashPart (third.2.drop 1)
  pure (first.1 ++ '-' :: second.1 ++ '-' :: third.1 ++ '-' :: fourth.1)

-- sed -n 's,\([^-]\+\-[^-]\+\-[^-]\+\-[^-]\+\).*,\1,p': the four parts where they
-- are found first, with what is in front of them.
def sedParts : List Char → List Char
  | [] => []
  | letter :: line =>
      match fourParts (letter :: line) with
      | some parts => parts
      | none => if sedParts line = [] then [] else letter :: sedParts line

def rpmsg : List Char := "-m7-rpmsg".toList

def dotDtb : List Char := ".dtb".toList

-- sed -r 's/(-m7-rpmsg)?\.dtb/-m7-rpmsg.dtb/'
def sedEnable : List Char → List Char
  | [] => []
  | letter :: line =>
      if rpmsg ++ dotDtb <+: letter :: line then rpmsg ++ dotDtb ++ (letter :: line).drop (rpmsg ++ dotDtb).length
      else if dotDtb <+: letter :: line then rpmsg ++ dotDtb ++ (letter :: line).drop dotDtb.length
      else letter :: sedEnable line

-- sed -r 's/-m7-rpmsg//'
def sedDisable : List Char → List Char
  | [] => []
  | letter :: line => if rpmsg <+: letter :: line then (letter :: line).drop rpmsg.length else letter :: sedDisable line

-- fw_setenv conf with an unquoted text. Without a word the variable goes.
def fwSetenv (text : List Char) : Option CString :=
  let words := (text.splitOnP fun letter => letter = ' ' ∨ letter = '\t' ∨ letter = '\n').filter fun word => word ≠ []
  if words = [] then none else some (ofCells ([' '].intercalate words))

-- The environment of U-Boot, and the file that 88W8997_sdio.bin leads to.
structure Som where
  env : UbootEnv
  firmware : List Char

def Som.conf (som : Som) : List Char := (som.env.conf.map CString.chars).getD []

def Som.setConf (som : Som) (text : List Char) : Som := { som with env := { som.env with conf := fwSetenv text } }

def radioModes : List (List Char) :=
  ["pcie-uart".toList, "sdio-uart".toList, "sdio-sdio".toList, "sdio-uart-stop".toList, "sdio-uart-susp".toList]

-- The firmware files of a kind that the root file system holds, and whether the
-- link to them can be made.
structure Lrdmwl where
  file : List Char → List Char
  linking : Bool

def sdioMark (kind : List Char) : List Char := "_sdio_".toList ++ kind ++ ['_']

def setSymlink (lrdmwl : Lrdmwl) (kind : List Char) (som : Som) : Nat × Som :=
  if sdioMark kind <:+: som.firmware then (0, som)
  else if lrdmwl.linking then (0, { som with firmware := lrdmwl.file kind })
  else (1, som)

def chooseFirmware (lrdmwl : Lrdmwl) (argument : List Char) (som : Som) : Nat × Som :=
  if argument = "sdio-sdio".toList then setSymlink lrdmwl "sdio".toList som
  else if "sdio-uart".toList <+: argument then setSymlink lrdmwl "uart".toList som
  else (0, som)

-- The exit status, and what is left.
def setRadioMode (lrdmwl : Lrdmwl) (argument : List Char) (som : Som) : Nat × Som :=
  if argument ∉ radioModes then (1, som)
  else
    let parts := sedParts som.conf
    let suffix := if "m7-rpmsg".toList <:+: som.conf then rpmsg else []
    let FDT_FILEN := parts ++ '-' :: argument ++ suffix ++ dotDtb
    if ¬ (parts ≠ [] ∧ som.conf ≠ FDT_FILEN) then (1, som)
    else
      let chosen := chooseFirmware lrdmwl argument som
      if chosen.1 ≠ 0 then (1, chosen.2) else (0, chosen.2.setConf FDT_FILEN)

def setM7BootMode (argument : List Char) (som : Som) : Nat × Som :=
  if argument = "enable".toList then (0, som.setConf (sedEnable som.conf))
  else if argument = "disable".toList then (0, som.setConf (sedDisable som.conf))
  else (1, som)

-- board_late_init on a board that was found to be a WBX or a DVK.
def boardLateInit (wbx3 : Bool) (som : Som) : Option Som :=
  match updateDts (if wbx3 then dvk else wbx) (if wbx3 then wbx else dvk) som.env with
  | .done env => some { som with env := env }
  | _ => none

inductive Event where
  | setRadioMode (lrdmwl : Lrdmwl) (argument : List Char)
  | setM7BootMode (argument : List Char)
  | boot (wbx3 : Bool)

def Som.step (som : Som) : Event → Option Som
  | .setRadioMode lrdmwl argument => some (setRadioMode lrdmwl argument som).2
  | .setM7BootMode argument => some (setM7BootMode argument som).2
  | .boot wbx3 => boardLateInit wbx3 som

def Som.run (som : Som) (events : List Event) : Option Som := events.foldl (fun som event => som.bind (·.step event)) (some som)

-- What a name of a configuration says.
inductive Board where
  | dvk
  | wbx
deriving DecidableEq

inductive Radio where
  | pcieUart
  | sdioUart
  | sdioSdio
  | sdioUartStop
  | sdioUartSusp
deriving DecidableEq

structure Config where
  board : Board
  radio : Radio
  m7 : Bool
deriving DecidableEq

def Board.text : Board → List Char
  | .dvk => "dvk".toList
  | .wbx => "wbx".toList

def Radio.text : Radio → List Char
  | .pcieUart => "pcie-uart".toList
  | .sdioUart => "sdio-uart".toList
  | .sdioSdio => "sdio-sdio".toList
  | .sdioUartStop => "sdio-uart-stop".toList
  | .sdioUartSusp => "sdio-uart-susp".toList

def Board.stem (board : Board) : List Char := "conf-imx8mp-summitsom-".toList ++ board.text

def Config.name (setting : Config) : List Char :=
  setting.board.stem ++ '-' :: setting.radio.text ++ (if setting.m7 then rpmsg else []) ++ dotDtb

def Board.found (wbx3 : Bool) : Board := if wbx3 then .wbx else .dvk

def Radio.ofText (argument : List Char) : Option Radio :=
  [.pcieUart, .sdioUart, .sdioSdio, .sdioUartStop, .sdioUartSusp].find? fun radio : Radio => radio.text = argument

-- The firmware that a radio mode needs.
def Radio.sdioKind : Radio → Option (List Char)
  | .pcieUart => none
  | .sdioUart => some "uart".toList
  | .sdioSdio => some "sdio".toList
  | .sdioUartStop => some "uart".toList
  | .sdioUartSusp => some "uart".toList

-- The choices that were made, apart from how they are written down.
structure Choice where
  setting : Config
  firmware : List Char

def Choice.link (choice : Choice) (lrdmwl : Lrdmwl) (radio : Radio) (kind : List Char) : Choice :=
  if sdioMark kind <:+: choice.firmware then { choice with setting.radio := radio }
  else if lrdmwl.linking then ⟨{ choice.setting with radio := radio }, lrdmwl.file kind⟩
  else choice

def Choice.choose (choice : Choice) (lrdmwl : Lrdmwl) (radio : Radio) : Choice :=
  if choice.setting.radio = radio then choice
  else
    match radio.sdioKind with
    | none => { choice with setting.radio := radio }
    | some kind => choice.link lrdmwl radio kind

def Choice.step (choice : Choice) : Event → Choice
  | .setRadioMode lrdmwl argument =>
      match Radio.ofText argument with
      | none => choice
      | some radio => choice.choose lrdmwl radio
  | .setM7BootMode argument =>
      if argument = "enable".toList then { choice with setting.m7 := true }
      else if argument = "disable".toList then { choice with setting.m7 := false }
      else choice
  | .boot wbx3 => { choice with setting.board := Board.found wbx3 }

def Choice.run (choice : Choice) (events : List Event) : Choice := events.foldl Choice.step choice

structure Shows (som : Som) (choice : Choice) : Prop where
  conf : som.env.conf.map CString.chars = some choice.setting.name
  firmware : som.firmware = choice.firmware

-- A radio on SDIO has the firmware for its mode.
def Fits (choice : Choice) : Prop :=
  ∀ kind, choice.setting.radio.sdioKind = some kind → sdioMark kind <:+: choice.firmware

def Event.Marked : Event → Prop
  | .setRadioMode lrdmwl _ => ∀ kind, sdioMark kind <:+: lrdmwl.file kind
  | .setM7BootMode _ => True
  | .boot _ => True

def KERNEL_DEVICETREE : List (List Char) :=
  ["freescale/imx8mp-summitsom-dvk-pcie-uart.dtb".toList,
   "freescale/imx8mp-summitsom-dvk-sdio-uart.dtb".toList,
   "freescale/imx8mp-summitsom-dvk-sdio-uart-stop.dtb".toList,
   "freescale/imx8mp-summitsom-dvk-sdio-uart-susp.dtb".toList,
   "freescale/imx8mp-summitsom-dvk-sdio-sdio.dtb".toList,
   "freescale/imx8mp-summitsom-dvk-pcie-uart-m7-rpmsg.dtb".toList,
   "freescale/imx8mp-summitsom-dvk-sdio-uart-m7-rpmsg.dtb".toList,
   "freescale/imx8mp-summitsom-dvk-sdio-uart-stop-m7-rpmsg.dtb".toList,
   "freescale/imx8mp-summitsom-dvk-sdio-uart-susp-m7-rpmsg.dtb".toList,
   "freescale/imx8mp-summitsom-dvk-sdio-sdio-m7-rpmsg.dtb".toList,
   "freescale/imx8mp-summitsom-wbx-pcie-uart.dtb".toList,
   "freescale/imx8mp-summitsom-wbx-sdio-uart.dtb".toList,
   "freescale/imx8mp-summitsom-wbx-sdio-uart-stop.dtb".toList,
   "freescale/imx8mp-summitsom-wbx-sdio-uart-susp.dtb".toList,
   "freescale/imx8mp-summitsom-wbx-sdio-sdio.dtb".toList]

def FIT_CONF_PREFIX : List Char := "conf-".toList

-- The configurations of the image that fitimage_assemble puts together.
def fitConfigurations : List (List Char) := KERNEL_DEVICETREE.map fun dtb => FIT_CONF_PREFIX ++ Fit.basename dtb

theorem setting_name_parts (setting : Config) : sedParts setting.name = setting.board.stem := by
  obtain ⟨board, radio, m7⟩ := setting
  cases board <;> cases radio <;> cases m7 <;> rfl

theorem setting_name_m7 (setting : Config) : "m7-rpmsg".toList <:+: setting.name ↔ setting.m7 = true := by
  obtain ⟨board, radio, m7⟩ := setting
  cases board <;> cases radio <;> cases m7 <;> decide +kernel

theorem setting_name_enabled (setting : Config) : sedEnable setting.name = { setting with m7 := true }.name := by
  obtain ⟨board, radio, m7⟩ := setting
  cases board <;> cases radio <;> cases m7 <;> rfl

theorem setting_name_disabled (setting : Config) : sedDisable setting.name = { setting with m7 := false }.name := by
  obtain ⟨board, radio, m7⟩ := setting
  cases board <;> cases radio <;> cases m7 <;> rfl

theorem setting_name_word (setting : Config) : (fwSetenv setting.name).map CString.chars = some setting.name := by
  obtain ⟨board, radio, m7⟩ := setting
  cases board <;> cases radio <;> cases m7 <;> decide +kernel

theorem setting_name_short (setting : Config) : setting.name.length < BUF_SIZE := by
  obtain ⟨board, radio, m7⟩ := setting
  cases board <;> cases radio <;> cases m7 <;> decide +kernel

def Board.variant : Board → Variant
  | .dvk => Boot.dvk
  | .wbx => Boot.wbx

theorem setting_name_found (setting : Config) : strstr setting.board.variant.name.chars setting.name = some 22 := by
  obtain ⟨board, radio, m7⟩ := setting
  cases board <;> cases radio <;> cases m7 <;> decide +kernel

theorem setting_name_other (setting : Config) (board : Board) (otherwise : setting.board ≠ board) :
    strstr board.variant.name.chars setting.name = none := by
  obtain ⟨named, radio, m7⟩ := setting
  cases named <;> cases board <;> try exact absurd rfl otherwise
  all_goals cases radio <;> cases m7 <;> decide +kernel

theorem setting_name_replaced (setting : Config) (board : Board) :
    memcpy setting.name 22 board.variant.name.chars = { setting with board := board }.name := by
  obtain ⟨named, radio, m7⟩ := setting
  cases named <;> cases board <;> cases radio <;> cases m7 <;> rfl

theorem setting_name_same (setting : Config) (radio : Radio) :
    setting.name = { setting with radio := radio }.name ↔ setting.radio = radio := by
  obtain ⟨board, named, m7⟩ := setting
  constructor
  · intro same
    have texts : named.text = radio.text := by
      have front := List.append_cancel_right same
      have back := List.append_cancel_right front
      exact (List.cons.inj (List.append_cancel_left back)).2
    cases named <;> cases radio <;> first | rfl | exact absurd texts (by decide)
  · intro same
    rw [← same]

theorem setting_name_injective (setting other : Config) (same : setting.name = other.name) : setting = other := by
  have stems := congrArg sedParts same
  rw [setting_name_parts, setting_name_parts] at stems
  have boards : setting.board = other.board := by
    have texts := List.append_cancel_left stems
    revert texts
    cases setting.board <;> cases other.board <;> decide
  have modes : setting.m7 = other.m7 := by
    have both := setting_name_m7 setting
    rw [same, setting_name_m7 other] at both
    exact (Bool.eq_iff_iff.mpr both).symm
  obtain ⟨board, radio, m7⟩ := setting
  obtain ⟨_, named, _⟩ := other
  cases boards
  cases modes
  cases (setting_name_same ⟨board, radio, m7⟩ named).mp same
  rfl

def fitSettings : List Config :=
  [⟨.dvk, .pcieUart, false⟩, ⟨.dvk, .sdioUart, false⟩, ⟨.dvk, .sdioUartStop, false⟩, ⟨.dvk, .sdioUartSusp, false⟩,
   ⟨.dvk, .sdioSdio, false⟩, ⟨.dvk, .pcieUart, true⟩, ⟨.dvk, .sdioUart, true⟩, ⟨.dvk, .sdioUartStop, true⟩,
   ⟨.dvk, .sdioUartSusp, true⟩, ⟨.dvk, .sdioSdio, true⟩, ⟨.wbx, .pcieUart, false⟩, ⟨.wbx, .sdioUart, false⟩,
   ⟨.wbx, .sdioUartStop, false⟩, ⟨.wbx, .sdioUartSusp, false⟩, ⟨.wbx, .sdioSdio, false⟩]

theorem fit_named : fitConfigurations = fitSettings.map Config.name := by
  decide +kernel

-- Every name has a configuration in the image but those of a WBX with the M7.
theorem setting_name_listed (setting : Config) :
    setting.name ∈ fitConfigurations ↔ ¬ (setting.board = .wbx ∧ setting.m7 = true) := by
  rw [fit_named, List.mem_map_of_injective setting_name_injective]
  obtain ⟨board, radio, m7⟩ := setting
  cases board <;> cases radio <;> cases m7 <;> decide

theorem of_text_some (argument : List Char) (radio : Radio) (found : Radio.ofText argument = some radio) :
    argument = radio.text := by
  rw [Radio.ofText] at found
  have told := List.find?_some found
  exact (of_decide_eq_true told).symm

theorem of_text_none (argument : List Char) (missing : Radio.ofText argument = none) : argument ∉ radioModes := by
  intro listed
  have none_is := List.find?_eq_none.mp missing
  simp only [radioModes, List.mem_cons, List.not_mem_nil, or_false] at listed
  rcases listed with rfl | rfl | rfl | rfl | rfl
  · exact none_is .pcieUart (by decide) (by decide)
  · exact none_is .sdioUart (by decide) (by decide)
  · exact none_is .sdioSdio (by decide) (by decide)
  · exact none_is .sdioUartStop (by decide) (by decide)
  · exact none_is .sdioUartSusp (by decide) (by decide)

theorem radio_listed (radio : Radio) : radio.text ∈ radioModes := by
  cases radio <;> decide

-- The name that set-radio-mode builds from the name it has read.
theorem radio_name_built (setting : Config) (radio : Radio) :
    sedParts setting.name ++ '-' :: radio.text ++ (if "m7-rpmsg".toList <:+: setting.name then rpmsg else []) ++ dotDtb =
      { setting with radio := radio }.name := by
  rw [setting_name_parts]
  cases m7 : setting.m7 with
  | false =>
      rw [if_neg (fun inside => Bool.noConfusion (m7.symm.trans ((setting_name_m7 setting).mp inside)))]
      simp only [Config.name]
      rfl
  | true =>
      rw [if_pos ((setting_name_m7 setting).mpr m7)]
      simp only [Config.name]
      rfl

theorem firmware_chosen (lrdmwl : Lrdmwl) (radio : Radio) (som : Som) :
    chooseFirmware lrdmwl radio.text som =
      match radio.sdioKind with
      | none => (0, som)
      | some kind => setSymlink lrdmwl kind som := by
  cases radio <;> rfl

theorem shown_conf (som : Som) (choice : Choice) (shows : Shows som choice) : som.conf = choice.setting.name := by
  rw [Som.conf, shows.conf]
  rfl

theorem name_shown (som : Som) (choice : Choice) (setting : Config) (firmware : som.firmware = choice.firmware) :
    Shows (som.setConf setting.name) { choice with setting := setting } :=
  ⟨setting_name_word setting, firmware⟩

theorem radio_mode_shown (lrdmwl : Lrdmwl) (radio : Radio) (som : Som) (choice : Choice) (shows : Shows som choice) :
    Shows (setRadioMode lrdmwl radio.text som).2 (choice.choose lrdmwl radio) := by
  have parts : sedParts choice.setting.name ≠ [] := by
    rw [setting_name_parts]
    exact List.cons_ne_nil _ _
  rw [setRadioMode, if_neg (not_not.mpr (radio_listed radio)), shown_conf som choice shows]
  simp only [radio_name_built choice.setting radio]
  rw [Choice.choose]
  have same_iff := setting_name_same choice.setting radio
  by_cases same : choice.setting.radio = radio
  · rw [if_pos same, if_pos (fun both => both.2 (same_iff.mpr same))]
    exact shows
  · rw [if_neg same, if_neg (not_not.mpr ⟨parts, fun equal => same (same_iff.mp equal)⟩), firmware_chosen]
    cases radio.sdioKind with
    | none => exact name_shown som choice _ shows.firmware
    | some kind =>
        simp only [setSymlink, Choice.link, shows.firmware]
        by_cases marked : sdioMark kind <:+: choice.firmware
        · simp only [if_pos marked]
          exact name_shown som choice _ shows.firmware
        · simp only [if_neg marked]
          cases lrdmwl.linking with
          | true => exact name_shown _ ⟨choice.setting, lrdmwl.file kind⟩ _ rfl
          | false => exact shows

theorem m7_mode_shown (argument : List Char) (som : Som) (choice : Choice) (shows : Shows som choice) :
    Shows (setM7BootMode argument som).2 (choice.step (.setM7BootMode argument)) := by
  rw [setM7BootMode, Choice.step, shown_conf som choice shows, setting_name_enabled, setting_name_disabled]
  by_cases enabled : argument = "enable".toList
  · rw [if_pos enabled, if_pos enabled]
    exact name_shown som choice _ shows.firmware
  · rw [if_neg enabled, if_neg enabled]
    by_cases disabled : argument = "disable".toList
    · rw [if_pos disabled, if_pos disabled]
      exact name_shown som choice _ shows.firmware
    · rw [if_neg disabled, if_neg disabled]
      exact shows

-- A start keeps the board that the name has, or puts the board that was found
-- in the place of the other one.
theorem board_renamed (setting : Config) (board newBoard : Board) (differ : board ≠ newBoard) (dtb : CString)
    (named : dtb.chars = setting.name) (saves : Nat) :
    ∃ env, updateDts board.variant newBoard.variant ⟨some dtb, saves⟩ = .done env ∧
      env.conf.map CString.chars = some { setting with board := newBoard }.name := by
  have short : dtb.chars.length < BUF_SIZE := by
    rw [named]
    exact setting_name_short setting
  by_cases same : setting.board = board
  · have found : strstr board.variant.name.chars dtb.chars = some 22 := by
      rw [named, ← same]
      exact setting_name_found setting
    have renamed := short_renamed board.variant newBoard.variant dtb saves short
    obtain ⟨text, chars, outcome⟩ := renamed.2 22 (strstr_some _ _ 22 found)
    refine ⟨_, outcome, ?_⟩
    rw [Option.map_some, chars, named, setting_name_replaced]
  · have kept : setting.board = newBoard := by
      revert same differ
      cases setting.board <;> cases board <;> cases newBoard <;> decide
    have missing : ¬ board.variant.name.chars <:+: dtb.chars := by
      rw [named]
      exact strstr_none _ _ (setting_name_other setting board same)
    refine ⟨_, missing_kept board.variant newBoard.variant dtb saves missing, ?_⟩
    rw [Option.map_some, named, ← kept]

theorem boot_shown (wbx3 : Bool) (som : Som) (choice : Choice) (shows : Shows som choice) :
    ∃ next, boardLateInit wbx3 som = some next ∧ Shows next (choice.step (.boot wbx3)) := by
  obtain ⟨⟨conf, saves⟩, firmware⟩ := som
  obtain ⟨dtb, rfl, named⟩ := Option.map_eq_some_iff.mp shows.conf
  cases wbx3 with
  | true =>
      obtain ⟨env, renamed, written⟩ := board_renamed choice.setting .dvk .wbx Board.noConfusion dtb named saves
      refine ⟨⟨env, firmware⟩, ?_, written, shows.firmware⟩
      rw [boardLateInit]
      simp only [if_true]
      rw [show updateDts dvk wbx ⟨some dtb, saves⟩ = .done env from renamed]
  | false =>
      obtain ⟨env, renamed, written⟩ := board_renamed choice.setting .wbx .dvk Board.noConfusion dtb named saves
      refine ⟨⟨env, firmware⟩, ?_, written, shows.firmware⟩
      rw [boardLateInit]
      simp only [if_neg Bool.false_ne_true]
      rw [show updateDts wbx dvk ⟨some dtb, saves⟩ = .done env from renamed]

theorem unlisted_kept (lrdmwl : Lrdmwl) (argument : List Char) (som : Som) (unlisted : argument ∉ radioModes) :
    (setRadioMode lrdmwl argument som).2 = som := by
  rw [setRadioMode, if_pos unlisted]

theorem step_shown (event : Event) (som : Som) (choice : Choice) (shows : Shows som choice) :
    ∃ next, som.step event = some next ∧ Shows next (choice.step event) := by
  cases event with
  | setRadioMode lrdmwl argument =>
      refine ⟨_, rfl, ?_⟩
      rw [Choice.step]
      cases mode : Radio.ofText argument with
      | none =>
          rw [unlisted_kept lrdmwl argument som (of_text_none argument mode)]
          exact shows
      | some radio =>
          rw [of_text_some argument radio mode]
          exact radio_mode_shown lrdmwl radio som choice shows
  | setM7BootMode argument => exact ⟨_, rfl, m7_mode_shown argument som choice shows⟩
  | boot wbx3 => exact boot_shown wbx3 som choice shows

theorem run_cons (som next : Som) (event : Event) (events : List Event) (step : som.step event = some next) :
    som.run (event :: events) = next.run events := by
  rw [Som.run, List.foldl_cons, Option.bind_some, step]
  rfl

theorem run_shown (events : List Event) (som : Som) (choice : Choice) (shows : Shows som choice) :
    ∃ last, som.run events = some last ∧ Shows last (choice.run events) := by
  induction events generalizing som choice with
  | nil => exact ⟨som, rfl, shows⟩
  | cons event events ih =>
      obtain ⟨next, step, shown⟩ := step_shown event som choice shows
      obtain ⟨last, run, kept⟩ := ih next (choice.step event) shown
      exact ⟨last, (run_cons som next event events step).trans run, kept⟩

theorem link_fits (lrdmwl : Lrdmwl) (marked : ∀ kind, sdioMark kind <:+: lrdmwl.file kind) (choice : Choice) (fits : Fits choice)
    (radio : Radio) (kind : List Char) (needs : radio.sdioKind = some kind) : Fits (choice.link lrdmwl radio kind) := by
  rw [Choice.link]
  by_cases already : sdioMark kind <:+: choice.firmware
  · rw [if_pos already]
    intro other needed
    cases needs.symm.trans needed
    exact already
  · rw [if_neg already]
    by_cases linking : lrdmwl.linking = true
    · rw [if_pos linking]
      intro other needed
      cases needs.symm.trans needed
      exact marked kind
    · rw [if_neg linking]
      exact fits

theorem step_fits (event : Event) (marked : event.Marked) (choice : Choice) (fits : Fits choice) : Fits (choice.step event) := by
  cases event with
  | setRadioMode lrdmwl argument =>
      rw [Choice.step]
      cases Radio.ofText argument with
      | none => exact fits
      | some radio =>
          change Fits (choice.choose lrdmwl radio)
          rw [Choice.choose]
          by_cases same : choice.setting.radio = radio
          · rw [if_pos same]
            exact fits
          · rw [if_neg same]
            cases needs : radio.sdioKind with
            | none =>
                intro kind needed
                cases needs.symm.trans needed
            | some kind => exact link_fits lrdmwl marked choice fits radio kind needs
  | setM7BootMode argument =>
      rw [Choice.step]
      by_cases enabled : argument = "enable".toList
      · rw [if_pos enabled]
        exact fits
      · rw [if_neg enabled]
        split
        · exact fits
        · exact fits
  | boot wbx3 => exact fits

theorem run_fits (events : List Event) (marked : ∀ event ∈ events, event.Marked) (choice : Choice) (fits : Fits choice) :
    Fits (choice.run events) := by
  induction events generalizing choice with
  | nil => exact fits
  | cons event events ih =>
      have first := step_fits event (marked event List.mem_cons_self) choice fits
      exact ih (fun later inside => marked later (List.mem_cons_of_mem event inside)) (choice.step event) first

-- However the modes are set and whatever boards the card is started on, conf
-- names the choices that were made, and a radio on SDIO has its firmware.
theorem conf_names_choice (events : List Event) (marked : ∀ event ∈ events, event.Marked) (som : Som) (choice : Choice)
    (shows : Shows som choice) (fits : Fits choice) :
    ∃ last, som.run events = some last ∧ last.conf = (choice.run events).setting.name ∧
      last.firmware = (choice.run events).firmware ∧ Fits (choice.run events) ∧
      (last.conf ∈ fitConfigurations ↔
        ¬ ((choice.run events).setting.board = .wbx ∧ (choice.run events).setting.m7 = true)) := by
  obtain ⟨last, run, shown⟩ := run_shown events som choice shows
  have named := shown_conf last _ shown
  refine ⟨last, run, named, shown.firmware, run_fits events marked choice fits, ?_⟩
  rw [named]
  exact setting_name_listed _

def defaultEnv : UbootEnv := ⟨some ⟨"conf-imx8mp-summitsom-dvk-pcie-uart.dtb".toList, by decide⟩, 0⟩

def lrdmwlFiles : Lrdmwl := ⟨fun kind => "88W8997_SOM8MP".toList ++ sdioMark kind ++ "v1.bin".toList, true⟩

def wbxEvents : List Event :=
  [.boot true, .setRadioMode lrdmwlFiles "sdio-uart-stop".toList, .boot true, .setM7BootMode "enable".toList]

theorem wbx_events_marked (event : Event) (listed : event ∈ wbxEvents) : event.Marked := by
  have mode (argument : List Char) : (Event.setRadioMode lrdmwlFiles argument).Marked := fun kind => ⟨_, _, rfl⟩
  simp only [wbxEvents, List.mem_cons, List.not_mem_nil, or_false] at listed
  rcases listed with rfl | rfl | rfl | rfl
  · exact trivial
  · exact mode _
  · exact trivial
  · exact trivial

-- A WBX on which the M7 is enabled is left with a name that the image has not.
theorem wbx_m7_unlisted :
    ∃ last, (⟨defaultEnv, []⟩ : Som).run wbxEvents = some last ∧
      last.conf = "conf-imx8mp-summitsom-wbx-sdio-uart-stop-m7-rpmsg.dtb".toList ∧ last.conf ∉ fitConfigurations := by
  have shows : Shows ⟨defaultEnv, []⟩ ⟨⟨.dvk, .pcieUart, false⟩, []⟩ := ⟨by decide, rfl⟩
  have fits : Fits ⟨⟨.dvk, .pcieUart, false⟩, []⟩ := by
    intro kind needed
    cases needed
  obtain ⟨last, run, named, _, _, listed⟩ := conf_names_choice wbxEvents wbx_events_marked _ _ shows fits
  refine ⟨last, run, named.trans ?_, fun inside => listed.mp inside ⟨?_, ?_⟩⟩
  · decide +kernel
  · decide +kernel
  · decide +kernel

end SummitSom.Boot.ConfName
