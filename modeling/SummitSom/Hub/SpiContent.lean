import SummitSom.Hub.SpiRead
import SummitSom.Nor.Flash

set_option autoImplicit false

namespace SummitSom.Hub

open Bytes

inductive SpiError where
  | Error_Success
  | SpiNoDevice
  | SpiFlashWrongDeviceID
  | SpiFWCompareFailed
deriving DecidableEq

structure JedecId where
  byManufacturer : UInt8
  byMemoryType : UInt8
  byDeviceId : UInt8
  szPartNumber : String

-- The entries in front of MFR_ID_ENDOFLIST. Their validation masks are all 0x07.
def asJedecId : List JedecId :=
  [⟨0x1F, 0x45, 0x01, "AT26DF081A"⟩, ⟨0x1F, 0x46, 0x02, "AT25DF161"⟩, ⟨0xEF, 0x30, 0x11, "W25X10"⟩,
    ⟨0xEF, 0x30, 0x12, "W25X20"⟩, ⟨0xEF, 0x30, 0x13, "W25X30"⟩, ⟨0xEF, 0x30, 0x14, "W25X40"⟩,
    ⟨0xBF, 0x25, 0x4B, "SST25VF064C"⟩, ⟨0xBF, 0x26, 0x43, "SST26VFXXXX"⟩, ⟨0xBF, 0x25, 0x8C, "SST25VF020B"⟩]

-- The three bytes behind the one that comes in while the opcode goes out.
structure JedecResponse where
  manufacturer : UInt8
  memoryType : UInt8
  deviceId : UInt8
deriving DecidableEq

-- The device id of an SST26 flash is not looked at.
def JedecId.fits (entry : JedecId) (response : JedecResponse) : Bool :=
  entry.byManufacturer = response.manufacturer ∧ entry.byMemoryType = response.memoryType ∧
    ((entry.byManufacturer = 0xBF ∧ entry.byMemoryType = 0x26) ∨ entry.byDeviceId = response.deviceId)

def hexDigit (digit : Nat) : Char := "0123456789ABCDEF".toList.getD digit '0'

def hexByte (byte : UInt8) : String := String.ofList [hexDigit (byte.toNat / 16), hexDigit (byte.toNat % 16)]

def JedecResponse.text (response : JedecResponse) : String :=
  "JEDEC ID read as " ++ hexByte response.manufacturer ++ ", " ++ hexByte response.memoryType ++ ", " ++
    hexByte response.deviceId

def spiGetManufactureID (response : JedecResponse) (bSupportAll : Bool) : SpiError × String :=
  match asJedecId.find? fun entry => entry.fits response with
  | some entry => (.Error_Success, entry.szPartNumber)
  | none =>
      if response = ⟨0, 0, 0⟩ then (.SpiNoDevice, "")
      else if bSupportAll then (.Error_Success, response.text ++ "\n")
      else (.SpiFlashWrongDeviceID, "SPI flash chip identified as unsupported, " ++ response.text)

-- Seven characters are compared with those of SST26VF064B.
def isSst26 (szFlashType : String) : Bool := szFlashType.toList.take 7 = "SST26VF064B".toList.take 7

-- A hub whose flash answers the JEDEC command, in any state of its latch and
-- its block protection.
structure SpiDevice where
  hub : SpiHub
  jedec : JedecResponse
  wInternalFWRevision : UInt16
  latch : Bool
  isProtected : Nat → Bool

def SpiDevice.chip (device : SpiDevice) : Nor.Flash := ⟨device.hub.flash, device.latch, device.isProtected⟩

-- The kind of the chip itself, by which it takes its commands.
def JedecResponse.sst26 (response : JedecResponse) : Bool := response.manufacturer = 0xBF ∧ response.memoryType = 0x26

def unprotect (bFlashsst26vf064b : Bool) : List UInt8 := if bFlashsst26vf064b then [0x98] else [0x01, 0x00]

def spiCommand (bFlashsst26vf064b : Bool) (bytes : List UInt8) : Nor.Command :=
  if bytes = [0x06] then .writeEnable
  else if bytes = unprotect bFlashsst26vf064b then .unprotect
  else if bytes.head? = some 0x02 then .program (programmedCells bytes)
  else match erasedBlock bFlashsst26vf064b bytes with
    | some block => .erase block.1 block.2
    | none => .idle

structure Request where
  bErasePgmArea : Bool
  dstart_address : Nat
  dwActualSize : Nat
  inside : dstart_address + dwActualSize ≤ 131072

def maxDownloadSize (wInternalFWRevision : UInt16) : Download :=
  if wInternalFWRevision = 0x0108 then .bytes128 else .bytes256

def SpiDevice.call (device : SpiDevice) (request : Request) (szFlashType : String) : LoadBinary where
  MAX_DOWNLOAD_SIZE := maxDownloadSize device.wInternalFWRevision
  bFlashsst26vf064b := isSst26 szFlashType
  bErasePgmArea := request.bErasePgmArea
  dstart_address := request.dstart_address
  dwActualSize := request.dwActualSize
  inside := request.inside

-- A status command goes out twice, and again as often as the flash is busy.
def Entry.transfers (polls : Nat) : Entry → List (List UInt8)
  | .send pbyBuffer =>
      if pbyBuffer.head? = some 0x05 then pbyBuffer :: pbyBuffer :: List.replicate polls pbyBuffer else [pbyBuffer]
  | .fetch => []

def Page.transfers (page : Page) (call : LoadBinary) (abyBuffer_SPI : Memory UInt8) (polls : Nat) : List (List UInt8) :=
  [0x05, 0x00] :: List.replicate polls [0x05, 0x00] ++ [[0x06], [0x05, 0x00], page.command call abyBuffer_SPI]

-- Every command of the list as it goes out. How often the flash is found busy is
-- given by the entry and, inside the loop, by the address of the page.
def LoadBinary.transfers (call : LoadBinary) (abyBuffer_SPI : Memory UInt8) (polls : Nat → Nat → Nat) : List (List UInt8) :=
  call.gpSPICmdList.zipIdx.flatMap fun entry =>
    if entry.2 ≠ call.programIndex then entry.1.transfers (polls entry.2 0)
    else call.pages.flatMap fun page => page.transfers call abyBuffer_SPI (polls entry.2 page.j)

def SpiDevice.commands (device : SpiDevice) (call : LoadBinary) (abyBuffer_SPI : Memory UInt8) (polls : Nat → Nat → Nat) :
    List Nor.Command :=
  (call.transfers abyBuffer_SPI polls).map (spiCommand device.jedec.sst26)

-- With every transfer answered. What comes back is the error and the flash.
def SpiDevice.loadBinary (device : SpiDevice) (request : Request) (abyBuffer_SPI : Memory UInt8) (polls : Nat → Nat → Nat) :
    SpiError × Nor.Flash :=
  let found := spiGetManufactureID device.jedec true
  if found.1 = .Error_Success then
    let chip := device.chip.run (device.commands (device.call request found.2) abyBuffer_SPI polls)
    let verify := athensReadSPIFlash { device.hub with flash := chip.cells } request.dstart_address
      (request.dwActualSize + request.dstart_address)
    let SPIUploadData_verify := writes (fun _ => 0xCC) verify.2
    if verify.1 ≠ FALSE ∧ ∀ offset < request.dwActualSize, SPIUploadData_verify offset = abyBuffer_SPI offset then
      (.Error_Success, chip)
    else (.SpiFWCompareFailed, chip)
  else (found.1, device.chip)

-- What the opening of either list comes to.
def erasesIn (chosen : Bool) (start size : Nat) : List Nor.Command :=
  .writeEnable :: if chosen then [.erase start size] else []

def erasing128K (bFlashsst26vf064b low high : Bool) : List Nor.Command :=
  if bFlashsst26vf064b then
    erasesIn low 0 8192 ++ erasesIn low 8192 8192 ++ erasesIn low 16384 8192 ++ erasesIn low 24576 8192 ++
      erasesIn low 32768 32768 ++ erasesIn high 65536 65536 ++ [.writeEnable]
  else erasesIn low 0 65536 ++ erasesIn high 65536 65536 ++ [.writeEnable]

-- The commands with an effect, without the polling of the status register.
def effects (bFlashsst26vf064b : Bool) (transfers : List (List UInt8)) : List Nor.Command :=
  (transfers.map (spiCommand bFlashsst26vf064b)).filter fun command => !command.isIdle

theorem effects_append (bFlashsst26vf064b : Bool) (first second : List (List UInt8)) :
    effects bFlashsst26vf064b (first ++ second) = effects bFlashsst26vf064b first ++ effects bFlashsst26vf064b second := by
  rw [effects, List.map_append, List.filter_append]
  rfl

theorem erased_block_opcode (bFlashsst26vf064b : Bool) (bytes : List UInt8) (other : bytes.head? ≠ some 0xD8) :
    erasedBlock bFlashsst26vf064b bytes = none := by
  unfold erasedBlock
  split
  · rename_i opcode high middle low
    exact if_neg fun same => other (congrArg some same)
  · rfl

theorem status_idle (bFlashsst26vf064b : Bool) (bytes : List UInt8) (status : bytes.head? = some 0x05) :
    spiCommand bFlashsst26vf064b bytes = .idle := by
  have different : ∀ list : List UInt8, list.head? ≠ some 0x05 → bytes ≠ list := fun list head same => head (same ▸ status)
  rw [spiCommand, if_neg (different _ (by decide)), if_neg (different _ (by cases bFlashsst26vf064b <;> decide)),
    if_neg (by rw [status]; decide), erased_block_opcode bFlashsst26vf064b bytes (by rw [status]; decide)]

theorem polling_idle (bFlashsst26vf064b : Bool) (bytes : List UInt8) (status : bytes.head? = some 0x05) (count : Nat) :
    effects bFlashsst26vf064b (List.replicate count bytes) = [] := by
  rw [effects, List.map_replicate, status_idle bFlashsst26vf064b bytes status, List.filter_replicate_of_neg (by decide)]

theorem commands_before_effects (bFlashsst26vf064b low high : Bool) :
    effects bFlashsst26vf064b ((commandsBefore bFlashsst26vf064b low high).flatMap Entry.sent) =
      .writeEnable :: .unprotect :: erasing128K bFlashsst26vf064b low high := by
  cases bFlashsst26vf064b <;> cases low <;> cases high <;> rfl

theorem entry_effects (bFlashsst26vf064b : Bool) (entry : Entry) (polls : Nat) :
    effects bFlashsst26vf064b (entry.transfers polls) = effects bFlashsst26vf064b entry.sent := by
  cases entry with
  | fetch => rfl
  | send pbyBuffer =>
      rw [Entry.transfers]
      split
      · rename_i status
        exact (polling_idle bFlashsst26vf064b pbyBuffer status (polls + 2)).trans
          (polling_idle bFlashsst26vf064b pbyBuffer status 1).symm
      · rfl

section Call

variable (call : LoadBinary) (abyBuffer_SPI : Memory UInt8)

theorem page_effects (bFlashsst26vf064b : Bool) (page : Page) (polls : Nat) :
    effects bFlashsst26vf064b (page.transfers call abyBuffer_SPI polls) =
      [.writeEnable, .program (programmedCells (page.command call abyBuffer_SPI))] := by
  have program : spiCommand bFlashsst26vf064b (page.command call abyBuffer_SPI) =
      .program (programmedCells (page.command call abyBuffer_SPI)) := by
    have opcode : (page.command call abyBuffer_SPI).head? = some 0x02 := rfl
    have different : ∀ list : List UInt8, list.head? ≠ some 0x02 → page.command call abyBuffer_SPI ≠ list :=
      fun list head same => head (same ▸ opcode)
    rw [spiCommand, if_neg (different _ (by decide)), if_neg (different _ (by cases bFlashsst26vf064b <;> decide)),
      if_pos opcode]
  have ready : effects bFlashsst26vf064b [[0x06], [0x05, 0x00], page.command call abyBuffer_SPI] =
      [.writeEnable, .program (programmedCells (page.command call abyBuffer_SPI))] := by
    rw [effects, List.map_cons, List.map_cons, List.map_cons, program, status_idle bFlashsst26vf064b [0x05, 0x00] rfl]
    rfl
  rw [Page.transfers, effects_append, ready]
  exact congrArg (· ++ _) (polling_idle bFlashsst26vf064b [0x05, 0x00] rfl (polls + 1))

theorem flat_effects {E : Type} (bFlashsst26vf064b : Bool) (transfers : E → List (List UInt8)) (entries : List E) :
    effects bFlashsst26vf064b (entries.flatMap transfers) =
      entries.flatMap fun entry => effects bFlashsst26vf064b (transfers entry) := by
  induction entries with
  | nil => rfl
  | cons entry rest ih => rw [List.flatMap_cons, List.flatMap_cons, effects_append, ih]

def pageCommands : List Nor.Command :=
  call.pages.flatMap fun page => [.writeEnable, .program (programmedCells (page.command call abyBuffer_SPI))]

theorem entries_effects (polls : Nat → Nat → Nat) (entries : List Entry) (start : Nat)
    (other : ∀ place, start ≤ place → place < start + entries.length → place ≠ call.programIndex) :
    effects call.bFlashsst26vf064b ((entries.zipIdx start).flatMap fun entry =>
      if entry.2 ≠ call.programIndex then entry.1.transfers (polls entry.2 0)
      else call.pages.flatMap fun page => page.transfers call abyBuffer_SPI (polls entry.2 page.j)) =
      effects call.bFlashsst26vf064b (entries.flatMap Entry.sent) := by
  induction entries generalizing start with
  | nil => rfl
  | cons entry rest ih =>
      have here := other start (Nat.le_refl _) (by simp)
      rw [List.zipIdx_cons, List.flatMap_cons, List.flatMap_cons, effects_append, effects_append, if_pos here,
        entry_effects, ih (start + 1) fun place low high => other place (by omega) (by rw [List.length_cons]; omega)]

theorem transfers_effects (polls : Nat → Nat → Nat) :
    effects call.bFlashsst26vf064b (call.transfers abyBuffer_SPI polls) =
      .writeEnable :: .unprotect ::
        (erasing128K call.bFlashsst26vf064b call.low call.high ++ pageCommands call abyBuffer_SPI) := by
  have length := commands_before_index call
  have last : effects call.bFlashsst26vf064b (rdsr.flatMap Entry.sent) = [] :=
    polling_idle call.bFlashsst26vf064b [0x05, 0x00] rfl 1
  rw [LoadBinary.transfers, LoadBinary.gpSPICmdList, List.zipIdx_append, List.flatMap_append, List.zipIdx_cons,
    List.flatMap_cons, effects_append, effects_append, length,
    entries_effects call abyBuffer_SPI polls _ 0 (fun place _ small => by rw [length, Nat.zero_add] at small; omega),
    entries_effects call abyBuffer_SPI polls rdsr _ (fun place low _ => by omega), last, commands_before_effects,
    List.append_nil, if_neg (by simp), flat_effects]
  simp only [page_effects, pageCommands, List.cons_append]

theorem pages_latched (latch : Bool) : Nor.Latched latch (pageCommands call abyBuffer_SPI) := by
  rw [pageCommands]
  induction call.pages generalizing latch with
  | nil => trivial
  | cons page rest ih => exact ⟨Bool.noConfusion, fun _ => rfl, ih false⟩

theorem erasing_latched (bFlashsst26vf064b low high : Bool) :
    Nor.Latched false (erasing128K bFlashsst26vf064b low high) := by
  cases bFlashsst26vf064b <;> cases low <;> cases high <;> simp [erasing128K, erasesIn, Nor.Latched, Nor.Command.changes,
    Nor.Command.latch]

theorem erasing_loads (bFlashsst26vf064b low high : Bool) (address : Nat) :
    ∀ command ∈ erasing128K bFlashsst26vf064b low high, ∀ value, ¬ command.Loads address value := by
  cases bFlashsst26vf064b <;> cases low <;> cases high <;> simp [erasing128K, erasesIn, Nor.Command.Loads]

theorem erasing_erases (bFlashsst26vf064b low high : Bool) (address : Nat) :
    (∃ command ∈ erasing128K bFlashsst26vf064b low high, command.Erases address) ↔
      low = true ∧ address < 65536 ∨ high = true ∧ 65536 ≤ address ∧ address < 131072 := by
  cases bFlashsst26vf064b <;> cases low <;> cases high <;> simp [erasing128K, erasesIn, Nor.Command.Erases] <;> omega

theorem pages_erase_nothing (address : Nat) : ∀ command ∈ pageCommands call abyBuffer_SPI, ¬ command.Erases address := by
  intro command member
  obtain ⟨page, _, own⟩ := List.mem_flatMap.mp member
  rcases List.mem_cons.mp own with rfl | last
  · exact id
  · rw [List.mem_singleton.mp last]
    exact id

theorem pages_load (address : Nat) (byte : UInt8) :
    (∃ command ∈ pageCommands call abyBuffer_SPI, command.Loads address byte) ↔
      ∃ command ∈ call.sent abyBuffer_SPI, (address, byte) ∈ programmedCells command := by
  constructor
  · intro ⟨command, member, loads⟩
    obtain ⟨page, there, own⟩ := List.mem_flatMap.mp member
    rcases List.mem_cons.mp own with rfl | last
    · exact False.elim loads
    · rw [List.mem_singleton.mp last] at loads
      have sent : page.command call abyBuffer_SPI ∈ call.sent abyBuffer_SPI := by
        rw [sent_split, List.mem_append, List.mem_append, List.mem_map]
        exact .inr (.inl ⟨page, there, rfl⟩)
      exact ⟨_, sent, loads⟩
  · intro ⟨command, member, loads⟩
    obtain ⟨page, there, rfl⟩ := sent_programmed call abyBuffer_SPI command member (address, byte) loads
    exact ⟨_, List.mem_flatMap.mpr ⟨page, there, List.mem_cons_of_mem _ List.mem_cons_self⟩, loads⟩

-- The blocks that the call erases.
def LoadBinary.Clears (address : Nat) : Prop :=
  call.low = true ∧ address < 65536 ∨ call.high = true ∧ 65536 ≤ address ∧ address < 131072

instance (address : Nat) : Decidable (call.Clears address) := inferInstanceAs (Decidable (_ ∨ _))

theorem range_cleared (address : Nat) (inside : Within call.dstart_address call.dwActualSize address) :
    call.Clears address := by
  have reach := call.inside
  simp only [Within] at inside
  rw [LoadBinary.Clears, LoadBinary.low, LoadBinary.high, decide_eq_true_iff, decide_eq_true_iff]
  omega

theorem written_contents (aligned : PageAligned call) (flash : Nor.Flash) (polls : Nat → Nat → Nat) (address : Nat) :
    (flash.run ((call.transfers abyBuffer_SPI polls).map (spiCommand call.bFlashsst26vf064b))).cells address =
      if call.dstart_address ≤ address ∧ address < call.dstart_address + call.dwActualSize then
        abyBuffer_SPI (address - call.dstart_address)
      else if call.Clears address then 0xFF else flash.cells address := by
  have latched : Nor.Latched false
      (erasing128K call.bFlashsst26vf064b call.low call.high ++ pageCommands call abyBuffer_SPI) :=
    (Nor.latched_append _ _ _).mpr ⟨erasing_latched _ _ _, pages_latched call abyBuffer_SPI _⟩
  have first := erasing_loads call.bFlashsst26vf064b call.low call.high address
  have erases := erasing_erases call.bFlashsst26vf064b call.low call.high address
  have second := pages_erase_nothing call abyBuffer_SPI address
  have loads := fun byte => (pages_load call abyBuffer_SPI address byte).trans
    (aligned_exactly call abyBuffer_SPI aligned address byte)
  rw [Nor.run_without_idle]
  have effect := transfers_effects call abyBuffer_SPI polls
  rw [effects] at effect
  rw [effect, Nor.run_unprotected flash _ latched, Nor.changed_append]
  by_cases cleared : call.Clears address
  · rw [Nor.changed_erased address _ _ first (.inr (erases.mpr cleared))]
    by_cases inside : call.dstart_address ≤ address ∧ address < call.dstart_address + call.dwActualSize
    · rw [if_pos inside]
      apply Nor.changed_loaded address 0xFF _ _ UInt8.neg_one_and second
      · exact fun command member other loaded => ((loads other).mp ⟨command, member, loaded⟩).2
      · exact .inr ((loads _).mpr ⟨inside, rfl⟩)
    · rw [if_neg inside, if_pos cleared]
      exact Nor.changed_untouched address 0xFF _ (fun command member value loaded =>
        inside ((loads value).mp ⟨command, member, loaded⟩).1) second
  · have outside : ¬ (call.dstart_address ≤ address ∧ address < call.dstart_address + call.dwActualSize) :=
      fun inside => cleared (range_cleared call address inside)
    rw [if_neg outside, if_neg cleared, Nor.changed_untouched address _ _ first (fun command member there =>
      cleared (erases.mp ⟨command, member, there⟩))]
    exact Nor.changed_untouched address _ _ (fun command member value loaded =>
      outside ((loads value).mp ⟨command, member, loaded⟩).1) second

end Call

theorem found_fits (response : JedecResponse) (entry : JedecId)
    (found : (asJedecId.find? fun entry => entry.fits response) = some entry) :
    isSst26 entry.szPartNumber = response.sst26 := by
  have member := List.mem_of_find?_eq_some found
  have fits := List.find?_some found
  simp only [JedecId.fits, decide_eq_true_iff] at fits
  obtain ⟨manufacturer, memoryType, _⟩ := fits
  rw [JedecResponse.sst26, ← manufacturer, ← memoryType]
  simp only [asJedecId, List.mem_cons, List.not_mem_nil, or_false] at member
  rcases member with rfl | rfl | rfl | rfl | rfl | rfl | rfl | rfl | rfl <;> decide

theorem missing_not_sst26 (response : JedecResponse)
    (missing : (asJedecId.find? fun entry => entry.fits response) = none) : response.sst26 = false := by
  have unfit := List.find?_eq_none.mp missing ⟨0xBF, 0x26, 0x43, "SST26VFXXXX"⟩ (by simp [asJedecId])
  rw [JedecId.fits, decide_eq_true_iff] at unfit
  rw [JedecResponse.sst26, decide_eq_false_iff_not]
  rintro ⟨manufacturer, memoryType⟩
  exact unfit ⟨manufacturer.symm, memoryType.symm, .inl ⟨rfl, rfl⟩⟩

theorem name_start_chosen (name rest : String) (long : 7 ≤ name.toList.length) : isSst26 (name ++ rest) = isSst26 name := by
  simp only [isSst26, String.toList_append, List.take_append_of_le_length long]

theorem jedec_not_sst26 (first second third : String) :
    isSst26 ("JEDEC ID read as " ++ first ++ ", " ++ second ++ ", " ++ third ++ "\n") = false := by
  have start : "JEDEC ID read as " ++ first ++ ", " ++ second ++ ", " ++ third ++ "\n" =
      "JEDEC ID read as " ++ (first ++ ", " ++ second ++ ", " ++ third ++ "\n") := by
    simp only [String.append_assoc]
  rw [start, name_start_chosen _ _ (by decide)]
  decide

-- The list chosen by the name is the one for the kind of the chip.
theorem list_fits_chip (response : JedecResponse) (found : (spiGetManufactureID response true).1 = .Error_Success) :
    isSst26 (spiGetManufactureID response true).2 = response.sst26 := by
  cases search : asJedecId.find? fun entry => entry.fits response with
  | some entry =>
      rw [spiGetManufactureID, search]
      exact found_fits response entry search
  | none =>
      rw [spiGetManufactureID, search] at found ⊢
      rw [missing_not_sst26 response search]
      by_cases absent : response = ⟨0, 0, 0⟩
      · simp [absent] at found
      · simp only [if_neg absent, if_true]
        exact jedec_not_sst26 _ _ _

theorem flash_found (response : JedecResponse) :
    (spiGetManufactureID response true).1 = if response = ⟨0, 0, 0⟩ then .SpiNoDevice else .Error_Success := by
  rw [spiGetManufactureID]
  by_cases absent : response = ⟨0, 0, 0⟩
  · subst absent
    rfl
  · rw [if_neg absent]
    cases asJedecId.find? fun entry => entry.fits response with
    | some entry => rw [if_neg absent]
    | none => rw [if_neg absent, if_pos rfl]

section Device

variable (device : SpiDevice) (request : Request) (abyBuffer_SPI : Memory UInt8) (polls : Nat → Nat → Nat)

def SpiDevice.loading : LoadBinary := device.call request (spiGetManufactureID device.jedec true).2

def SpiDevice.written : Nor.Flash := device.chip.run (device.commands (device.loading request) abyBuffer_SPI polls)

-- On a hub that runs from its ROM the verification reads what the flash holds.
theorem verify_reads (rom : device.hub.byFeaturesFlag &&& 0x01 = 0) (flash : Memory UInt8) :
    (athensReadSPIFlash { device.hub with flash := flash } request.dstart_address
      (request.dwActualSize + request.dstart_address)).1 = TRUE ∧
    ∀ offset < request.dwActualSize, writes (fun _ => 0xCC) (athensReadSPIFlash { device.hub with flash := flash }
      request.dstart_address (request.dwActualSize + request.dstart_address)).2 offset =
        flash (request.dstart_address + offset) := by
  have path := path_blocks { device.hub with flash := flash } false request.dstart_address request.dwActualSize
    request.inside
  have read : athensReadSPIFlash { device.hub with flash := flash } request.dstart_address
      (request.dwActualSize + request.dstart_address) = athensReadSPICode { device.hub with flash := flash } false
        request.dstart_address (request.dstart_address + request.dwActualSize) := by
    rw [athensReadSPIFlash, if_neg (not_not_intro rom), Nat.add_comm]
    rfl
  rw [read, path]
  refine ⟨rfl, fun offset small => ?_⟩
  have counted := (cells_counted false request.dwActualSize).1
  have position : request.dstart_address + offset / blockSize false * blockSize false + offset % blockSize false =
      request.dstart_address + offset := by
    rw [Nat.add_assoc, Nat.div_add_mod']
  rw [blocks_written _ _ _ _ offset (by omega), SpiHub.cell, if_neg fun both => Bool.false_ne_true both.1, position]

theorem load_binary_outcome (rom : device.hub.byFeaturesFlag &&& 0x01 = 0) :
    device.loadBinary request abyBuffer_SPI polls =
      if device.jedec = ⟨0, 0, 0⟩ then (.SpiNoDevice, device.chip)
      else if ∀ offset < request.dwActualSize,
          (device.written request abyBuffer_SPI polls).cells (request.dstart_address + offset) = abyBuffer_SPI offset then
        (.Error_Success, device.written request abyBuffer_SPI polls)
      else (.SpiFWCompareFailed, device.written request abyBuffer_SPI polls) := by
  obtain ⟨read, content⟩ := verify_reads device request rom (device.written request abyBuffer_SPI polls).cells
  rw [SpiDevice.loadBinary, flash_found]
  by_cases absent : device.jedec = ⟨0, 0, 0⟩
  · rw [if_pos absent, if_pos absent]
    rfl
  · rw [if_neg absent, if_neg absent, if_pos rfl]
    dsimp only
    rw [← SpiDevice.loading, ← SpiDevice.written, read]
    simp +contextual only [content, ne_eq, show ¬ TRUE = FALSE by decide, not_false_eq_true, true_and]

theorem loading_list (present : device.jedec ≠ ⟨0, 0, 0⟩) :
    (device.loading request).bFlashsst26vf064b = device.jedec.sst26 :=
  list_fits_chip device.jedec (by rw [flash_found, if_neg present])

theorem written_cell (present : device.jedec ≠ ⟨0, 0, 0⟩) (aligned : PageAligned (device.loading request)) (address : Nat) :
    (device.written request abyBuffer_SPI polls).cells address =
      if request.dstart_address ≤ address ∧ address < request.dstart_address + request.dwActualSize then
        abyBuffer_SPI (address - request.dstart_address)
      else if (device.loading request).Clears address then 0xFF else device.hub.flash address := by
  rw [SpiDevice.written, SpiDevice.commands, ← loading_list device request present]
  exact written_contents (device.loading request) abyBuffer_SPI aligned device.chip polls address

theorem spi_flash_written (rom : device.hub.byFeaturesFlag &&& 0x01 = 0) (present : device.jedec ≠ ⟨0, 0, 0⟩)
    (aligned : PageAligned (device.loading request)) :
    (device.loadBinary request abyBuffer_SPI polls).1 = .Error_Success ∧
      ∀ address, (device.loadBinary request abyBuffer_SPI polls).2.cells address =
        if request.dstart_address ≤ address ∧ address < request.dstart_address + request.dwActualSize then
          abyBuffer_SPI (address - request.dstart_address)
        else if (device.loading request).Clears address then 0xFF else device.hub.flash address := by
  have contents := written_cell device request abyBuffer_SPI polls present aligned
  have same : ∀ offset < request.dwActualSize,
      (device.written request abyBuffer_SPI polls).cells (request.dstart_address + offset) = abyBuffer_SPI offset := by
    intro offset small
    rw [contents, if_pos ⟨Nat.le_add_right _ _, Nat.add_lt_add_left small _⟩, Nat.add_sub_cancel_left]
  rw [load_binary_outcome device request abyBuffer_SPI polls rom, if_neg present, if_pos same]
  exact ⟨rfl, contents⟩

end Device

-- A protected SST26 flash of other content, taking two pages at 256.
def sst26Device : SpiDevice :=
  ⟨{ blankHub with flash := fun _ => 0x11 }, ⟨0xBF, 0x26, 0x43⟩, 0x0200, false, fun _ => true⟩

theorem sst26_two_pages : (sst26Device.loadBinary ⟨false, 256, 512, by decide⟩ UInt8.ofNat fun _ _ => 3).1 = .Error_Success ∧
    (sst26Device.loadBinary ⟨false, 256, 512, by decide⟩ UInt8.ofNat fun _ _ => 3).2.cells 300 = 44 ∧
    (sst26Device.loadBinary ⟨false, 256, 512, by decide⟩ UInt8.ofNat fun _ _ => 3).2.cells 255 = 0xFF ∧
    (sst26Device.loadBinary ⟨false, 256, 512, by decide⟩ UInt8.ofNat fun _ _ => 3).2.cells 65536 = 0x11 := by
  have aligned : PageAligned (sst26Device.loading ⟨false, 256, 512, by decide⟩) :=
    ⟨⟨2, rfl⟩, .inr (.inl ⟨1, rfl⟩)⟩
  obtain ⟨success, contents⟩ := spi_flash_written sst26Device ⟨false, 256, 512, by decide⟩ UInt8.ofNat (fun _ _ => 3)
    (by decide) (by decide) aligned
  rw [contents, contents, contents]
  exact ⟨success, by decide, by decide, by decide⟩

-- Whatever was asked for, success is reported for the bytes that are there.
theorem spi_success_iff (device : SpiDevice) (request : Request) (abyBuffer_SPI : Memory UInt8) (polls : Nat → Nat → Nat)
    (rom : device.hub.byFeaturesFlag &&& 0x01 = 0) :
    ((device.loadBinary request abyBuffer_SPI polls).1 = .Error_Success ↔ device.jedec ≠ ⟨0, 0, 0⟩ ∧
      ∀ offset < request.dwActualSize, (device.loadBinary request abyBuffer_SPI polls).2.cells
        (request.dstart_address + offset) = abyBuffer_SPI offset) ∧
    ((device.loadBinary request abyBuffer_SPI polls).1 = .SpiNoDevice →
      (device.loadBinary request abyBuffer_SPI polls).2.cells = device.hub.flash) := by
  rw [load_binary_outcome device request abyBuffer_SPI polls rom]
  by_cases absent : device.jedec = ⟨0, 0, 0⟩
  · rw [if_pos absent]
    exact ⟨⟨SpiError.noConfusion, fun both => absurd absent both.1⟩, fun _ => rfl⟩
  rw [if_neg absent]
  split
  · rename_i same
    exact ⟨⟨fun _ => ⟨absent, same⟩, fun _ => rfl⟩, SpiError.noConfusion⟩
  · rename_i different
    exact ⟨⟨SpiError.noConfusion, fun both => absurd both.2 different⟩, SpiError.noConfusion⟩

theorem sst26_success_iff : (sst26Device.loadBinary ⟨false, 0, 300, by decide⟩ UInt8.ofNat fun _ _ => 0).1 = .Error_Success ↔
    sst26Device.jedec ≠ ⟨0, 0, 0⟩ ∧ ∀ offset < 300,
      (sst26Device.loadBinary ⟨false, 0, 300, by decide⟩ UInt8.ofNat fun _ _ => 0).2.cells (0 + offset) = UInt8.ofNat offset :=
  (spi_success_iff sst26Device ⟨false, 0, 300, by decide⟩ UInt8.ofNat (fun _ _ => 0) (by decide)).1

end SummitSom.Hub
