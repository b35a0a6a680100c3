import SummitSom.Bytes.Blocks
import SummitSom.Hub.SpiProgram

set_option autoImplicit false

namespace SummitSom.Hub

open Bytes

-- The routine that the path of a hub booting from SPI has the hub run.
def abySPIUploadArea : List UInt8 :=
  [0x02, 0x80, 0xA6, 0x90, 0x40, 0x3A, 0xE0, 0xF5, 0xF9, 0x90, 0x40, 0x32, 0xE0, 0xFC, 0xA3, 0xE0,
    0xFD, 0xA3, 0xE0, 0xFE, 0xA3, 0xE0, 0xFF, 0x90, 0x40, 0x3B, 0xE0, 0xF8, 0xA3, 0xE0, 0xF9, 0xA3,
    0xE0, 0xFA, 0xA3, 0xE0, 0xFB, 0xC3, 0xEF, 0x9B, 0xFF, 0xEE, 0x9A, 0xFE, 0xED, 0x99, 0xFD, 0xEC,
    0x98, 0xFC, 0x90, 0x40, 0x32, 0x12, 0x80, 0x9A, 0x90, 0x40, 0x32, 0xA3, 0xA3, 0xE0, 0xFE, 0xA3,
    0xE0, 0xFB, 0xAA, 0x06, 0x90, 0x40, 0x32, 0xA3, 0xA3, 0xE0, 0xFE, 0xA3, 0xE0, 0xFF, 0x90, 0x40,
    0x39, 0xE0, 0x2F, 0xFF, 0x90, 0x40, 0x38, 0xE0, 0x3E, 0xFE, 0xC3, 0xEB, 0x9F, 0xEA, 0x9E, 0x50,
    0x1F, 0x8B, 0x82, 0x8A, 0x83, 0xE4, 0x93, 0xFF, 0x90, 0x40, 0x36, 0xE4, 0x75, 0xF0, 0x01, 0x12,
    0x80, 0x84, 0x85, 0xF0, 0x82, 0xF5, 0x83, 0xEF, 0xF0, 0x0B, 0xBB, 0x00, 0x01, 0x0A, 0x80, 0xC4,
    0x75, 0xF9, 0x98, 0x22, 0xA3, 0xF8, 0xE0, 0xC5, 0xF0, 0x25, 0xF0, 0xF0, 0xE5, 0x82, 0x15, 0x82,
    0x70, 0x02, 0x15, 0x83, 0xE0, 0xC8, 0x38, 0xF0, 0xE8, 0x22, 0xEC, 0xF0, 0xA3, 0xED, 0xF0, 0xA3,
    0xEE, 0xF0, 0xA3, 0xEF, 0xF0, 0x22, 0x02, 0x80, 0x03]

-- A hub with its flash, the page of SRAM laid over its code memory and the five
-- bytes that it takes in while a command goes out. A response that began with
-- 0x05 would be taken for a status command and sent again.
structure SpiHub where
  byFeaturesFlag : UInt8
  flash : Memory UInt8
  sram : Memory UInt8
  header : List UInt8
  header_length : header.length = 5
  quiet : header[0]? ≠ some 0x05

section Hub

variable (hub : SpiHub)

def SpiHub.overlay : Memory UInt8 := write hub.sram 0 abySPIUploadArea

-- The part of the flash that a value of ROM_MAP1 maps below 0x8000.
def romPage (romMap1 : UInt8) : Nat :=
  if romMap1 = 0xFE then 0x18000 else if romMap1 = 0xDC then 0x10000 else if romMap1 = 0xBA then 0x8000 else 0

def SpiHub.code (romMap1 : UInt8) (address : Nat) : UInt8 :=
  if address < 0x8000 then hub.flash (romPage romMap1 + address) else hub.overlay (address - 0x8000)

def bigEndian (bytes : List UInt8) : Nat := bytes.foldl (fun word byte => word * 256 + byte.toNat) 0

-- The bytes that the routine leaves in its buffer.
def SpiHub.routine (parameters : List UInt8) : List UInt8 :=
  let start := (bigEndian (parameters.take 4) + 4294967296 - bigEndian (parameters.drop 9)) % 65536
  (List.range (bigEndian ((parameters.drop 6).take 2))).map fun index => hub.code (parameters.getD 8 0) (start + index)

def bufTemp (i : Nat) : List UInt8 :=
  [UInt8.ofNat (i / 16777216), UInt8.ofNat (i / 65536), UInt8.ofNat (i / 256), UInt8.ofNat i, 0x4C, 0x00, 0x04, 0x00] ++
    if i ≥ 0x8000 then
      if i ≥ 0x10000 then
        if i ≥ 0x18000 then [0xFE, 0x00, 0x01, 0x80, 0x00] else [0xDC, 0x00, 0x01, 0x00, 0x00]
      else [0xBA, 0x00, 0x00, 0x80, 0x00]
    else [0x98, 0x00, 0x00, 0x00, 0x00]

def pageRead (i : Nat) : List UInt8 :=
  [0x0B, UInt8.ofNat (i / 65536), UInt8.ofNat (i / 256), UInt8.ofNat i, 0x00]

-- The response of MAX_READ_SIZE bytes to a page read.
def SpiHub.response (command : List UInt8) : List UInt8 :=
  match command with
  | [0x0B, high, middle, low, _] =>
      hub.header ++ (List.range 512).map fun index => hub.flash (commandAddress high middle low + index)
  | _ => hub.header ++ List.replicate 512 0xFF

def blockSize (spi : Bool) : Nat := if spi then 1024 else 512

def SpiHub.block (spi : Bool) (i : Nat) : List UInt8 :=
  if spi then (hub.routine (bufTemp i)).take (blockSize spi) else ((hub.response (pageRead i)).drop 5).take (blockSize spi)

-- The copies into SPIUploadData, each with the offset that it starts at.
def readLoop (spi : Bool) (dend_address_ul i j : Nat) : List (Nat × List UInt8) :=
  if i < dend_address_ul then
    (j, hub.block spi i) :: readLoop spi dend_address_ul (i + blockSize spi) (j + blockSize spi)
  else []
termination_by dend_address_ul - i
decreasing_by
  have positive : 0 < blockSize spi := by cases spi <;> decide
  omega

def athensReadSPICode (spi : Bool) (dstart_address dend_address_ul : Nat) : Int × List (Nat × List UInt8) :=
  if dend_address_ul < dstart_address then (FALSE, []) else (TRUE, readLoop hub spi dend_address_ul dstart_address 0)

def athensReadSPICodeSPIROM (dstart_address dend_address_ul : Nat) : Int × List (Nat × List UInt8) :=
  athensReadSPICode hub true dstart_address dend_address_ul

def athensReadSPICodeIntROM (dstart_address dend_address_ul : Nat) : Int × List (Nat × List UInt8) :=
  athensReadSPICode hub false dstart_address dend_address_ul

def athensReadSPIFlash (dstart_address dend_address_ul : Nat) : Int × List (Nat × List UInt8) :=
  if hub.byFeaturesFlag &&& 0x01 ≠ 0 then athensReadSPICodeSPIROM hub dstart_address dend_address_ul
  else athensReadSPICodeIntROM hub dstart_address dend_address_ul

def Accepted (StartAddr BytesToRead : UInt32) : Prop := ¬ (StartAddr + BytesToRead).toNat > 131072

instance (StartAddr BytesToRead : UInt32) : Decidable (Accepted StartAddr BytesToRead) := inferInstanceAs (Decidable (¬ _))

def mchpUsbSpiFlashRead (StartAddr BytesToRead : UInt32) : Int × List (Nat × List UInt8) :=
  if Accepted StartAddr BytesToRead then athensReadSPIFlash hub StartAddr.toNat (StartAddr + BytesToRead).toNat
  else (FALSE, [])

structure FlashRead (StartAddr BytesToRead : UInt32) : Prop where
  inside : StartAddr.toNat + BytesToRead.toNat ≤ 131072
  exactly : ∀ offset, Covers (mchpUsbSpiFlashRead hub StartAddr BytesToRead).2 offset ↔ offset < BytesToRead.toNat
  content : ∀ InputData, ∀ offset < BytesToRead.toNat,
    writes InputData (mchpUsbSpiFlashRead hub StartAddr BytesToRead).2 offset = hub.flash (StartAddr.toNat + offset)
  agree : ∀ InputData,
    (athensReadSPICodeIntROM hub StartAddr.toNat (StartAddr + BytesToRead).toNat).map id (writes InputData) =
      (athensReadSPICodeSPIROM hub StartAddr.toNat (StartAddr + BytesToRead).toNat).map id (writes InputData)

-- Where an offset of the read lies in the mapped page.
def mappedPlace (StartAddr : UInt32) (offset : Nat) : Nat :=
  (StartAddr.toNat + offset / 1024 * 1024) % 32768 + offset % 1024

structure ReadWhole (StartAddr BytesToRead : UInt32) : Prop where
  inside : StartAddr.toNat + BytesToRead.toNat ≤ 131072
  whole : 1024 ∣ BytesToRead.toNat
  in_page : ∀ offset < BytesToRead.toNat, 32768 ≤ mappedPlace StartAddr offset →
    hub.overlay (mappedPlace StartAddr offset - 32768) = hub.flash (StartAddr.toNat + offset)

-- What either path puts at an index of the block from i on.
def SpiHub.cell (spi : Bool) (i index : Nat) : UInt8 :=
  if spi = true ∧ 32768 ≤ i % 32768 + index then hub.overlay (i % 32768 + index - 32768) else hub.flash (i + index)

def blockCount (spi : Bool) (size : Nat) : Nat := (size + blockSize spi - 1) / blockSize spi

theorem rom_block (i : Nat) (small : i < 131072) :
    hub.block false i = (List.range 512).map (hub.cell false i) := by
  have answered : hub.response (pageRead i) = hub.header ++ (List.range 512).map fun index => hub.flash (i + index) := by
    rw [pageRead, SpiHub.response, command_address i (by omega)]
  have cells : (fun index => hub.flash (i + index)) = hub.cell false i := by
    funext index
    rw [SpiHub.cell, if_neg fun both => Bool.false_ne_true both.1]
  rw [SpiHub.block, if_neg Bool.false_ne_true, answered, cells, ← hub.header_length, List.drop_left,
    List.take_of_length_le]
  rw [List.length_map, List.length_range, blockSize, if_neg Bool.false_ne_true]

theorem mapped_page (i : Nat) (small : i < 131072) :
    romPage ((bufTemp i).getD 8 0) = i / 32768 * 32768 ∧ bigEndian ((bufTemp i).drop 9) = i / 32768 * 32768 := by
  rw [bufTemp]
  split
  · split
    · split
      · have third : i / 32768 = 3 := by omega
        rw [third]
        simp [romPage, bigEndian]
      · have second : i / 32768 = 2 := by omega
        rw [second]
        simp [romPage, bigEndian]
    · have first : i / 32768 = 1 := by omega
      rw [first]
      simp [romPage, bigEndian]
  · have zeroth : i / 32768 = 0 := by omega
    rw [zeroth]
    simp [romPage, bigEndian]

theorem address_sent (i : Nat) (small : i < 131072) : bigEndian ((bufTemp i).take 4) = i := by
  simp only [bufTemp, List.cons_append, List.take_succ_cons, List.take_zero, bigEndian, List.foldl_cons, List.foldl_nil,
    UInt8.toNat_ofNat']
  omega

theorem spi_block (i : Nat) (small : i < 131072) :
    hub.block true i = (List.range 1024).map (hub.cell true i) := by
  obtain ⟨page, offset⟩ := mapped_page i small
  have start : (bigEndian ((bufTemp i).take 4) + 4294967296 - bigEndian ((bufTemp i).drop 9)) % 65536 = i % 32768 := by
    rw [address_sent i small, offset]
    omega
  have size : bigEndian (((bufTemp i).drop 6).take 2) = 1024 := rfl
  rw [SpiHub.block, if_pos rfl, SpiHub.routine, start, size, List.take_of_length_le]
  · apply List.map_congr_left
    intro index _
    have place : i / 32768 * 32768 + (i % 32768 + index) = i + index := by omega
    rw [SpiHub.code, SpiHub.cell, page, place]
    by_cases beyond : 32768 ≤ i % 32768 + index
    · rw [if_neg (by omega), if_pos ⟨rfl, beyond⟩]
    · rw [if_pos (by omega), if_neg fun both => beyond both.2]
  · rw [List.length_map, List.length_range]
    exact Nat.le_refl 1024

theorem block_cells (spi : Bool) (i : Nat) (small : i < 131072) :
    hub.block spi i = (List.range (blockSize spi)).map (hub.cell spi i) := by
  cases spi with
  | false => exact rom_block hub i small
  | true => exact spi_block hub i small

theorem read_loop_blocks (spi : Bool) (dend_address_ul : Nat) (inside : dend_address_ul ≤ 131072) (count i j : Nat)
    (all : ∀ block, block < count ↔ i + block * blockSize spi < dend_address_ul) :
    readLoop hub spi dend_address_ul i j = (List.range count).map fun block =>
      (j + block * blockSize spi, (List.range (blockSize spi)).map (hub.cell spi (i + block * blockSize spi))) := by
  induction count generalizing i j with
  | zero =>
      have ended := (all 0).not.mp (Nat.lt_irrefl 0)
      rw [Nat.zero_mul, Nat.add_zero] at ended
      rw [readLoop, if_neg ended, List.range_zero, List.map_nil]
  | succ count ih =>
      have first := (all 0).mp (Nat.succ_pos count)
      rw [Nat.zero_mul, Nat.add_zero] at first
      have rest : ∀ block, block < count ↔ i + blockSize spi + block * blockSize spi < dend_address_ul := by
        intro block
        have next := all (block + 1)
        rw [Nat.succ_mul] at next
        omega
      have onward := ih (i + blockSize spi) (j + blockSize spi) rest
      rw [readLoop, if_pos first, onward, block_cells hub spi i (by omega), List.range_succ_eq_map, List.map_cons,
        List.map_map, Nat.zero_mul, Nat.add_zero, Nat.add_zero]
      congr 1
      apply List.map_congr_left
      intro block _
      rw [Function.comp_apply, Nat.succ_mul, Nat.add_comm (block * blockSize spi), ← Nat.add_assoc, ← Nat.add_assoc]

theorem path_blocks (spi : Bool) (start size : Nat) (inside : start + size ≤ 131072) :
    athensReadSPICode hub spi start (start + size) =
      (TRUE, blocks (blockSize spi) (blockCount spi size) fun block => hub.cell spi (start + block * blockSize spi)) := by
  have all : ∀ block, block < blockCount spi size ↔ start + block * blockSize spi < start + size := by
    intro block
    cases spi with
    | false =>
        simp only [blockCount, blockSize, Bool.false_eq_true, if_false]
        omega
    | true =>
        simp only [blockCount, blockSize, if_true]
        omega
  rw [athensReadSPICode, if_neg (by omega), read_loop_blocks hub spi (start + size) inside (blockCount spi size) start 0 all]
  simp only [blocks, Nat.zero_add]

section Accepted

variable (StartAddr BytesToRead : UInt32)

theorem sum_kept (inside : StartAddr.toNat + BytesToRead.toNat ≤ 131072) :
    (StartAddr + BytesToRead).toNat = StartAddr.toNat + BytesToRead.toNat := by
  rw [UInt32.toNat_add]
  omega

-- Without a wrap the flag only chooses between the two paths.
theorem read_path (inside : StartAddr.toNat + BytesToRead.toNat ≤ 131072) :
    ∃ spi, mchpUsbSpiFlashRead hub StartAddr BytesToRead =
      athensReadSPICode hub spi StartAddr.toNat (StartAddr.toNat + BytesToRead.toNat) := by
  have sum := sum_kept StartAddr BytesToRead inside
  have accepted : Accepted StartAddr BytesToRead := by
    rw [Accepted, sum]
    omega
  rw [mchpUsbSpiFlashRead, if_pos accepted, athensReadSPIFlash, sum]
  split
  · exact ⟨true, rfl⟩
  · exact ⟨false, rfl⟩

theorem cells_counted (spi : Bool) (size : Nat) :
    size ≤ blockCount spi size * blockSize spi ∧ (1024 ∣ size → blockCount spi size * blockSize spi = size) := by
  cases spi with
  | false =>
      simp only [blockCount, blockSize, Bool.false_eq_true, if_false]
      omega
  | true =>
      simp only [blockCount, blockSize, if_true]
      omega

theorem spi_cell (offset : Nat) :
    hub.cell true (StartAddr.toNat + offset / 1024 * 1024) (offset % 1024) = hub.flash (StartAddr.toNat + offset) ↔
      (32768 ≤ mappedPlace StartAddr offset →
        hub.overlay (mappedPlace StartAddr offset - 32768) = hub.flash (StartAddr.toNat + offset)) := by
  have place : StartAddr.toNat + offset / 1024 * 1024 + offset % 1024 = StartAddr.toNat + offset := by omega
  rw [SpiHub.cell, place, mappedPlace]
  by_cases beyond : 32768 ≤ (StartAddr.toNat + offset / 1024 * 1024) % 32768 + offset % 1024
  · rw [if_pos ⟨rfl, beyond⟩]
    exact ⟨fun same _ => same, fun same => same beyond⟩
  · rw [if_neg fun both => beyond both.2]
    exact iff_of_true rfl fun there => absurd there beyond

end Accepted

section Whole

variable (StartAddr BytesToRead : UInt32)

def received (spi : Bool) (InputData : Memory UInt8) : Memory UInt8 :=
  writes InputData (athensReadSPICode hub spi StartAddr.toNat (StartAddr.toNat + BytesToRead.toNat)).2

theorem received_inside (inside : StartAddr.toNat + BytesToRead.toNat ≤ 131072) (spi : Bool) (InputData : Memory UInt8)
    (offset : Nat) (there : offset < blockCount spi BytesToRead.toNat * blockSize spi) :
    received hub StartAddr BytesToRead spi InputData offset =
      hub.cell spi (StartAddr.toNat + offset / blockSize spi * blockSize spi) (offset % blockSize spi) := by
  rw [received, path_blocks hub spi _ _ inside]
  exact blocks_written _ _ _ InputData offset there

theorem received_kept (inside : StartAddr.toNat + BytesToRead.toNat ≤ 131072) (spi : Bool) (InputData : Memory UInt8)
    (offset : Nat) (beyond : blockCount spi BytesToRead.toNat * blockSize spi ≤ offset) :
    received hub StartAddr BytesToRead spi InputData offset = InputData offset := by
  rw [received, path_blocks hub spi _ _ inside]
  exact blocks_kept _ _ _ InputData offset beyond

theorem path_cover (inside : StartAddr.toNat + BytesToRead.toNat ≤ 131072) (spi : Bool) (offset : Nat) :
    Covers (athensReadSPICode hub spi StartAddr.toNat (StartAddr.toNat + BytesToRead.toNat)).2 offset ↔
      offset < blockCount spi BytesToRead.toNat * blockSize spi := by
  rw [path_blocks hub spi _ _ inside]
  exact blocks_cover _ _ _ offset

theorem paths_agree_iff (inside : StartAddr.toNat + BytesToRead.toNat ≤ 131072) :
    (∀ InputData,
      (athensReadSPICodeIntROM hub StartAddr.toNat (StartAddr + BytesToRead).toNat).map id (writes InputData) =
        (athensReadSPICodeSPIROM hub StartAddr.toNat (StartAddr + BytesToRead).toNat).map id (writes InputData)) ↔
      ∀ InputData, received hub StartAddr BytesToRead false InputData = received hub StartAddr BytesToRead true InputData := by
  rw [sum_kept StartAddr BytesToRead inside, athensReadSPICodeIntROM, athensReadSPICodeSPIROM,
    path_blocks hub false _ _ inside, path_blocks hub true _ _ inside]
  simp only [received, path_blocks hub _ _ _ inside, Prod.map_apply, Prod.mk.injEq, true_and]

-- A size between two blocks of the larger kind shows in the cell behind it.
theorem whole_of_agree (inside : StartAddr.toNat + BytesToRead.toNat ≤ 131072) (spi : Bool)
    (exactly : ∀ offset, offset < blockCount spi BytesToRead.toNat * blockSize spi ↔ offset < BytesToRead.toNat)
    (agree : ∀ InputData,
      received hub StartAddr BytesToRead false InputData = received hub StartAddr BytesToRead true InputData) :
    1024 ∣ BytesToRead.toNat := by
  by_contra uneven
  have behind : BytesToRead.toNat < blockCount true BytesToRead.toNat * blockSize true := by
    simp only [blockCount, blockSize, if_true]
    omega
  cases spi with
  | true =>
      have none := (exactly BytesToRead.toNat).mp behind
      omega
  | false =>
      let copied := hub.cell true (StartAddr.toNat + BytesToRead.toNat / blockSize true * blockSize true)
        (BytesToRead.toNat % blockSize true)
      have same := congrFun (agree fun _ => copied + 1) BytesToRead.toNat
      have kept := (exactly BytesToRead.toNat).not.mpr (Nat.lt_irrefl _)
      rw [received_kept hub StartAddr BytesToRead inside false _ _ (Nat.le_of_not_lt kept),
        received_inside hub StartAddr BytesToRead inside true _ _ behind] at same
      exact absurd same (by simp [copied])

theorem read_whole (read : FlashRead hub StartAddr BytesToRead) : ReadWhole hub StartAddr BytesToRead := by
  have inside := read.inside
  obtain ⟨spi, path⟩ := read_path hub StartAddr BytesToRead inside
  have agree := (paths_agree_iff hub StartAddr BytesToRead inside).mp read.agree
  have whole : 1024 ∣ BytesToRead.toNat := by
    apply whole_of_agree hub StartAddr BytesToRead inside spi ?_ agree
    intro offset
    rw [← path_cover hub StartAddr BytesToRead inside spi offset, ← path]
    exact read.exactly offset
  refine ⟨inside, whole, ?_⟩
  intro offset small
  rw [← spi_cell]
  have counted := (cells_counted true BytesToRead.toNat).1
  have copied := received_inside hub StartAddr BytesToRead inside true (fun _ => 0) offset (by omega)
  have right : received hub StartAddr BytesToRead spi (fun _ => 0) offset = hub.flash (StartAddr.toNat + offset) := by
    rw [received, ← path]
    exact read.content (fun _ => 0) offset small
  have same : received hub StartAddr BytesToRead true (fun _ => 0) = received hub StartAddr BytesToRead spi (fun _ => 0) := by
    cases spi with
    | true => rfl
    | false => exact (agree fun _ => 0).symm
  exact copied.symm.trans ((congrFun same offset).trans right)

theorem received_whole (whole : ReadWhole hub StartAddr BytesToRead) (spi : Bool) (InputData : Memory UInt8) (offset : Nat)
    (small : offset < BytesToRead.toNat) :
    received hub StartAddr BytesToRead spi InputData offset = hub.flash (StartAddr.toNat + offset) := by
  have counted := (cells_counted spi BytesToRead.toNat).1
  rw [received_inside hub StartAddr BytesToRead whole.inside spi InputData offset (by omega)]
  cases spi with
  | true => exact (spi_cell hub StartAddr offset).mpr (whole.in_page offset small)
  | false =>
      rw [SpiHub.cell, if_neg fun both => Bool.false_ne_true both.1]
      simp only [blockSize, Bool.false_eq_true, if_false]
      congr 1
      omega

theorem flash_read (whole : ReadWhole hub StartAddr BytesToRead) : FlashRead hub StartAddr BytesToRead := by
  obtain ⟨spi, path⟩ := read_path hub StartAddr BytesToRead whole.inside
  have counted := fun spi => (cells_counted spi BytesToRead.toNat).2 whole.whole
  refine ⟨whole.inside, ?_, ?_, ?_⟩
  · intro offset
    rw [path, path_cover hub StartAddr BytesToRead whole.inside, counted]
  · intro InputData offset small
    rw [path]
    exact received_whole hub StartAddr BytesToRead whole spi InputData offset small
  · rw [paths_agree_iff hub StartAddr BytesToRead whole.inside]
    intro InputData
    funext offset
    by_cases small : offset < BytesToRead.toNat
    · rw [received_whole hub StartAddr BytesToRead whole false InputData offset small,
        received_whole hub StartAddr BytesToRead whole true InputData offset small]
    · have behind := fun spi => received_kept hub StartAddr BytesToRead whole.inside spi InputData offset
        (by rw [counted]; exact Nat.le_of_not_lt small)
      rw [behind false, behind true]

theorem spi_read_iff : (Accepted StartAddr BytesToRead → FlashRead hub StartAddr BytesToRead) ↔
    (Accepted StartAddr BytesToRead → ReadWhole hub StartAddr BytesToRead) :=
  ⟨fun read accepted => read_whole hub StartAddr BytesToRead (read accepted),
    fun whole accepted => flash_read hub StartAddr BytesToRead (whole accepted)⟩

end Whole

end Hub

def blankHub : SpiHub := ⟨0, fun _ => 0xFF, fun _ => 0, List.replicate 5 0xFF, rfl, by decide⟩

-- A read of one byte writes 512 bytes of the caller's buffer.
theorem spi_read_one : ¬ ∀ (hub : SpiHub) (StartAddr BytesToRead : UInt32), Accepted StartAddr BytesToRead →
    FlashRead hub StartAddr BytesToRead := by
  intro all
  have whole := read_whole blankHub 0 1 (all blankHub 0 1 (by decide))
  exact absurd whole.whole (by decide)

end SummitSom.Hub
