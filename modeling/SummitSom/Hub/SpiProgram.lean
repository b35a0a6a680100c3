import SummitSom.Hub.Otp
import Mathlib.Tactic.IntervalCases

set_option autoImplicit false

namespace SummitSom.Hub

open Bytes

inductive Download where
  | bytes128
  | bytes256
deriving DecidableEq

def Download.size : Download → Nat
  | .bytes128 => 128
  | .bytes256 => 256

-- A call of LoadBinary inside the first 128 KiB, where it never erases the chip.
structure LoadBinary where
  MAX_DOWNLOAD_SIZE : Download
  bFlashsst26vf064b : Bool
  bErasePgmArea : Bool
  dstart_address : Nat
  dwActualSize : Nat
  inside : dstart_address + dwActualSize ≤ 131072

structure Page where
  j : Nat
  wSize : Nat
deriving DecidableEq

-- Where the number of bytes left over is meant, the code takes the number by
-- which i is past the end.
def programLoop (call : LoadBinary) (i : Nat) : List Page :=
  if i < call.dwActualSize + call.dstart_address then
    ⟨i, call.MAX_DOWNLOAD_SIZE.size⟩ :: programLoop call (i + call.MAX_DOWNLOAD_SIZE.size)
  else
    let dwcond := i - (call.dwActualSize + call.dstart_address)
    if dwcond < call.MAX_DOWNLOAD_SIZE.size ∧ dwcond ≠ 0 then
      ⟨i - call.MAX_DOWNLOAD_SIZE.size + dwcond, dwcond⟩ :: programLoop call (i + call.MAX_DOWNLOAD_SIZE.size)
    else []
termination_by call.dwActualSize + call.dstart_address + call.MAX_DOWNLOAD_SIZE.size - i
decreasing_by
  all_goals
    have positive : 0 < call.MAX_DOWNLOAD_SIZE.size := by cases call.MAX_DOWNLOAD_SIZE <;> decide
    omega

def LoadBinary.pages (call : LoadBinary) : List Page := programLoop call call.dstart_address

def Page.command (page : Page) (call : LoadBinary) (abyBuffer_SPI : Memory UInt8) : List UInt8 :=
  [0x02, UInt8.ofNat (page.j / 65536), UInt8.ofNat (page.j / 256), UInt8.ofNat page.j] ++
    (List.range page.wSize).map fun index => abyBuffer_SPI (page.j - call.dstart_address + index)

def blockErase (chosen : Bool) (high middle : UInt8) : List UInt8 :=
  if chosen then [0xD8, high, middle, 0x00] else [0x00, 0x00, 0x00, 0x00]

-- Whether the block below and the block above 64 KiB are erased.
def LoadBinary.low (call : LoadBinary) : Bool := ¬ call.dstart_address > 0x0FFFF

def LoadBinary.high (call : LoadBinary) : Bool :=
  call.dstart_address > 0x0FFFF ∨ call.dwActualSize + call.dstart_address > 65536 ∨ call.bErasePgmArea = true

inductive Entry where
  | send (pbyBuffer : List UInt8)
  | fetch
deriving DecidableEq

def rdsr : List Entry := [.send [0x05, 0x00], .fetch]

def wren : Entry := .send [0x06]

def erasing (block : List UInt8) : List Entry := [wren] ++ rdsr ++ [.send block] ++ rdsr

def opening (unprotect : List UInt8) : List Entry :=
  [.send [0x9F], .fetch, wren] ++ rdsr ++ [.send unprotect] ++ rdsr

-- gasSPICmdList and gasSPICmdList_SST26VF064B up to the page program.
def commandsBefore (bFlashsst26vf064b low high : Bool) : List Entry :=
  if bFlashsst26vf064b then
    opening [0x98] ++ erasing (blockErase low 0x00 0x00) ++ erasing (blockErase low 0x00 0x20) ++
      erasing (blockErase low 0x00 0x40) ++ erasing (blockErase low 0x00 0x60) ++ erasing (blockErase low 0x00 0x80) ++
      erasing (blockErase high 0x01 0x00) ++ rdsr ++ [wren] ++ rdsr
  else
    opening [0x01, 0x00] ++ erasing (blockErase low 0x00 0x00) ++ erasing (blockErase high 0x01 0x00) ++ rdsr ++ [wren] ++
      rdsr

def LoadBinary.gpSPICmdList (call : LoadBinary) : List Entry :=
  commandsBefore call.bFlashsst26vf064b call.low call.high ++ .send (0x02 :: List.replicate 259 0x00) :: rdsr

def LoadBinary.programIndex (call : LoadBinary) : Nat := if call.bFlashsst26vf064b then 49 else 25

def Entry.sent : Entry → List (List UInt8)
  | .send pbyBuffer => [pbyBuffer]
  | .fetch => []

-- The entry at the index stands for the loop over the pages.
def LoadBinary.entrySent (call : LoadBinary) (abyBuffer_SPI : Memory UInt8) (entry : Entry × Nat) : List (List UInt8) :=
  if entry.2 ≠ call.programIndex then entry.1.sent else call.pages.map fun page => page.command call abyBuffer_SPI

def LoadBinary.sent (call : LoadBinary) (abyBuffer_SPI : Memory UInt8) : List (List UInt8) :=
  call.gpSPICmdList.zipIdx.flatMap (call.entrySent abyBuffer_SPI)

-- What the flash does with a command. The data of a page program wrap round
-- inside the page of 256 bytes they start in.
def commandAddress (high middle low : UInt8) : Nat := high.toNat * 65536 + middle.toNat * 256 + low.toNat

def pageCell (address index : Nat) : Nat := address - address % 256 + (address % 256 + index) % 256

def programmedCells : List UInt8 → List (Nat × UInt8)
  | opcode :: high :: middle :: low :: data =>
      if opcode = 0x02 then data.zipIdx.map fun cell => (pageCell (commandAddress high middle low) cell.2, cell.1) else []
  | _ => []

-- The blocks of the first 128 KiB: of 64 KiB, or four of 8 KiB and one of 32
-- below the first of 64.
def blockOf (bFlashsst26vf064b : Bool) (address : Nat) : Nat × Nat :=
  if bFlashsst26vf064b ∧ address < 32768 then (address / 8192 * 8192, 8192)
  else if bFlashsst26vf064b ∧ address < 65536 then (32768, 32768)
  else (address / 65536 * 65536, 65536)

def erasedBlock (bFlashsst26vf064b : Bool) : List UInt8 → Option (Nat × Nat)
  | [opcode, high, middle, low] =>
      if opcode = 0xD8 then some (blockOf bFlashsst26vf064b (commandAddress high middle low)) else none
  | _ => none

structure Programmed (call : LoadBinary) (abyBuffer_SPI : Memory UInt8) : Prop where
  exactly : ∀ address byte, (∃ command ∈ call.sent abyBuffer_SPI, (address, byte) ∈ programmedCells command) ↔
    Within call.dstart_address call.dwActualSize address ∧ byte = abyBuffer_SPI (address - call.dstart_address)
  in_source : ∀ page ∈ call.pages, page.j - call.dstart_address + page.wSize ≤ call.dwActualSize
  in_page : ∀ page ∈ call.pages, page.j % 256 + page.wSize ≤ 256
  erased : ∀ before command after, call.sent abyBuffer_SPI = before ++ command :: after →
    ∀ cell ∈ programmedCells command, ∃ earlier ∈ before, ∃ block, erasedBlock call.bFlashsst26vf064b earlier = some block ∧
      Within block.1 block.2 cell.1

structure PageAligned (call : LoadBinary) : Prop where
  whole : call.MAX_DOWNLOAD_SIZE.size ∣ call.dwActualSize
  aligned : call.dwActualSize = 0 ∨ call.MAX_DOWNLOAD_SIZE.size ∣ call.dstart_address ∨
    (call.dwActualSize = call.MAX_DOWNLOAD_SIZE.size ∧
      call.dstart_address % 256 + call.MAX_DOWNLOAD_SIZE.size ≤ 256)

theorem download_size (download : Download) : download.size = 128 ∨ download.size = 256 := by
  cases download <;> decide

section Loop

variable (call : LoadBinary)

theorem loop_full (i : Nat) (inside : i < call.dwActualSize + call.dstart_address) :
    programLoop call i = ⟨i, call.MAX_DOWNLOAD_SIZE.size⟩ :: programLoop call (i + call.MAX_DOWNLOAD_SIZE.size) := by
  rw [programLoop, if_pos inside]

theorem loop_ended : programLoop call (call.dwActualSize + call.dstart_address) = [] := by
  rw [programLoop, if_neg (Nat.lt_irrefl _)]
  simp

-- Every chunk that starts in the range is programmed in full.
theorem full_page (chunks i : Nat)
    (inside : i + chunks * call.MAX_DOWNLOAD_SIZE.size < call.dwActualSize + call.dstart_address) :
    ⟨i + chunks * call.MAX_DOWNLOAD_SIZE.size, call.MAX_DOWNLOAD_SIZE.size⟩ ∈ programLoop call i := by
  induction chunks generalizing i with
  | zero =>
      rw [Nat.zero_mul, Nat.add_zero] at inside ⊢
      rw [loop_full call i inside]
      exact List.mem_cons_self
  | succ chunks ih =>
      have next : i + (chunks + 1) * call.MAX_DOWNLOAD_SIZE.size =
          i + call.MAX_DOWNLOAD_SIZE.size + chunks * call.MAX_DOWNLOAD_SIZE.size := by
        rw [Nat.succ_mul]
        omega
      rw [next] at inside ⊢
      rw [loop_full call i (by omega)]
      exact List.mem_cons_of_mem _ (ih (i + call.MAX_DOWNLOAD_SIZE.size) inside)

theorem whole_pages (chunks i : Nat)
    (ends : call.dwActualSize + call.dstart_address = i + chunks * call.MAX_DOWNLOAD_SIZE.size) :
    programLoop call i =
      (List.range chunks).map fun chunk => ⟨i + chunk * call.MAX_DOWNLOAD_SIZE.size, call.MAX_DOWNLOAD_SIZE.size⟩ := by
  induction chunks generalizing i with
  | zero =>
      rw [Nat.zero_mul, Nat.add_zero] at ends
      rw [← ends, loop_ended, List.range_zero, List.map_nil]
  | succ chunks ih =>
      have positive : 0 < call.MAX_DOWNLOAD_SIZE.size := by
        have size := download_size call.MAX_DOWNLOAD_SIZE
        omega
      rw [Nat.succ_mul] at ends
      rw [loop_full call i (by omega), ih (i + call.MAX_DOWNLOAD_SIZE.size) (by omega), List.range_succ_eq_map,
        List.map_cons, List.map_map, Nat.zero_mul, Nat.add_zero]
      congr 1
      apply List.map_congr_left
      intro chunk _
      simp only [Function.comp_apply, Page.mk.injEq, and_true, Nat.succ_eq_add_one, Nat.succ_mul]
      omega

theorem aligned_of_pages (source : ∀ page ∈ call.pages, page.j - call.dstart_address + page.wSize ≤ call.dwActualSize)
    (inside : ∀ page ∈ call.pages, page.j % 256 + page.wSize ≤ 256) : PageAligned call := by
  have size := download_size call.MAX_DOWNLOAD_SIZE
  have there := fun chunks => full_page call chunks call.dstart_address
  have rest := Nat.div_add_mod call.dwActualSize call.MAX_DOWNLOAD_SIZE.size
  have small := Nat.mod_lt call.dwActualSize (by omega : 0 < call.MAX_DOWNLOAD_SIZE.size)
  have whole : call.MAX_DOWNLOAD_SIZE.size ∣ call.dwActualSize := by
    by_contra uneven
    have some_rest : call.dwActualSize % call.MAX_DOWNLOAD_SIZE.size ≠ 0 := fun zero =>
      uneven (Nat.dvd_of_mod_eq_zero zero)
    have last := source _ (there (call.dwActualSize / call.MAX_DOWNLOAD_SIZE.size) (by rw [Nat.mul_comm]; omega))
    simp only [Nat.add_sub_cancel_left, Nat.mul_comm (call.dwActualSize / call.MAX_DOWNLOAD_SIZE.size)] at last
    omega
  refine ⟨whole, ?_⟩
  by_cases none : call.dwActualSize = 0
  · exact .inl none
  have first := inside _ (there 0 (by omega))
  simp only [Nat.zero_mul, Nat.add_zero] at first
  by_cases one : call.dwActualSize = call.MAX_DOWNLOAD_SIZE.size
  · exact .inr (.inr ⟨one, first⟩)
  · have least := Nat.le_of_dvd (by omega) whole
    have second := inside _ (there 1 (by omega))
    simp only [Nat.one_mul] at second
    have even : call.dstart_address % call.MAX_DOWNLOAD_SIZE.size = 0 := by
      rcases size with short | long
      · rw [short] at first second ⊢
        omega
      · rw [long] at first ⊢
        omega
    exact .inr (.inl (Nat.dvd_of_mod_eq_zero even))

end Loop

section Sent

variable (call : LoadBinary) (abyBuffer_SPI : Memory UInt8)

theorem aligned_page (aligned : PageAligned call) (page : Page) :
    page ∈ call.pages ↔ ∃ chunk < call.dwActualSize / call.MAX_DOWNLOAD_SIZE.size,
      page = ⟨call.dstart_address + chunk * call.MAX_DOWNLOAD_SIZE.size, call.MAX_DOWNLOAD_SIZE.size⟩ := by
  have ends := Nat.div_mul_cancel aligned.whole
  rw [LoadBinary.pages, whole_pages call (call.dwActualSize / call.MAX_DOWNLOAD_SIZE.size) call.dstart_address (by omega)]
  simp only [List.mem_map, List.mem_range]
  exact ⟨fun ⟨chunk, small, same⟩ => ⟨chunk, small, same.symm⟩, fun ⟨chunk, small, same⟩ => ⟨chunk, small, same.symm⟩⟩

theorem aligned_inside (aligned : PageAligned call) (page : Page) (there : page ∈ call.pages) :
    page.j - call.dstart_address + page.wSize ≤ call.dwActualSize ∧ page.j % 256 + page.wSize ≤ 256 ∧
      call.dstart_address ≤ page.j := by
  obtain ⟨chunk, small, rfl⟩ := (aligned_page call aligned page).mp there
  have size := download_size call.MAX_DOWNLOAD_SIZE
  have last : (chunk + 1) * call.MAX_DOWNLOAD_SIZE.size ≤ call.dwActualSize :=
    Nat.le_trans (Nat.mul_le_mul_right _ small) (Nat.div_mul_le_self _ _)
  rw [Nat.succ_mul] at last
  refine ⟨by simp only [Nat.add_sub_cancel_left]; exact last, ?_, Nat.le_add_right _ _⟩
  rcases aligned.aligned with none | even | ⟨one, first⟩
  · omega
  · obtain ⟨blocks, same⟩ := even
    have position : call.dstart_address + chunk * call.MAX_DOWNLOAD_SIZE.size =
        call.MAX_DOWNLOAD_SIZE.size * (blocks + chunk) := by
      rw [same, Nat.mul_add, Nat.mul_comm chunk]
    simp only [position]
    rcases size with short | long
    · rw [short]
      omega
    · rw [long]
      omega
  · have zero : chunk = 0 := by
      rw [one, Nat.div_self (by omega)] at small
      omega
    subst zero
    simp only [Nat.zero_mul, Nat.add_zero]
    exact first

theorem command_address (address : Nat) (small : address < 16777216) :
    commandAddress (UInt8.ofNat (address / 65536)) (UInt8.ofNat (address / 256)) (UInt8.ofNat address) = address := by
  simp only [commandAddress, UInt8.toNat_ofNat']
  omega

theorem page_programmed (page : Page) (small : page.j < 16777216) (inside : page.j % 256 + page.wSize ≤ 256)
    (cell : Nat × UInt8) : cell ∈ programmedCells (page.command call abyBuffer_SPI) ↔
      ∃ index < page.wSize, cell = (page.j + index, abyBuffer_SPI (page.j - call.dstart_address + index)) := by
  have straight : ∀ index < page.wSize, pageCell page.j index = page.j + index := by
    intro index less
    simp only [pageCell]
    omega
  simp only [Page.command, List.cons_append, List.nil_append, programmedCells, if_true, command_address page.j small, List.mem_map,
    List.mem_zipIdx_iff_getElem?, List.getElem?_map]
  constructor
  · rintro ⟨⟨byte, index⟩, found, rfl⟩
    have in_range : (List.range page.wSize)[index]?.map (fun index => abyBuffer_SPI (page.j - call.dstart_address + index)) =
        some byte := found
    obtain ⟨place, there, rfl⟩ := Option.map_eq_some_iff.mp in_range
    obtain ⟨less, same⟩ := List.getElem?_eq_some_iff.mp there
    rw [List.getElem_range] at same
    rw [List.length_range] at less
    cases same
    exact ⟨index, less, by rw [straight index less]⟩
  · rintro ⟨index, less, rfl⟩
    refine ⟨(abyBuffer_SPI (page.j - call.dstart_address + index), index), ?_, by rw [straight index less]⟩
    rw [List.getElem?_range less, Option.map_some]

theorem entries_sent (entries : List Entry) (start : Nat)
    (other : ∀ place, start ≤ place → place < start + entries.length → place ≠ call.programIndex) :
    (entries.zipIdx start).flatMap (call.entrySent abyBuffer_SPI) = entries.flatMap Entry.sent := by
  induction entries generalizing start with
  | nil => rfl
  | cons entry rest ih =>
      have here := other start (Nat.le_refl _) (by simp)
      rw [List.zipIdx_cons, List.flatMap_cons, List.flatMap_cons, LoadBinary.entrySent, if_pos here,
        ih (start + 1) fun place low high => other place (by omega) (by rw [List.length_cons]; omega)]

theorem commands_before_index : (commandsBefore call.bFlashsst26vf064b call.low call.high).length = call.programIndex := by
  rw [LoadBinary.programIndex]
  cases call.bFlashsst26vf064b <;> cases call.low <;> cases call.high <;> rfl

theorem sent_split : call.sent abyBuffer_SPI =
    (commandsBefore call.bFlashsst26vf064b call.low call.high).flatMap Entry.sent ++
      (call.pages.map (fun page => page.command call abyBuffer_SPI) ++ [[0x05, 0x00]]) := by
  have length := commands_before_index call
  rw [LoadBinary.sent, LoadBinary.gpSPICmdList, List.zipIdx_append, List.flatMap_append, List.zipIdx_cons,
    List.flatMap_cons, length,
    entries_sent call abyBuffer_SPI _ 0 (fun place _ small => by rw [length, Nat.zero_add] at small; omega),
    entries_sent call abyBuffer_SPI rdsr _ (fun place low _ => by omega), LoadBinary.entrySent]
  rw [if_neg (by simp)]
  rfl

end Sent

theorem before_not_programmed (bFlashsst26vf064b low high : Bool) :
    ∀ command ∈ (commandsBefore bFlashsst26vf064b low high).flatMap Entry.sent, programmedCells command = [] := by
  cases bFlashsst26vf064b <;> cases low <;> cases high <;> decide

-- The command that erases the block of an address.
def eraseFor (bFlashsst26vf064b : Bool) (address : Nat) : List UInt8 :=
  if 65536 ≤ address then [0xD8, 0x01, 0x00, 0x00]
  else if bFlashsst26vf064b = false then [0xD8, 0x00, 0x00, 0x00]
  else if address < 32768 then [0xD8, 0x00, UInt8.ofNat (address / 8192 * 32), 0x00]
  else [0xD8, 0x00, 0x80, 0x00]

theorem erase_for_block (bFlashsst26vf064b : Bool) (address : Nat) (inside : address < 131072) :
    ∃ block, erasedBlock bFlashsst26vf064b (eraseFor bFlashsst26vf064b address) = some block ∧
      Within block.1 block.2 address := by
  by_cases upper : 65536 ≤ address
  · refine ⟨(65536, 65536), ?_, by simp only [Within]; omega⟩
    rw [eraseFor, if_pos upper]
    cases bFlashsst26vf064b <;> decide +kernel
  rw [eraseFor, if_neg upper]
  cases bFlashsst26vf064b with
  | false =>
      refine ⟨(0, 65536), ?_, by simp only [Within]; omega⟩
      rw [if_pos rfl]
      decide +kernel
  | true =>
      rw [if_neg Bool.noConfusion]
      by_cases lower : address < 32768
      · obtain ⟨eighth, same⟩ : ∃ eighth, address / 8192 = eighth := ⟨_, rfl⟩
        refine ⟨(eighth * 8192, 8192), ?_, by simp only [Within]; omega⟩
        rw [if_pos lower, same]
        have few : eighth < 4 := by omega
        interval_cases eighth <;> decide +kernel
      · refine ⟨(32768, 32768), ?_, by simp only [Within]; omega⟩
        rw [if_neg lower]
        decide +kernel

theorem erase_for_low (bFlashsst26vf064b high : Bool) (address : Nat) (lower : address < 65536) :
    eraseFor bFlashsst26vf064b address ∈ (commandsBefore bFlashsst26vf064b true high).flatMap Entry.sent := by
  rw [eraseFor, if_neg (by omega)]
  cases bFlashsst26vf064b with
  | false =>
      rw [if_pos rfl]
      cases high <;> decide
  | true =>
      rw [if_neg Bool.noConfusion]
      by_cases small : address < 32768
      · rw [if_pos small]
        obtain ⟨eighth, same⟩ : ∃ eighth, address / 8192 = eighth := ⟨_, rfl⟩
        have few : eighth < 4 := by omega
        rw [same]
        interval_cases eighth <;> cases high <;> decide
      · rw [if_neg small]
        cases high <;> decide

theorem erase_for_high (bFlashsst26vf064b low : Bool) (address : Nat) (upper : 65536 ≤ address) :
    eraseFor bFlashsst26vf064b address ∈ (commandsBefore bFlashsst26vf064b low true).flatMap Entry.sent := by
  rw [eraseFor, if_pos upper]
  cases bFlashsst26vf064b <;> cases low <;> decide

section Range

variable (call : LoadBinary) (abyBuffer_SPI : Memory UInt8)

theorem range_erased (address : Nat) (inside : Within call.dstart_address call.dwActualSize address) :
    eraseFor call.bFlashsst26vf064b address ∈
      (commandsBefore call.bFlashsst26vf064b call.low call.high).flatMap Entry.sent := by
  simp only [Within] at inside
  by_cases upper : 65536 ≤ address
  · have high : call.high = true := by
      rw [LoadBinary.high, decide_eq_true_iff]
      omega
    rw [high]
    exact erase_for_high _ _ address upper
  · have low : call.low = true := by
      rw [LoadBinary.low, decide_eq_true_iff]
      omega
    rw [low]
    exact erase_for_low _ _ address (by omega)

theorem sent_programmed (command : List UInt8) (there : command ∈ call.sent abyBuffer_SPI) (cell : Nat × UInt8)
    (written : cell ∈ programmedCells command) : ∃ page ∈ call.pages, command = page.command call abyBuffer_SPI := by
  rw [sent_split, List.mem_append, List.mem_append, List.mem_map] at there
  rcases there with before | ⟨page, found, rfl⟩ | after
  · rw [before_not_programmed _ _ _ command before] at written
    exact absurd written List.not_mem_nil
  · exact ⟨page, found, rfl⟩
  · rw [List.mem_singleton.mp after] at written
    exact absurd written (by simp [programmedCells])

theorem aligned_exactly (aligned : PageAligned call) (address : Nat) (byte : UInt8) :
    (∃ command ∈ call.sent abyBuffer_SPI, (address, byte) ∈ programmedCells command) ↔
      Within call.dstart_address call.dwActualSize address ∧ byte = abyBuffer_SPI (address - call.dstart_address) := by
  have reach := call.inside
  constructor
  · rintro ⟨command, there, written⟩
    obtain ⟨page, found, rfl⟩ := sent_programmed call abyBuffer_SPI command there _ written
    obtain ⟨source, inside, above⟩ := aligned_inside call aligned page found
    obtain ⟨index, less, same⟩ :=
      (page_programmed call abyBuffer_SPI page (by omega) inside (address, byte)).mp written
    obtain ⟨rfl, rfl⟩ := Prod.mk.inj same
    have offset : page.j + index - call.dstart_address = page.j - call.dstart_address + index := by omega
    exact ⟨by simp only [Within]; omega, by rw [offset]⟩
  · rintro ⟨inside, rfl⟩
    -- The chunk that the address lies in.
    have size := download_size call.MAX_DOWNLOAD_SIZE
    have rest := Nat.div_add_mod (address - call.dstart_address) call.MAX_DOWNLOAD_SIZE.size
    have small := Nat.mod_lt (address - call.dstart_address) (by omega : 0 < call.MAX_DOWNLOAD_SIZE.size)
    have chunk : (address - call.dstart_address) / call.MAX_DOWNLOAD_SIZE.size <
        call.dwActualSize / call.MAX_DOWNLOAD_SIZE.size := by
      rw [Nat.div_lt_iff_lt_mul (by omega), Nat.div_mul_cancel aligned.whole]
      simp only [Within] at inside
      omega
    have found := (aligned_page call aligned _).mpr ⟨_, chunk, rfl⟩
    obtain ⟨source, page, above⟩ := aligned_inside call aligned _ found
    simp only [Within] at inside
    refine ⟨_, by rw [sent_split, List.mem_append, List.mem_append, List.mem_map]; exact .inr (.inl ⟨_, found, rfl⟩),
      (page_programmed call abyBuffer_SPI _ (by simp only at above source ⊢; omega) page _).mpr
        ⟨(address - call.dstart_address) % call.MAX_DOWNLOAD_SIZE.size, small, ?_⟩⟩
    rw [Nat.mul_comm] at rest
    simp only [Prod.mk.injEq, Nat.add_sub_cancel_left, rest, and_true]
    omega

theorem aligned_erased (aligned : PageAligned call) (before after : List (List UInt8)) (command : List UInt8)
    (split : call.sent abyBuffer_SPI = before ++ command :: after) (cell : Nat × UInt8)
    (written : cell ∈ programmedCells command) :
    ∃ earlier ∈ before, ∃ block, erasedBlock call.bFlashsst26vf064b earlier = some block ∧
      Within block.1 block.2 cell.1 := by
  have there : command ∈ call.sent abyBuffer_SPI := by
    rw [split]
    exact List.mem_append_right _ List.mem_cons_self
  have inside := ((aligned_exactly call abyBuffer_SPI aligned cell.1 cell.2).mp ⟨command, there, written⟩).1
  have erasing := range_erased call cell.1 inside
  have reach := call.inside
  obtain ⟨block, erased, covers⟩ := erase_for_block call.bFlashsst26vf064b cell.1 (by simp only [Within] at inside; omega)
  -- The commands in front of the pages all come before one that programs.
  have first : ∃ rest, before =
      (commandsBefore call.bFlashsst26vf064b call.low call.high).flatMap Entry.sent ++ rest := by
    rw [sent_split] at split
    rcases List.append_eq_append_iff.mp split with ⟨rest, same, _⟩ | ⟨rest, same, onward⟩
    · exact ⟨rest, same⟩
    · cases rest with
      | nil => exact ⟨[], by rw [same, List.append_nil, List.append_nil]⟩
      | cons head tail =>
          have own : command = head := (List.cons.inj onward).1
          have early : command ∈ (commandsBefore call.bFlashsst26vf064b call.low call.high).flatMap Entry.sent := by
            rw [same, own]
            exact List.mem_append_right _ List.mem_cons_self
          rw [before_not_programmed _ _ _ command early] at written
          exact absurd written List.not_mem_nil
  obtain ⟨rest, same⟩ := first
  exact ⟨_, by rw [same]; exact List.mem_append_left _ erasing, block, erased, covers⟩

theorem spi_programmed_iff : Programmed call abyBuffer_SPI ↔ PageAligned call := by
  constructor
  · intro programs
    exact aligned_of_pages call programs.in_source programs.in_page
  · intro aligned
    constructor
    · exact aligned_exactly call abyBuffer_SPI aligned
    · exact fun page there => (aligned_inside call aligned page there).1
    · exact fun page there => (aligned_inside call aligned page there).2.1
    · exact fun before command after split cell written =>
        aligned_erased call abyBuffer_SPI aligned before after command split cell written

end Range

-- The second chunk of 300 bytes is programmed whole, from beyond their end.
theorem spi_programmed_300 : ¬ ∀ (call : LoadBinary) (abyBuffer_SPI : Memory UInt8), Programmed call abyBuffer_SPI := by
  intro all
  have aligned := aligned_of_pages ⟨.bytes256, false, true, 0, 300, by decide⟩
    (all ⟨.bytes256, false, true, 0, 300, by decide⟩ fun _ => 0).in_source
    (all ⟨.bytes256, false, true, 0, 300, by decide⟩ fun _ => 0).in_page
  exact absurd aligned.whole (by decide)

end SummitSom.Hub
