import SummitSom.Hub.SpiContent

set_option autoImplicit false

namespace SummitSom.Hub

open Bytes

structure FlashWrite where
  request : Request
  abyBuffer_SPI : Memory UInt8
  polls : Nat → Nat → Nat

def SpiDevice.left (device : SpiDevice) (chip : Nor.Flash) : SpiDevice :=
  { device with
    hub := { device.hub with flash := chip.cells }
    latch := chip.latch
    isProtected := chip.isProtected }

-- The calls one after the other, each on the flash that the one before has left.
def SpiDevice.session (device : SpiDevice) : List FlashWrite → List SpiError × SpiDevice
  | [] => ([], device)
  | write :: rest =>
      let call := device.loadBinary write.request write.abyBuffer_SPI write.polls
      let after := (device.left call.2).session rest
      (call.1 :: after.1, after.2)

section Session

variable (device : SpiDevice)

-- What a call puts at an address, if it comes there.
def SpiDevice.puts (write : FlashWrite) (address : Nat) : Option UInt8 :=
  if write.request.dstart_address ≤ address ∧ address < write.request.dstart_address + write.request.dwActualSize then
    some (write.abyBuffer_SPI (address - write.request.dstart_address))
  else if (device.loading write.request).Clears address then some 0xFF
  else none

-- The last call that came to an address decides.
def SpiDevice.stored (writes : List FlashWrite) (address : Nat) : UInt8 :=
  (writes.reverse.findSome? fun write => device.puts write address).getD (device.hub.flash address)

theorem left_puts (chip : Nor.Flash) (write : FlashWrite) (address : Nat) :
    (device.left chip).puts write address = device.puts write address := rfl

theorem stored_cons (write : FlashWrite) (rest : List FlashWrite) (address : Nat) (chip : Nor.Flash)
    (cells : chip.cells address = (device.puts write address).getD (device.hub.flash address)) :
    (device.left chip).stored rest address = device.stored (write :: rest) address := by
  rw [SpiDevice.stored, SpiDevice.stored, List.reverse_cons, List.findSome?_append]
  simp only [left_puts, List.findSome?_cons, List.findSome?_nil]
  cases later : rest.reverse.findSome? fun write => device.puts write address with
  | some byte => rfl
  | none =>
      cases here : device.puts write address with
      | some byte =>
          rw [here] at cells
          exact cells
      | none =>
          rw [here] at cells
          exact cells

theorem write_puts (write : FlashWrite) (rom : device.hub.byFeaturesFlag &&& 0x01 = 0) (present : device.jedec ≠ ⟨0, 0, 0⟩)
    (aligned : PageAligned (device.loading write.request)) :
    (device.loadBinary write.request write.abyBuffer_SPI write.polls).1 = .Error_Success ∧
      ∀ address, (device.loadBinary write.request write.abyBuffer_SPI write.polls).2.cells address =
        (device.puts write address).getD (device.hub.flash address) := by
  have contents := written_cell device write.request write.abyBuffer_SPI write.polls present aligned
  have same : ∀ offset < write.request.dwActualSize,
      (device.written write.request write.abyBuffer_SPI write.polls).cells (write.request.dstart_address + offset) =
        write.abyBuffer_SPI offset := by
    intro offset small
    rw [contents, if_pos ⟨Nat.le_add_right _ _, Nat.add_lt_add_left small _⟩, Nat.add_sub_cancel_left]
  rw [load_binary_outcome device write.request write.abyBuffer_SPI write.polls rom, if_neg present, if_pos same]
  refine ⟨rfl, fun address => ?_⟩
  rw [contents, SpiDevice.puts]
  split
  · rfl
  · split
    · rfl
    · rfl

theorem session_stored (writes : List FlashWrite) (rom : device.hub.byFeaturesFlag &&& 0x01 = 0)
    (present : device.jedec ≠ ⟨0, 0, 0⟩) (aligned : ∀ write ∈ writes, PageAligned (device.loading write.request)) :
    (∀ error ∈ (device.session writes).1, error = .Error_Success) ∧
      (device.session writes).2.hub.byFeaturesFlag = device.hub.byFeaturesFlag ∧
      ∀ address, (device.session writes).2.hub.flash address = device.stored writes address := by
  induction writes generalizing device with
  | nil => exact ⟨nofun, rfl, fun _ => rfl⟩
  | cons write rest ih =>
      obtain ⟨success, cells⟩ := write_puts device write rom present (aligned write List.mem_cons_self)
      obtain ⟨later, flag, flash⟩ := ih (device.left _) rom present fun other member =>
        aligned other (List.mem_cons_of_mem _ member)
      refine ⟨?_, flag, ?_⟩
      · intro error member
        cases member with
        | head => exact success
        | tail _ member => exact later error member
      · intro address
        exact (flash address).trans (stored_cons device write rest address _ (cells address))

-- Whatever was written before, a read gives what the last call left at each
-- place, up to the end of its last block, and nothing behind it.
theorem spi_read_back (writes : List FlashWrite) (rom : device.hub.byFeaturesFlag &&& 0x01 = 0)
    (present : device.jedec ≠ ⟨0, 0, 0⟩) (aligned : ∀ write ∈ writes, PageAligned (device.loading write.request))
    (StartAddr BytesToRead : UInt32) (inside : StartAddr.toNat + BytesToRead.toNat ≤ 131072) (InputData : Memory UInt8) :
    (∀ error ∈ (device.session writes).1, error = .Error_Success) ∧
      (mchpUsbSpiFlashRead (device.session writes).2.hub StartAddr BytesToRead).1 = TRUE ∧
      ∀ offset, Bytes.writes InputData (mchpUsbSpiFlashRead (device.session writes).2.hub StartAddr BytesToRead).2 offset =
        if offset < (BytesToRead.toNat + 511) / 512 * 512 then device.stored writes (StartAddr.toNat + offset)
        else InputData offset := by
  obtain ⟨success, flag, flash⟩ := session_stored device writes rom present aligned
  have sum := sum_kept StartAddr BytesToRead inside
  have accepted : Accepted StartAddr BytesToRead := by
    rw [Accepted, sum]
    omega
  have path : mchpUsbSpiFlashRead (device.session writes).2.hub StartAddr BytesToRead =
      athensReadSPICode (device.session writes).2.hub false StartAddr.toNat (StartAddr.toNat + BytesToRead.toNat) := by
    rw [mchpUsbSpiFlashRead, if_pos accepted, athensReadSPIFlash, flag, if_neg (not_not_intro rom), sum]
    rfl
  rw [path]
  refine ⟨success, ?_, fun offset => ?_⟩
  · rw [path_blocks _ false _ _ inside]
  · change received (device.session writes).2.hub StartAddr BytesToRead false InputData offset = _
    split
    · rename_i there
      rw [received_inside _ StartAddr BytesToRead inside false InputData offset there, SpiHub.cell,
        if_neg fun both => Bool.false_ne_true both.1, flash]
      simp only [blockSize, Bool.false_eq_true, if_false]
      congr 1
      omega
    · rename_i beyond
      exact received_kept _ StartAddr BytesToRead inside false InputData offset (Nat.le_of_not_lt beyond)

end Session

-- The second call erases what the first one wrote beside it.
def twoWrites : List FlashWrite :=
  [⟨⟨false, 256, 512, by decide⟩, UInt8.ofNat, fun _ _ => 3⟩, ⟨⟨false, 0, 256, by decide⟩, fun _ => 0x22, fun _ _ => 0⟩]

theorem two_writes_read :
    Bytes.writes (fun _ => 0xCC) (mchpUsbSpiFlashRead (sst26Device.session twoWrites).2.hub 200 100).2 55 = 0x22 ∧
      Bytes.writes (fun _ => 0xCC) (mchpUsbSpiFlashRead (sst26Device.session twoWrites).2.hub 200 100).2 56 = 0xFF ∧
      Bytes.writes (fun _ => 0xCC) (mchpUsbSpiFlashRead (sst26Device.session twoWrites).2.hub 200 100).2 512 = 0xCC := by
  have aligned : ∀ write ∈ twoWrites, PageAligned (sst26Device.loading write.request) := by
    intro write member
    simp only [twoWrites, List.mem_cons, List.not_mem_nil, or_false] at member
    rcases member with rfl | rfl
    · exact ⟨⟨2, rfl⟩, .inr (.inl ⟨1, rfl⟩)⟩
    · exact ⟨⟨1, rfl⟩, .inr (.inl ⟨0, rfl⟩)⟩
  obtain ⟨_, _, content⟩ := spi_read_back sst26Device twoWrites (by decide) (by decide) aligned 200 100 (by decide)
    fun _ => 0xCC
  rw [content, content, content]
  exact ⟨by decide, by decide, by decide⟩

end SummitSom.Hub
