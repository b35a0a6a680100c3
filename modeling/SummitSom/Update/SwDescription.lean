import SummitSom.Interact.Program
import Mathlib.Data.List.Basic

set_option autoImplicit false

namespace SummitSom.Update

open Interact

inductive Side where
  | a
  | b
deriving DecidableEq, Repr

def Side.name : Side → String
  | .a => "a"
  | .b => "b"

def Side.other : Side → Side
  | .a => .b
  | .b => .a

inductive Partition where
  | boot0 | boot1 | p1 | p2 | p3 | p4 | p5 | p6
deriving DecidableEq, Repr

def Partition.side : Partition → Side
  | .boot0 | .p1 | .p2 | .p3 => .a
  | .boot1 | .p4 | .p5 | .p6 => .b

structure DiskFormat where
  device : Partition
  fstype : String
  force : Bool
deriving DecidableEq, Repr

structure RawImage where
  filename : String
  device : Partition
  offset : Nat
deriving DecidableEq, Repr

structure CopiedFile where
  filename : String
  path : String
  device : Partition
  filesystem : String
deriving DecidableEq, Repr

inductive PostInstall where
  | eraseData (source target : Partition)
  | updateSupport (side : String)
deriving DecidableEq, Repr

structure Block where
  partitions : List DiskFormat
  images : List RawImage
  files : List CopiedFile
  scripts : List PostInstall
deriving DecidableEq, Repr

def envOffset : Nat := 4032 * 1024

def fullA : Block where
  partitions := [⟨.p1, "vfat", true⟩, ⟨.p3, "ext4", true⟩]
  images := [⟨"imx-boot", .boot0, 0⟩, ⟨"u-boot.env", .boot0, envOffset⟩, ⟨"@@IMAGE_ROOTFS_VERITY_NAME@@", .p2, 0⟩]
  files := [⟨"fitImage", "fitImage", .p1, "vfat"⟩, ⟨"fitImageMcu.bin", "fitImageMcu.bin", .p1, "vfat"⟩,
    ⟨"@@IMAGE_ROOTFS_VERITY_NAME@@.scr.bin", "fitImageVerity.bin", .p1, "vfat"⟩]
  scripts := [.eraseData .p6 .p3, .updateSupport "a"]

def fullB : Block where
  partitions := [⟨.p4, "vfat", true⟩, ⟨.p6, "ext4", true⟩]
  images := [⟨"imx-boot", .boot1, 0⟩, ⟨"u-boot.env", .boot1, envOffset⟩, ⟨"@@IMAGE_ROOTFS_VERITY_NAME@@", .p5, 0⟩]
  files := [⟨"fitImage", "fitImage", .p4, "vfat"⟩, ⟨"fitImageMcu.bin", "fitImageMcu.bin", .p4, "vfat"⟩,
    ⟨"@@IMAGE_ROOTFS_VERITY_NAME@@.scr.bin", "fitImageVerity.bin", .p4, "vfat"⟩]
  scripts := [.eraseData .p3 .p6, .updateSupport "b"]

def block : Side → Block
  | .a => fullA
  | .b => fullB

def selectBlock (selection : String) : Option Block :=
  if selection = "stable,full-a" then some fullA
  else if selection = "stable,full-b" then some fullB
  else none

inductive Slot where
  | filesystem
  | raw (offset : Nat)
  | file (path : String)
deriving DecidableEq, Repr

structure Cell where
  partition : Partition
  slot : Slot
deriving DecidableEq, Repr

inductive Write where
  | diskformat (entry : DiskFormat)
  | raw (image : RawImage)
  | copy (file : CopiedFile)
deriving DecidableEq, Repr

def Write.cell : Write → Cell
  | .diskformat entry => ⟨entry.device, .filesystem⟩
  | .raw image => ⟨image.device, .raw image.offset⟩
  | .copy file => ⟨file.device, .file file.path⟩

-- The pieces that are not what they were once the write has begun: a format
-- takes the files of its partition with it.
def Write.disturbs (write : Write) (cell : Cell) : Bool :=
  match write with
  | .diskformat entry => cell.partition = entry.device
  | .raw image => cell = ⟨image.device, .raw image.offset⟩
  | .copy file => cell = ⟨file.device, .file file.path⟩

def Block.writes (block : Block) : List Write :=
  block.partitions.map .diskformat ++ block.images.map .raw ++ block.files.map .copy

def Block.cells (block : Block) : List Cell := block.writes.map Write.cell

inductive SwCmd where
  | write (write : Write)
  | eraseData (source target : Partition)
  | sync
  | bootpartEnable (part : Nat)
  | extcsdGrep (part : Nat)
  | sleep
deriving DecidableEq, Repr

abbrev SwScript := Prog SwCmd (fun _ => Nat) Nat Unit

def runWrites : List Write → SwScript
  | [] => .done ()
  | write :: rest => .call (.write write) fun status => if status = 0 then runWrites rest else .stop 1

-- The loop of update_support.sh with its timeout counting down.
def selectPart (part : Nat) : Nat → SwScript
  | 0 => .stop 1
  | timeout + 1 =>
      .call .sync fun _ =>
        .call (.bootpartEnable part) fun _ =>
          .call (.extcsdGrep part) fun status =>
            if status = 0 then .done () else .call .sleep fun _ => selectPart part timeout

def updateSupport (side : String) : SwScript := selectPart (if side = "b" then 2 else 1) 10

def runScripts : List PostInstall → SwScript
  | [] => .done ()
  | .eraseData source target :: rest =>
      .call (.eraseData source target) fun status => if status = 0 then runScripts rest else .stop 1
  | .updateSupport side :: rest => do
      updateSupport side
      runScripts rest

def swupdate (block : Block) : SwScript := do
  runWrites block.writes
  runScripts block.scripts

theorem write_disturbs_own (write : Write) : write.disturbs write.cell = true := by
  cases write <;> simp [Write.disturbs, Write.cell]

theorem write_disturbs_partition (write : Write) (cell : Cell) (disturbed : write.disturbs cell = true) :
    cell.partition = write.cell.partition := by
  cases write <;> simp_all [Write.disturbs, Write.cell]

-- An entry never undoes what an earlier entry of the same block has installed.
theorem block_writes_apart (side : Side) :
    (block side).writes.Pairwise fun earlier later => later.disturbs earlier.cell = false := by
  cases side <;> decide

theorem block_cells_side (side : Side) : ∀ cell ∈ (block side).cells, cell.partition.side = side := by
  cases side <;> decide

theorem block_writes_side (side : Side) : ∀ write ∈ (block side).writes, write.cell.partition.side = side := by
  cases side <;> decide

theorem block_scripts (side : Side) : ∃ source target, target.side = side ∧
    (∀ write ∈ (block side).writes, write.cell.partition = target → write.cell = ⟨target, .filesystem⟩) ∧
    (block side).scripts = [.eraseData source target, .updateSupport side.name] := by
  cases side with
  | a => exact ⟨.p6, .p3, rfl, by decide, rfl⟩
  | b => exact ⟨.p3, .p6, rfl, by decide, rfl⟩

theorem select_block_full (side : Side) : selectBlock ("stable," ++ ("full" ++ "-" ++ side.name)) = some (block side) := by
  cases side <;> decide

end SummitSom.Update
