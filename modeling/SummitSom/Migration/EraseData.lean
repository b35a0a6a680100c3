import SummitSom.Interact.Program
import SummitSom.Shell.Words

set_option autoImplicit false

namespace SummitSom.Migration

open Interact Shell

abbrev Status := Nat

-- What erase_data.sh runs or tests. The names given to cp are relative to /data.
inductive Cmd where
  | dataMount
  | isLink (path : String)
  | readlink (path : String)
  | slaves (device : String)
  | warning
  | systemdCat
  | datakey
  | caamImport
  | keyctlPadd
  | lsblkSize (device : String)
  | dmsetupCreate (device : String) (sectors : Nat)
  | mkfs
  | mkdir
  | mount
  | glob
  | copy (names : List String)
  | sync
  | umount
  | dmsetupRemove
  | rmdir
deriving DecidableEq

@[reducible] def Answer : Cmd → Type
  | .dataMount | .readlink _ | .slaves _ => String
  | .isLink _ | .datakey => Bool
  | .lsblkSize _ => Status × Nat
  | .glob => List String
  | _ => Status

-- A script ends with the status of its last command, or through exit.
abbrev Script := Prog Cmd Answer Status Status

def die : Script := .stop 1

def basename (path : String) : String := afterLast '/' path

-- A pattern that matches nothing is passed on as it is.
def expand (names : List String) : List String := if names = [] then ["*"] else names

def releaseMapping : Script := .call .dmsetupRemove fun _ => die

def releaseDirectory : Script := .call .dmsetupRemove fun _ => .call .rmdir fun _ => die

def releaseMount : Script := .call .umount fun _ => releaseDirectory

def finish : Script :=
  .call .sync fun _ => .call .umount fun (status : Status) =>
    if status ≠ 0 then die else .call .dmsetupRemove fun _ => .call .rmdir .done

def copyData : Script :=
  .call .glob fun (names : List String) => .call (.copy (expand names)) fun (status : Status) =>
    if status ≠ 0 then releaseMount else finish

def mountTarget : Script :=
  .call .mkdir fun (status : Status) =>
    if status ≠ 0 then releaseMapping
    else .call .mount fun (status : Status) => if status ≠ 0 then releaseDirectory else copyData

def migrateData (device : String) : Script :=
  .call .datakey fun (present : Bool) =>
    if present = false ∨ device = "" then .done 1
    else .call .caamImport fun _ => .call .keyctlPadd fun _ =>
      .call (.lsblkSize device) fun (size : Status × Nat) =>
        .call (.dmsetupCreate device (size.2 / 512)) fun (status : Status) =>
          if status ≠ 0 then die
          else .call .mkfs fun (status : Status) => if status ≠ 0 then releaseMapping else mountTarget

def migrateFrom (data_dev_src data_dev_tgt data_mount : String) : Script :=
  if startsWith "/dev/dm-" data_mount then
    .call (.slaves (removePrefix "/dev/" data_mount)) fun (slaves : String) =>
      if slaves = basename data_dev_src then migrateData data_dev_tgt else .call .systemdCat .done
  else .call .warning fun _ => .stop 0

def eraseData (data_dev_src data_dev_tgt : String) : Script :=
  .call .dataMount fun (data_mount : String) => .call (.isLink data_mount) fun (link : Bool) =>
    if link then .call (.readlink data_mount) fun (target : String) => migrateFrom data_dev_src data_dev_tgt target
    else migrateFrom data_dev_src data_dev_tgt data_mount

-- A directory: its names and what stands at each, a directory with all below it.
structure Tree (A : Type) where
  entries : List (String × A)
  distinct : (entries.map Prod.fst).Nodup

def Tree.names {A : Type} (tree : Tree A) : List String := tree.entries.map Prod.fst

def Tree.find {A : Type} (tree : Tree A) (name : String) : Option A := tree.entries.lookup name

-- /data/*
def visible (name : String) : Bool := !startsWith "." name

-- How the commands come out, and what the tests find.
structure Outcomes where
  dataMount : String
  isLink : Bool
  readlink : String
  slaves : String
  datakey : Bool
  caamImport : Status
  keyctlPadd : Status
  lsblk : Status × Nat
  dmsetupCreate : Status
  mkfs : Status
  mkdir : Status
  mount : Status
  copy : Status
  sync : Status
  umount : Status
  dmsetupRemove : Status
  rmdir : Status
  report : Status

-- mkfs.ext4 leaves empty directories with plain names (lost+found).
structure Fresh (A : Type) where
  isDir : A → Bool
  emptyDir : A
  names : List String
  plain : ∀ name ∈ names, visible name = true

def Fresh.find {A : Type} (fresh : Fresh A) (name : String) : Option A :=
  if name ∈ fresh.names then some fresh.emptyDir else none

-- The mapping data_enc_o, the transfer mount, and the file system behind them.
structure Target (A : Type) where
  mapping : Bool
  mounted : Bool
  contents : String → Option A

section Machine

variable {A : Type} (outcomes : Outcomes) (tree : Tree A) (fresh : Fresh A)

-- cp copies what is there, and puts only a directory in the place of a directory.
def Copyable (name : String) : Bool := (tree.find name).any fun node => decide (name ∉ fresh.names) || fresh.isDir node

def copyStatus (names : List String) : Status := if names.all (Copyable tree fresh) then outcomes.copy else 1

def copied (names : List String) (contents : String → Option A) (name : String) : Option A :=
  if name ∈ names then tree.find name else contents name

-- Only what a copy that succeeded leaves is looked at.
def machine (s : Target A) : (cmd : Cmd) → Answer cmd × Target A
  | .dataMount => (outcomes.dataMount, s)
  | .isLink _ => (outcomes.isLink, s)
  | .readlink _ => (outcomes.readlink, s)
  | .slaves _ => (outcomes.slaves, s)
  | .warning => ((0 : Nat), s)
  | .systemdCat => (outcomes.report, s)
  | .datakey => (outcomes.datakey, s)
  | .caamImport => (outcomes.caamImport, s)
  | .keyctlPadd => (outcomes.keyctlPadd, s)
  | .lsblkSize _ => (outcomes.lsblk, s)
  | .dmsetupCreate _ _ => (outcomes.dmsetupCreate, { s with mapping := s.mapping || outcomes.dmsetupCreate == 0 })
  | .mkfs => (outcomes.mkfs, { s with contents := fresh.find })
  | .mkdir => (outcomes.mkdir, s)
  | .mount => (outcomes.mount, { s with mounted := s.mounted || outcomes.mount == 0 })
  | .glob => (tree.names.filter visible, s)
  | .copy names => (copyStatus outcomes tree fresh names, { s with contents := copied tree names s.contents })
  | .sync => (outcomes.sync, s)
  | .umount => (outcomes.umount, { s with mounted := s.mounted && outcomes.umount != 0 })
  | .dmsetupRemove => (outcomes.dmsetupRemove, { s with mapping := s.mapping && outcomes.dmsetupRemove != 0 })
  | .rmdir => (outcomes.rmdir, s)

def runScript (data_dev_src data_dev_tgt : String) (s : Target A) : Except Status Status × Target A :=
  eval (machine outcomes tree fresh) (eraseData data_dev_src data_dev_tgt) s

end Machine

def exitStatus : Except Status Status → Status
  | .ok status => status
  | .error status => status

-- /data is mounted through a device mapper on the expected partition, and there
-- is a key and a target.
structure Outcomes.Migrates (outcomes : Outcomes) (data_dev_src data_dev_tgt : String) : Prop where
  mapped : startsWith "/dev/dm-" (if outcomes.isLink then outcomes.readlink else outcomes.dataMount) = true
  expected : outcomes.slaves = basename data_dev_src
  datakey : outcomes.datakey = true
  target : data_dev_tgt ≠ ""

end SummitSom.Migration
