import SummitSom.Interact.Life

set_option autoImplicit false

namespace SummitSom.Data

open Interact

abbrev Status := Nat

-- What mount_data.sh runs or tests. A command whose output the script keeps
-- answers with that output next to its status.
inductive MountCmd where
  | bootRootfs
  | getPart (part : String)
  | lsblkSize (device : String)
  | keyFile
  | caamImport
  | caamCreate
  | keyctlPadd
  | dmsetupCreate (device : String) (sectors : Nat)
  | lsblkFstype
  | mkfs
  | mount
  | mkdirSecret
  | factoryResetCheck
  | umount
  | dmsetupRemove
  | dropCaches
  | console
deriving DecidableEq, Repr

@[reducible] def MountAnswer : MountCmd → Type
  | .getPart _ => Status × String
  | .lsblkSize _ => Status × Nat
  | .keyFile => Bool
  | .lsblkFstype => String
  | _ => Status

abbrev MountScript (A : Type) := Prog MountCmd MountAnswer Status A

def errexit (status : Status) : MountScript Unit := if status = 0 then .done () else .stop status

-- die is not defined in this script: the shell answers 127 and set -e ends it.
def die {A : Type} : MountScript A := .stop 127

def unlockKey : MountScript Unit :=
  .call .keyFile fun (present : Bool) =>
    if present then
      .call .caamImport fun (status : Status) => if status = 0 then .done () else .call .caamCreate errexit
    else .call .caamCreate errexit

def makeFilesystem : MountScript Unit :=
  .call .lsblkFstype fun (fstype : String) => if fstype = "ext4" then .done () else .call .mkfs errexit

def mountDevice : MountScript Unit :=
  .call .mount fun (status : Status) =>
    if status = 0 then .done ()
    else .call .dmsetupRemove fun (removed : Status) => do
      errexit removed
      die

def release : MountScript Unit := do
  .call .umount errexit
  .call .dmsetupRemove errexit
  .call .dropCaches errexit

def dataDevice : MountScript String :=
  .call (.getPart "rootfs_data") fun (part : Status × String) => do
    errexit part.1
    .done ("/dev/" ++ part.2)

def dataSize (device : String) : MountScript Nat :=
  .call (.lsblkSize device) fun (size : Status × Nat) => do
    errexit size.1
    .done size.2

def checkReset : MountScript Unit :=
  .call .factoryResetCheck fun (status : Status) => if status = 0 then .done () else release

def start : MountScript Unit := do
  .call .bootRootfs errexit
  let device ← dataDevice
  let size ← dataSize device
  unlockKey
  .call .keyctlPadd errexit
  .call (.dmsetupCreate device (size / 512)) errexit
  makeFilesystem
  mountDevice
  .call .mkdirSecret errexit
  checkReset
  .call .console errexit

def mountData (argument : String) : MountScript Unit :=
  if argument = "start" then start
  else if argument = "stop" then release
  else .stop 1

-- The stored key and its blob, the key loaded for dm-crypt, the key of the open
-- mapping, and the key under which the partition holds an ext4 file system.
-- Keys are numbered as caam-keygen makes them; mkfsRuns counts the formats.
structure Storage where
  datakey : Option Nat
  blob : Option Nat
  nextKey : Nat
  logkey : Option Nat
  mapping : Option Nat
  filesystem : Option Nat
  mkfsRuns : Nat
deriving DecidableEq, Repr

def Storage.created (s : Storage) : Storage :=
  { s with datakey := some s.nextKey, blob := some s.nextKey, nextKey := s.nextKey + 1 }

def Storage.formatted (s : Storage) (filesystem : Option Nat) : Storage :=
  { s with filesystem := filesystem, mkfsRuns := s.mkfsRuns + 1 }

def Storage.boot (s : Storage) : Storage := { s with logkey := none, mapping := none }

def mountWorld : World MountCmd MountAnswer Storage where
  midst s cmd t :=
    match cmd with
    | .caamCreate => t = s ∨ t = s.created
    | .mkfs => ∃ filesystem, t = s.formatted filesystem
    | _ => t = s
  reply s cmd answer t :=
    match cmd, answer with
    | .keyFile, present => present = s.datakey.isSome ∧ t = s
    | .caamImport, status => if status = 0 then s.blob.isSome ∧ t = { s with datakey := s.blob } else t = s
    | .caamCreate, status => if status = 0 then t = s.created else t = s ∨ t = s.created
    | .keyctlPadd, status => if status = 0 then s.datakey.isSome ∧ t = { s with logkey := s.datakey } else t = s
    | .dmsetupCreate _ _, status =>
        if status = 0 then s.logkey.isSome ∧ t = { s with mapping := s.logkey } else t = s
    | .lsblkFstype, fstype => (fstype = "ext4" → s.mapping.isSome ∧ s.filesystem = s.mapping) ∧ t = s
    | .mkfs, status =>
        if status = 0 then t = s.formatted s.mapping else ∃ filesystem, t = s.formatted filesystem
    | .mount, status => (status = 0 → s.mapping.isSome ∧ s.filesystem = s.mapping) ∧ t = s
    | .dmsetupRemove, status => if status = 0 then t = { s with mapping := none } else t = s
    | _, _ => t = s

def asked (_ : Storage) (program : MountScript Unit) : Prop :=
  program = mountData "start" ∨ program = mountData "stop"

abbrev MountMoment (W : World MountCmd MountAnswer Storage) (origin s : Storage) : Prop :=
  Moment W asked (fun t u => u = t.boot) origin s

structure Storage.Intact (s : Storage) (key : Nat) : Prop where
  stored : s.datakey = some key
  backed : s.blob = some key
  encrypted : s.filesystem = some key

def Steady (_ : Storage) (cmd : MountCmd) (answer : MountAnswer cmd) : Prop :=
  match cmd, answer with
  | .caamImport, status => status = 0
  | .lsblkFstype, fstype => fstype = "ext4"
  | _, _ => True

def steady : World MountCmd MountAnswer Storage := mountWorld.answering Steady

def Destroys : MountCmd → Prop
  | .caamCreate | .mkfs => True
  | _ => False

structure Kept (key runs : Nat) (s : Storage) : Prop where
  intact : s.Intact key
  runs : s.mkfsRuns = runs

section Preserved

variable (key runs : Nat)

-- A command that changes nothing where it fails.
theorem change_kept (s t changed : Storage) (status : Status) (needed : Prop) (kept : Kept key runs s)
    (still : Kept key runs changed) (reply : if status = 0 then needed ∧ t = changed else t = s) : Kept key runs t := by
  split at reply
  · exact reply.2 ▸ still
  · exact reply ▸ kept

theorem reply_kept (s t : Storage) (cmd : MountCmd) (answer : MountAnswer cmd) (spares : ¬ Destroys cmd)
    (kept : Kept key runs s) (reply : mountWorld.reply s cmd answer t) : Kept key runs t := by
  have same (other : t = s) : Kept key runs t := other ▸ kept
  cases cmd with
  | caamCreate => exact absurd trivial spares
  | mkfs => exact absurd trivial spares
  | keyFile => exact same reply.2
  | lsblkFstype => exact same reply.2
  | mount => exact same reply.2
  | caamImport =>
      have still : Kept key runs { s with datakey := s.blob } :=
        ⟨⟨kept.intact.backed, kept.intact.backed, kept.intact.encrypted⟩, kept.runs⟩
      exact change_kept key runs s t _ answer s.blob.isSome kept still reply
  | keyctlPadd =>
      have still : Kept key runs { s with logkey := s.datakey } :=
        ⟨⟨kept.intact.stored, kept.intact.backed, kept.intact.encrypted⟩, kept.runs⟩
      exact change_kept key runs s t _ answer s.datakey.isSome kept still reply
  | dmsetupCreate device sectors =>
      have still : Kept key runs { s with mapping := s.logkey } :=
        ⟨⟨kept.intact.stored, kept.intact.backed, kept.intact.encrypted⟩, kept.runs⟩
      exact change_kept key runs s t _ answer s.logkey.isSome kept still reply
  | dmsetupRemove =>
      by_cases succeeded : answer = 0
      · simp only [mountWorld, if_pos succeeded] at reply
        subst reply
        exact ⟨⟨kept.intact.stored, kept.intact.backed, kept.intact.encrypted⟩, kept.runs⟩
      · simp only [mountWorld, if_neg succeeded] at reply
        exact same reply
  | _ => exact same reply

abbrev Keeps {A : Type} (script : MountScript A) (s : Storage) : Prop :=
  Safe steady (Kept key runs) (fun _ => Kept key runs) script s

theorem call_keeps {A : Type} (cmd : MountCmd) (rest : MountAnswer cmd → MountScript A) (s : Storage)
    (spares : ¬ Destroys cmd) (kept : Kept key runs s)
    (onward : ∀ answer t, Steady s cmd answer → mountWorld.reply s cmd answer t → Kept key runs t →
      Keeps key runs (rest answer) t) : Keeps key runs (.call cmd rest) s := by
  refine ⟨kept, fun t midst => ?_, fun answer t reply => ?_⟩
  · cases cmd with
    | caamCreate => exact absurd trivial spares
    | mkfs => exact absurd trivial spares
    | _ =>
        obtain rfl : t = s := midst
        exact kept
  · exact onward answer t reply.1 reply.2 (reply_kept key runs s t cmd answer spares kept reply.2)

theorem errexit_keeps (status : Status) (s : Storage) (kept : Kept key runs s) : Keeps key runs (errexit status) s := by
  unfold errexit
  split <;> exact ⟨kept, kept⟩

theorem bind_keeps {A B : Type} (script : MountScript A) (rest : A → MountScript B) (s : Storage)
    (first : Keeps key runs script s) (second : ∀ value t, Kept key runs t → Keeps key runs (rest value) t) :
    Keeps key runs (script >>= rest) s :=
  safe_then steady _ _ _ script rest s first second fun _ _ => id

theorem checked_keeps (cmd : MountCmd) (s : Storage) (spares : ¬ Destroys cmd) (kept : Kept key runs s)
    (plain : MountAnswer cmd = Status := by rfl) :
    Keeps key runs (.call cmd fun answer => errexit (plain ▸ answer)) s :=
  call_keeps key runs cmd _ s spares kept fun _ t _ _ kept => errexit_keeps key runs _ t kept

-- The key file is there and its import succeeds, so no key is made.
theorem unlock_key_keeps (s : Storage) (kept : Kept key runs s) : Keeps key runs unlockKey s := by
  refine call_keeps key runs _ _ s id kept fun present t _ reply kept => ?_
  have stored : present = true := by
    rw [reply.1, ← reply.2, kept.intact.stored]
    rfl
  simp only [stored, if_true]
  refine call_keeps key runs _ _ t id kept fun status u succeeded _ kept => ?_
  have imported : status = 0 := succeeded
  simp only [if_pos imported]
  exact ⟨kept, kept⟩

theorem make_filesystem_keeps (s : Storage) (kept : Kept key runs s) : Keeps key runs makeFilesystem s := by
  refine call_keeps key runs _ _ s id kept fun fstype t ext4 _ kept => ?_
  have formatted : fstype = "ext4" := ext4
  simp only [if_pos formatted]
  exact ⟨kept, kept⟩

theorem mount_device_keeps (s : Storage) (kept : Kept key runs s) : Keeps key runs mountDevice s := by
  refine call_keeps key runs _ _ s id kept fun status t _ _ kept => ?_
  by_cases succeeded : status = 0
  · simp only [if_pos succeeded]
    exact ⟨kept, kept⟩
  · simp only [if_neg succeeded]
    refine call_keeps key runs _ _ t id kept fun removed u _ _ kept => ?_
    exact bind_keeps key runs _ _ u (errexit_keeps key runs removed u kept) fun _ v kept => ⟨kept, kept⟩

theorem release_keeps (s : Storage) (kept : Kept key runs s) : Keeps key runs release s := by
  refine bind_keeps key runs _ _ s (checked_keeps key runs .umount s id kept) fun _ s kept => ?_
  refine bind_keeps key runs _ _ s (checked_keeps key runs .dmsetupRemove s id kept) fun _ s kept => ?_
  exact checked_keeps key runs .dropCaches s id kept

theorem data_device_keeps (s : Storage) (kept : Kept key runs s) : Keeps key runs dataDevice s := by
  refine call_keeps key runs _ _ s id kept fun part t _ _ kept => ?_
  exact bind_keeps key runs _ _ t (errexit_keeps key runs _ t kept) fun _ u kept => ⟨kept, kept⟩

theorem data_size_keeps (device : String) (s : Storage) (kept : Kept key runs s) : Keeps key runs (dataSize device) s := by
  refine call_keeps key runs _ _ s id kept fun size t _ _ kept => ?_
  exact bind_keeps key runs _ _ t (errexit_keeps key runs _ t kept) fun _ u kept => ⟨kept, kept⟩

theorem check_reset_keeps (s : Storage) (kept : Kept key runs s) : Keeps key runs checkReset s := by
  refine call_keeps key runs _ _ s id kept fun status t _ _ kept => ?_
  by_cases succeeded : status = 0
  · simp only [if_pos succeeded]
    exact ⟨kept, kept⟩
  · simp only [if_neg succeeded]
    exact release_keeps key runs t kept

theorem start_keeps (s : Storage) (kept : Kept key runs s) : Keeps key runs start s := by
  refine bind_keeps key runs _ _ s (checked_keeps key runs .bootRootfs s id kept) fun _ s kept => ?_
  refine bind_keeps key runs _ _ s (data_device_keeps key runs s kept) fun device s kept => ?_
  refine bind_keeps key runs _ _ s (data_size_keeps key runs device s kept) fun size s kept => ?_
  refine bind_keeps key runs _ _ s (unlock_key_keeps key runs s kept) fun _ s kept => ?_
  refine bind_keeps key runs _ _ s (checked_keeps key runs .keyctlPadd s id kept) fun _ s kept => ?_
  refine bind_keeps key runs _ _ s (checked_keeps key runs (.dmsetupCreate _ _) s id kept) fun _ s kept => ?_
  refine bind_keeps key runs _ _ s (make_filesystem_keeps key runs s kept) fun _ s kept => ?_
  refine bind_keeps key runs _ _ s (mount_device_keeps key runs s kept) fun _ s kept => ?_
  refine bind_keeps key runs _ _ s (checked_keeps key runs .mkdirSecret s id kept) fun _ s kept => ?_
  refine bind_keeps key runs _ _ s (check_reset_keeps key runs s kept) fun _ s kept => ?_
  exact checked_keeps key runs .console s id kept

end Preserved

theorem mount_data_keeps (key runs : Nat) (s : Storage) (argument : String) (kept : Kept key runs s) :
    Keeps key runs (mountData argument) s := by
  unfold mountData
  split
  · exact start_keeps key runs s kept
  · split
    · exact release_keeps key runs s kept
    · exact ⟨kept, kept⟩

def provisioned : Storage := ⟨some 0, some 0, 1, none, none, some 0, 0⟩

def mountHandler (imported : Status) (s : Storage) (cmd : MountCmd) : MountAnswer cmd × Storage :=
  match cmd with
  | .getPart _ => ((0, "mmcblk2p3"), s)
  | .lsblkSize _ => ((0, 1073741824), s)
  | .keyFile => (s.datakey.isSome, s)
  | .caamImport => if imported = 0 ∧ s.blob.isSome then ((0 : Nat), { s with datakey := s.blob }) else ((1 : Nat), s)
  | .caamCreate => ((0 : Nat), s.created)
  | .keyctlPadd => if s.datakey.isSome then ((0 : Nat), { s with logkey := s.datakey }) else ((1 : Nat), s)
  | .dmsetupCreate _ _ => if s.logkey.isSome then ((0 : Nat), { s with mapping := s.logkey }) else ((1 : Nat), s)
  | .lsblkFstype => (if s.mapping.isSome ∧ s.filesystem = s.mapping then "ext4" else "", s)
  | .mkfs => ((0 : Nat), s.formatted s.mapping)
  | .mount => (if s.mapping.isSome ∧ s.filesystem = s.mapping then (0 : Nat) else (1 : Nat), s)
  | .dmsetupRemove => ((0 : Nat), { s with mapping := none })
  | .bootRootfs | .mkdirSecret | .factoryResetCheck | .umount | .dropCaches | .console => ((0 : Nat), s)

theorem mount_handler_obeys (imported : Status) (s : Storage) (cmd : MountCmd) :
    mountWorld.reply s cmd (mountHandler imported s cmd).1 (mountHandler imported s cmd).2 := by
  cases cmd <;> simp only [mountHandler, mountWorld] <;> (try split) <;> simp_all

def steadyAble (imported : Status) (s : Storage) (cmd : MountCmd) : Bool :=
  match cmd with
  | .caamImport => imported = 0 && s.blob.isSome
  | .lsblkFstype => s.mapping.isSome && s.filesystem = s.mapping
  | _ => true

theorem mount_handler_steady (imported : Status) (s : Storage) (cmd : MountCmd) (able : steadyAble imported s cmd = true) :
    steady.reply s cmd (mountHandler imported s cmd).1 (mountHandler imported s cmd).2 := by
  refine ⟨?_, mount_handler_obeys imported s cmd⟩
  cases cmd with
  | caamImport => simp_all [steadyAble, mountHandler, Steady]
  | lsblkFstype => simp_all [steadyAble, mountHandler, Steady]
  | _ => trivial

-- Over any sequence of runs the key stays and the partition is not formatted,
-- as long as every import succeeds and lsblk recognises the file system.
theorem steady_mounts_keep_data (key : Nat) (origin s : Storage) (intact : origin.Intact key)
    (moment : MountMoment steady origin s) :
    s.datakey = some key ∧ s.mkfsRuns = origin.mkfsRuns ∧ s.filesystem = some key := by
  have kept : Kept key origin.mkfsRuns s := by
    refine life_moments steady asked _ origin _ _ ⟨intact, rfl⟩ (fun _ => id) ?_ ?_ s moment
    · rintro t program kept (rfl | rfl)
      · exact mount_data_keeps key origin.mkfsRuns t "start" kept
      · exact mount_data_keeps key origin.mkfsRuns t "stop" kept
    · intro t u kept same
      subst same
      exact ⟨⟨kept.intact.stored, kept.intact.backed, kept.intact.encrypted⟩, kept.runs⟩
  exact ⟨kept.intact.stored, kept.runs, kept.intact.encrypted⟩

-- The partition is mounted, power is lost while it is, and it is mounted again.
theorem steady_mounts_keep_data_started :
    let mounted := (eval (mountHandler 0) start provisioned).2
    let s := (eval (mountHandler 0) start mounted.boot).2
    (mounted.mapping = some 0 ∧ mounted.boot.mapping = none ∧ s.mapping = some 0) ∧
      s.datakey = some 0 ∧ s.mkfsRuns = 0 ∧ s.filesystem = some 0 := by
  have run (s : Storage) (managed : manages (mountHandler 0) (steadyAble 0) (mountData "start") s = true) :=
    ends_managed steady (mountHandler 0) _ (mountData "start") s (mount_handler_steady 0) managed
  have first := run provisioned (by decide)
  have again := run (eval (mountHandler 0) (mountData "start") provisioned).2.boot (by decide)
  refine ⟨by decide, steady_mounts_keep_data 0 provisioned _ ⟨rfl, rfl, rfl⟩ ?_⟩
  exact .rest _ (.finish _ _ _ _ (.reboot _ _ (.finish _ provisioned _ _ .start (.inl rfl) first) rfl) (.inl rfl) again)

-- A failed import alone makes a new key, under which the file system is not
-- recognised, so the partition is formatted.
theorem failed_import_formats_data :
    ¬ ∀ (key : Nat) (origin s : Storage), origin.Intact key → MountMoment mountWorld origin s →
      s.datakey = some key ∧ s.mkfsRuns = origin.mkfsRuns := by
  intro safe
  have run := ends_eval mountWorld (mountHandler 1) (mountData "start") provisioned (mount_handler_obeys 1)
  have kept := safe 0 provisioned _ ⟨rfl, rfl, rfl⟩ (.rest _ (.finish _ provisioned _ _ .start (.inl rfl) run))
  exact absurd kept.2 (by decide)

end SummitSom.Data
