import SummitSom.Migration.EraseData

set_option autoImplicit false

namespace SummitSom.Migration

open Interact Shell

section Runs

variable {A : Type} (outcomes : Outcomes) (tree : Tree A) (fresh : Fresh A)

def arguments : List String := expand (tree.names.filter visible)

def cpStatus : Status := copyStatus outcomes tree fresh (arguments tree)

-- A part of the script that starts with the mapping open: it succeeds exactly if
-- its checked commands do, and then it has unmounted the new file system, with
-- these contents. It releases what it can.
structure Leaves (checks : Prop) (contents : String → Option A) (ended : Except Status Status × Target A) : Prop where
  exit : exitStatus ended.1 = 0 ↔ checks
  unmounted : checks → ended.2.mounted = false
  mapping : checks → (ended.2.mapping = false ↔ outcomes.dmsetupRemove = 0)
  contents : checks → ended.2.contents = contents
  released : outcomes.umount = 0 → outcomes.dmsetupRemove = 0 → ended.2.mapping = false ∧ ended.2.mounted = false

theorem failing_leaves (checks : Prop) (contents : String → Option A) (ended : Except Status Status × Target A)
    (failed : ¬checks) (exit : exitStatus ended.1 ≠ 0)
    (released : outcomes.umount = 0 → outcomes.dmsetupRemove = 0 → ended.2.mapping = false ∧ ended.2.mounted = false) :
    Leaves outcomes checks contents ended :=
  ⟨⟨fun zero => absurd zero exit, fun held => absurd held failed⟩, fun held => absurd held failed,
    fun held => absurd held failed, fun held => absurd held failed, released⟩

theorem finish_leaves (s : Target A) (mapped : s.mapping = true) :
    Leaves outcomes (outcomes.umount = 0 ∧ outcomes.rmdir = 0) s.contents (eval (machine outcomes tree fresh) finish s) := by
  by_cases unmounts : outcomes.umount = 0
  · have ended : eval (machine outcomes tree fresh) finish s =
        (.ok outcomes.rmdir, { s with mounted := false, mapping := outcomes.dmsetupRemove != 0 }) := by
      simp [finish, eval, machine, unmounts, mapped]
    rw [ended]
    exact ⟨⟨fun zero => ⟨unmounts, zero⟩, fun checks => checks.2⟩, fun _ => rfl, fun _ => by simp, fun _ => rfl,
      fun _ removes => ⟨by simp [removes], rfl⟩⟩
  · apply failing_leaves
    · exact fun checks => unmounts checks.1
    · simp [finish, eval, machine, unmounts, die, exitStatus]
    · exact fun zero => absurd zero unmounts

theorem release_mapping_leaves (s : Target A) (checks : Prop) (contents : String → Option A) (failed : ¬checks)
    (unmounted : s.mounted = false) :
    Leaves outcomes checks contents (eval (machine outcomes tree fresh) releaseMapping s) := by
  apply failing_leaves _ _ _ _ failed
  · exact Nat.one_ne_zero
  · intro _ removes
    simp [releaseMapping, eval, machine, die, removes, unmounted]

theorem release_directory_leaves (s : Target A) (checks : Prop) (contents : String → Option A) (failed : ¬checks)
    (unmounted : outcomes.umount = 0 → s.mounted = false) :
    Leaves outcomes checks contents (eval (machine outcomes tree fresh) releaseDirectory s) := by
  apply failing_leaves _ _ _ _ failed
  · exact Nat.one_ne_zero
  · intro unmounts removes
    simp [releaseDirectory, eval, machine, die, removes, unmounted unmounts]

def copyChecks : Prop := cpStatus outcomes tree fresh = 0 ∧ outcomes.umount = 0 ∧ outcomes.rmdir = 0

theorem copy_data_leaves (s : Target A) (mapped : s.mapping = true) :
    Leaves outcomes (copyChecks outcomes tree fresh) (copied tree (arguments tree) s.contents)
      (eval (machine outcomes tree fresh) copyData s) := by
  have called : eval (machine outcomes tree fresh) copyData s =
      eval (machine outcomes tree fresh) (if cpStatus outcomes tree fresh ≠ 0 then releaseMount else finish)
        { s with contents := copied tree (arguments tree) s.contents } := rfl
  rw [called]
  split
  · next fails =>
      apply release_directory_leaves
      · exact fun checks => fails checks.1
      · intro unmounts
        simp [machine, unmounts]
  · next copies =>
      have zero : cpStatus outcomes tree fresh = 0 := Decidable.not_not.mp copies
      rw [copyChecks, and_iff_right zero]
      exact finish_leaves outcomes tree fresh { s with contents := copied tree (arguments tree) s.contents } mapped

def mountChecks : Prop := outcomes.mkdir = 0 ∧ outcomes.mount = 0 ∧ copyChecks outcomes tree fresh

theorem mount_target_leaves (s : Target A) (mapped : s.mapping = true) (unmounted : s.mounted = false) :
    Leaves outcomes (mountChecks outcomes tree fresh) (copied tree (arguments tree) s.contents)
      (eval (machine outcomes tree fresh) mountTarget s) := by
  have called : eval (machine outcomes tree fresh) mountTarget s =
      eval (machine outcomes tree fresh) (if outcomes.mkdir ≠ 0 then releaseMapping
        else .call .mount fun (status : Status) => if status ≠ 0 then releaseDirectory else copyData) s := rfl
  rw [called]
  split
  · next fails => exact release_mapping_leaves outcomes tree fresh s _ _ (fun checks => fails checks.1) unmounted
  · next makes =>
      have called : eval (machine outcomes tree fresh)
          (.call .mount fun (status : Status) => if status ≠ 0 then releaseDirectory else copyData) s =
          eval (machine outcomes tree fresh) (if outcomes.mount ≠ 0 then releaseDirectory else copyData)
            { s with mounted := s.mounted || outcomes.mount == 0 } := rfl
      rw [called]
      split
      · next fails =>
          apply release_directory_leaves
          · exact fun checks => fails checks.2.1
          · intro _
            simpa [unmounted] using fails
      · next mounts =>
          rw [mountChecks, and_iff_right (Decidable.not_not.mp makes), and_iff_right (Decidable.not_not.mp mounts)]
          exact copy_data_leaves outcomes tree fresh { s with mounted := s.mounted || outcomes.mount == 0 } mapped

def migrateChecks : Prop := outcomes.dmsetupCreate = 0 ∧ outcomes.mkfs = 0 ∧ mountChecks outcomes tree fresh

structure Target.Idle (s : Target A) : Prop where
  mapping : s.mapping = false
  mounted : s.mounted = false

def createTarget : Script :=
  if outcomes.dmsetupCreate ≠ 0 then die
  else .call .mkfs fun (status : Status) => if status ≠ 0 then releaseMapping else mountTarget

theorem create_target_leaves (s : Target A) (idle : s.Idle) :
    Leaves outcomes (migrateChecks outcomes tree fresh) (copied tree (arguments tree) fresh.find)
      (eval (machine outcomes tree fresh) (createTarget outcomes)
        { s with mapping := s.mapping || outcomes.dmsetupCreate == 0 }) := by
  rw [createTarget]
  split
  · next fails =>
      apply failing_leaves
      · exact fun checks => fails checks.1
      · exact Nat.one_ne_zero
      · intro _ _
        exact ⟨by simpa [eval, die, idle.mapping] using fails, idle.mounted⟩
  · next creates =>
      have zero : outcomes.dmsetupCreate = 0 := Decidable.not_not.mp creates
      rw [migrateChecks, and_iff_right zero, zero]
      have called : eval (machine outcomes tree fresh)
          (.call .mkfs fun (status : Status) => if status ≠ 0 then releaseMapping else mountTarget)
          { s with mapping := s.mapping || 0 == 0 } =
          eval (machine outcomes tree fresh) (if outcomes.mkfs ≠ 0 then releaseMapping else mountTarget)
            { s with mapping := s.mapping || 0 == 0, contents := fresh.find } := rfl
      rw [called]
      split
      · next fails => exact release_mapping_leaves outcomes tree fresh _ _ _ (fun checks => fails checks.1) idle.mounted
      · next makes =>
          rw [and_iff_right (Decidable.not_not.mp makes)]
          refine mount_target_leaves outcomes tree fresh
            { s with mapping := s.mapping || 0 == 0, contents := fresh.find } ?_ idle.mounted
          exact Bool.or_true _

theorem migrate_data_refused (device : String) (s : Target A) (unusable : outcomes.datakey = false ∨ device = "") :
    eval (machine outcomes tree fresh) (migrateData device) s = (.ok 1, s) := by
  rw [migrateData, eval]
  exact congrArg (fun program => eval (machine outcomes tree fresh) program s) (if_pos unusable)

theorem migrate_data_creates (device : String) (s : Target A) (usable : ¬(outcomes.datakey = false ∨ device = "")) :
    eval (machine outcomes tree fresh) (migrateData device) s =
      eval (machine outcomes tree fresh) (createTarget outcomes)
        { s with mapping := s.mapping || outcomes.dmsetupCreate == 0 } := by
  rw [migrateData, eval]
  exact congrArg (fun program => eval (machine outcomes tree fresh) program s) (if_neg usable)

theorem migrate_from_mapped (data_dev_src data_dev_tgt data_mount : String) (s : Target A)
    (mapped : startsWith "/dev/dm-" data_mount = true) (expected : outcomes.slaves = basename data_dev_src) :
    eval (machine outcomes tree fresh) (migrateFrom data_dev_src data_dev_tgt data_mount) s =
      eval (machine outcomes tree fresh) (migrateData data_dev_tgt) s := by
  rw [migrateFrom, if_pos mapped, eval]
  exact congrArg (fun program => eval (machine outcomes tree fresh) program s) (if_pos expected)

theorem migrate_from_elsewhere (data_dev_src data_dev_tgt data_mount : String) (s : Target A)
    (mapped : startsWith "/dev/dm-" data_mount = true) (unexpected : outcomes.slaves ≠ basename data_dev_src) :
    (eval (machine outcomes tree fresh) (migrateFrom data_dev_src data_dev_tgt data_mount) s).2 = s := by
  rw [migrateFrom, if_pos mapped, eval]
  exact congrArg (fun program => (eval (machine outcomes tree fresh) program s).2) (if_neg unexpected)

theorem migrate_from_idle (data_dev_src data_dev_tgt data_mount : String) (s : Target A)
    (skips : ¬(startsWith "/dev/dm-" data_mount = true ∧ outcomes.slaves = basename data_dev_src ∧
      outcomes.datakey = true ∧ data_dev_tgt ≠ "")) :
    (eval (machine outcomes tree fresh) (migrateFrom data_dev_src data_dev_tgt data_mount) s).2 = s := by
  by_cases mapped : startsWith "/dev/dm-" data_mount = true
  · by_cases expected : outcomes.slaves = basename data_dev_src
    · have unusable : outcomes.datakey = false ∨ data_dev_tgt = "" := by
        by_contra usable
        push Not at usable
        exact skips ⟨mapped, expected, Bool.not_eq_false _ ▸ usable.1, usable.2⟩
      rw [migrate_from_mapped outcomes tree fresh _ _ _ s mapped expected,
        migrate_data_refused outcomes tree fresh _ s unusable]
    · exact migrate_from_elsewhere outcomes tree fresh _ _ _ s mapped expected
  · rw [migrateFrom, if_neg mapped]
    rfl

theorem migrate_from_leaves (data_dev_src data_dev_tgt data_mount : String) (s : Target A) (idle : s.Idle)
    (mapped : startsWith "/dev/dm-" data_mount = true) (expected : outcomes.slaves = basename data_dev_src)
    (datakey : outcomes.datakey = true) (target : data_dev_tgt ≠ "") :
    Leaves outcomes (migrateChecks outcomes tree fresh) (copied tree (arguments tree) fresh.find)
      (eval (machine outcomes tree fresh) (migrateFrom data_dev_src data_dev_tgt data_mount) s) := by
  have usable : ¬(outcomes.datakey = false ∨ data_dev_tgt = "") := by
    rintro (missing | empty)
    · exact nomatch missing.symm.trans datakey
    · exact target empty
  rw [migrate_from_mapped outcomes tree fresh _ _ _ s mapped expected, migrate_data_creates outcomes tree fresh _ s usable]
  exact create_target_leaves outcomes tree fresh s idle

def Outcomes.mountDevice (outcomes : Outcomes) : String := if outcomes.isLink then outcomes.readlink else outcomes.dataMount

theorem run_script_from (data_dev_src data_dev_tgt : String) (s : Target A) :
    runScript outcomes tree fresh data_dev_src data_dev_tgt s =
      eval (machine outcomes tree fresh) (migrateFrom data_dev_src data_dev_tgt outcomes.mountDevice) s := by
  show eval (machine outcomes tree fresh) (if outcomes.isLink = true then
    .call (.readlink outcomes.dataMount) fun (target : String) => migrateFrom data_dev_src data_dev_tgt target
    else migrateFrom data_dev_src data_dev_tgt outcomes.dataMount) s = _
  rw [Outcomes.mountDevice]
  split
  · rfl
  · rfl

theorem run_script_leaves (data_dev_src data_dev_tgt : String) (s : Target A) (idle : s.Idle)
    (migrates : outcomes.Migrates data_dev_src data_dev_tgt) :
    Leaves outcomes (migrateChecks outcomes tree fresh) (copied tree (arguments tree) fresh.find)
      (runScript outcomes tree fresh data_dev_src data_dev_tgt s) := by
  rw [run_script_from]
  exact migrate_from_leaves outcomes tree fresh data_dev_src data_dev_tgt _ s idle migrates.mapped migrates.expected
    migrates.datakey migrates.target

theorem run_script_idle (data_dev_src data_dev_tgt : String) (s : Target A)
    (skips : ¬outcomes.Migrates data_dev_src data_dev_tgt) :
    (runScript outcomes tree fresh data_dev_src data_dev_tgt s).2 = s := by
  rw [run_script_from]
  apply migrate_from_idle
  rintro ⟨mapped, expected, datakey, target⟩
  exact skips ⟨mapped, expected, datakey, target⟩

-- A run that migrates reports success only when all is set up and released, and
-- every run releases what it can.
structure Honest (data_dev_src data_dev_tgt : String) (ended : Except Status Status × Target A) : Prop where
  setUp : outcomes.Migrates data_dev_src data_dev_tgt → exitStatus ended.1 = 0 →
    (outcomes.caamImport = 0 ∧ outcomes.keyctlPadd = 0 ∧ outcomes.lsblk.1 = 0 ∧ outcomes.dmsetupCreate = 0 ∧
      outcomes.mkfs = 0 ∧ outcomes.mkdir = 0 ∧ outcomes.mount = 0 ∧ cpStatus outcomes tree fresh = 0) ∧ ended.2.Idle
  released : outcomes.umount = 0 → outcomes.dmsetupRemove = 0 → ended.2.Idle

-- The commands whose status the script does not look at.
def Unchecked : Prop :=
  outcomes.caamImport = 0 ∧ outcomes.keyctlPadd = 0 ∧ outcomes.lsblk.1 = 0 ∧ outcomes.dmsetupRemove = 0

theorem migration_honest_iff (data_dev_src data_dev_tgt : String) (s : Target A) (idle : s.Idle) :
    Honest outcomes tree fresh data_dev_src data_dev_tgt (runScript outcomes tree fresh data_dev_src data_dev_tgt s) ↔
      (outcomes.Migrates data_dev_src data_dev_tgt → migrateChecks outcomes tree fresh → Unchecked outcomes) := by
  by_cases migrates : outcomes.Migrates data_dev_src data_dev_tgt
  · have leaves := run_script_leaves outcomes tree fresh data_dev_src data_dev_tgt s idle migrates
    constructor
    · intro honest _ checks
      obtain ⟨⟨imported, padded, sized, _⟩, released⟩ := honest.setUp migrates (leaves.exit.mpr checks)
      exact ⟨imported, padded, sized, (leaves.mapping checks).mp released.mapping⟩
    · intro unchecked
      refine ⟨fun _ zero => ?_, fun unmounts removes => ?_⟩
      · have checks := leaves.exit.mp zero
        obtain ⟨imported, padded, sized, removes⟩ := unchecked migrates checks
        have steps := checks
        obtain ⟨creates, makes, directory, mounts, copies, _⟩ := steps
        exact ⟨⟨imported, padded, sized, creates, makes, directory, mounts, copies⟩,
          (leaves.mapping checks).mpr removes, leaves.unmounted checks⟩
      · obtain ⟨mapping, mounted⟩ := leaves.released unmounts removes
        exact ⟨mapping, mounted⟩
  · refine ⟨fun _ held => absurd held migrates, fun _ => ⟨fun held => absurd held migrates, fun _ _ => ?_⟩⟩
    rw [run_script_idle outcomes tree fresh data_dev_src data_dev_tgt s migrates]
    exact idle

end Runs

def workingOutcomes : Outcomes :=
  ⟨"/dev/dm-0", false, "", "mmcblk0p6", true, 0, 0, (0, 1048576), 0, 0, 0, 0, 0, 0, 0, 0, 0, 0⟩

def ext4 : Fresh Bool := ⟨id, true, ["lost+found"], by decide⟩

def oneFile : Tree Bool := ⟨[("lost+found", true), ("notes", false)], by decide⟩

def idleTarget : Target Bool := ⟨false, false, fun _ => none⟩

theorem migration_honest_iff_working : Honest workingOutcomes oneFile ext4 "/dev/mmcblk0p6" "/dev/mmcblk0p7"
    (runScript workingOutcomes oneFile ext4 "/dev/mmcblk0p6" "/dev/mmcblk0p7" idleTarget) :=
  (migration_honest_iff workingOutcomes oneFile ext4 _ _ idleTarget ⟨rfl, rfl⟩).mpr fun _ _ => ⟨rfl, rfl, rfl, rfl⟩

theorem failed_import_reported_success : ¬∀ (outcomes : Outcomes) (tree : Tree Bool) (fresh : Fresh Bool)
    (data_dev_src data_dev_tgt : String) (s : Target Bool), s.Idle →
      Honest outcomes tree fresh data_dev_src data_dev_tgt (runScript outcomes tree fresh data_dev_src data_dev_tgt s) := by
  intro honest
  have run := honest { workingOutcomes with caamImport := 1 } oneFile ext4 "/dev/mmcblk0p6" "/dev/mmcblk0p7" idleTarget ⟨rfl, rfl⟩
  have setUp := run.setUp ⟨by decide, by decide, rfl, by decide⟩ (by decide)
  exact absurd setUp.1.1 (by decide)

end SummitSom.Migration
