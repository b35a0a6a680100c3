import SummitSom.Migration.Release

set_option autoImplicit false

namespace SummitSom.Migration

open Interact Shell

section Copies

variable {A : Type} (outcomes : Outcomes) (tree : Tree A) (fresh : Fresh A)

theorem find_none (name : String) : tree.find name = none ↔ name ∉ tree.names := by
  rw [Tree.find, Tree.names, List.lookup_eq_none_iff]
  constructor
  · intro absent listed
    obtain ⟨entry, member, rfl⟩ := List.mem_map.mp listed
    simpa using absent entry member
  · intro unlisted entry member
    have different : name ≠ entry.1 := fun same => unlisted (same ▸ List.mem_map_of_mem member)
    simpa using different

-- Every command that does not depend on the tree succeeds.
structure Outcomes.Able (outcomes : Outcomes) : Prop where
  dmsetupCreate : outcomes.dmsetupCreate = 0
  mkfs : outcomes.mkfs = 0
  mkdir : outcomes.mkdir = 0
  mount : outcomes.mount = 0
  copy : outcomes.copy = 0
  umount : outcomes.umount = 0
  dmsetupRemove : outcomes.dmsetupRemove = 0
  rmdir : outcomes.rmdir = 0

theorem able_checks (able : outcomes.Able) : migrateChecks outcomes tree fresh ↔
    ∀ name ∈ arguments tree, Copyable tree fresh name = true := by
  have copies : cpStatus outcomes tree fresh = 0 ↔ ∀ name ∈ arguments tree, Copyable tree fresh name = true := by
    rw [← List.all_eq_true, cpStatus, copyStatus, able.copy]
    split
    · next all => exact ⟨fun _ => all, fun _ => rfl⟩
    · next missing => exact ⟨fun one => absurd one (by decide), fun all => absurd all missing⟩
  rw [migrateChecks, mountChecks, copyChecks, copies]
  exact ⟨fun checks => checks.2.2.2.2.1, fun all =>
    ⟨able.dmsetupCreate, able.mkfs, able.mkdir, able.mount, all, able.umount, able.rmdir⟩⟩

theorem copyable_found (name : String) (copyable : Copyable tree fresh name = true) :
    ∃ node, tree.find name = some node ∧ (name ∈ fresh.names → fresh.isDir node = true) := by
  rw [Copyable, Option.any_eq_true] at copyable
  obtain ⟨node, found, fits⟩ := copyable
  refine ⟨node, found, fun placed => ?_⟩
  simpa [placed] using fits

theorem arguments_of_empty (empty : tree.names.filter visible = []) : ¬∀ name ∈ arguments tree, Copyable tree fresh name = true := by
  intro all
  have star : "*" ∈ arguments tree := by
    rw [arguments, expand, if_pos empty]
    exact List.mem_singleton.mpr rfl
  obtain ⟨node, found, _⟩ := copyable_found tree fresh "*" (all "*" star)
  have listed : "*" ∈ tree.names := by
    by_contra unlisted
    exact nomatch ((find_none tree "*").mpr unlisted).symm.trans found
  have shown : "*" ∈ tree.names.filter visible := List.mem_filter.mpr ⟨listed, by decide⟩
  rw [empty] at shown
  cases shown

theorem arguments_of_visible (shown : tree.names.filter visible ≠ []) : arguments tree = tree.names.filter visible :=
  if_neg shown

structure Transferable : Prop where
  nonempty : tree.names ≠ []
  plain : ∀ name ∈ tree.names, visible name = true
  fresh : ∀ name ∈ fresh.names, ∃ node, tree.find name = some node ∧ fresh.isDir node = true

theorem transferable_arguments (transferable : Transferable tree fresh) : arguments tree = tree.names := by
  have same : tree.names.filter visible = tree.names := List.filter_eq_self.mpr transferable.plain
  rw [arguments, same, expand, if_neg transferable.nonempty]

theorem transferable_copies (transferable : Transferable tree fresh) :
    (∀ name ∈ arguments tree, Copyable tree fresh name = true) ∧
      copied tree (arguments tree) fresh.find = tree.find := by
  rw [transferable_arguments tree fresh transferable]
  constructor
  · intro name member
    have present : tree.find name ≠ none := fun absent => (find_none tree name).mp absent member
    obtain ⟨node, found⟩ := Option.ne_none_iff_exists'.mp present
    rw [Copyable, found, Option.any_some, Bool.or_eq_true]
    by_cases placed : name ∈ fresh.names
    · obtain ⟨other, same, directory⟩ := transferable.fresh name placed
      rw [found] at same
      cases same
      exact .inr directory
    · exact .inl (decide_eq_true placed)
  · funext name
    rw [copied]
    split
    · rfl
    · next unlisted =>
        have absent := (find_none tree name).mpr unlisted
        rw [absent, Fresh.find, if_neg]
        intro placed
        obtain ⟨node, found, _⟩ := transferable.fresh name placed
        exact nomatch absent.symm.trans found

theorem copies_transferable (copyable : ∀ name ∈ arguments tree, Copyable tree fresh name = true)
    (same : copied tree (arguments tree) fresh.find = tree.find) : Transferable tree fresh := by
  have matched : tree.names.filter visible ≠ [] := fun empty => arguments_of_empty tree fresh empty copyable
  rw [arguments_of_visible tree matched] at copyable same
  have placed (name : String) (given : name ∈ fresh.names) : name ∈ tree.names := by
    by_contra unlisted
    have here := congrFun same name
    rw [copied, if_neg (fun shown => unlisted (List.mem_filter.mp shown).1), (find_none tree name).mpr unlisted, Fresh.find,
      if_pos given] at here
    cases here
  refine ⟨fun empty => matched (by rw [empty]; rfl), fun name member => ?_, fun name given => ?_⟩
  · by_contra hidden
    have here := congrFun same name
    have unplaced : name ∉ fresh.names := fun given => hidden (fresh.plain name given)
    rw [copied, if_neg (fun shown => hidden (List.mem_filter.mp shown).2), Fresh.find, if_neg unplaced] at here
    exact (find_none tree name).mp here.symm member
  · have shown := List.mem_filter.mpr ⟨placed name given, fresh.plain name given⟩
    obtain ⟨node, found, directory⟩ := copyable_found tree fresh name (copyable name shown)
    exact ⟨node, found, directory given⟩

theorem migration_complete_iff (data_dev_src data_dev_tgt : String) (s : Target A) (idle : s.Idle) (able : outcomes.Able)
    (migrates : outcomes.Migrates data_dev_src data_dev_tgt) :
    (exitStatus (runScript outcomes tree fresh data_dev_src data_dev_tgt s).1 = 0 ∧
      (runScript outcomes tree fresh data_dev_src data_dev_tgt s).2.contents = tree.find) ↔ Transferable tree fresh := by
  have leaves := run_script_leaves outcomes tree fresh data_dev_src data_dev_tgt s idle migrates
  have checks := able_checks outcomes tree fresh able
  constructor
  · rintro ⟨zero, same⟩
    have passed := leaves.exit.mp zero
    rw [leaves.contents passed] at same
    exact copies_transferable tree fresh (checks.mp passed) same
  · intro transferable
    obtain ⟨copyable, same⟩ := transferable_copies tree fresh transferable
    have passed := checks.mpr copyable
    exact ⟨leaves.exit.mpr passed, (leaves.contents passed).trans same⟩

end Copies

theorem migration_complete_iff_notes :
    exitStatus (runScript workingOutcomes oneFile ext4 "/dev/mmcblk0p6" "/dev/mmcblk0p7" idleTarget).1 = 0 ∧
      (runScript workingOutcomes oneFile ext4 "/dev/mmcblk0p6" "/dev/mmcblk0p7" idleTarget).2.contents = oneFile.find := by
  refine (migration_complete_iff workingOutcomes oneFile ext4 _ _ idleTarget ⟨rfl, rfl⟩ ⟨rfl, rfl, rfl, rfl, rfl, rfl, rfl, rfl⟩
    ⟨by decide, by decide, rfl, by decide⟩).mpr ⟨by decide, by decide, ?_⟩
  intro name placed
  obtain rfl : name = "lost+found" := List.mem_singleton.mp placed
  exact ⟨true, rfl, rfl⟩

def requestedReset : Tree Bool := ⟨[("lost+found", true), (".factory_reset", false)], by decide⟩

theorem pending_reset_lost : ¬∀ (outcomes : Outcomes) (tree : Tree Bool) (fresh : Fresh Bool)
    (data_dev_src data_dev_tgt : String) (s : Target Bool), s.Idle → outcomes.Able →
      outcomes.Migrates data_dev_src data_dev_tgt →
        exitStatus (runScript outcomes tree fresh data_dev_src data_dev_tgt s).1 = 0 ∧
          (runScript outcomes tree fresh data_dev_src data_dev_tgt s).2.contents = tree.find := by
  intro complete
  have run := complete workingOutcomes requestedReset ext4 "/dev/mmcblk0p6" "/dev/mmcblk0p7" idleTarget ⟨rfl, rfl⟩
    ⟨rfl, rfl, rfl, rfl, rfl, rfl, rfl, rfl⟩ ⟨by decide, by decide, rfl, by decide⟩
  exact absurd (congrFun run.2 ".factory_reset") (by decide)

end SummitSom.Migration
