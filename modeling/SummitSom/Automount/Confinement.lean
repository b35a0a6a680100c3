import SummitSom.Automount.MountPoints

set_option autoImplicit false

namespace SummitSom.Automount

open Interact Shell Paths

-- Where the path leads, if it leads to a directory, is a child of the root. For
-- mkdir -p the directories that are missing are made.
def LeadsToChild (tree : Tree) (made : Bool) (root : Dir) (path : String) : Prop :=
  ∀ dir, (walk places linkLimit tree [] (parts made path)).place = some dir → ∃ child, dir = root ++ [child]

-- With the links on its way followed, the text goes down one name, below what leads
-- back to the root after climbing out of it.
def OneName (tree : Tree) (made : Bool) (root : Dir) (text : String) : Prop :=
  ∀ way, (walk (ways root) linkLimit tree ⟨0, []⟩ (parts made text)).place = some way →
    ∃ child, way.names = root.drop (root.length - way.ups) ++ [child]

theorem leads_to_child_iff (tree : Tree) (made : Bool) (root : String) (dir : Dir) (real : RealDir tree root dir)
    (text : String) : LeadsToChild tree made dir (root ++ "/" ++ text) ↔ OneName tree made dir text := by
  rw [LeadsToChild, OneName, walk_real linkLimit tree made root text dir real, way_place]
  constructor
  · intro leads way reached
    rw [reached] at leads
    obtain ⟨child, place⟩ := leads (way.from dir) rfl
    exact ⟨child, (way_child_iff way dir child).mp place⟩
  · intro single place reached
    obtain ⟨way, there, rfl⟩ := Option.map_eq_some_iff.mp reached
    obtain ⟨child, names⟩ := single way there
    exact ⟨child, (way_child_iff way dir child).mpr names⟩

-- A name as a user would give it, where no link has that name.
theorem plain_one_name (tree : Tree) (made : Bool) (root : Dir) (name : String) (proper : Proper name)
    (whole : '/' ∉ name.toList) (unlinked : ∀ target, tree.node (root ++ [name]) ≠ .link target) :
    OneName tree made root name := by
  have single : parts made name = [⟨name.toList, made⟩] := by rw [parts, List.splitOn_eq_singleton whole]; rfl
  obtain ⟨goes, falls⟩ := proper_goes name made proper
  have here : (ways root).dir ⟨0, []⟩ ++ [String.ofList name.toList] = root ++ [name] := by
    rw [String.ofList_toList]
    simp [ways, Way.from]
  have down : (ways root).down ⟨0, []⟩ (String.ofList name.toList) = ⟨0, [name]⟩ := by rw [String.ofList_toList]; rfl
  intro way reached
  rw [single, walk_looks (ways root) linkLimit tree ⟨0, []⟩ _ [] goes falls _ here, down] at reached
  have ended : way = ⟨0, [name]⟩ := by
    cases there : tree.node (root ++ [name]) with
    | absent =>
        simp only [there] at reached
        split at reached
        · rw [walk_end] at reached
          exact (Option.some.inj reached).symm
        · cases reached
    | directory =>
        simp only [there] at reached
        rw [walk_end] at reached
        exact (Option.some.inj reached).symm
    | file =>
        simp only [there] at reached
        cases reached
    | link target => exact absurd there (unlinked target)
  exact ⟨name, by simp [ended]⟩

-- What a run is told about the medium: the answer of blkid, and whether a mount
-- at the path of the label is listed.
structure Medium where
  blkid : String
  used : Bool

def Medium.tells (medium : Medium) : (cmd : MediaCmd) → MediaAnswer cmd → Prop
  | .blkid _, text => text = medium.blkid
  | .inMounts _, used => used = medium.used
  | _, _ => True

def mediumWorld (medium : Medium) : World MediaCmd MediaAnswer Unit := World.free.answering fun _ => medium.tells

def fsLabel (job : Job) (medium : Medium) : String :=
  if job.id_fs_type ≠ "" then job.id_fs_label else replaced ' ' '_' (echoed (parseBlkid medium.blkid "LABEL"))

def Confined (tree : Tree) (made : Bool) (root : Dir) (devbase label : String) (used : Bool) : Prop :=
  if label = "" then OneName tree made root devbase
  else if used then OneName tree made root (label ++ "-" ++ devbase)
  else OneName tree made root label

-- The command makes the directory of the path, or mounts on it.
def Places (path : String) (made : Bool) : MediaCmd → Prop
  | .mkdir target _ => target = path ∧ made = true
  | .mount _ target => target = path ∧ made = false
  | _ => False

theorem clears_places (path : String) (made : Bool) (cmd : MediaCmd) (clears : Clears cmd) : ¬Places path made cmd := by
  intro places
  cases cmd with
  | mkdir target fstype => exact clears
  | mount device target => exact clears
  | _ => exact places

section Runs

variable (medium : Medium) (root path : String) (made : Bool)

theorem check_sd_card_clears (devbase : String) : Only Clears (checkSdCard devbase) := by
  rw [checkSdCard]
  split
  · refine ⟨trivial, fun (mmctype : String) => ?_⟩
    dsimp only
    split
    · trivial
    · refine ⟨trivial, fun (present : Bool) => ?_⟩
      cases present <;> trivial
  · trivial

theorem identify_clears (job : Job) : Only Clears (identify job) := by
  rw [identify]
  split
  · trivial
  · refine ⟨trivial, fun (blkid : String) => ?_⟩
    dsimp only
    split <;> trivial

theorem choose_label_clears (devbase label : String) : Only Clears (chooseLabel root devbase label) := by
  rw [chooseLabel]
  split
  · trivial
  · exact ⟨trivial, fun _ => trivial⟩

theorem hand_over_clears (job : Job) : Only Clears (handOver job path) := by
  have starts : Only Clears (forEach job.mount_user_exec fun unit => .call (.startUnit unit path) .done) :=
    for_each_only Clears _ _ fun _ => ⟨trivial, fun _ => trivial⟩
  rw [handOver]
  split
  · exact starts
  · exact ⟨trivial, fun _ => starts⟩

theorem mount_at_places (job : Job) (fstype target : String) :
    Only (fun cmd => Places path made cmd → path = target) (mountAt job fstype target) := by
  refine ⟨fun placed => placed.1.symm, fun _ => ?_⟩
  dsimp only
  split
  · trivial
  · refine ⟨fun placed => placed.1.symm, fun mounted => ?_⟩
    dsimp only
    split
    · exact only_mono Clears _ _ (fun cmd clears placed => absurd placed (clears_places path made cmd clears)) (hand_over_clears target job)
    · exact ⟨fun placed => placed.elim, fun _ => trivial⟩

theorem identified (job : Job) (result : Except Ending (String × String))
    (ended : Ends (mediumWorld medium) (identify job) () result ()) (info : String × String) (known : result = .ok info) :
    info.2 = fsLabel job medium := by
  subst known
  rw [identify] at ended
  split at ended
  · next typed =>
      obtain ⟨value, _⟩ := ended_done _ _ _ _ _ ended
      cases value
      rw [fsLabel, if_pos typed]
  · next untyped =>
      obtain ⟨blkid, _, answered, onward⟩ := ended_call _ _ _ _ _ _ ended
      obtain rfl : blkid = medium.blkid := answered.1
      split at onward
      · cases (ended_stop _ _ _ _ _ onward).1
      · cases (ended_done _ _ _ _ _ onward).1
        rw [fsLabel, if_neg untyped]

theorem labelled (devbase label chosen : String)
    (ended : Ends (mediumWorld medium) (chooseLabel root devbase label) () (.ok chosen) ()) (tree : Tree) (dir : Dir) :
    Confined tree made dir devbase label medium.used ↔ OneName tree made dir chosen := by
  rw [chooseLabel] at ended
  rw [Confined]
  split at ended
  · next unlabelled =>
      cases (ended_done _ _ _ _ _ ended).1
      rw [if_pos unlabelled]
  · next labelled =>
      obtain ⟨used, _, answered, onward⟩ := ended_call _ _ _ _ _ _ ended
      obtain rfl : used = medium.used := answered.1
      cases (ended_done _ _ _ _ _ onward).1
      rw [if_neg labelled]
      cases medium.used
      · rfl
      · rfl

theorem spared {A : Type} (program : MediaScript A) (cmd : MediaCmd) (only : Only Clears program)
    (places : Places path made cmd) : ¬Issues (mediumWorld medium) program () cmd () :=
  fun issued => clears_places path made cmd (only_issues _ Clears program () () cmd only issued) places

theorem do_mount_parts (job : Job) (mount_point : List String) :
    doMount root job mount_point = (checkSdCard (deviceBase job.device) >>= fun _ =>
      if mount_point ≠ [] then .stop .alreadyMounted else identify job >>= fun info =>
        chooseLabel root (deviceBase job.device) info.2 >>= fun label =>
          mountAt job info.1 (root ++ "/" ++ label)) := rfl

theorem do_mount_places (job : Job) (mount_point : List String) (cmd : MediaCmd) (places : Places path made cmd)
    (issued : Issues (mediumWorld medium) (doMount root job mount_point) () cmd ()) :
    ∃ info label, Ends (mediumWorld medium) (identify job) () (.ok info) () ∧
      Ends (mediumWorld medium) (chooseLabel root (deviceBase job.device) info.2) () (.ok label) () ∧
      path = root ++ "/" ++ label := by
  rw [do_mount_parts] at issued
  rcases issued_bind _ _ _ _ _ _ issued with checking | ⟨_, _, _, checked⟩
  · exact (spared medium path made _ cmd (check_sd_card_clears _) places checking).elim
  · split at checked
    · exact (issued_stop _ _ _ _ _ checked).elim
    · rcases issued_bind _ _ _ _ _ _ checked with identifying | ⟨info, _, known, chosen⟩
      · exact (spared medium path made _ cmd (identify_clears job) places identifying).elim
      · rcases issued_bind _ _ _ _ _ _ chosen with choosing | ⟨label, _, named, mounting⟩
        · exact (spared medium path made _ cmd (choose_label_clears root _ info.2) places choosing).elim
        · exact ⟨info, label, known, named, only_issues _ _ _ () () cmd (mount_at_places path made job info.1 _) mounting places⟩

end Runs

def labelledJob (label : String) : Job := ⟨.add, "/dev/sda1", "", [], "ext4", label⟩

def freshMedium : Medium := ⟨"", false⟩

theorem fresh_mkdir (label : String) (given : label ≠ "") : Issues (mediumWorld freshMedium)
    (usbMount "/media" (labelledJob label)) () (.mkdir ("/media" ++ "/" ++ label) "ext4") () := by
  have base : deviceBase "/dev/sda1" = "sda1" := by decide
  have unchecked : checkSdCard "sda1" = .done () := if_neg (by decide)
  have typed : "ext4" ≠ "" := by decide
  have known : identify (labelledJob label) = .done ("ext4", label) := if_pos typed
  have mounting : Issues (mediumWorld freshMedium) (doMount "/media" (labelledJob label) []) ()
      (.mkdir ("/media" ++ "/" ++ label) "ext4") () := by
    have unused : (mediumWorld freshMedium).reply () (.inMounts ("/media" ++ "/" ++ label)) false () := ⟨rfl, trivial⟩
    rw [do_mount_parts, show (labelledJob label).device = "/dev/sda1" from rfl, base, unchecked, done_bind,
      if_neg (not_not_intro rfl), known, done_bind, chooseLabel, if_neg given]
    exact issues_call _ _ _ _ _ () () () unused ⟨_, .here _ ()⟩
  have listed : (mediumWorld freshMedium).reply () (.mountPointsOf "/dev/sda1") [] () := ⟨trivial, trivial⟩
  exact issues_call _ _ _ _ _ () () () listed mounting

-- A disk is mounted that holds a link out of /media.
def linkedTree : Tree :=
  ⟨[([], .directory), (["media"], .directory), (["media", "disk"], .directory), (["media", "disk", "s"], .link "/var/lib"),
    (["var"], .directory), (["var", "lib"], .directory)]⟩

theorem linked_root : RealDir linkedTree "/media" ["media"] := by
  refine ⟨by decide +kernel, ?_, ?_⟩
  · intro name inside
    obtain rfl := List.mem_singleton.mp inside
    exact ⟨by decide, by decide, by decide⟩
  · intro upper before
    have either : upper = [] ∨ upper = ["media"] := by simpa [List.prefix_cons_iff] using before
    rcases either with rfl | rfl
    · decide +kernel
    · decide +kernel

end SummitSom.Automount
