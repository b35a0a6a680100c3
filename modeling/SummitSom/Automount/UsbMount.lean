import SummitSom.Automount.BlkidFields
import SummitSom.Interact.Threads
import SummitSom.Paths.Walk

set_option autoImplicit false

namespace SummitSom.Automount

open Interact Shell Paths

-- What usb-mount.sh runs or tests. The observer of mkdir also sees the file
-- system type.
inductive MediaCmd where
  | mountPointsOf (device : String)
  | mmctype (devbase : String)
  | rootDevice (devbase : String)
  | blkid (device : String)
  | inMounts (path : String)
  | mkdir (path fstype : String)
  | mount (device path : String)
  | rmdir (path : String)
  | chown (user path : String)
  | startUnit (unit path : String)
  | words (mount_point : List String)
  | umount (path : String)
  | children
  | isPresent (path : String)
  | isEmpty (path : String)
deriving DecidableEq

@[reducible] def MediaAnswer : MediaCmd → Type
  | .mountPointsOf _ | .words _ | .children => List String
  | .mmctype _ | .blkid _ => String
  | .rootDevice _ | .inMounts _ | .mount _ _ | .umount _ | .isPresent _ | .isEmpty _ => Bool
  | _ => Unit

-- The exits of do_mount. Its return for swap is the last thing that happens in
-- the script as well.
inductive Ending where
  | notSdCard
  | rootDevice
  | alreadyMounted
  | noFilesystem
  | swap
  | mountFailed
deriving DecidableEq

def Ending.status : Ending → Nat
  | .notSdCard | .rootDevice | .swap => 0
  | .alreadyMounted | .noFilesystem | .mountFailed => 1

abbrev MediaScript (A : Type) := Prog MediaCmd MediaAnswer Ending A

inductive Action where
  | add
  | remove
deriving DecidableEq

-- The arguments and the environment of a run.
structure Job where
  action : Action
  device : String
  mount_user : String
  mount_user_exec : List String
  id_fs_type : String
  id_fs_label : String

def deviceBase (device : String) : String := cutAtFirst 'p' (removePrefix "/dev/" device)

def checkSdCard (devbase : String) : MediaScript Unit :=
  if startsWith "mmcblk" devbase then
    .call (.mmctype devbase) fun (mmctype : String) =>
      if mmctype ≠ "SD" then .stop .notSdCard
      else .call (.rootDevice devbase) fun (root : Bool) => if root then .stop .rootDevice else .done ()
  else .done ()

-- ID_FS_TYPE and ID_FS_LABEL
def identify (job : Job) : MediaScript (String × String) :=
  if job.id_fs_type ≠ "" then .done (job.id_fs_type, job.id_fs_label)
  else .call (.blkid job.device) fun (blkid : String) =>
    if parseBlkid blkid "TYPE" = "" then .stop .noFilesystem
    else .done (parseBlkid blkid "TYPE", replaced ' ' '_' (echoed (parseBlkid blkid "LABEL")))

section Script

variable (mount_root : String)

def chooseLabel (devbase label : String) : MediaScript String :=
  if label = "" then .done devbase
  else .call (.inMounts (mount_root ++ "/" ++ label)) fun (used : Bool) =>
    .done (if used then label ++ "-" ++ devbase else label)

def forEach (items : List String) (body : String → MediaScript Unit) : MediaScript Unit :=
  match items with
  | [] => .done ()
  | item :: items => do
      body item
      forEach items body

def handOver (job : Job) (path : String) : MediaScript Unit := do
  if job.mount_user = "" then .done () else .call (.chown job.mount_user path) .done
  forEach job.mount_user_exec fun unit => .call (.startUnit unit path) .done

def mountAt (job : Job) (fstype path : String) : MediaScript Unit :=
  .call (.mkdir path fstype) fun _ =>
    if fstype = "swap" then .stop .swap
    else .call (.mount job.device path) fun (mounted : Bool) =>
      if mounted then handOver job path else .call (.rmdir path) fun _ => .stop .mountFailed

def doMount (job : Job) (mount_point : List String) : MediaScript Unit := do
  checkSdCard (deviceBase job.device)
  if mount_point ≠ [] then .stop .alreadyMounted else do
    let info ← identify job
    let label ← chooseLabel mount_root (deviceBase job.device) info.2
    mountAt job info.1 (mount_root ++ "/" ++ label)

def unmountOne (path : String) : MediaScript Unit :=
  if startsWith mount_root path then .call (.umount path) fun _ => .done () else .done ()

def cleanUp (path : String) : MediaScript Unit :=
  .call (.isPresent path) fun (present : Bool) =>
    if present then
      .call (.isEmpty path) fun (empty : Bool) =>
        if empty then
          .call (.inMounts path) fun (used : Bool) => if used then .done () else .call (.rmdir path) fun _ => .done ()
        else .done ()
    else .done ()

def doUnmount (mount_point : List String) : MediaScript Unit :=
  .call (.words mount_point) fun (paths : List String) => do
    forEach paths (unmountOne mount_root)
    .call .children fun (paths : List String) => forEach paths cleanUp

def usbMount (job : Job) : MediaScript Unit :=
  .call (.mountPointsOf job.device) fun (mount_point : List String) =>
    match job.action with
    | .add => doMount mount_root job mount_point
    | .remove => doUnmount mount_root mount_point

end Script

-- The links that the kernel follows on one path.
def linkLimit : Nat := 40

-- Every path of the script begins at the root.
def find (tree : Tree) (path : String) : Walked Dir := walk places linkLimit tree [] (parts false path)

def mkdirs (tree : Tree) (path : String) : Walked Dir := walk places linkLimit tree [] (parts true path)

-- The entry itself, where a link at the end is not followed.
def entryOf (tree : Tree) (path : String) : Option Dir :=
  match (parts false path).reverse.dropWhile fun part => part.name = [] with
  | [] => none
  | last :: before =>
      if last.Stays ∨ last.Climbs then none
      else (walk places linkLimit tree [] before.reverse).place.map fun dir => dir ++ [String.ofList last.name]

-- Entries of /proc/mounts: rest is the file system type and the options.
structure Entry where
  device : String
  dir : Dir
  rest : String
deriving DecidableEq

def mangle (letter : Char) : List Char :=
  match letter with
  | ' ' => "\\040".toList
  | '\t' => "\\011".toList
  | '\n' => "\\012".toList
  | '\\' => "\\134".toList
  | _ => [letter]

def Entry.text (entry : Entry) : String :=
  match entry.dir with
  | [] => "/"
  | dir => String.ofList (dir.flatMap fun name => '/' :: name.toList.flatMap mangle)

def Entry.line (entry : Entry) : String := entry.device ++ " " ++ entry.text ++ " " ++ entry.rest

-- What an add run for the device has made and not mounted on yet, with the places
-- that its path leads over.
structure Claim where
  name : String
  path : String
  dir : Dir
  looked : List Dir

-- The system, newest mount first. adding says that the last run for the device
-- was an add run.
structure Media where
  mounts : List Entry
  tree : Tree
  claims : List Claim
  adding : String → Bool

-- What does not change while the scripts run. line is what blkid finds on a
-- device, none where there is no file system.
structure Board where
  mount_root : String
  mmctype : String → String
  cmdline : String
  line : String → Option BlkidLine

def typeKey : Key := keyOf "TYPE" (by decide) (by decide)

def Board.blkid (board : Board) (device : String) : String := ((board.line device).map BlkidLine.text).getD ""

def Board.fstype (board : Board) (device : String) : String :=
  ((board.line device).map fun line => String.ofList (valueOf typeKey line.pairs)).getD ""

def unclaimed (name : String) (claims : List Claim) : List Claim := claims.filter fun claim => claim.name ≠ name

def claimed (name path : String) (made : Walked Dir) (claims : List Claim) : List Claim :=
  match made.place with
  | some dir => ⟨name, path, dir, made.looked⟩ :: unclaimed name claims
  | none => claims

-- A mount or an unmount shows other contents below its directory.
def SameOutside (dir : Dir) (tree other : Tree) : Prop := ∀ place, ¬ Below dir place → other.node place = tree.node place

def MountedAt (s : Media) (path : String) (dir : Dir) : Prop :=
  (find s.tree path).place = some dir ∧ ∃ entry ∈ s.mounts, entry.dir = dir

structure Removable (s : Media) (path : String) (dir : Dir) : Prop where
  names : entryOf s.tree path = some dir
  there : s.tree.node dir = .directory
  empty : s.tree.Empty dir
  unused : ∀ entry ∈ s.mounts, entry.dir ≠ dir

def mediaReply (board : Board) (name : String) (s : Media) : (cmd : MediaCmd) → MediaAnswer cmd → Media → Prop
  | .mountPointsOf device, answer, t => answer = (s.mounts.filter fun entry => entry.device = device).map Entry.text ∧ t = s
  | .mmctype devbase, answer, t => answer = board.mmctype devbase ∧ t = s
  | .rootDevice devbase, answer, t => answer = grepFixed ("/dev/" ++ devbase ++ "p") board.cmdline ∧ t = s
  | .blkid device, answer, t => answer = board.blkid device ∧ t = s
  | .inMounts path, answer, t => answer = (s.mounts.any fun entry => grepFixed (" " ++ path ++ " ") entry.line) ∧ t = s
  | .mkdir path fstype, _, t =>
      t = { s with
        tree := (mkdirs s.tree path).tree
        claims := if fstype = "swap" then s.claims else claimed name path (mkdirs s.tree path) s.claims }
  | .mount device path, answer, t =>
      (∀ dir, (find s.tree path).place = some dir →
        answer = true ∧ ∃ (rest : String) (tree : Tree), SameOutside dir s.tree tree ∧
          t = { s with mounts := ⟨device, dir, rest⟩ :: s.mounts, tree := tree, claims := unclaimed name s.claims }) ∧
      ((find s.tree path).place = none → answer = false ∧ t = s)
  | .rmdir path, _, t =>
      (∀ dir, Removable s path dir → t = { s with tree := s.tree.set dir .absent }) ∧
      ((∀ dir, ¬ Removable s path dir) → t = s)
  | .chown _ _, _, t => t = s
  | .startUnit _ _, _, t => t = s
  -- A word with pattern characters stands for the paths that match it.
  | .words mount_point, answer, t =>
      ((∀ word ∈ mount_point, ∀ letter ∈ word.toList, letter ∉ ['*', '?', '[', '\\']) → answer = mount_point) ∧ t = s
  -- The newest mount at the directory goes, and those below it may.
  | .umount path, answer, t =>
      (∀ dir, MountedAt s path dir →
        answer = true ∧ ∃ (gone : Entry → Bool) (tree : Tree), SameOutside dir s.tree tree ∧
          (∀ entry, gone entry = true → Below dir entry.dir) ∧
          t = { s with
            mounts := (s.mounts.eraseP fun entry => entry.dir = dir).filter fun entry => !gone entry
            tree := tree }) ∧
      ((∀ dir, ¬ MountedAt s path dir) → answer = false ∧ t = s)
  | .children, answer, t => (∀ path ∈ answer, ∃ child, '/' ∉ child.toList ∧ path = board.mount_root ++ "/" ++ child) ∧ t = s
  | .isPresent path, answer, t => ((find s.tree path).place ≠ none → answer = true) ∧ t = s
  | .isEmpty path, answer, t => (∀ dir, (find s.tree path).place = some dir → (answer = true ↔ s.tree.Empty dir)) ∧ t = s

-- One run for a device at a time. The type in the environment is the one that
-- blkid finds.
def mediaCrew (board : Board) : Crew String MediaCmd MediaAnswer Ending Media where
  acts name := { midst := fun s _ t => t = s, reply := mediaReply board name }
  enters name program s t :=
    ∃ job : Job, job.device = name ∧ (job.id_fs_type ≠ "" → job.id_fs_type = board.fstype name) ∧
      program = usbMount board.mount_root job ∧ t = { s with adding := Function.update s.adding name (job.action == .add) }
  leaves name s t := t = { s with claims := unclaimed name s.claims }
  drifts s t := t = s

end SummitSom.Automount
