import SummitSom.Data.DataTree

set_option autoImplicit false

namespace SummitSom.Data

open Interact

def marker : Path := [".factory_reset"]

def secretTarget : Path := ["secret"]

def miscTarget : Path := ["misc"]

def networkManager : Path := ["secret", "NetworkManager"]

def bluetoothState : Path := ["secret", "lib", "bluetooth"]

def dropbearDir : Path := ["secret", "dropbear"]

def timezone : Path := ["misc", "timezone"]

def localtime : Path := ["misc", "localtime"]

def adjtime : Path := ["misc", "adjtime"]

structure Default where
  path : Path
  kind : Kind
deriving DecidableEq, Repr

def sources (defaults : List Default) : List String :=
  (defaults.filterMap fun item => item.path.head?).eraseDups

-- The factory defaults of an image, every file and directory below
-- /usr/share/factory/etc/secret and misc. The image build moves plain names
-- there, so that a shell pattern * finds all of them, and the three files of
-- misc together.
structure Image where
  bluetoothd : Bool
  dropbear : Bool
  secret : List Default
  misc : List Default
  several : 2 ≤ (sources misc).length
  named : ∀ item ∈ secret ++ misc, ∃ name rest, item.path = name :: rest ∧ name.toList.head? ≠ some '.'

inductive Source where
  | secret
  | misc
deriving DecidableEq, Repr

def Source.target : Source → Path
  | .secret => secretTarget
  | .misc => miscTarget

def Image.defaults (image : Image) : Source → List Default
  | .secret => image.secret
  | .misc => image.misc

inductive ResetCmd where
  | testFile (path : Path)
  | testDir (path : Path)
  | find (dir : Path) (keep : String)
  | rm (path : Path)
  | hooks (pattern : String)
  | bluetoothd
  | dropbear
  | mkdirs (path : Path)
  | copy (source : Source)
  | writeZone
  | linkLocaltime
  | touch (path : Path)
  | sync
deriving DecidableEq, Repr

@[reducible] def ResetAnswer : ResetCmd → Type
  | .testFile _ | .testDir _ | .bluetoothd | .dropbear => Bool
  | .find _ _ => List String
  | _ => Nat

abbrev ResetScript := Prog ResetCmd ResetAnswer Nat Unit

-- A command whose status the script does not look at.
def run (cmd : ResetCmd) : ResetScript := .call cmd fun _ => .done ()

def orExit (status : Nat) : ResetScript := if status = 0 then .done () else .stop 1

-- find visits the names in the order of the answer.
def removeAll (dir : Path) : List String → ResetScript
  | [] => .done ()
  | name :: rest => do
      run (.rm (dir ++ [name]))
      removeAll dir rest

def findRemove (dir : Path) (keep : String) : ResetScript :=
  .call (.find dir keep) fun (names : List String) => removeAll dir names

def bluetoothDir : ResetScript :=
  .call .bluetoothd fun (executable : Bool) => if executable then run (.mkdirs bluetoothState) else .done ()

def dropbearState : ResetScript :=
  .call .dropbear fun (executable : Bool) => if executable then run (.mkdirs dropbearDir) else .done ()

def defaultZone : ResetScript :=
  .call (.testFile timezone) fun (present : Bool) => if present then .done () else run .writeZone

-- The status of the last command is the status of the script.
def syncLast : ResetScript := .call .sync fun (status : Nat) => if status = 0 then .done () else .stop status

def populate : ResetScript := do
  bluetoothDir
  dropbearState
  .call (.copy .secret) orExit
  run (.mkdirs miscTarget)
  .call (.copy .misc) orExit
  defaultZone
  .call .linkLocaltime orExit
  .call (.touch adjtime) orExit
  syncLast

def cleanUp : ResetScript := do
  findRemove [] "secret"
  findRemove secretTarget "permanent"
  run (.hooks "/usr/sbin/factory_reset_*.sh")

def powerUp : ResetScript := do
  bluetoothDir
  dropbearState
  run (.hooks "/usr/sbin/factory_powerup_*.sh")
  syncLast

def doCheckAndReset : ResetScript :=
  .call (.testFile marker) fun (requested : Bool) =>
    if requested then do
      cleanUp
      populate
    else .call (.testDir networkManager) fun (populated : Bool) => if populated then powerUp else populate

def doFactoryReset (argument : String) : ResetScript :=
  if argument = "check" then doCheckAndReset
  else if argument = "reset" then run (.touch marker)
  else .stop 1

-- cp -ar of the defaults: into the target directory, or to the target itself
-- when that is missing and there is a single source.
def Copying (image : Image) (source : Source) (s t : DataTree) : Prop :=
  if s.isKind .dir source.target then Replacing (Below source.target) s t
  else if 2 ≤ (sources (image.defaults source)).length then ∀ place, t.entry place = s.entry place
  else Replacing (fun place => source.target <+: place) s t

def Copied (image : Image) (source : Source) (s t : DataTree) : Prop :=
  if s.isKind .dir source.target then
    Replacing (Below source.target) s t ∧
      ∀ item ∈ image.defaults source, (∃ name rest, item.path = name :: rest ∧ name.toList.head? ≠ some '.') →
        t.Holds (source.target ++ item.path) item.kind
  else (sources (image.defaults source)).length < 2 ∧ Replacing (fun place => source.target <+: place) s t

def Linking (s t : DataTree) : Prop := Replacing (fun place => localtime <+: place) s t

-- The hooks do not touch /data, and rm removes what it is given.
def resetWorld (image : Image) : World ResetCmd ResetAnswer DataTree where
  midst s cmd t :=
    match cmd with
    | .rm path => Removing path s t
    | .mkdirs path => Making .dir (fun place => place <+: path) s t
    | .copy source => Copying image source s t
    | .writeZone => Making .file (fun place => place = timezone) s t
    | .linkLocaltime => Linking s t
    | .touch path => Making .file (fun place => place = path) s t
    | .testFile _ | .testDir _ | .find _ _ | .hooks _ | .bluetoothd | .dropbear | .sync => t = s
  reply s cmd answer t :=
    match cmd, answer with
    | .testFile path, present => present = s.isKind .file path ∧ t = s
    | .testDir path, present => present = s.isKind .dir path ∧ t = s
    | .find dir keep, names =>
        (∀ name, name ∈ names ↔ name ≠ keep ∧ s.entry (dir ++ [name]) ≠ none) ∧ t = s
    | .rm path, _ => Removed path s t
    | .bluetoothd, executable => executable = image.bluetoothd ∧ t = s
    | .dropbear, executable => executable = image.dropbear ∧ t = s
    | .mkdirs path, status =>
        Making .dir (fun place => place <+: path) s t ∧ (status = 0 → t.isKind .dir path = true)
    | .copy source, status => if status = 0 then Copied image source s t else Copying image source s t
    | .writeZone, _ => Making .file (fun place => place = timezone) s t
    | .linkLocaltime, status =>
        Linking s t ∧ (status = 0 → t.entry localtime ≠ none)
    | .touch path, status => Making .file (fun place => place = path) s t ∧ (status = 0 → t.entry path ≠ none)
    | .hooks _, _ => t = s
    | .sync, _ => t = s

-- What a reset is to leave: of the entries of before only the permanent
-- directory, what is under it and the way to it, and all the defaults. The local
-- time default is replaced by a link in any case.
def permanent : Path := ["secret", "permanent"]

def Exempt (path : Path) : Prop := path <+: permanent ∨ permanent <+: path

def Cleared (tree : DataTree) : Prop := ∀ path found, tree.entry path = some found → found.origin = .old → Exempt path

structure Installed (image : Image) (tree : DataTree) : Prop where
  secret : ∀ item ∈ image.secret, tree.Holds (secretTarget ++ item.path) item.kind
  misc : ∀ item ∈ image.misc, ¬ localtime <+: miscTarget ++ item.path → tree.Holds (miscTarget ++ item.path) item.kind
  localtime : tree.entry localtime ≠ none

-- What every step of a check keeps: misc is made as a directory, and the copy
-- of the secret defaults has a directory to go to or refuses to work.
structure Shaped (image : Image) (tree : DataTree) : Prop where
  misc : ∀ found, tree.entry miscTarget = some found → found.origin ≠ .old → found.kind = .dir
  secret : tree.isKind .dir secretTarget = true ∨ 2 ≤ (sources image.secret).length

-- Where power may be lost: the request is still there, or nothing of before is
-- left and what is there will not be mistaken for a finished reset.
def SafeToCut (image : Image) (tree : DataTree) : Prop :=
  tree.isKind .file marker = true ∨
    (Cleared tree ∧ (tree.isKind .dir networkManager = false ∨ Installed image tree))

end SummitSom.Data
