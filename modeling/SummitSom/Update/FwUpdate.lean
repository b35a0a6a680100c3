import SummitSom.Interact.Program
import SummitSom.Shell.Words

set_option autoImplicit false

namespace SummitSom.Update

open Interact Shell

abbrev Status := Nat

inductive Verdict where
  | status (status : Status)
  | died (message : String)
deriving DecidableEq, Repr

-- The package swupdate-client reads: a file, or a pipe fed by a download
-- command (a url such as file://a://b leaves the download command empty).
inductive Download where
  | curl (silent : Bool) (url : String)
  | wget (silent : Bool) (url : String)
deriving DecidableEq, Repr

inductive Package where
  | file (path : String)
  | pipe (download : Option Download)
deriving DecidableEq, Repr

-- Everything fw_update runs or tests. The three flash helpers are the shell
-- functions of that name, whether sourced from the UBI support script or the
-- empty ones fw_update defines itself when /proc/mtd has no ubi partition.
inductive Cmd where
  | grepUbi
  | hookExecutable
  | deviceUpdate (state : String)
  | readable (path : String)
  | curlExecutable
  | wgetExecutable
  | curlProbe (url : String)
  | wgetProbe (url : String)
  | flashCleanup
  | flashFactoryTest
  | flashFormat
  | swupdateClient (selection : String) (verbose : Bool) (package : Package)
  | migrateExecutable
  | migrateData
  | reboot
deriving DecidableEq, Repr

-- Tests answer yes or no, commands answer with their exit status; the pipe into
-- swupdate-client answers with the status pipefail makes of its two ends.
@[reducible] def Answer : Cmd → Type
  | .grepUbi | .hookExecutable | .readable _ | .curlExecutable | .wgetExecutable | .migrateExecutable => Bool
  | .deviceUpdate _ | .curlProbe _ | .wgetProbe _ | .flashCleanup | .flashFormat | .swupdateClient _ _ _ |
    .migrateData | .reboot => Status
  | .flashFactoryTest => Verdict

abbrev Script (A : Type) := Prog Cmd Answer Status A

-- set -e: a simple command that fails ends the script with its status.
def errexit (status : Status) : Script Unit := if status = 0 then .done () else .stop status

def notifyStatus (state : String) : Script Status :=
  .call .hookExecutable fun (executable : Bool) =>
    if executable then .call (.deviceUpdate state) .done else .done 0

def notify (state : String) : Script Unit := do
  let status ← notifyStatus state
  errexit status

def cleanupIfComplete (o_method : String) : Script Unit :=
  if startsWith "complete" o_method then .call .flashCleanup errexit else .done ()

-- die prints its message and never returns; it reads o_method as it stands.
def die {A : Type} (o_method : String) : Script A := do
  cleanupIfComplete o_method
  notify "failed"
  .stop 1

-- boot-rootfs.sh calls die while o_method is unset, and set -e is off in a
-- sourced file whose failure is caught by "|| die".
def dieSourcing {A : Type} : Script A := do
  let _ ← notifyStatus "failed"
  .stop 1

def usage {A : Type} : Script A := .stop 3

-- What boot-rootfs.sh works from: the root device of the kernel command line
-- (behind a dm device its slave), the type file of an mmcblk disk, and the side
-- that getSide finds.
structure Boot where
  rootDevActual : String
  deviceType : String
  bootside : String
deriving DecidableEq, Repr

def rootDevType (boot : Boot) : Option String :=
  if startsWith "mmcblk" boot.rootDevActual then some boot.deviceType
  else if startsWith "ubiblock" boot.rootDevActual then some "ubi"
  else if startsWith "ubi" boot.rootDevActual then some "ubi"
  else none

structure Vars where
  o_verbose : Bool
  o_quiet : Bool
  o_restart : Bool
  o_factory : Bool
  o_side : String
  o_method : String
deriving DecidableEq, Repr

def runOnSd (boot : Boot) : Bool := rootDevType boot = some "SD"

def defaults (boot : Boot) : Vars where
  o_verbose := false
  o_quiet := true
  o_restart := true
  o_factory := false
  o_side := if boot.bootside = "a" then "b" else "a"
  o_method := if runOnSd boot then "complete" else "full"

def applyOption (vars : Vars) (found : Found) : Option Vars :=
  match found.name with
  | 'm' => some { vars with o_method := found.arg }
  | 's' => some { vars with o_side := found.arg }
  | 'x' => some (if contains "r" found.arg then { vars with o_restart := false } else vars)
  | 'f' => some { vars with o_factory := true }
  | 'v' => some { vars with o_verbose := true, o_quiet := false }
  | _ => none

def optionSpec : List Char := "m:s:x:fv".toList

def parseOptions (boot : Boot) (args : List String) : Option (Vars × String) :=
  ((getopts optionSpec none args).1.foldlM applyOption (defaults boot)).map fun vars =>
    (vars, ((getopts optionSpec none args).2.head?).getD "")

def prologue (boot : Boot) (args : List String) : Script (Vars × String) :=
  if args = [] then usage
  else match rootDevType boot with
    | none => dieSourcing
    | some devType =>
        if boot.bootside = "" ∨ devType = "" then .stop 2
        else .call .grepUbi fun _ =>
          match parseOptions boot args with
          | none => usage
          | some parsed => .done parsed

def methodGuard (boot : Boot) (vars : Vars) : Script String :=
  if vars.o_method = "complete" then
    if runOnSd boot then .done vars.o_method else die vars.o_method
  else
    if runOnSd boot then die vars.o_method else .done (vars.o_method ++ "-" ++ vars.o_side)

def probeUrl (vars : Vars) (url : String) : Script Unit :=
  if cutAtLast ':' url ∈ ["http", "https", "ftp"] then
    .call .curlExecutable fun (curl : Bool) =>
      if curl then .call (.curlProbe url) fun (status : Status) => if status = 0 then .done () else die vars.o_method
      else .call .wgetExecutable fun (wget : Bool) =>
        if wget then .call (.wgetProbe url) fun (status : Status) => if status = 0 then .done () else die vars.o_method
        else .done ()
  else .done ()

def downloadCmd (vars : Vars) (url : String) : Script Download :=
  .call .curlExecutable fun (curl : Bool) =>
    if curl then .done (.curl vars.o_quiet url)
    else .call .wgetExecutable fun (wget : Bool) => if wget then .done (.wget vars.o_quiet url) else die vars.o_method

def requireReadable (vars : Vars) (path : String) : Script Unit :=
  .call (.readable path) fun (readable : Bool) => if readable then .done () else die vars.o_method

-- The url after "${url#file://}", and download_cmd where it was set.
def checkUrl (vars : Vars) (url : String) : Script (String × Option Download) :=
  if startsWith "file://" url then do
    requireReadable vars (removePrefix "file://" url)
    .done (removePrefix "file://" url, none)
  else if contains "://" url then do
    probeUrl vars url
    let download ← downloadCmd vars url
    .done (url, some download)
  else do
    requireReadable vars url
    .done (url, none)

def factoryTest (vars : Vars) : Script Unit :=
  if vars.o_factory then
    .call .flashFactoryTest fun (verdict : Verdict) =>
      match verdict with
      | .status status => errexit status
      | .died _ => die vars.o_method
  else .done ()

def prepareFlash (vars : Vars) : Script Unit :=
  if startsWith "complete" vars.o_method then do
    .call .flashCleanup errexit
    factoryTest vars
    .call .flashFormat errexit
  else .done ()

def install (vars : Vars) (p_method url : String) (download : Option Download) : Script Unit :=
  .call (.swupdateClient ("stable," ++ p_method) vars.o_verbose
    (if contains "://" url then .pipe download else .file url)) fun (status : Status) =>
      if status = 0 then .done () else die vars.o_method

def finish (vars : Vars) : Script Unit :=
  if startsWith "complete" vars.o_method then .call .flashCleanup errexit
  else .call .migrateExecutable fun (executable : Bool) =>
    if executable then .call .migrateData fun (status : Status) => if status = 0 then .done () else die vars.o_method
    else .done ()

def restart (boot : Boot) (vars : Vars) : Script Unit :=
  if vars.o_restart && !runOnSd boot then .call .reboot errexit else .done ()

def update (boot : Boot) (vars : Vars) (url : String) : Script Unit := do
  let p_method ← methodGuard boot vars
  notify "updating"
  let source ← checkUrl vars url
  prepareFlash vars
  install vars p_method source.1 source.2
  finish vars
  notify "complete"
  restart boot vars

def fwUpdate (boot : Boot) (args : List String) : Script Unit := do
  let parsed ← prologue boot args
  update boot parsed.1 parsed.2

end SummitSom.Update
