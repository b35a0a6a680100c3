import SummitSom.Shell.Read
import SummitSom.Shell.Sed

set_option autoImplicit false

namespace SummitSom.Boot

open Shell

-- What boot-rootfs.sh reads. The UBI parts answer none where the script dies.
structure Booted where
  cmdline : String
  slaves : String → String
  soc_id : String
  lsblk : String → List String
  blockName : String → Option String
  find_ubi_device : String → Option String
  ubiName : String → String

def beginsWord : List Char → Bool
  | [] => false
  | letter :: _ => letter != ' '

def beginsSide : List Char → Bool
  | [] => false
  | letter :: _ => letter == 'a' || letter == 'b'

-- s,.*root=/dev/([^ ]+).*,\1,p
def rootDev (cmdline : String) : String :=
  match afterLastMark "root=/dev/".toList beginsWord cmdline.toList with
  | some rest => String.ofList (rest.takeWhile fun letter => letter ≠ ' ')
  | none => ""

-- s,.*bootside=([ab]).*,\1,p
def bootsideWord (cmdline : String) : String :=
  match afterLastMark "bootside=".toList beginsSide cmdline.toList with
  | some rest => String.ofList (rest.take 1)
  | none => ""

-- s,^disk +(.+),\1,p: of blanks alone the last one is left for the group.
def sideLine (disk line : String) : Option String :=
  let rest := line.toList.drop disk.length
  if startsWith disk line = false ∨ rest.head? ≠ some ' ' then none
  else if dropBlanks rest ≠ [] then some (String.ofList (dropBlanks rest))
  else if 2 ≤ rest.length then some " "
  else none

-- s,^([^ ]+) +part$,\1,p
def partLine (part line : String) : Option String :=
  let name := line.toList.takeWhile fun letter => letter ≠ ' '
  let rest := line.toList.dropWhile fun letter => letter ≠ ' '
  if name ≠ [] ∧ rest ≠ [] ∧ dropBlanks rest = part.toList then some (String.ofList name) else none

def diskOf (rootDevActual : String) : String := cutAtFirst 'p' rootDevActual

section Script

variable (booted : Booted)

-- None where the script dies.
def rootDevActual : Option String :=
  let dev := if startsWith "dm-" (rootDev booted.cmdline) then booted.slaves (rootDev booted.cmdline) else rootDev booted.cmdline
  if startsWith "mmcblk" dev then some dev
  else if startsWith "ubiblock" dev then
    match booted.blockName dev with
    | some name => booted.find_ubi_device name
    | none => some ("ubi" ++ removePrefix "ubiblock" dev)
  else if startsWith "ubi" dev then some dev
  else none

variable (actual : String)

def getEmmcData (sed : String → Option String) : List String := (booted.lsblk (diskOf actual)).filterMap sed

def getSide : String :=
  if bootsideWord booted.cmdline ≠ "" then bootsideWord booted.cmdline
  else
    let bootside :=
      if startsWith "mmcblk" actual then
        if startsWith "sama5d3" booted.soc_id then "a"
        else afterLast '_' (String.intercalate "\n" (getEmmcData booted actual (sideLine (diskOf actual))))
      else if startsWith "ubi" actual then afterLast '_' (booted.ubiName actual)
      else ""
    if bootside ≠ "" then bootside else "a"

def withSide (part : String) : String :=
  if part = "kernel" ∨ part = "rootfs_data" then
    if getSide booted actual = "" then part else part ++ "_" ++ getSide booted actual
  else part

def sama5d3Part (part : String) : List String :=
  if part = "boot" ∨ part = "kernel_a" then [diskOf actual ++ "p1"]
  else if part = "swap" then [diskOf actual ++ "p2"]
  else if part = "perm" then [diskOf actual ++ "p3"]
  else if part = "rootfs_a" then [diskOf actual ++ "p5"]
  else if part = "rootfs_data_a" then [diskOf actual ++ "p6"]
  else []

-- The lines that getPart prints.
def getPart (part : String) : Option (List String) :=
  if part = "rootfs" then some [actual]
  else if startsWith "mmcblk" actual then
    if startsWith "sama5d3" booted.soc_id then some (sama5d3Part actual (withSide booted actual part))
    else some (getEmmcData booted actual (partLine (withSide booted actual part)))
  else if startsWith "ubi" actual then (booted.find_ubi_device (withSide booted actual part)).map fun device => [device]
  else some []

end Script

end SummitSom.Boot
