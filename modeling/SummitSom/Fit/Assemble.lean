import SummitSom.Dts.Source
import Mathlib.Data.List.Infix

set_option autoImplicit false

namespace SummitSom.Fit

open Dts

def dtbLetter (letter : Char) : Bool := letter.isAlphanum || letter ∈ ['.', '_', '-', '+', ',', '/']

def basename (path : List Char) : List Char := (path.reverse.takeWhile fun letter => letter ≠ '/').reverse

-- tr '/' '_'
def underscored (path : List Char) : List Char := path.map fun letter => if letter = '/' then '_' else letter

-- ${path##*.}
def extension (path : List Char) : List Char := (path.reverse.takeWhile fun letter => letter ≠ '.').reverse

-- sed 's,\.dts$,.dtb,g'
def compiled (name : List Char) : List Char :=
  if ".dts".toList <:+ name then name.dropLast ++ ['b'] else name

-- A path of a device tree: no word of it is an option, and grep takes every
-- letter but the dots as itself.
structure DtbPath where
  text : List Char
  letters : text.all dtbLetter = true
  named : basename text ≠ []
  undashed : text.head? ≠ some '-' ∧ (basename text).head? ≠ some '-'

-- grep -x
def grepLine (pattern line : List Char) : Bool :=
  pattern.length = line.length && (pattern.zip line).all fun pair => pair.1 = '.' || pair.1 = pair.2

structure Vars where
  FIT_DESC : Value
  FIT_ADDRESS_CELLS : Value
  FIT_HASH_ALG : Value
  FIT_SIGN_ALG : Value
  FIT_PAD_ALG : Value
  FIT_CONF_PREFIX : Word
  FIT_CONF_DEFAULT_DTB : Value
  FIT_SIGN_INDIVIDUAL : Bool
  FIT_ENCRYPT_ALGO : Value
  FIT_SUPPORTED_INITRAMFS_FSTYPES : List Value
  UBOOT_ARCH : Value
  UBOOT_MKIMAGE_KERNEL_TYPE : Value
  UBOOT_LOADADDRESS : Value
  ENTRYPOINT : Value
  UBOOT_DTB_LOADADDRESS : Value
  UBOOT_DTBO_LOADADDRESS : Value
  UBOOT_RD_LOADADDRESS : Value
  UBOOT_RD_ENTRYPOINT : Value
  UBOOT_SIGN_ENABLE : Bool
  UBOOT_SIGN_KEYNAME : Value
  UBOOT_SIGN_IMG_KEYNAME : Value
  UBOOT_ENCRYPT_ENABLE : Bool
  UBOOT_ENCRYPT_KEYNAME : Value
  UBOOT_ENCRYPT_IVNAME : Value
  UBOOT_ENV : Value
  UBOOT_ENV_BINARY : Word
  KERNEL_DEVICETREE : List DtbPath
  KERNEL_DTBVENDORED : Bool
  KERNEL_OUTPUT_DIR : Value
  STAGING_DIR_HOST : Value
  DEPLOY_DIR_IMAGE : Value
  INITRAMFS_IMAGE : Value
  INITRAMFS_IMAGE_NAME : Value
  INITRAMFS_IMAGE_BUNDLE : Bool
  linux_comp : Value

-- EXTERNAL_KERNEL_DEVICETREE: what find and sort list, first the .dtb and then the
-- .dtbo files, which files are not empty, and where the links lead that point
-- below the directory.
structure Provider where
  dir : Value
  trees : List DtbPath
  filled : List Char → Bool
  symlinkPointsBelow : List Char → Option DtbPath

structure Build where
  exist : List Char → Bool
  bootDir : Bool
  external : Option Provider
  fdtget : List Char → Value

section Emitting

variable (v : Vars)

def inset (n : Nat) : List Char := List.replicate n ' '

def tabbed (n : Nat) : List Char := List.replicate n '\t'

def emitFitHeader : List Line :=
  ["/dts-v1/;".toList, [], opening [] ['/'], stating (inset 8) (quoted "description".toList v.FIT_DESC.text),
    stating (inset 8) (celled "#address-cells".toList v.FIT_ADDRESS_CELLS.text)]

def imagestart : List Line := [[], opening (inset 8) "images".toList]

def confstart : List Line := [[], opening (inset 8) "configurations".toList]

def sectend : List Line := [ending (tabbed 1)]

def fitend : List Line := [ending []]

def sectionNode (name : List Char) (body : List (Option (List Char))) : List Line :=
  opening (inset 16) name :: (body.map (maybe (inset 24)) ++
    [opening (inset 24) "hash-1".toList, stating (inset 32) (quoted "algo".toList v.FIT_HASH_ALG.text), ending (inset 24),
      ending (inset 16)])

def sectionCipher : List Line :=
  [opening (tabbed 3) "cipher".toList, stating (tabbed 4) (quoted "algo".toList v.FIT_ENCRYPT_ALGO.text),
    stating (tabbed 4) (quoted "key-name-hint".toList v.UBOOT_ENCRYPT_KEYNAME.text),
    stating (tabbed 4) (quoted "iv-name-hint".toList v.UBOOT_ENCRYPT_IVNAME.text), ending (tabbed 3)]

def algorithms : List Char := v.FIT_HASH_ALG.text ++ ',' :: v.FIT_SIGN_ALG.text

def sectionSignature : List Line :=
  [opening (inset 24) "signature-1".toList, stating (inset 32) (quoted "algo".toList (algorithms v)),
    stating (inset 32) (quoted "key-name-hint".toList v.UBOOT_SIGN_IMG_KEYNAME.text),
    stating (tabbed 4) (quoted "padding".toList v.FIT_PAD_ALG.text), ending (inset 24), ending (inset 16)]

def Vars.signsImages : Bool := v.UBOOT_SIGN_ENABLE && v.FIT_SIGN_INDIVIDUAL && v.UBOOT_SIGN_IMG_KEYNAME.text ≠ []

-- The sections of the kernel, of a device tree, of the boot script and of the
-- ramdisk end alike. sed -i '$ d' takes the last line of the file.
def emitSection (name : List Char) (body : List (Option (List Char))) (its : List Line) : List Line :=
  let its := its ++ sectionNode v name body
  let its := if v.UBOOT_ENCRYPT_ENABLE then its ++ sectionCipher v else its
  if v.signsImages then its.dropLast ++ sectionSignature v else its

def incbin (path : List Char) : List Char := "data = /incbin/(\"".toList ++ (path ++ ['"', ')'])

def emitSectionKernel (count path compression : List Char) (its : List Line) : List Line :=
  emitSection v ("kernel-".toList ++ count)
    [some (quoted "description".toList "Linux kernel".toList), some (incbin path),
      some (quoted "type".toList v.UBOOT_MKIMAGE_KERNEL_TYPE.text), some (quoted "arch".toList v.UBOOT_ARCH.text),
      some (quoted "os".toList "linux".toList), some (quoted "compression".toList compression),
      some (celled "load".toList v.UBOOT_LOADADDRESS.text), some (celled "entry".toList v.ENTRYPOINT.text)] its

def cellLine (key : List Char) (value : Value) : Option (List Char) :=
  if value.text = [] then none else some (celled key value.text)

def dtbLoadline (DTB : List Char) : Option (List Char) :=
  if extension DTB = "dtbo".toList then cellLine "load".toList v.UBOOT_DTBO_LOADADDRESS
  else cellLine "load".toList v.UBOOT_DTB_LOADADDRESS

def emitSectionDtb (DTB path : List Char) (its : List Line) : List Line :=
  emitSection v ("fdt-".toList ++ DTB)
    [some (quoted "description".toList "Flattened Device Tree blob".toList), some (incbin path),
      some (quoted "type".toList "flat_dt".toList), some (quoted "arch".toList v.UBOOT_ARCH.text),
      some (quoted "compression".toList "none".toList), dtbLoadline v DTB] its

def emitSectionBootScript (count path : List Char) (its : List Line) : List Line :=
  emitSection v ("bootscr-".toList ++ count)
    [some (quoted "description".toList "U-boot script".toList), some (incbin path),
      some (quoted "type".toList "script".toList), some (quoted "arch".toList v.UBOOT_ARCH.text),
      some (quoted "compression".toList "none".toList)] its

def emitSectionSetup (count path : List Char) (its : List Line) : List Line :=
  its ++ sectionNode v ("setup-".toList ++ count)
    [some (quoted "description".toList "Linux setup.bin".toList), some (incbin path),
      some (quoted "type".toList "x86_setup".toList), some (quoted "arch".toList v.UBOOT_ARCH.text),
      some (quoted "os".toList "linux".toList), some (quoted "compression".toList "none".toList),
      some (celled "load".toList "0x00090000".toList), some (celled "entry".toList "0x00090000".toList)]

def emitSectionRamdisk (count path : List Char) (its : List Line) : List Line :=
  emitSection v ("ramdisk-".toList ++ count)
    [some (quoted "description".toList v.INITRAMFS_IMAGE.text), some (incbin path),
      some (quoted "type".toList "ramdisk".toList), some (quoted "arch".toList v.UBOOT_ARCH.text),
      some (quoted "os".toList "linux".toList), some (quoted "compression".toList "none".toList),
      cellLine "load".toList v.UBOOT_RD_LOADADDRESS, cellLine "entry".toList v.UBOOT_RD_ENTRYPOINT] its

-- What a configuration loads: its property, its words in the description, and
-- the image.
structure Load where
  key : List Char
  words : List Char
  image : List Char

def load (key words stem id : List Char) : Option Load := if id = [] then none else some ⟨key, words, stem ++ id⟩

def loads (kernel_id dtb_image dtb_image_sect ramdisk_id bootscr_id config_id : List Char) : List (Option Load) :=
  [load "kernel".toList "Linux kernel".toList "kernel-".toList kernel_id,
    if dtb_image = [] then none else some ⟨"fdt".toList, "FDT blob".toList, "fdt-".toList ++ dtb_image_sect⟩,
    load "ramdisk".toList "ramdisk".toList "ramdisk-".toList ramdisk_id,
    load "bootscr".toList "u-boot script".toList "bootscr-".toList bootscr_id,
    load "setup".toList "setup".toList "setup-".toList config_id]

def signImages (parts : List (Option Load)) : List Char :=
  "sign-images = ".toList ++ ", ".toList.intercalate ((parts.filterMap id).map fun part => '"' :: (part.key ++ ['"']))

-- sed 's/ /", "/g'
def separated (compat : List Char) : List Char :=
  compat.flatMap fun letter => if letter = ' ' then "\", \"".toList else [letter]

def configBody (default_flag : Bool) (compat : List Char) (parts : List (Option Load)) : List (Option (List Char)) :=
  some (quoted "description".toList ((if default_flag then '1' else '0') :: ' ' ::
      ", ".toList.intercalate ((parts.filterMap id).map Load.words))) ::
    (if compat = [] then none else some (quoted "compatible".toList (separated compat))) ::
    parts.map fun part => part.map fun part => quoted part.key part.image

def configLines (default_line : Option (List Char)) (conf_node : List Char) (body : List (Option (List Char)))
    (parts : List (Option Load)) : List Line :=
  maybe (inset 16) default_line :: opening (inset 16) conf_node :: (body.map (maybe (inset 24)) ++
    [opening (inset 24) "hash-1".toList, stating (inset 32) (quoted "algo".toList v.FIT_HASH_ALG.text), ending (inset 24)] ++
    (if v.UBOOT_SIGN_ENABLE && v.UBOOT_SIGN_KEYNAME.text ≠ [] then
      [opening (inset 24) "signature-1".toList, stating (inset 32) (quoted "algo".toList (algorithms v)),
        stating (inset 32) (quoted "key-name-hint".toList v.UBOOT_SIGN_KEYNAME.text),
        stating (inset 32) (quoted "padding".toList v.FIT_PAD_ALG.text), stating (inset 32) (signImages parts),
        ending (inset 24)]
    else []) ++ [ending (inset 16)])

variable (b : Build)

def symlinkPointsBelow (name : List Char) : Option (List Char) :=
  b.external.bind fun provider => (provider.symlinkPointsBelow name).map DtbPath.text

def emitSectionConfig (kernel_id dtb_image ramdisk_id bootscr_id config_id : List Char) (default_flag : Bool)
    (default_dtb_image : List Char) (its : List Line) : List Line :=
  let dtb_image_sect := (symlinkPointsBelow b dtb_image).getD dtb_image
  let compat := (b.fdtget dtb_image_sect).text
  let dtb_image := underscored dtb_image
  let dtb_image_sect := underscored dtb_image_sect
  let conf_node := v.FIT_CONF_PREFIX.text ++ (if dtb_image = [] then kernel_id else dtb_image)
  let parts := loads kernel_id dtb_image dtb_image_sect ramdisk_id bootscr_id config_id
  let default_node :=
    if dtb_image = [] then kernel_id else if default_dtb_image = [] then dtb_image else default_dtb_image
  let default_line :=
    if default_flag then some (quoted "default".toList (v.FIT_CONF_PREFIX.text ++ default_node)) else none
  its ++ configLines v default_line conf_node (configBody default_flag compat parts) parts

end Emitting

section Assembling

variable (v : Vars) (b : Build)

structure Found where
  its : List Line
  DTBS : List (List Char)
  default_dtb_image : List Char

def Found.chosen (DTB : List Char) (found : Found) : Found :=
  if v.FIT_CONF_DEFAULT_DTB.text = DTB then { found with default_dtb_image := underscored DTB } else found

def emptyFile (file : List Char) : Bool :=
  match b.external with
  | none => true
  | some provider => !provider.filled file

def kernelDtb (path : DtbPath) (found : Found) : Found :=
  let DTB := if "/dts/".toList <:+: path.text then compiled (basename path.text) else path.text
  if emptyFile b DTB then
    let inDts := v.KERNEL_OUTPUT_DIR.text ++ "/dts/".toList ++ DTB
    let DTB_PATH := if b.exist inDts then inDts else v.KERNEL_OUTPUT_DIR.text ++ '/' :: DTB
    let DTB := if v.KERNEL_DTBVENDORED then DTB else basename DTB
    let found := found.chosen v DTB
    let DTB := underscored DTB
    if found.DTBS.any (grepLine DTB) then found
    else { found with its := emitSectionDtb v DTB DTB_PATH found.its, DTBS := found.DTBS ++ [DTB] }
  else found

def externalDtb (provider : Provider) (path : DtbPath) (found : Found) : Found :=
  let found := found.chosen v path.text
  let DTB := underscored path.text
  if found.DTBS.any (grepLine DTB) then found
  else
    let found := { found with DTBS := found.DTBS ++ [DTB] }
    match provider.symlinkPointsBelow DTB with
    | some _ => found
    | none => { found with its := emitSectionDtb v DTB (provider.dir.text ++ '/' :: DTB) found.its }

def addDtbs (its : List Line) : Found :=
  let found := v.KERNEL_DEVICETREE.foldl (fun found path => kernelDtb v b path found) ⟨its, [], []⟩
  match b.external with
  | none => found
  | some provider => provider.trees.foldl (fun found path => externalDtb v provider path found) found

def bootscrId : List Char :=
  if v.UBOOT_ENV.text ≠ [] ∧ b.bootDir = true ∧
      b.exist (v.STAGING_DIR_HOST.text ++ "/boot/".toList ++ v.UBOOT_ENV_BINARY.text) = true then v.UBOOT_ENV_BINARY.text
  else []

def addBootScript (its : List Line) : List Line :=
  if v.UBOOT_ENV.text ≠ [] ∧ b.bootDir = true ∧
      b.exist (v.STAGING_DIR_HOST.text ++ "/boot/".toList ++ v.UBOOT_ENV_BINARY.text) = true then
    emitSectionBootScript v v.UBOOT_ENV_BINARY.text v.UBOOT_ENV_BINARY.text its
  else its

def setupBin : List Char := v.KERNEL_OUTPUT_DIR.text ++ "/setup.bin".toList

def setupcount : List Char := if b.exist (setupBin v) then ['1'] else []

def addSetup (its : List Line) : List Line :=
  if b.exist (setupBin v) then emitSectionSetup v ['1'] (setupBin v) its else its

def initramfsPath (img : Value) : List Char :=
  v.DEPLOY_DIR_IMAGE.text ++ '/' :: (v.INITRAMFS_IMAGE_NAME.text ++ '.' :: img.text)

def addRamdisk (ramdiskcount : List Char) (its : List Line) : Option (List Line) :=
  if ramdiskcount = ['1'] ∧ v.INITRAMFS_IMAGE_BUNDLE = false then
    ((v.FIT_SUPPORTED_INITRAMFS_FSTYPES.map (initramfsPath v)).find? b.exist).map fun initramfs_path =>
      emitSectionRamdisk v ramdiskcount initramfs_path its
  else some its

-- The flag says whether the device tree is the first one.
def addConfig (ramdiskcount default_dtb_image : List Char) (DTB : List Char) (first : Bool) (its : List Line) : List Line :=
  if extension DTB = "dtbo".toList then
    emitSectionConfig v b [] DTB [] (bootscrId v b) [] first default_dtb_image its
  else emitSectionConfig v b ['1'] DTB ramdiskcount (bootscrId v b) (setupcount v b) first default_dtb_image its

def addConfigs (ramdiskcount : List Char) (found : Found) (its : List Line) : List Line :=
  match found.DTBS with
  | [] => emitSectionConfig v b ['1'] [] ramdiskcount (bootscrId v b) (setupcount v b) true found.default_dtb_image its
  | DTB :: DTBS =>
      DTBS.foldl (fun its DTB => addConfig v b ramdiskcount found.default_dtb_image DTB false its)
        (addConfig v b ramdiskcount found.default_dtb_image DTB true its)

-- bbfatal ends the task. What uboot-mkimage makes of the file follows.
def fitimageAssemble (ramdiskcount : List Char) : Option (List Line) :=
  if v.UBOOT_SIGN_IMG_KEYNAME.text ≠ [] ∧ v.UBOOT_SIGN_KEYNAME.text = v.UBOOT_SIGN_IMG_KEYNAME.text then none
  else
    let its := emitSectionKernel v ['1'] "linux.bin".toList v.linux_comp.text (emitFitHeader v ++ imagestart)
    let found := addDtbs v b its
    (addRamdisk v b ramdiskcount (addSetup v b (addBootScript v b found.its))).map fun its =>
      addConfigs v b ramdiskcount found (its ++ sectend ++ confstart) ++ sectend ++ fitend

def doAssembleFitimage : Option (List Line) := fitimageAssemble v b []

def doAssembleFitimageInitramfs : Option (List Line) :=
  if v.INITRAMFS_IMAGE.text = [] then none
  else if v.INITRAMFS_IMAGE_BUNDLE then fitimageAssemble v b [] else fitimageAssemble v b ['1']

end Assembling

end SummitSom.Fit
