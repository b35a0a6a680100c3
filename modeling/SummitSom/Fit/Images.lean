import SummitSom.Fit.Sections
import Mathlib.Data.List.TakeWhile
import Mathlib.Data.List.Nodup

set_option autoImplicit false

namespace SummitSom.Fit

open Dts

section Names

theorem dtb_letter_tidy (letter : Char) (plain : dtbLetter letter = true) :
    nameLetter letter = true ∧ valueLetter letter = true := by
  have other (special : Char) (bad : dtbLetter special = false) : letter ≠ special := by
    rintro rfl
    rw [bad] at plain
    cases plain
  have space := other ' ' (by decide)
  have tab := other '\t' (by decide)
  have newline := other '\n' (by decide)
  have quote := other '"' (by decide)
  have opening := other '{' (by decide)
  have closing := other '}' (by decide)
  have ending := other ';' (by decide)
  have dollar := other '$' (by decide)
  have backquote := other '\x60' (by decide)
  have backslash := other '\\' (by decide)
  simp [nameLetter, valueLetter, expands, blank, space, tab, newline, quote, opening, closing, ending, dollar, backquote, backslash]

def Lettered (name : List Char) : Prop := name ≠ [] ∧ name.all dtbLetter = true

theorem lettered_tidy (name : List Char) (lettered : name.all dtbLetter = true) : Tidy name := by
  have both (letter : Char) (inside : letter ∈ name) := dtb_letter_tidy letter (List.all_eq_true.mp lettered letter inside)
  exact ⟨List.all_eq_true.mpr fun letter inside => (both letter inside).1,
    List.all_eq_true.mpr fun letter inside => (both letter inside).2⟩

theorem basename_letters (path : List Char) (letter : Char) (inside : letter ∈ basename path) : letter ∈ path ∧ letter ≠ '/' := by
  have taken := List.mem_reverse.mp inside
  have plain := List.mem_takeWhile_imp taken
  exact ⟨List.mem_reverse.mp ((List.takeWhile_sublist _).subset taken), of_decide_eq_true plain⟩

theorem basename_whole (name : List Char) (whole : '/' ∉ name) : basename name = name := by
  have all : ∀ letter ∈ name.reverse, decide (letter ≠ '/') = true := by
    intro letter inside
    apply decide_eq_true
    rintro rfl
    exact whole (List.mem_reverse.mp inside)
  rw [basename, List.takeWhile_eq_self_iff.mpr all, List.reverse_reverse]

theorem basename_lettered (path : DtbPath) : Lettered (basename path.text) := by
  refine ⟨path.named, List.all_eq_true.mpr ?_⟩
  intro letter inside
  exact List.all_eq_true.mp path.letters letter (basename_letters path.text letter inside).1

theorem path_lettered (path : DtbPath) : Lettered path.text := by
  refine ⟨?_, path.letters⟩
  intro empty
  exact path.named (by rw [empty]; rfl)

theorem compiled_lettered (name : List Char) (lettered : Lettered name) : Lettered (compiled name) := by
  rw [compiled]
  split
  · refine ⟨List.append_ne_nil_of_right_ne_nil _ (List.cons_ne_nil _ _), ?_⟩
    rw [List.all_append, List.all_eq_true.mpr fun letter inside =>
      List.all_eq_true.mp lettered.2 letter (List.mem_of_mem_dropLast inside)]
    decide
  · exact lettered

theorem compiled_whole (name : List Char) (whole : '/' ∉ name) : '/' ∉ compiled name := by
  rw [compiled]
  split
  · intro inside
    cases List.mem_append.mp inside with
    | inl front => exact whole (List.mem_of_mem_dropLast front)
    | inr back => exact absurd back (by decide)
  · exact whole

theorem underscored_lettered (name : List Char) (lettered : Lettered name) : Lettered (underscored name) := by
  refine ⟨fun empty => lettered.1 (List.map_eq_nil_iff.mp empty), ?_⟩
  rw [underscored, List.all_map, List.all_eq_true]
  intro letter inside
  change dtbLetter (if letter = '/' then '_' else letter) = true
  split
  · decide
  · exact List.all_eq_true.mp lettered.2 letter inside

theorem underscored_whole (name : List Char) (whole : '/' ∉ name) : underscored name = name := by
  rw [underscored, List.map_congr_left (g := id), List.map_id]
  intro letter inside
  rw [if_neg]
  · rfl
  · rintro rfl
    exact whole inside

theorem grep_line_self (name : List Char) : grepLine name name = true := by
  rw [grepLine, decide_eq_true rfl, Bool.true_and, List.all_eq_true]
  intro pair inside
  have same : pair.1 = pair.2 := by
    rw [List.zip_eq_zipWith, List.zipWith_self] at inside
    obtain ⟨letter, _, rfl⟩ := List.mem_map.mp inside
    rfl
  rw [decide_eq_true same, Bool.or_true]

variable (v : Vars)

-- The file that a word of KERNEL_DEVICETREE stands for.
def dtbFile (path : DtbPath) : List Char :=
  if "/dts/".toList <:+: path.text then compiled (basename path.text) else path.text

def shortName (path : DtbPath) : List Char := if v.KERNEL_DTBVENDORED then dtbFile path else basename (dtbFile path)

def treeName (path : DtbPath) : List Char := underscored (shortName v path)

theorem file_lettered (path : DtbPath) : Lettered (dtbFile path) := by
  rw [dtbFile]
  split
  · exact compiled_lettered _ (basename_lettered path)
  · exact path_lettered path

theorem short_lettered (path : DtbPath) : Lettered (shortName v path) := by
  rw [shortName]
  split
  · exact file_lettered path
  · rw [dtbFile]
    split
    · have whole : '/' ∉ compiled (basename path.text) :=
        compiled_whole _ fun inside => (basename_letters path.text '/' inside).2 rfl
      rw [basename_whole _ whole]
      exact compiled_lettered _ (basename_lettered path)
    · exact basename_lettered path

theorem tree_lettered (path : DtbPath) : Lettered (treeName v path) := underscored_lettered _ (short_lettered v path)

end Names

section Images

variable (v : Vars)

def imagesPath : Path := ["images".toList, ['/']]

def kernelImage : Image where
  name := "kernel-".toList ++ ['1']
  body := [some (quoted "description".toList "Linux kernel".toList), some (incbin "linux.bin".toList),
    some (quoted "type".toList v.UBOOT_MKIMAGE_KERNEL_TYPE.text), some (quoted "arch".toList v.UBOOT_ARCH.text),
    some (quoted "os".toList "linux".toList), some (quoted "compression".toList v.linux_comp.text),
    some (celled "load".toList v.UBOOT_LOADADDRESS.text), some (celled "entry".toList v.ENTRYPOINT.text)]
  secured := true

def dtbImage (DTB path : List Char) : Image where
  name := "fdt-".toList ++ DTB
  body := [some (quoted "description".toList "Flattened Device Tree blob".toList), some (incbin path),
    some (quoted "type".toList "flat_dt".toList), some (quoted "arch".toList v.UBOOT_ARCH.text),
    some (quoted "compression".toList "none".toList), dtbLoadline v DTB]
  secured := true

def bootscrImage (path : List Char) : Image where
  name := "bootscr-".toList ++ path
  body := [some (quoted "description".toList "U-boot script".toList), some (incbin path),
    some (quoted "type".toList "script".toList), some (quoted "arch".toList v.UBOOT_ARCH.text),
    some (quoted "compression".toList "none".toList)]
  secured := true

def setupImage (path : List Char) : Image where
  name := "setup-".toList ++ ['1']
  body := [some (quoted "description".toList "Linux setup.bin".toList), some (incbin path),
    some (quoted "type".toList "x86_setup".toList), some (quoted "arch".toList v.UBOOT_ARCH.text),
    some (quoted "os".toList "linux".toList), some (quoted "compression".toList "none".toList),
    some (celled "load".toList "0x00090000".toList), some (celled "entry".toList "0x00090000".toList)]
  secured := false

def ramdiskImage (path : List Char) : Image where
  name := "ramdisk-".toList ++ ['1']
  body := [some (quoted "description".toList v.INITRAMFS_IMAGE.text), some (incbin path),
    some (quoted "type".toList "ramdisk".toList), some (quoted "arch".toList v.UBOOT_ARCH.text),
    some (quoted "os".toList "linux".toList), some (quoted "compression".toList "none".toList),
    cellLine "load".toList v.UBOOT_RD_LOADADDRESS, cellLine "entry".toList v.UBOOT_RD_ENTRYPOINT]
  secured := true

theorem description_named : Named "description".toList := ⟨by decide, rfl⟩
theorem type_named : Named "type".toList := ⟨by decide, rfl⟩
theorem arch_named : Named "arch".toList := ⟨by decide, rfl⟩
theorem os_named : Named "os".toList := ⟨by decide, rfl⟩
theorem compression_named : Named "compression".toList := ⟨by decide, rfl⟩
theorem load_named : Named "load".toList := ⟨by decide, rfl⟩
theorem entry_named : Named "entry".toList := ⟨by decide, rfl⟩

theorem kernel_stated : AllStated (kernelImage v).body := by
  apply all_stated_some _ _ (text_stated _ _ description_named (by decide))
  apply all_stated_some _ _ (incbin_stated _ (by decide))
  apply all_stated_some _ _ (value_stated _ v.UBOOT_MKIMAGE_KERNEL_TYPE type_named)
  apply all_stated_some _ _ (value_stated _ v.UBOOT_ARCH arch_named)
  apply all_stated_some _ _ (text_stated _ _ os_named (by decide))
  apply all_stated_some _ _ (value_stated _ v.linux_comp compression_named)
  apply all_stated_some _ _ (celled_stated _ _ load_named v.UBOOT_LOADADDRESS.plain)
  exact all_stated_some _ _ (celled_stated _ _ entry_named v.ENTRYPOINT.plain) all_stated_nil

theorem loadline_stated (DTB text : List Char) (shown : dtbLoadline v DTB = some text) : Stated text := by
  rw [dtbLoadline] at shown
  split at shown
  · exact cell_line_stated "load".toList v.UBOOT_DTBO_LOADADDRESS load_named text shown
  · exact cell_line_stated "load".toList v.UBOOT_DTB_LOADADDRESS load_named text shown

theorem dtb_stated (DTB path : List Char) (plain : path.all valueLetter = true) : AllStated (dtbImage v DTB path).body := by
  apply all_stated_some _ _ (text_stated _ _ description_named (by decide))
  apply all_stated_some _ _ (incbin_stated _ plain)
  apply all_stated_some _ _ (text_stated _ _ type_named (by decide))
  apply all_stated_some _ _ (value_stated _ v.UBOOT_ARCH arch_named)
  apply all_stated_some _ _ (text_stated _ _ compression_named (by decide))
  exact all_stated_cons _ _ (loadline_stated v DTB) all_stated_nil

theorem bootscr_stated (path : List Char) (plain : path.all valueLetter = true) : AllStated (bootscrImage v path).body := by
  apply all_stated_some _ _ (text_stated _ _ description_named (by decide))
  apply all_stated_some _ _ (incbin_stated _ plain)
  apply all_stated_some _ _ (text_stated _ _ type_named (by decide))
  apply all_stated_some _ _ (value_stated _ v.UBOOT_ARCH arch_named)
  exact all_stated_some _ _ (text_stated _ _ compression_named (by decide)) all_stated_nil

theorem setup_stated (path : List Char) (plain : path.all valueLetter = true) : AllStated (setupImage v path).body := by
  apply all_stated_some _ _ (text_stated _ _ description_named (by decide))
  apply all_stated_some _ _ (incbin_stated _ plain)
  apply all_stated_some _ _ (text_stated _ _ type_named (by decide))
  apply all_stated_some _ _ (value_stated _ v.UBOOT_ARCH arch_named)
  apply all_stated_some _ _ (text_stated _ _ os_named (by decide))
  apply all_stated_some _ _ (text_stated _ _ compression_named (by decide))
  apply all_stated_some _ _ (celled_stated _ _ load_named (by decide))
  exact all_stated_some _ _ (celled_stated _ _ entry_named (by decide)) all_stated_nil

theorem ramdisk_stated (path : List Char) (plain : path.all valueLetter = true) : AllStated (ramdiskImage v path).body := by
  apply all_stated_some _ _ (value_stated _ v.INITRAMFS_IMAGE description_named)
  apply all_stated_some _ _ (incbin_stated _ plain)
  apply all_stated_some _ _ (text_stated _ _ type_named (by decide))
  apply all_stated_some _ _ (value_stated _ v.UBOOT_ARCH arch_named)
  apply all_stated_some _ _ (text_stated _ _ os_named (by decide))
  apply all_stated_some _ _ (text_stated _ _ compression_named (by decide))
  apply all_stated_cons _ _ (cell_line_stated _ v.UBOOT_RD_LOADADDRESS load_named)
  exact all_stated_cons _ _ (cell_line_stated _ v.UBOOT_RD_ENTRYPOINT entry_named) all_stated_nil

end Images

section Gathering

variable (v : Vars) (b : Build)

-- The text of the images so far.
def Shows (start : List Entry) (images : List Image) (its : List Line) : Prop :=
  Reads its imagesPath (start ++ images.flatMap (Image.entries v imagesPath))

theorem shows_more (start : List Entry) (images : List Image) (its : List Line) (image : Image) (named : Named image.name)
    (stated : AllStated image.body) (secured : image.secured = true) (shows : Shows v start images its) :
    Shows v start (images ++ [image]) (emitSection v image.name image.body its) := by
  have read := section_reads v its imagesPath _ image.name image.body named stated shows
  rw [Shows, List.flatMap_append, List.flatMap_singleton, ← List.append_assoc]
  obtain ⟨name, body, secured⟩ := image
  subst secured
  exact read

theorem dtb_shows (start : List Entry) (images : List Image) (its : List Line) (DTB path : List Char) (lettered : Lettered DTB)
    (plain : path.all valueLetter = true) (shows : Shows v start images its) :
    Shows v start (images ++ [dtbImage v DTB path]) (emitSectionDtb v DTB path its) :=
  shows_more v start images its (dtbImage v DTB path)
    (tidy_behind "fdt-".toList DTB ⟨rfl, rfl⟩ (by decide) (lettered_tidy DTB lettered.2)) (dtb_stated v DTB path plain) rfl shows

-- What the two loops over the device trees keep.
structure Gathered (start : List Entry) (names : List (List Char)) (found : Found) (images : List Image) : Prop where
  shows : Shows v start images found.its
  among : ∀ DTB ∈ found.DTBS, DTB ∈ names
  lettered : ∀ DTB ∈ found.DTBS, Lettered DTB
  distinct : found.DTBS.Nodup
  chosen : found.default_dtb_image = [] ∨ found.default_dtb_image ∈ found.DTBS
  trees : (images.map Image.name).Sublist (found.DTBS.map fun DTB => "fdt-".toList ++ DTB)
  secured : ∀ image ∈ images, image.secured = true
  shown : ∀ DTB ∈ found.DTBS, "fdt-".toList ++ DTB ∈ images.map Image.name ∨ symlinkPointsBelow b DTB ≠ none

-- No name matches another one as a pattern.
def Unconfused (names : List (List Char)) : Prop := ∀ name ∈ names, ∀ other ∈ names, grepLine name other = true → name = other

instance (names : List (List Char)) : Decidable (Unconfused names) :=
  inferInstanceAs (Decidable (∀ name ∈ names, ∀ other ∈ names, grepLine name other = true → name = other))

variable (start : List Entry) (names : List (List Char))

theorem listed_iff (unconfused : Unconfused names) (DTBS : List (List Char)) (among : ∀ DTB ∈ DTBS, DTB ∈ names)
    (DTB : List Char) (known : DTB ∈ names) : DTBS.any (grepLine DTB) = true ↔ DTB ∈ DTBS := by
  rw [List.any_eq_true]
  constructor
  · rintro ⟨line, listed, greps⟩
    rw [unconfused DTB known line (among line listed) greps]
    exact listed
  · intro listed
    exact ⟨DTB, listed, grep_line_self DTB⟩

variable (found : Found) (images : List Image) (DTB : List Char) (chosen : List Char)

theorem gathered_kept (gathered : Gathered v b start names found images) (listed : DTB ∈ found.DTBS)
    (choice : chosen = found.default_dtb_image ∨ chosen = DTB) :
    Gathered v b start names { found with default_dtb_image := chosen } images := by
  refine { gathered with chosen := ?_ }
  cases choice with
  | inl same => exact same ▸ gathered.chosen
  | inr own => exact .inr (own ▸ listed)

-- A device tree is listed. Its image comes along, or a link leads to another's.
theorem gathered_next (gathered : Gathered v b start names found images) (known : DTB ∈ names) (lettered : Lettered DTB)
    (fresh : DTB ∉ found.DTBS) (choice : chosen = found.default_dtb_image ∨ chosen = DTB) (its : List Line)
    (more : List Image) (shows : Shows v start (images ++ more) its)
    (trees : (more.map Image.name).Sublist ["fdt-".toList ++ DTB]) (secured : ∀ image ∈ more, image.secured = true)
    (own : "fdt-".toList ++ DTB ∈ more.map Image.name ∨ symlinkPointsBelow b DTB ≠ none) :
    Gathered v b start names ⟨its, found.DTBS ++ [DTB], chosen⟩ (images ++ more) where
  shows := shows
  among other inside := by
    cases List.mem_append.mp inside with
    | inl before => exact gathered.among other before
    | inr same => exact List.mem_singleton.mp same ▸ known
  lettered other inside := by
    cases List.mem_append.mp inside with
    | inl before => exact gathered.lettered other before
    | inr same => exact List.mem_singleton.mp same ▸ lettered
  distinct := List.nodup_append.mpr ⟨gathered.distinct, List.nodup_singleton DTB, fun other before same inside agree =>
    fresh ((List.mem_singleton.mp inside).symm.trans agree.symm ▸ before)⟩
  chosen := by
    cases choice with
    | inl same => exact same ▸ gathered.chosen.imp_right (List.mem_append_left _)
    | inr same => exact .inr (same ▸ List.mem_append_right _ List.mem_cons_self)
  trees := by
    rw [List.map_append, List.map_append]
    exact gathered.trees.append trees
  secured image inside := by
    cases List.mem_append.mp inside with
    | inl before => exact gathered.secured image before
    | inr after => exact secured image after
  shown other inside := by
    rw [List.map_append]
    cases List.mem_append.mp inside with
    | inl before => exact (gathered.shown other before).imp_left (List.mem_append_left _)
    | inr same =>
        rw [List.mem_singleton.mp same]
        exact own.imp_left (List.mem_append_right _)

theorem gathered_added (gathered : Gathered v b start names found images) (known : DTB ∈ names) (lettered : Lettered DTB)
    (fresh : DTB ∉ found.DTBS) (choice : chosen = found.default_dtb_image ∨ chosen = DTB) (path : List Char)
    (plain : path.all valueLetter = true) :
    Gathered v b start names ⟨emitSectionDtb v DTB path found.its, found.DTBS ++ [DTB], chosen⟩
      (images ++ [dtbImage v DTB path]) := by
  have shows := dtb_shows v start images found.its DTB path lettered plain gathered.shows
  apply gathered_next v b start names found images DTB chosen gathered known lettered fresh choice _ _ shows
  · exact List.Sublist.refl _
  · intro image inside
    rw [List.mem_singleton.mp inside]
    rfl
  · exact .inl List.mem_cons_self

theorem gathered_linked (gathered : Gathered v b start names found images) (known : DTB ∈ names) (lettered : Lettered DTB)
    (fresh : DTB ∉ found.DTBS) (choice : chosen = found.default_dtb_image ∨ chosen = DTB)
    (linked : symlinkPointsBelow b DTB ≠ none) :
    Gathered v b start names ⟨found.its, found.DTBS ++ [DTB], chosen⟩ images := by
  have same : images ++ [] = images := List.append_nil images
  have next := gathered_next v b start names found images DTB chosen gathered known lettered fresh choice found.its []
    (same.symm ▸ gathered.shows) (List.nil_sublist _) (fun _ inside => nomatch inside) (.inr linked)
  rw [same] at next
  exact next

end Gathering

end SummitSom.Fit
