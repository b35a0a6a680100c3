import SummitSom.Fit.Trees

set_option autoImplicit false

namespace SummitSom.Fit

open Dts

section Joined

-- Pieces with a separator between them, all read from quotes that are open or closed.
theorem joined_scan (inside : Bool) (separator : List Char) (between : scan inside separator = some inside)
    (pieces : List (List Char)) (each : ∀ piece ∈ pieces, scan inside piece = some inside) :
    scan inside (separator.intercalate pieces) = some inside := by
  induction pieces with
  | nil => cases inside <;> rfl
  | cons piece pieces ih =>
      have first := each piece List.mem_cons_self
      have rest := ih fun other later => each other (List.mem_cons_of_mem piece later)
      cases pieces with
      | nil =>
          rw [List.intercalate_singleton]
          exact first
      | cons next pieces =>
          rw [List.intercalate_cons_cons, scan_append, scan_append, first, Option.bind_some, between, Option.bind_some]
          exact rest

theorem separated_scan (compat : List Char) (plain : compat.all valueLetter = true) :
    scan true (separated compat) = some true := by
  induction compat with
  | nil => rfl
  | cons letter compat ih =>
      simp only [List.all_cons, Bool.and_eq_true] at plain
      rw [separated, List.flatMap_cons, scan_append]
      have rest := ih plain.2
      by_cases space : letter = ' '
      · have between : scan true "\", \"".toList = some true := by decide
        rw [if_pos space, between]
        exact rest
      · rw [if_neg space, value_scan true [letter] (by rw [List.all_cons, plain.1]; rfl)]
        exact rest

end Joined

section Parts

structure Load.Sound (part : Load) : Prop where
  given : part.key ≠ []
  key : Tidy part.key
  words : part.words.all valueLetter = true
  image : Tidy part.image

theorem load_sound (key words stem id : List Char) (given : key ≠ []) (named : Tidy key) (plain : words.all valueLetter = true)
    (first : Tidy stem) (second : Tidy id) (part : Load) (loaded : load key words stem id = some part) : part.Sound := by
  rw [load] at loaded
  split at loaded
  · cases loaded
  · cases loaded
    exact ⟨given, named, plain, tidy_append stem id first second⟩

theorem fdt_sound (sect : List Char) (tidy : Tidy sect) :
    Load.Sound ⟨"fdt".toList, "FDT blob".toList, "fdt-".toList ++ sect⟩ where
  given := List.cons_ne_nil _ _
  key := ⟨rfl, rfl⟩
  words := rfl
  image := tidy_append _ sect ⟨rfl, rfl⟩ tidy

theorem loads_sound (kernel_id dtb_image dtb_image_sect ramdisk_id bootscr_id config_id : List Char) (kernel : Tidy kernel_id)
    (sect : Tidy dtb_image_sect) (ramdisk : Tidy ramdisk_id) (bootscr : Tidy bootscr_id) (config : Tidy config_id) (part : Load)
    (loaded : some part ∈ loads kernel_id dtb_image dtb_image_sect ramdisk_id bootscr_id config_id) : part.Sound := by
  simp only [loads, List.mem_cons, List.not_mem_nil, or_false] at loaded
  rcases loaded with loaded | loaded | loaded | loaded | loaded
  · exact load_sound _ _ _ _ (by decide) ⟨rfl, rfl⟩ (by decide) ⟨rfl, rfl⟩ kernel part loaded.symm
  · split at loaded
    · cases loaded
    · cases loaded
      exact fdt_sound dtb_image_sect sect
  · exact load_sound _ _ _ _ (by decide) ⟨rfl, rfl⟩ (by decide) ⟨rfl, rfl⟩ ramdisk part loaded.symm
  · exact load_sound _ _ _ _ (by decide) ⟨rfl, rfl⟩ (by decide) ⟨rfl, rfl⟩ bootscr part loaded.symm
  · exact load_sound _ _ _ _ (by decide) ⟨rfl, rfl⟩ (by decide) ⟨rfl, rfl⟩ config part loaded.symm

variable (parts : List (Option Load)) (sound : ∀ part, some part ∈ parts → part.Sound)

include sound

theorem part_sound (part : Load) (inside : part ∈ parts.filterMap id) : part.Sound := by
  obtain ⟨line, there, same⟩ := List.mem_filterMap.mp inside
  cases line with
  | none => cases same
  | some other =>
      cases same
      exact sound part there

theorem words_scan : scan true (", ".toList.intercalate ((parts.filterMap id).map Load.words)) = some true := by
  apply joined_scan true ", ".toList (by decide)
  intro piece inside
  obtain ⟨part, there, rfl⟩ := List.mem_map.mp inside
  exact value_scan true part.words (part_sound parts sound part there).words

theorem keys_scan :
    scan false (", ".toList.intercalate ((parts.filterMap id).map fun part => '"' :: (part.key ++ ['"']))) = some false := by
  apply joined_scan false ", ".toList (by decide)
  intro piece inside
  obtain ⟨part, there, rfl⟩ := List.mem_map.mp inside
  exact in_quotes_scan part.key (value_scan true part.key (part_sound parts sound part there).key.2)

theorem config_stated (default_flag : Bool) (compat : Value) : AllStated (configBody default_flag compat.text parts) := by
  apply all_stated_some
  · apply quoted_stated _ _ description_named
    cases default_flag <;> exact words_scan parts sound
  · apply all_stated_cons
    · intro text shown
      split at shown
      · cases shown
      · cases shown
        exact quoted_stated _ _ ⟨by decide, rfl⟩ (separated_scan compat.text compat.plain)
    · intro text inside
      obtain ⟨line, there, same⟩ := List.mem_map.mp inside
      obtain ⟨part, rfl, rfl⟩ := Option.map_eq_some_iff.mp same
      have loaded := sound part there
      exact text_stated part.key part.image ⟨loaded.given, loaded.key.1⟩ loaded.image.2

theorem sign_images_stated : Stated (signImages parts) :=
  stated_append "sign-images = ".toList _ (by decide) (by decide) (keys_scan parts sound)

end Parts

section Configurations

variable (v : Vars)

def confsPath : Path := ["configurations".toList, ['/']]

structure Conf where
  name : List Char
  default_line : Option (List Char)
  body : List (Option (List Char))
  parts : List (Option Load)

def Vars.signsConfs : Bool := v.UBOOT_SIGN_ENABLE && v.UBOOT_SIGN_KEYNAME.text ≠ []

def Conf.entries (conf : Conf) : List Entry :=
  said confsPath [conf.default_line] ++ leaf confsPath conf.name conf.body ++ algoNode v (conf.name :: confsPath) ++
    (if v.signsConfs then
      signatureNode v (conf.name :: confsPath) v.UBOOT_SIGN_KEYNAME [some (signImages conf.parts)]
    else [])

def Conf.lines (conf : Conf) : List Line := configLines v conf.default_line conf.name conf.body conf.parts

structure Conf.Sound (conf : Conf) : Prop where
  name : Named conf.name
  default : AllStated [conf.default_line]
  body : AllStated conf.body
  signs : Stated (signImages conf.parts)

theorem conf_reads (conf : Conf) (sound : conf.Sound) (its : List Line) (entries : List Entry)
    (reads : Reads its confsPath entries) : Reads (its ++ conf.lines v) confsPath (entries ++ conf.entries v) := by
  have first := reads_body its (inset 16) [conf.default_line] confsPath entries (inset_blank 16) sound.default reads
  have begun := reads_begun _ (inset 16) (inset 24) conf.name conf.body confsPath _ (inset_blank 16) (inset_blank 24) sound.name
    sound.body first
  have hashed := hash_reads v _ (conf.name :: confsPath) _ begun
  have lines : conf.lines v = [conf.default_line].map (maybe (inset 16)) ++ ((opening (inset 16) conf.name ::
      conf.body.map (maybe (inset 24))) ++ ([opening (inset 24) "hash-1".toList,
      stating (inset 32) (quoted "algo".toList v.FIT_HASH_ALG.text), ending (inset 24)] ++ ((if v.signsConfs then
        opening (inset 24) "signature-1".toList :: ([some (quoted "algo".toList (algorithms v)),
          some (quoted "key-name-hint".toList v.UBOOT_SIGN_KEYNAME.text), some (quoted "padding".toList v.FIT_PAD_ALG.text),
          some (signImages conf.parts)].map (maybe (inset 32)) ++ [ending (inset 24)])
      else []) ++ [ending (inset 16)]))) := by
    rw [Conf.lines, configLines, Vars.signsConfs]
    simp only [List.append_assoc, List.cons_append, List.nil_append, List.map_cons, List.map_nil, maybe]
  rw [lines, Conf.entries, ← List.append_assoc, ← List.append_assoc, ← List.append_assoc, ← List.append_assoc,
    ← List.append_assoc, ← List.append_assoc, ← List.append_assoc]
  apply reads_ending _ (inset 16) conf.name confsPath _ (inset_blank 16)
  by_cases signs : v.signsConfs = true
  · have algo := text_stated "algo".toList (algorithms v) algo_named (algorithms_plain v)
    have hint := value_stated "key-name-hint".toList v.UBOOT_SIGN_KEYNAME ⟨by decide, rfl⟩
    have padding := value_stated "padding".toList v.FIT_PAD_ALG ⟨by decide, rfl⟩
    rw [if_pos signs, if_pos signs]
    exact reads_leaf _ (inset 24) (inset 32) "signature-1".toList _ (conf.name :: confsPath) _ (inset_blank 24) (inset_blank 32)
      ⟨by decide, rfl⟩ (all_stated_some _ _ algo (all_stated_some _ _ hint (all_stated_some _ _ padding
        (all_stated_some _ [] sound.signs all_stated_nil)))) hashed
  · rw [if_neg signs, if_neg signs, List.append_nil, List.append_nil]
    exact hashed

theorem confs_read (confs : List Conf) (sound : ∀ conf ∈ confs, conf.Sound) (its : List Line) (entries : List Entry)
    (reads : Reads its confsPath entries) :
    Reads (its ++ confs.flatMap (Conf.lines v)) confsPath (entries ++ confs.flatMap (Conf.entries v)) := by
  induction confs generalizing its entries with
  | nil =>
      rw [List.flatMap_nil, List.flatMap_nil, List.append_nil, List.append_nil]
      exact reads
  | cons conf confs ih =>
      have first := conf_reads v conf (sound conf List.mem_cons_self) its entries reads
      have rest := ih (fun other inside => sound other (List.mem_cons_of_mem conf inside)) _ _ first
      rw [List.append_assoc, List.append_assoc] at rest
      exact rest

variable (b : Build)

def conf (kernel_id dtb_image ramdisk_id bootscr_id config_id : List Char) (default_flag : Bool) (default_dtb_image : List Char) :
    Conf :=
  let target := (symlinkPointsBelow b dtb_image).getD dtb_image
  let parts := loads kernel_id (underscored dtb_image) (underscored target) ramdisk_id bootscr_id config_id
  let default_node :=
    if underscored dtb_image = [] then kernel_id
    else if default_dtb_image = [] then underscored dtb_image else default_dtb_image
  ⟨v.FIT_CONF_PREFIX.text ++ (if underscored dtb_image = [] then kernel_id else underscored dtb_image),
    if default_flag then some (quoted "default".toList (v.FIT_CONF_PREFIX.text ++ default_node)) else none,
    configBody default_flag (b.fdtget target).text parts, parts⟩

theorem emit_config_eq (kernel_id dtb_image ramdisk_id bootscr_id config_id : List Char) (default_flag : Bool)
    (default_dtb_image : List Char) (its : List Line) :
    emitSectionConfig v b kernel_id dtb_image ramdisk_id bootscr_id config_id default_flag default_dtb_image its =
      its ++ (conf v b kernel_id dtb_image ramdisk_id bootscr_id config_id default_flag default_dtb_image).lines v := rfl

def dtbConf (ramdiskcount default_dtb_image DTB : List Char) (first : Bool) : Conf :=
  if extension DTB = "dtbo".toList then conf v b [] DTB [] (bootscrId v b) [] first default_dtb_image
  else conf v b ['1'] DTB ramdiskcount (bootscrId v b) (setupcount v b) first default_dtb_image

theorem add_config_eq (ramdiskcount default_dtb_image DTB : List Char) (first : Bool) (its : List Line) :
    addConfig v b ramdiskcount default_dtb_image DTB first its =
      its ++ (dtbConf v b ramdiskcount default_dtb_image DTB first).lines v := by
  rw [addConfig, dtbConf]
  split
  · exact emit_config_eq v b _ _ _ _ _ _ _ its
  · exact emit_config_eq v b _ _ _ _ _ _ _ its

def confs (ramdiskcount : List Char) (found : Found) : List Conf :=
  match found.DTBS with
  | [] => [conf v b ['1'] [] ramdiskcount (bootscrId v b) (setupcount v b) true found.default_dtb_image]
  | DTB :: DTBS =>
      dtbConf v b ramdiskcount found.default_dtb_image DTB true ::
        DTBS.map fun DTB => dtbConf v b ramdiskcount found.default_dtb_image DTB false

theorem later_configs_eq (ramdiskcount default_dtb_image : List Char) (DTBS : List (List Char)) (its : List Line) :
    DTBS.foldl (fun its DTB => addConfig v b ramdiskcount default_dtb_image DTB false its) its =
      its ++ (DTBS.map fun DTB => dtbConf v b ramdiskcount default_dtb_image DTB false).flatMap (Conf.lines v) := by
  induction DTBS generalizing its with
  | nil => rw [List.map_nil, List.flatMap_nil, List.append_nil, List.foldl_nil]
  | cons DTB DTBS ih => rw [List.foldl_cons, List.map_cons, List.flatMap_cons, ← List.append_assoc, ← add_config_eq, ih]

theorem add_configs_eq (ramdiskcount : List Char) (found : Found) (its : List Line) :
    addConfigs v b ramdiskcount found its = its ++ (confs v b ramdiskcount found).flatMap (Conf.lines v) := by
  rw [addConfigs, confs]
  cases found.DTBS with
  | nil =>
      rw [List.flatMap_singleton]
      exact emit_config_eq v b _ _ _ _ _ _ _ its
  | cons DTB DTBS =>
      rw [List.flatMap_cons, ← List.append_assoc, ← add_config_eq]
      exact later_configs_eq v b ramdiskcount found.default_dtb_image DTBS _

end Configurations

end SummitSom.Fit
