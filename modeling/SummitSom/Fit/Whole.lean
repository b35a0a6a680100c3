import SummitSom.Fit.Configurations

set_option autoImplicit false

namespace SummitSom.Fit

open Dts

section Confs

variable (v : Vars) (b : Build)

theorem tidy_nil : Tidy [] := ⟨rfl, rfl⟩

theorem tidy_one : Tidy ['1'] := ⟨rfl, rfl⟩

theorem one_named (stem : List Char) (tidy : Tidy stem) : Named (stem ++ ['1']) :=
  ⟨List.append_ne_nil_of_right_ne_nil stem (List.cons_ne_nil _ _), (tidy_append stem ['1'] tidy tidy_one).1⟩

theorem bootscr_tidy : Tidy (bootscrId v b) := by
  rw [bootscrId]
  split
  · exact tidy_word v.UBOOT_ENV_BINARY
  · exact tidy_nil

theorem setupcount_tidy : Tidy (setupcount v b) := by
  rw [setupcount]
  split
  · exact tidy_one
  · exact tidy_nil

theorem target_lettered (DTB : List Char) (lettered : DTB = [] ∨ Lettered DTB) :
    Tidy (underscored ((symlinkPointsBelow b DTB).getD DTB)) := by
  cases link : symlinkPointsBelow b DTB with
  | none =>
      cases lettered with
      | inl empty => exact empty ▸ tidy_nil
      | inr lettered => exact lettered_tidy _ (underscored_lettered DTB lettered).2
  | some target =>
      obtain ⟨provider, _, points⟩ := Option.bind_eq_some_iff.mp link
      obtain ⟨path, _, rfl⟩ := Option.map_eq_some_iff.mp points
      exact lettered_tidy _ (underscored_lettered path.text (path_lettered path)).2

theorem conf_sound (kernel_id dtb_image ramdisk_id bootscr_id config_id : List Char) (default_flag : Bool)
    (default_dtb_image : List Char) (kernel : Tidy kernel_id) (ramdisk : Tidy ramdisk_id) (bootscr : Tidy bootscr_id)
    (config : Tidy config_id) (dtb : dtb_image = [] ∨ Lettered dtb_image) (default : Tidy default_dtb_image)
    (given : dtb_image ≠ [] ∨ kernel_id ≠ []) :
    (conf v b kernel_id dtb_image ramdisk_id bootscr_id config_id default_flag default_dtb_image).Sound := by
  have sound := loads_sound kernel_id (underscored dtb_image) _ ramdisk_id bootscr_id config_id kernel
    (target_lettered b dtb_image dtb) ramdisk bootscr config
  have image : Tidy (underscored dtb_image) := by
    cases dtb with
    | inl empty => exact empty ▸ tidy_nil
    | inr lettered => exact lettered_tidy _ (underscored_lettered dtb_image lettered).2
  have node : Tidy (if underscored dtb_image = [] then kernel_id else underscored dtb_image) := by
    split
    · exact kernel
    · exact image
  refine ⟨⟨?_, ?_⟩, ?_, config_stated _ sound default_flag _, sign_images_stated _ sound⟩
  · apply List.append_ne_nil_of_right_ne_nil
    split
    · next empty => exact given.resolve_left fun named => named (List.map_eq_nil_iff.mp empty)
    · next other => exact other
  · exact (tidy_append _ _ (tidy_word v.FIT_CONF_PREFIX) node).1
  · apply all_stated_cons _ _ _ all_stated_nil
    intro text shown
    simp only [conf] at shown
    split at shown
    · cases shown
      apply text_stated _ _ ⟨by decide, rfl⟩
      refine (tidy_append _ _ (tidy_word v.FIT_CONF_PREFIX) ?_).2
      split
      · exact kernel
      · split
        · exact image
        · exact default
    · cases shown

variable (ramdiskcount : List Char) (ramdisk : Tidy ramdiskcount)

include ramdisk

theorem dtb_conf_sound (default_dtb_image DTB : List Char) (first : Bool) (lettered : Lettered DTB)
    (default : Tidy default_dtb_image) : (dtbConf v b ramdiskcount default_dtb_image DTB first).Sound := by
  rw [dtbConf]
  split
  · exact conf_sound v b [] DTB [] _ [] first default_dtb_image tidy_nil tidy_nil (bootscr_tidy v b) tidy_nil (.inr lettered)
      default (.inl lettered.1)
  · exact conf_sound v b ['1'] DTB ramdiskcount _ _ first default_dtb_image tidy_one ramdisk (bootscr_tidy v b)
      (setupcount_tidy v b) (.inr lettered) default (.inl lettered.1)

theorem confs_sound (found : Found) (lettered : ∀ DTB ∈ found.DTBS, Lettered DTB) (default : Tidy found.default_dtb_image) :
    ∀ conf ∈ confs v b ramdiskcount found, conf.Sound := by
  intro conf inside
  rw [confs] at inside
  cases listed : found.DTBS with
  | nil =>
      rw [listed] at inside
      rw [List.mem_singleton.mp inside]
      exact conf_sound v b ['1'] [] ramdiskcount _ _ true _ tidy_one ramdisk (bootscr_tidy v b) (setupcount_tidy v b) (.inl rfl)
        default (.inr (by decide))
  | cons DTB DTBS =>
      rw [listed] at inside lettered
      cases List.mem_cons.mp inside with
      | inl own =>
          rw [own]
          exact dtb_conf_sound v b ramdiskcount ramdisk _ DTB true (lettered DTB List.mem_cons_self) default
      | inr later =>
          obtain ⟨other, there, rfl⟩ := List.mem_map.mp later
          exact dtb_conf_sound v b ramdiskcount ramdisk _ other false (lettered other (List.mem_cons_of_mem DTB there)) default

end Confs

section Whole

variable (v : Vars) (b : Build)

def fitStart : List Entry :=
  [.statement [] "/dts-v1/".toList, .node [['/']], .statement [['/']] (quoted "description".toList v.FIT_DESC.text),
    .statement [['/']] (celled "#address-cells".toList v.FIT_ADDRESS_CELLS.text), .node imagesPath]

theorem gathered_default (start : List Entry) (names : List (List Char)) (found : Found) (images : List Image)
    (gathered : Gathered v b start names found images) : Tidy found.default_dtb_image := by
  cases gathered.chosen with
  | inl empty =>
      rw [empty]
      exact tidy_nil
  | inr chosen => exact lettered_tidy _ (gathered.lettered _ chosen).2

theorem start_reads : Reads (emitFitHeader v ++ imagestart) imagesPath (fitStart v) := by
  have version : Tells "/dts-v1/;".toList (.states "/dts-v1/".toList) :=
    tells_statement [] "/dts-v1/".toList rfl ⟨by decide, by decide⟩
  have root : Tells (opening [] ['/']) (.opens ['/']) := tells_node [] ['/'] rfl ⟨by decide, rfl⟩
  have description := tells_statement (inset 8) _ (inset_blank 8) (value_stated _ v.FIT_DESC description_named)
  have cells := tells_statement (inset 8) _ (inset_blank 8)
    (celled_stated "#address-cells".toList v.FIT_ADDRESS_CELLS.text ⟨by decide, rfl⟩ v.FIT_ADDRESS_CELLS.plain)
  have images := tells_node (inset 8) "images".toList (inset_blank 8) ⟨by decide, rfl⟩
  exact reads_lines [] (emitFitHeader v ++ imagestart) _ [] imagesPath [] (fitStart v) rfl
    (.cons version (.cons (tells_blank [] rfl) (.cons root (.cons description (.cons cells
      (.cons (tells_blank [] rfl) (.cons images .nil))))))) rfl

def bootImages : List Image :=
  if v.UBOOT_ENV.text ≠ [] ∧ b.bootDir = true ∧
      b.exist (v.STAGING_DIR_HOST.text ++ "/boot/".toList ++ v.UBOOT_ENV_BINARY.text) = true then
    [bootscrImage v v.UBOOT_ENV_BINARY.text]
  else []

def setupImages : List Image := if b.exist (setupBin v) then [setupImage v (setupBin v)] else []

theorem shows_none (start : List Entry) (images : List Image) (its : List Line) (shows : Shows v start images its) :
    Shows v start (images ++ []) its := by
  rw [List.append_nil]
  exact shows

theorem boot_shows (start : List Entry) (images : List Image) (its : List Line) (shows : Shows v start images its) :
    Shows v start (images ++ bootImages v b) (addBootScript v b its) := by
  rw [bootImages, addBootScript]
  split
  · exact shows_more v start images its (bootscrImage v v.UBOOT_ENV_BINARY.text)
      (tidy_behind "bootscr-".toList _ ⟨rfl, rfl⟩ (by decide) (tidy_word v.UBOOT_ENV_BINARY))
      (bootscr_stated v _ v.UBOOT_ENV_BINARY.plain) rfl shows
  · exact shows_none v start images its shows

theorem setup_shows (start : List Entry) (images : List Image) (its : List Line) (shows : Shows v start images its) :
    Shows v start (images ++ setupImages v b) (addSetup v b its) := by
  rw [setupImages, addSetup]
  split
  · have plain : (setupBin v).all valueLetter = true := by
      rw [setupBin, List.all_append, v.KERNEL_OUTPUT_DIR.plain]
      decide
    have read := node_reads v its imagesPath _ (setupImage v (setupBin v)).name _ (one_named _ ⟨rfl, rfl⟩) (setup_stated v (setupBin v) plain) shows
    have unsecured : ¬ (setupImage v (setupBin v)).secured = true := Bool.false_ne_true
    rw [Shows, List.flatMap_append, List.flatMap_singleton, ← List.append_assoc, Image.entries, if_neg unsecured,
      List.append_nil]
    exact read
  · exact shows_none v start images its shows

theorem initramfs_plain (img : Value) : (initramfsPath v img).all valueLetter = true := by
  have slash : valueLetter '/' = true := by decide
  have dot : valueLetter '.' = true := by decide
  rw [initramfsPath, List.all_append, List.all_cons, List.all_append, List.all_cons, v.DEPLOY_DIR_IMAGE.plain, slash,
    v.INITRAMFS_IMAGE_NAME.plain, dot, img.plain]
  rfl

-- The ramdisk comes along where it is asked for.
def Ramdisks (ramdiskcount : List Char) (ramdisks : List Image) : Prop :=
  if ramdiskcount = ['1'] ∧ v.INITRAMFS_IMAGE_BUNDLE = false then ∃ path, ramdisks = [ramdiskImage v path] else ramdisks = []

theorem ramdisk_shows (ramdiskcount : List Char) (start : List Entry) (images : List Image) (its after : List Line)
    (shows : Shows v start images its) (added : addRamdisk v b ramdiskcount its = some after) :
    ∃ ramdisks, Ramdisks v ramdiskcount ramdisks ∧ Shows v start (images ++ ramdisks) after := by
  rw [addRamdisk] at added
  split at added
  · next asked =>
      obtain ⟨path, first, rfl⟩ := Option.map_eq_some_iff.mp added
      obtain ⟨img, _, rfl⟩ := List.mem_map.mp (List.mem_of_find?_eq_some first)
      refine ⟨[ramdiskImage v (initramfsPath v img)], ?_, ?_⟩
      · rw [Ramdisks, if_pos asked]
        exact ⟨_, rfl⟩
      · rw [asked.1]
        exact shows_more v start images its (ramdiskImage v (initramfsPath v img)) (one_named _ ⟨rfl, rfl⟩)
          (ramdisk_stated v _ (initramfs_plain v img)) rfl shows
  · next unasked =>
      cases added
      refine ⟨[], ?_, shows_none v start images its shows⟩
      rw [Ramdisks, if_neg unasked]

def fitEntries (images : List Image) (confs : List Conf) : List Entry :=
  fitStart v ++ images.flatMap (Image.entries v imagesPath) ++ .node confsPath :: confs.flatMap (Conf.entries v)

def allImages (trees ramdisks : List Image) : List Image :=
  kernelImage v :: trees ++ bootImages v b ++ setupImages v b ++ ramdisks

-- What an assembled file says.
structure Assembly (ramdiskcount : List Char) (found : Found) (trees ramdisks : List Image) (its : List Line) : Prop where
  gathered : Gathered v b (fitStart v ++ (kernelImage v).entries v imagesPath) (treeNames v b) found trees
  listed : Listed v b found.DTBS
  asked : Ramdisks v ramdiskcount ramdisks
  read : sourceEntries its = some (fitEntries v (allImages v b trees ramdisks) (confs v b ramdiskcount found))

theorem assemble_reads (ramdiskcount : List Char) (tidy : Tidy ramdiskcount) (its : List Line)
    (unconfused : Unconfused (treeNames v b)) (assembled : fitimageAssemble v b ramdiskcount = some its) :
    ∃ found trees ramdisks, Assembly v b ramdiskcount found trees ramdisks its := by
  rw [fitimageAssemble] at assembled
  split at assembled
  · cases assembled
  · obtain ⟨before, added, rfl⟩ := Option.map_eq_some_iff.mp assembled
    have kernel : Reads (emitSectionKernel v ['1'] "linux.bin".toList v.linux_comp.text (emitFitHeader v ++ imagestart)) imagesPath
        (fitStart v ++ (kernelImage v).entries v imagesPath) :=
      section_reads v _ imagesPath _ (kernelImage v).name (kernelImage v).body (one_named _ ⟨rfl, rfl⟩) (kernel_stated v)
        (start_reads v)
    obtain ⟨trees, gathered, listed⟩ := add_dtbs_gathers v b unconfused _ _ kernel
    generalize addDtbs v b _ = found at added gathered listed ⊢
    have shows : Shows v (fitStart v) (kernelImage v :: trees) found.its := by
      rw [Shows, List.flatMap_cons, ← List.append_assoc]
      exact gathered.shows
    have boot := boot_shows v b _ _ _ shows
    have setup := setup_shows v b _ _ _ boot
    obtain ⟨ramdisks, asked, ramdisk⟩ := ramdisk_shows v b ramdiskcount _ _ _ before setup added
    refine ⟨found, trees, ramdisks, gathered, listed, asked, ?_⟩
    have left := reads_ending before (tabbed 1) "images".toList [['/']] _ (tabbed_blank 1) ramdisk
    have entered := reads_lines _ confstart [.nothing, .opens "configurations".toList] _ confsPath _ _ left
      (.cons (tells_blank [] rfl) (.cons (tells_node (inset 8) _ (inset_blank 8) ⟨by decide, rfl⟩) .nil)) rfl
    have sound := confs_sound v b ramdiskcount tidy found gathered.lettered (gathered_default v b _ _ _ _ gathered)
    have configured := confs_read v _ sound _ _ entered
    have outside := reads_ending _ (tabbed 1) "configurations".toList [['/']] _ (tabbed_blank 1) configured
    have ended := reads_ending _ [] ['/'] [] _ rfl outside
    rw [← add_configs_eq] at ended
    rw [fitEntries, List.append_cons]
    exact source_read _ _ ended

end Whole

end SummitSom.Fit
