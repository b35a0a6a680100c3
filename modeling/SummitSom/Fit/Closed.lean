import SummitSom.Fit.Members

set_option autoImplicit false

namespace SummitSom.Fit

open Dts

section References

variable (v : Vars) (b : Build)

-- Links below the directory lead to device trees in it that are no links.
def LinksLead : Prop :=
  ∀ provider, b.external = some provider → ∀ name target, provider.symlinkPointsBelow name = some target →
    target.text ∈ provider.trees.map DtbPath.text ∧ '/' ∉ target.text ∧ provider.symlinkPointsBelow target.text = none

theorem underscored_idem (name : List Char) : underscored (underscored name) = underscored name := by
  apply underscored_whole
  intro inside
  obtain ⟨letter, _, same⟩ := List.mem_map.mp inside
  split at same
  · exact absurd same (by decide)
  · next other => exact other same

theorem tree_names_underscored (DTB : List Char) (known : DTB ∈ treeNames v b) : underscored DTB = DTB := by
  cases List.mem_append.mp known with
  | inl kernel =>
      obtain ⟨path, _, rfl⟩ := List.mem_map.mp kernel
      exact underscored_idem (shortName v path)
  | inr provided =>
      obtain ⟨path, _, rfl⟩ := List.mem_map.mp provided
      exact underscored_idem path.text

variable (ramdiskcount : List Char) (found : Found) (trees ramdisks : List Image) (its : List Line)
variable (assembly : Assembly v b ramdiskcount found trees ramdisks its)

include assembly

theorem target_shown (leads : LinksLead b) (DTB : List Char) (listed : DTB ∈ found.DTBS) :
    "fdt-".toList ++ underscored ((symlinkPointsBelow b DTB).getD DTB) ∈ trees.map Image.name := by
  have gathered := assembly.gathered
  cases link : symlinkPointsBelow b DTB with
  | none =>
      rw [Option.getD_none, tree_names_underscored v b DTB (gathered.among DTB listed)]
      exact (gathered.shown DTB listed).resolve_right fun linked => linked link
  | some target =>
      obtain ⟨provider, given, points⟩ := Option.bind_eq_some_iff.mp link
      obtain ⟨path, there, rfl⟩ := Option.map_eq_some_iff.mp points
      obtain ⟨inside, whole, direct⟩ := leads provider given DTB path there
      obtain ⟨tree, member, same⟩ := List.mem_map.mp inside
      have provided := assembly.listed.provided tree (by rw [providerTrees, given]; exact member)
      rw [same, underscored_whole path.text whole] at provided
      have unlinked : symlinkPointsBelow b path.text = none := by
        rw [symlinkPointsBelow, given, Option.bind_some, direct, Option.map_none]
      rw [Option.getD_some, underscored_whole path.text whole]
      exact (gathered.shown path.text provided).resolve_right fun linked => linked unlinked

end References

section Parts

variable (v : Vars) (b : Build) (ramdiskcount : List Char) (found : Found)

-- The arguments that configurations are made with.
structure Made (conf : Conf) (kernel_id dtb_image ramdisk_id config_id : List Char) (flag : Bool) : Prop where
  same : conf = Fit.conf v b kernel_id dtb_image ramdisk_id (bootscrId v b) config_id flag found.default_dtb_image
  kernel : kernel_id = [] ∨ kernel_id = ['1']
  ramdisk : ramdisk_id = [] ∨ ramdisk_id = ramdiskcount
  config : config_id = [] ∨ config_id = setupcount v b
  tree : dtb_image = [] ∨ dtb_image ∈ found.DTBS

theorem dtb_conf_made (DTB : List Char) (first : Bool) (listed : DTB ∈ found.DTBS) :
    ∃ kernel_id ramdisk_id config_id, Made v b ramdiskcount found
      (dtbConf v b ramdiskcount found.default_dtb_image DTB first) kernel_id DTB ramdisk_id config_id first := by
  rw [dtbConf]
  split
  · exact ⟨[], [], [], rfl, .inl rfl, .inl rfl, .inl rfl, .inr listed⟩
  · exact ⟨['1'], ramdiskcount, setupcount v b, rfl, .inr rfl, .inr rfl, .inr rfl, .inr listed⟩

theorem confs_made (conf : Conf) (inside : conf ∈ confs v b ramdiskcount found) :
    ∃ kernel_id dtb_image ramdisk_id config_id flag,
      Made v b ramdiskcount found conf kernel_id dtb_image ramdisk_id config_id flag := by
  have trees := dtb_conf_made v b ramdiskcount found
  rw [confs] at inside
  cases listed : found.DTBS with
  | nil =>
      rw [listed] at inside
      rw [List.mem_singleton.mp inside]
      exact ⟨['1'], [], ramdiskcount, setupcount v b, true, rfl, .inr rfl, .inr rfl, .inr rfl, .inl rfl⟩
  | cons DTB DTBS =>
      rw [listed] at inside trees
      cases List.mem_cons.mp inside with
      | inl own =>
          obtain ⟨kernel_id, ramdisk_id, config_id, made⟩ := trees DTB true List.mem_cons_self
          exact ⟨kernel_id, DTB, ramdisk_id, config_id, true, own ▸ made⟩
      | inr later =>
          obtain ⟨other, there, rfl⟩ := List.mem_map.mp later
          obtain ⟨kernel_id, ramdisk_id, config_id, made⟩ := trees other false (List.mem_cons_of_mem DTB there)
          exact ⟨kernel_id, other, ramdisk_id, config_id, false, made⟩

theorem load_id (key words stem id : List Char) (part : Load) (loaded : load key words stem id = some part) :
    id ≠ [] ∧ part.key = key ∧ part.image = stem ++ id := by
  rw [load] at loaded
  split at loaded
  · cases loaded
  · next given =>
      cases loaded
      exact ⟨given, rfl, rfl⟩

-- What an image task may be asked for: a ramdisk, or none.
def Asked : Prop := ramdiskcount = [] ∨ (ramdiskcount = ['1'] ∧ v.INITRAMFS_IMAGE_BUNDLE = false)

variable (trees ramdisks : List Image) (its : List Line)
variable (assembly : Assembly v b ramdiskcount found trees ramdisks its)

include assembly

theorem part_present (asked : Asked v ramdiskcount) (leads : LinksLead b) (conf : Conf)
    (inside : conf ∈ confs v b ramdiskcount found) (part : Load) (loaded : some part ∈ conf.parts) :
    ∃ image ∈ allImages v b trees ramdisks, image.name = part.image := by
  obtain ⟨kernel_id, dtb_image, ramdisk_id, config_id, flag, made⟩ := confs_made v b ramdiskcount found conf inside
  rw [made.same] at loaded
  change some part ∈ loads kernel_id (underscored dtb_image) _ ramdisk_id (bootscrId v b) config_id at loaded
  have tail (image : Image) (there : image ∈ bootImages v b ++ (setupImages v b ++ ramdisks)) :
      image ∈ allImages v b trees ramdisks := by
    rw [allImages, List.append_assoc, List.append_assoc]
    exact List.mem_append_right _ there
  simp only [loads, List.mem_cons, List.not_mem_nil, or_false] at loaded
  rcases loaded with loaded | loaded | loaded | loaded | loaded
  · obtain ⟨given, _, image⟩ := load_id _ _ _ _ part loaded.symm
    refine ⟨kernelImage v, List.mem_append_left _ (List.mem_append_left _ (List.mem_append_left _ List.mem_cons_self)), ?_⟩
    rw [image, made.kernel.resolve_left given]
    rfl
  · split at loaded
    · cases loaded
    · next given =>
        cases loaded
        have named : dtb_image ≠ [] := fun empty => given (by rw [empty]; rfl)
        have shown := target_shown v b ramdiskcount found trees ramdisks its assembly leads dtb_image
          (made.tree.resolve_left named)
        obtain ⟨image, there, same⟩ := List.mem_map.mp shown
        exact ⟨image, List.mem_append_left _ (List.mem_append_left _ (List.mem_append_left _ (List.mem_cons_of_mem _ there))),
          same⟩
  · obtain ⟨given, _, image⟩ := load_id _ _ _ _ part loaded.symm
    have counted := made.ramdisk.resolve_left given
    have asks : ramdiskcount = ['1'] ∧ v.INITRAMFS_IMAGE_BUNDLE = false := asked.resolve_left fun none => given (counted.trans none)
    have ramdisk := assembly.asked
    rw [Ramdisks, if_pos asks] at ramdisk
    obtain ⟨path, rfl⟩ := ramdisk
    refine ⟨ramdiskImage v path, tail _ (List.mem_append_right _ (List.mem_append_right _ List.mem_cons_self)), ?_⟩
    rw [image, counted, asks.1]
    rfl
  · obtain ⟨given, _, image⟩ := load_id _ _ _ _ part loaded.symm
    refine ⟨bootscrImage v v.UBOOT_ENV_BINARY.text, tail _ (List.mem_append_left _ ?_), ?_⟩
    · rw [bootscrId] at given
      rw [bootImages]
      split at given
      · next staged =>
          rw [if_pos staged]
          exact List.mem_cons_self
      · exact absurd rfl given
    · rw [image, bootscrId]
      rw [bootscrId] at given
      split at given
      · next staged =>
          rw [if_pos staged]
          rfl
      · exact absurd rfl given
  · obtain ⟨given, _, image⟩ := load_id _ _ _ _ part loaded.symm
    have counted := made.config.resolve_left given
    have there : b.exist (setupBin v) = true := by
      rw [counted, setupcount] at given
      split at given
      · next there => exact there
      · exact absurd rfl given
    refine ⟨setupImage v (setupBin v), tail _ (List.mem_append_right _ (List.mem_append_left _ ?_)), ?_⟩
    · rw [setupImages, if_pos there]
      exact List.mem_cons_self
    · rw [image, counted, setupcount, if_pos there]
      rfl

end Parts

section Keys

def referenceKeys : List (List Char) :=
  ["kernel".toList, "fdt".toList, "ramdisk".toList, "bootscr".toList, "setup".toList]

theorem key_letters : ∀ key ∈ referenceKeys, key ≠ [] ∧ key.head? ≠ some 'd' ∧ key.head? ≠ some 'c' ∧
    ∀ other ∈ referenceKeys, key.head? = other.head? → key = other := by
  decide

theorem load_keys (kernel_id dtb_image dtb_image_sect ramdisk_id bootscr_id config_id : List Char) (part : Load)
    (loaded : some part ∈ loads kernel_id dtb_image dtb_image_sect ramdisk_id bootscr_id config_id) : part.key ∈ referenceKeys := by
  simp only [loads, List.mem_cons, List.not_mem_nil, or_false] at loaded
  rcases loaded with loaded | loaded | loaded | loaded | loaded
  · rw [(load_id _ _ _ _ part loaded.symm).2.1]
    decide
  · split at loaded
    · cases loaded
    · cases loaded
      exact List.mem_cons_of_mem _ List.mem_cons_self
  · rw [(load_id _ _ _ _ part loaded.symm).2.1]
    decide
  · rw [(load_id _ _ _ _ part loaded.symm).2.1]
    decide
  · rw [(load_id _ _ _ _ part loaded.symm).2.1]
    decide

-- A property that refers to an image is one of the parts.
theorem body_part (default_flag : Bool) (compat : List Char) (parts : List (Option Load))
    (keyed : ∀ part, some part ∈ parts → part.key ∈ referenceKeys) (key image : List Char) (refers : key ∈ referenceKeys) :
    some (quoted key image) ∈ configBody default_flag compat parts ↔ ∃ part, some part ∈ parts ∧ part.key = key ∧ part.image = image := by
  obtain ⟨given, description, compatible, apart⟩ := key_letters key refers
  rw [configBody, List.mem_cons, List.mem_cons]
  constructor
  · rintro (same | same | inside)
    · exact absurd (quoted_key _ _ _ _ given (by decide) (Option.some.inj same)) description
    · split at same
      · cases same
      · exact absurd (quoted_key _ _ _ _ given (by decide) (Option.some.inj same)) compatible
    · obtain ⟨line, there, same⟩ := List.mem_map.mp inside
      obtain ⟨part, rfl, shown⟩ := Option.map_eq_some_iff.mp same
      have refers' := keyed part there
      have keys := apart part.key refers' (quoted_key _ _ _ _ given (key_letters part.key refers').1 shown.symm)
      rw [← keys] at shown
      exact ⟨part, there, keys.symm, quoted_value _ _ _ shown⟩
  · rintro ⟨part, there, rfl, rfl⟩
    exact .inr (.inr (List.mem_map.mpr ⟨some part, there, rfl⟩))

variable (v : Vars) (b : Build) (ramdiskcount : List Char) (found : Found)

theorem conf_refers (conf : Conf) (inside : conf ∈ confs v b ramdiskcount found) (key image : List Char)
    (refers : key ∈ referenceKeys) :
    some (quoted key image) ∈ conf.body ↔ ∃ part, some part ∈ conf.parts ∧ part.key = key ∧ part.image = image := by
  obtain ⟨kernel_id, dtb_image, ramdisk_id, config_id, flag, made⟩ := confs_made v b ramdiskcount found conf inside
  rw [made.same]
  exact body_part _ _ _ (load_keys _ _ _ _ _ _) key image refers

end Keys

section Closed

variable (v : Vars) (b : Build)

def confName (DTB : List Char) : List Char := v.FIT_CONF_PREFIX.text ++ DTB

structure Closed (entries : List Entry) : Prop where
  references : ∀ conf key image, key ∈ referenceKeys → .statement (conf :: confsPath) (quoted key image) ∈ entries →
    .node (image :: imagesPath) ∈ entries
  default : ∃ conf, .statement confsPath (quoted "default".toList conf) ∈ entries ∧ .node (conf :: confsPath) ∈ entries
  kernel : ∀ path ∈ v.KERNEL_DEVICETREE, emptyFile b (dtbFile path) = true →
    .node (confName v (treeName v path) :: confsPath) ∈ entries
  provided : ∀ path ∈ providerTrees b, .node (confName v (underscored path.text) :: confsPath) ∈ entries

theorem image_listed (images : List Image) (confs : List Conf) (image : Image) (there : image ∈ images) :
    .node (image.name :: imagesPath) ∈ fitEntries v images confs :=
  (image_entry v images confs [] image.name _ rfl).mpr ⟨image, there, (image_node v imagesPath _ image).mpr (.inl rfl)⟩

theorem conf_listed (images : List Image) (confs : List Conf) (conf : Conf) (there : conf ∈ confs) :
    .node (conf.name :: confsPath) ∈ fitEntries v images confs :=
  (conf_entry v images confs [] conf.name _ rfl).mpr ⟨conf, there, (conf_node v _ conf).mpr (.inl rfl)⟩

theorem made_name (ramdiskcount : List Char) (found : Found) (conf : Conf) (kernel_id dtb_image ramdisk_id config_id : List Char)
    (flag : Bool) (made : Made v b ramdiskcount found conf kernel_id dtb_image ramdisk_id config_id flag)
    (given : underscored dtb_image = dtb_image) (some_tree : dtb_image ≠ []) : conf.name = confName v dtb_image := by
  rw [made.same]
  change v.FIT_CONF_PREFIX.text ++ (if underscored dtb_image = [] then kernel_id else underscored dtb_image) = _
  rw [given, if_neg some_tree]
  rfl

variable (ramdiskcount : List Char) (found : Found) (trees ramdisks : List Image) (its : List Line)
variable (assembly : Assembly v b ramdiskcount found trees ramdisks its)

include assembly

theorem dtb_conf_name (DTB : List Char) (first : Bool) (listed : DTB ∈ found.DTBS) :
    (dtbConf v b ramdiskcount found.default_dtb_image DTB first).name = confName v DTB := by
  obtain ⟨kernel_id, ramdisk_id, config_id, made⟩ := dtb_conf_made v b ramdiskcount found DTB first listed
  exact made_name v b ramdiskcount found _ _ _ _ _ _ made (tree_names_underscored v b DTB (assembly.gathered.among DTB listed))
    (assembly.gathered.lettered DTB listed).1

theorem tree_configured (DTB : List Char) (listed : DTB ∈ found.DTBS) :
    ∃ conf ∈ confs v b ramdiskcount found, conf.name = confName v DTB := by
  have named := dtb_conf_name v b ramdiskcount found trees ramdisks its assembly
  rw [confs]
  cases all : found.DTBS with
  | nil =>
      rw [all] at listed
      cases listed
  | cons first DTBS =>
      rw [all] at listed named
      cases List.mem_cons.mp listed with
      | inl own => exact ⟨_, List.mem_cons_self, own ▸ named first true List.mem_cons_self⟩
      | inr later =>
          exact ⟨_, List.mem_cons_of_mem _ (List.mem_map_of_mem later), named DTB false (List.mem_cons_of_mem first later)⟩

theorem configured_tree (listed : found.DTBS ≠ []) (conf : Conf) (there : conf ∈ confs v b ramdiskcount found) :
    ∃ DTB ∈ found.DTBS, conf.name = confName v DTB := by
  have named := dtb_conf_name v b ramdiskcount found trees ramdisks its assembly
  rw [confs] at there
  cases all : found.DTBS with
  | nil => exact absurd all listed
  | cons first DTBS =>
      rw [all] at there named
      cases List.mem_cons.mp there with
      | inl own => exact ⟨first, List.mem_cons_self, own ▸ named first true List.mem_cons_self⟩
      | inr later =>
          obtain ⟨DTB, inside, rfl⟩ := List.mem_map.mp later
          exact ⟨DTB, List.mem_cons_of_mem first inside, named DTB false (List.mem_cons_of_mem first inside)⟩

theorem default_configured :
    ∃ conf, .statement confsPath (quoted "default".toList conf) ∈
        fitEntries v (allImages v b trees ramdisks) (confs v b ramdiskcount found) ∧
      .node (conf :: confsPath) ∈ fitEntries v (allImages v b trees ramdisks) (confs v b ramdiskcount found) := by
  have stated (conf : Conf) (node : List Char) (there : conf ∈ confs v b ramdiskcount found)
      (first : conf.default_line = some (quoted "default".toList node)) :
      .statement confsPath (quoted "default".toList node) ∈
        fitEntries v (allImages v b trees ramdisks) (confs v b ramdiskcount found) := by
    refine List.mem_append_right _ (List.mem_cons_of_mem _ (List.mem_flatMap.mpr ⟨conf, there, ?_⟩))
    refine List.mem_append_left _ (List.mem_append_left _ (List.mem_append_left _ ?_))
    exact (said_statement _ _ _ _).mpr ⟨rfl, by rw [first]; exact List.mem_cons_self⟩
  have trees := tree_configured v b ramdiskcount found trees ramdisks its assembly
  have known := tree_names_underscored v b
  have gathered := assembly.gathered
  cases all : found.DTBS with
  | nil =>
      have only : confs v b ramdiskcount found =
          [conf v b ['1'] [] ramdiskcount (bootscrId v b) (setupcount v b) true found.default_dtb_image] := by
        rw [confs, all]
      have there : conf v b ['1'] [] ramdiskcount (bootscrId v b) (setupcount v b) true found.default_dtb_image ∈
          confs v b ramdiskcount found := by
        rw [only]
        exact List.mem_cons_self
      exact ⟨confName v ['1'], stated _ _ there rfl, conf_listed v _ _ _ there⟩
  | cons DTB DTBS =>
      have listed : DTB ∈ found.DTBS := by
        rw [all]
        exact List.mem_cons_self
      have there : dtbConf v b ramdiskcount found.default_dtb_image DTB true ∈ confs v b ramdiskcount found := by
        rw [confs, all]
        exact List.mem_cons_self
      have plain := known DTB (gathered.among DTB listed)
      have given := (gathered.lettered DTB listed).1
      have line : (dtbConf v b ramdiskcount found.default_dtb_image DTB true).default_line = some (quoted "default".toList
          (confName v (if found.default_dtb_image = [] then DTB else found.default_dtb_image))) := by
        have both (kernel_id ramdisk_id config_id : List Char) :
            (conf v b kernel_id DTB ramdisk_id (bootscrId v b) config_id true found.default_dtb_image).default_line =
              some (quoted "default".toList
                (confName v (if found.default_dtb_image = [] then DTB else found.default_dtb_image))) := by
          change (if true = true then some (quoted "default".toList (v.FIT_CONF_PREFIX.text ++ if underscored DTB = [] then kernel_id
            else if found.default_dtb_image = [] then underscored DTB else found.default_dtb_image)) else none) = _
          rw [if_pos rfl, plain, if_neg given]
          rfl
        rw [dtbConf]
        split
        · exact both _ _ _
        · exact both _ _ _
      have configured : ∃ conf ∈ confs v b ramdiskcount found,
          conf.name = confName v (if found.default_dtb_image = [] then DTB else found.default_dtb_image) := by
        split
        · exact trees DTB listed
        · next chosen => exact trees _ (gathered.chosen.resolve_left chosen)
      obtain ⟨conf, inside, named⟩ := configured
      exact ⟨_, stated _ _ there line, named ▸ conf_listed v _ _ conf inside⟩

theorem assembly_closed (asked : Asked v ramdiskcount) (leads : LinksLead b) :
    Closed v b (fitEntries v (allImages v b trees ramdisks) (confs v b ramdiskcount found)) where
  references conf key image refers told := by
    obtain ⟨made, there, own⟩ := (conf_entry v _ _ [] conf _ rfl).mp told
    obtain ⟨rfl, inside⟩ := (conf_statement v conf (quoted key image) made).mp own
    obtain ⟨part, loaded, _, rfl⟩ := (conf_refers v b ramdiskcount found made there key image refers).mp inside
    obtain ⟨shown, member, same⟩ := part_present v b ramdiskcount found trees ramdisks its assembly asked leads made there part loaded
    rw [← same]
    exact image_listed v _ _ shown member
  default := default_configured v b ramdiskcount found trees ramdisks its assembly
  kernel path inside empty := by
    obtain ⟨conf, there, named⟩ := tree_configured v b ramdiskcount found trees ramdisks its assembly _
      (assembly.listed.kernel path inside empty)
    exact named ▸ conf_listed v _ _ conf there
  provided path inside := by
    obtain ⟨conf, there, named⟩ := tree_configured v b ramdiskcount found trees ramdisks its assembly _
      (assembly.listed.provided path inside)
    exact named ▸ conf_listed v _ _ conf there

end Closed

section Tasks

variable (v : Vars) (b : Build) (its : List Line)

def Assembled : Prop := doAssembleFitimage v b = some its ∨ doAssembleFitimageInitramfs v b = some its

theorem assembled_asked (assembled : Assembled v b its) :
    ∃ ramdiskcount, Asked v ramdiskcount ∧ Tidy ramdiskcount ∧ fitimageAssemble v b ramdiskcount = some its := by
  cases assembled with
  | inl plain => exact ⟨[], .inl rfl, tidy_nil, plain⟩
  | inr initramfs =>
      rw [doAssembleFitimageInitramfs] at initramfs
      split at initramfs
      · cases initramfs
      · cases bundle : v.INITRAMFS_IMAGE_BUNDLE with
        | true =>
            rw [bundle, if_pos rfl] at initramfs
            exact ⟨[], .inl rfl, tidy_nil, initramfs⟩
        | false =>
            rw [bundle, if_neg Bool.false_ne_true] at initramfs
            exact ⟨['1'], .inr ⟨rfl, bundle⟩, tidy_one, initramfs⟩

end Tasks

section Machine

-- A machine with one device tree of the kernel, and two of another provider, one
-- of which is a link to the other.
def wbxTree : DtbPath := ⟨"freescale/wbx.dtb".toList, by decide, by decide, by decide⟩

def dvkTree : DtbPath := ⟨"dvk.dtb".toList, by decide, by decide, by decide⟩

def somTree : DtbPath := ⟨"som.dtb".toList, by decide, by decide, by decide⟩

def machine : Vars where
  FIT_DESC := ⟨"Kernel fitImage".toList, by decide⟩
  FIT_ADDRESS_CELLS := ⟨['1'], by decide⟩
  FIT_HASH_ALG := ⟨"sha256".toList, by decide⟩
  FIT_SIGN_ALG := ⟨"rsa2048".toList, by decide⟩
  FIT_PAD_ALG := ⟨"pkcs-1.5".toList, by decide⟩
  FIT_CONF_PREFIX := ⟨"conf-".toList, by decide, by decide⟩
  FIT_CONF_DEFAULT_DTB := ⟨"som.dtb".toList, by decide⟩
  FIT_SIGN_INDIVIDUAL := true
  FIT_ENCRYPT_ALGO := ⟨"aes128".toList, by decide⟩
  FIT_SUPPORTED_INITRAMFS_FSTYPES := []
  UBOOT_ARCH := ⟨"arm64".toList, by decide⟩
  UBOOT_MKIMAGE_KERNEL_TYPE := ⟨"kernel".toList, by decide⟩
  UBOOT_LOADADDRESS := ⟨"0x40400000".toList, by decide⟩
  ENTRYPOINT := ⟨"0x40400000".toList, by decide⟩
  UBOOT_DTB_LOADADDRESS := ⟨"0x43000000".toList, by decide⟩
  UBOOT_DTBO_LOADADDRESS := ⟨[], by decide⟩
  UBOOT_RD_LOADADDRESS := ⟨[], by decide⟩
  UBOOT_RD_ENTRYPOINT := ⟨[], by decide⟩
  UBOOT_SIGN_ENABLE := true
  UBOOT_SIGN_KEYNAME := ⟨"dev".toList, by decide⟩
  UBOOT_SIGN_IMG_KEYNAME := ⟨"dev1".toList, by decide⟩
  UBOOT_ENCRYPT_ENABLE := false
  UBOOT_ENCRYPT_KEYNAME := ⟨"key".toList, by decide⟩
  UBOOT_ENCRYPT_IVNAME := ⟨[], by decide⟩
  UBOOT_ENV := ⟨[], by decide⟩
  UBOOT_ENV_BINARY := ⟨[], by decide, by decide⟩
  KERNEL_DEVICETREE := [wbxTree]
  KERNEL_DTBVENDORED := false
  KERNEL_OUTPUT_DIR := ⟨"arch/arm64/boot".toList, by decide⟩
  STAGING_DIR_HOST := ⟨[], by decide⟩
  DEPLOY_DIR_IMAGE := ⟨[], by decide⟩
  INITRAMFS_IMAGE := ⟨[], by decide⟩
  INITRAMFS_IMAGE_NAME := ⟨[], by decide⟩
  INITRAMFS_IMAGE_BUNDLE := false
  linux_comp := ⟨"gzip".toList, by decide⟩

def provider : Provider where
  dir := ⟨"devicetree".toList, by decide⟩
  trees := [dvkTree, somTree]
  filled file := file = dvkTree.text || file = somTree.text
  symlinkPointsBelow name := if name = somTree.text then some dvkTree else none

def tree : Build := ⟨fun _ => false, false, some provider, fun _ => ⟨[], by decide⟩⟩

theorem machine_unconfused : Unconfused (treeNames machine tree) := by
  change Unconfused ["wbx.dtb".toList, "dvk.dtb".toList, "som.dtb".toList]
  decide

theorem tree_leads : LinksLead tree := by
  intro given same name target points
  cases same
  change (if name = somTree.text then some dvkTree else none) = some target at points
  split at points
  · cases points
    decide
  · cases points

end Machine

end SummitSom.Fit
