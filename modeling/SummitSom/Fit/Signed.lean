import SummitSom.Fit.Closed

set_option autoImplicit false

namespace SummitSom.Fit

open Dts

section Names

variable (v : Vars) (b : Build)

def kernelName : List Char := "kernel-".toList ++ ['1']

def setupName : List Char := "setup-".toList ++ ['1']

-- The first letter of an image's name tells its kind.
def kindLetter (image : Image) : Char := image.name.headD ' '

theorem letters_apart (image other : Image) (differ : kindLetter image ≠ kindLetter other) : image.name ≠ other.name := by
  intro same
  rw [kindLetter, kindLetter, same] at differ
  exact differ rfl

theorem kernel_letter : kindLetter (kernelImage v) = 'k' := rfl

theorem boot_letter (image : Image) (inside : image ∈ bootImages v b) : kindLetter image = 'b' ∧ image.secured = true := by
  rw [bootImages] at inside
  split at inside
  · rw [List.mem_singleton.mp inside]
    exact ⟨rfl, rfl⟩
  · cases inside

theorem setup_facts (image : Image) (inside : image ∈ setupImages v b) : image.name = setupName ∧ image.secured = false := by
  rw [setupImages] at inside
  split at inside
  · rw [List.mem_singleton.mp inside]
    exact ⟨rfl, rfl⟩
  · cases inside

theorem ramdisk_letter (ramdiskcount : List Char) (ramdisks : List Image) (asked : Ramdisks v ramdiskcount ramdisks)
    (image : Image) (inside : image ∈ ramdisks) : kindLetter image = 'r' ∧ image.secured = true := by
  rw [Ramdisks] at asked
  split at asked
  · obtain ⟨path, rfl⟩ := asked
    rw [List.mem_singleton.mp inside]
    exact ⟨rfl, rfl⟩
  · rw [asked] at inside
    cases inside

theorem few_apart (images : List Image) (few : images.length ≤ 1) :
    images.Pairwise fun image other => image.name ≠ other.name := by
  cases images with
  | nil => exact List.Pairwise.nil
  | cons image rest =>
      rw [List.eq_nil_of_length_eq_zero (Nat.le_zero.mp (Nat.le_of_succ_le_succ few))]
      exact List.pairwise_singleton _ _

theorem few_boot : (bootImages v b).length ≤ 1 := by
  rw [bootImages]
  split
  · exact Nat.le_refl 1
  · exact Nat.zero_le 1

theorem few_setup : (setupImages v b).length ≤ 1 := by
  rw [setupImages]
  split
  · exact Nat.le_refl 1
  · exact Nat.zero_le 1

theorem few_ramdisks (ramdiskcount : List Char) (ramdisks : List Image) (asked : Ramdisks v ramdiskcount ramdisks) :
    ramdisks.length ≤ 1 := by
  rw [Ramdisks] at asked
  split at asked
  · obtain ⟨path, rfl⟩ := asked
    exact Nat.le_refl 1
  · rw [asked]
    exact Nat.zero_le 1

variable (ramdiskcount : List Char) (found : Found) (trees ramdisks : List Image) (its : List Line)
variable (assembly : Assembly v b ramdiskcount found trees ramdisks its)

include assembly

theorem tree_letter (image : Image) (inside : image ∈ trees) : kindLetter image = 'f' := by
  have named := assembly.gathered.trees.subset (List.mem_map_of_mem inside)
  obtain ⟨DTB, _, same⟩ := List.mem_map.mp named
  rw [kindLetter, ← same]
  rfl

theorem trees_apart : trees.Pairwise fun image other => image.name ≠ other.name := by
  have distinct : (found.DTBS.map fun DTB => "fdt-".toList ++ DTB).Nodup :=
    assembly.gathered.distinct.map fun _ _ same => List.append_cancel_left same
  exact List.pairwise_map.mp (distinct.sublist assembly.gathered.trees)

theorem images_apart : (allImages v b trees ramdisks).Pairwise fun image other => image.name ≠ other.name := by
  have tree := tree_letter v b ramdiskcount found trees ramdisks its assembly
  have boot (image : Image) (inside : image ∈ bootImages v b) := (boot_letter v b image inside).1
  have setup (image : Image) (inside : image ∈ setupImages v b) : kindLetter image = 's' := by
    rw [kindLetter, (setup_facts v b image inside).1]
    rfl
  have ramdisk (image : Image) (inside : image ∈ ramdisks) := (ramdisk_letter v ramdiskcount ramdisks assembly.asked image inside).1
  have begun : (kernelImage v :: trees).Pairwise fun image other => image.name ≠ other.name := by
    refine List.pairwise_cons.mpr ⟨?_, trees_apart v b ramdiskcount found trees ramdisks its assembly⟩
    intro image inside
    apply letters_apart
    rw [tree image inside, kernel_letter]
    decide
  have front (image : Image) (inside : image ∈ kernelImage v :: trees) : kindLetter image ∈ ['k', 'f'] := by
    cases List.mem_cons.mp inside with
    | inl own =>
        rw [own]
        exact List.mem_cons_self
    | inr later =>
        rw [tree image later]
        decide
  rw [allImages, List.pairwise_append, List.pairwise_append, List.pairwise_append]
  refine ⟨⟨⟨begun, few_apart _ (few_boot v b), ?_⟩, few_apart _ (few_setup v b), ?_⟩,
    few_apart _ (few_ramdisks v ramdiskcount ramdisks assembly.asked), ?_⟩
  · intro image inside other there
    apply letters_apart
    rw [boot other there]
    intro same
    exact absurd (same ▸ front image inside) (by decide)
  · intro image inside other there
    apply letters_apart
    rw [setup other there]
    intro same
    cases List.mem_append.mp inside with
    | inl before => exact absurd (same ▸ front image before) (by decide)
    | inr booted => exact absurd ((boot image booted).symm.trans same) (by decide)
  · intro image inside other there
    apply letters_apart
    rw [ramdisk other there]
    intro same
    cases List.mem_append.mp inside with
    | inl before =>
        cases List.mem_append.mp before with
        | inl first => exact absurd (same ▸ front image first) (by decide)
        | inr booted => exact absurd ((boot image booted).symm.trans same) (by decide)
    | inr set => exact absurd ((setup image set).symm.trans same) (by decide)

-- Only the setup image is not secured, and no image is called cipher.
theorem image_facts (image : Image) (inside : image ∈ allImages v b trees ramdisks) :
    (image.secured = true ↔ image.name ≠ setupName) ∧ image.name ≠ "cipher".toList := by
  have lettered (letter : Char) (kind : kindLetter image = letter) (secured : image.secured = true)
      (setup : letter ≠ 's') (cipher : letter ≠ 'c') :
      (image.secured = true ↔ image.name ≠ setupName) ∧ image.name ≠ "cipher".toList := by
    refine ⟨⟨fun _ named => setup ?_, fun _ => secured⟩, fun named => cipher ?_⟩
    · rw [← kind, kindLetter, named]
      rfl
    · rw [← kind, kindLetter, named]
      rfl
  rw [allImages] at inside
  cases List.mem_append.mp inside with
  | inr ramdisk =>
      obtain ⟨kind, secured⟩ := ramdisk_letter v ramdiskcount ramdisks assembly.asked image ramdisk
      exact lettered 'r' kind secured (by decide) (by decide)
  | inl before =>
      cases List.mem_append.mp before with
      | inr setup =>
          obtain ⟨named, unsecured⟩ := setup_facts v b image setup
          refine ⟨⟨fun secured => ?_, fun other => absurd named other⟩, ?_⟩
          · rw [unsecured] at secured
            cases secured
          · rw [named]
            decide
      | inl front =>
          cases List.mem_append.mp front with
          | inr boot =>
              obtain ⟨kind, secured⟩ := boot_letter v b image boot
              exact lettered 'b' kind secured (by decide) (by decide)
          | inl first =>
              cases List.mem_cons.mp first with
              | inl own => exact lettered 'k' (own ▸ kernel_letter v) (own ▸ rfl) (by decide) (by decide)
              | inr tree =>
                  exact lettered 'f' (tree_letter v b ramdiskcount found trees ramdisks its assembly image tree)
                    (assembly.gathered.secured image tree) (by decide) (by decide)

theorem confs_apart : (confs v b ramdiskcount found).Pairwise fun conf other => conf.name ≠ other.name := by
  have named := dtb_conf_name v b ramdiskcount found trees ramdisks its assembly
  have distinct := assembly.gathered.distinct
  rw [confs]
  cases all : found.DTBS with
  | nil => exact List.pairwise_singleton _ _
  | cons DTB DTBS =>
      rw [all] at named distinct
      have names : (dtbConf v b ramdiskcount found.default_dtb_image DTB true ::
          DTBS.map fun DTB => dtbConf v b ramdiskcount found.default_dtb_image DTB false).map Conf.name =
            (DTB :: DTBS).map (confName v) := by
        rw [List.map_cons, List.map_cons, List.map_map, named DTB true List.mem_cons_self]
        refine congrArg (List.cons _) (List.map_congr_left ?_)
        intro other inside
        exact named other false (List.mem_cons_of_mem DTB inside)
      apply List.pairwise_map.mp
      rw [names]
      exact distinct.map fun _ _ same => List.append_cancel_left same

end Names

section Signatures

variable (v : Vars)

-- What a signature says that it covers.
def signing (keys : List (List Char)) : List Char :=
  "sign-images = ".toList ++ ", ".toList.intercalate (keys.map fun key => '"' :: (key ++ ['"']))

-- The signature of a configuration covers what it refers to and nothing else.
-- The images are signed as well, but not where they are encrypted.
structure Signed (entries : List Entry) : Prop where
  configurations : ∀ conf, .node (conf :: confsPath) ∈ entries → ∃ keys,
    (∀ key, key ∈ keys ↔ key ∈ referenceKeys ∧ ∃ image, .statement (conf :: confsPath) (quoted key image) ∈ entries) ∧
      (v.signsConfs = true → .statement ("signature-1".toList :: conf :: confsPath) (signing keys) ∈ entries)
  images : ∀ name, .node (name :: imagesPath) ∈ entries → name ≠ "cipher".toList →
    (.node ("signature-1".toList :: name :: imagesPath) ∈ entries ↔
      v.signsImages = true ∧ v.UBOOT_ENCRYPT_ENABLE = false ∧ name ≠ setupName)

theorem unique_name {A : Type} (name : A → List Char) (items : List A)
    (apart : items.Pairwise fun item other => name item ≠ name other) (item other : A) (first : item ∈ items)
    (second : other ∈ items) (same : name item = name other) : item = other :=
  List.inj_on_of_nodup_map (List.pairwise_map.mpr apart) first second same

theorem sign_images_eq (parts : List (Option Load)) : signImages parts = signing ((parts.filterMap id).map Load.key) := by
  have pieces : ((parts.filterMap id).map fun part => '"' :: (part.key ++ ['"'])) =
      ((parts.filterMap id).map Load.key).map fun key => '"' :: (key ++ ['"']) := by
    rw [List.map_map]
    rfl
  unfold signImages signing
  exact congrArg (fun pieces => "sign-images = ".toList ++ ", ".toList.intercalate pieces) pieces

theorem conf_node_top (name : List Char) (conf : Conf) :
    .node (name :: confsPath) ∈ conf.entries v ↔ name = conf.name := by
  rw [conf_node]
  constructor
  · rintro (same | same | ⟨_, same⟩)
    · exact (List.cons.inj same).1
    · exact absurd (List.cons.inj same).2.symm (List.cons_ne_self _ _)
    · exact absurd (List.cons.inj same).2.symm (List.cons_ne_self _ _)
  · rintro rfl
    exact .inl rfl

theorem signature_stated (conf : Conf) (signs : v.signsConfs = true) :
    .statement ("signature-1".toList :: conf.name :: confsPath) (signImages conf.parts) ∈ conf.entries v := by
  rw [Conf.entries, if_pos signs]
  apply List.mem_append_right
  exact (leaf_statement _ _ _ _ _).mpr
    ⟨rfl, List.mem_cons_of_mem _ (List.mem_cons_of_mem _ (List.mem_cons_of_mem _ List.mem_cons_self))⟩

theorem image_node_top (name : List Char) (image : Image) :
    .node (name :: imagesPath) ∈ image.entries v imagesPath ↔ name = image.name ∨
      (image.secured = true ∧ v.UBOOT_ENCRYPT_ENABLE = true ∧ name = "cipher".toList) := by
  rw [image_node]
  constructor
  · rintro (same | same | ⟨secured, (⟨encrypts, same⟩ | ⟨_, same⟩)⟩)
    · exact .inl (List.cons.inj same).1
    · exact absurd (List.cons.inj same).2.symm (List.cons_ne_self _ _)
    · exact .inr ⟨secured, encrypts, (List.cons.inj same).1⟩
    · split at same
      · exact absurd (List.cons.inj same).2.symm (List.cons_ne_self _ _)
      · exact absurd (List.cons.inj same).2.symm (List.cons_ne_self _ _)
  · rintro (rfl | ⟨secured, encrypts, rfl⟩)
    · exact .inl rfl
    · exact .inr (.inr ⟨secured, .inl ⟨encrypts, rfl⟩⟩)

theorem image_signature (name : List Char) (image : Image) :
    .node ("signature-1".toList :: name :: imagesPath) ∈ image.entries v imagesPath ↔ image.secured = true ∧
      v.signsImages = true ∧ name = if v.UBOOT_ENCRYPT_ENABLE then "cipher".toList else image.name := by
  have owner : (if v.UBOOT_ENCRYPT_ENABLE then "cipher".toList :: imagesPath else image.name :: imagesPath) =
      (if v.UBOOT_ENCRYPT_ENABLE then "cipher".toList else image.name) :: imagesPath := by
    split <;> rfl
  rw [image_node, owner]
  constructor
  · rintro (same | same | ⟨secured, (⟨_, same⟩ | ⟨signs, same⟩)⟩)
    · exact absurd (List.cons.inj same).2 (List.cons_ne_self _ _)
    · exact absurd (List.cons.inj same).1 (by decide)
    · exact absurd (List.cons.inj same).2 (List.cons_ne_self _ _)
    · exact ⟨secured, signs, (List.cons.inj (List.cons.inj same).2).1⟩
  · rintro ⟨secured, signs, rfl⟩
    exact .inr (.inr ⟨secured, .inr ⟨signs, rfl⟩⟩)

variable (b : Build) (ramdiskcount : List Char) (found : Found) (trees ramdisks : List Image) (its : List Line)
variable (assembly : Assembly v b ramdiskcount found trees ramdisks its)

include assembly

theorem assembly_signed : Signed v (fitEntries v (allImages v b trees ramdisks) (confs v b ramdiskcount found)) where
  configurations name begun := by
    obtain ⟨conf, there, own⟩ := (conf_entry v _ _ [] name _ rfl).mp begun
    cases (conf_node_top v name conf).mp own
    have apart := confs_apart v b ramdiskcount found trees ramdisks its assembly
    refine ⟨(conf.parts.filterMap id).map Load.key, ?_, ?_⟩
    · intro key
      constructor
      · intro inside
        obtain ⟨part, loaded, rfl⟩ := List.mem_map.mp inside
        obtain ⟨line, member, same⟩ := List.mem_filterMap.mp loaded
        cases same
        obtain ⟨kernel_id, dtb_image, ramdisk_id, config_id, flag, made⟩ := confs_made v b ramdiskcount found conf there
        have refers : part.key ∈ referenceKeys := by
          rw [made.same] at member
          exact load_keys _ _ _ _ _ _ part member
        have told := (conf_refers v b ramdiskcount found conf there part.key part.image refers).mpr ⟨part, member, rfl, rfl⟩
        exact ⟨refers, part.image, (conf_entry v _ _ [] conf.name _ rfl).mpr
          ⟨conf, there, (conf_statement v conf.name _ conf).mpr ⟨rfl, told⟩⟩⟩
      · rintro ⟨refers, image, told⟩
        obtain ⟨other, member, stated⟩ := (conf_entry v _ _ [] conf.name _ rfl).mp told
        obtain ⟨same, inside⟩ := (conf_statement v conf.name _ other).mp stated
        cases unique_name Conf.name _ apart conf other there member same
        obtain ⟨part, loaded, rfl, _⟩ := (conf_refers v b ramdiskcount found conf there key image refers).mp inside
        exact List.mem_map.mpr ⟨part, List.mem_filterMap.mpr ⟨some part, loaded, rfl⟩, rfl⟩
    · intro signs
      rw [← sign_images_eq]
      exact (conf_entry v _ _ ["signature-1".toList] conf.name _ rfl).mpr ⟨conf, there, signature_stated v conf signs⟩
  images name begun other := by
    obtain ⟨image, there, own⟩ := (image_entry v _ _ [] name _ rfl).mp begun
    have named : name = image.name := ((image_node_top v name image).mp own).resolve_right fun cipher => other cipher.2.2
    have facts := image_facts v b ramdiskcount found trees ramdisks its assembly
    rw [image_entry v _ _ ["signature-1".toList] name _ rfl]
    constructor
    · rintro ⟨signed, member, inside⟩
      obtain ⟨secured, signs, owner⟩ := (image_signature v name signed).mp inside
      split at owner
      · exact absurd owner other
      · next plain => exact ⟨signs, eq_false_of_ne_true plain, owner ▸ (facts signed member).1.mp secured⟩
    · rintro ⟨signs, plain, apart⟩
      refine ⟨image, there, (image_signature v name image).mpr ⟨(facts image there).1.mpr (named ▸ apart), signs, ?_⟩⟩
      rw [plain, if_neg Bool.false_ne_true]
      exact named

end Signatures

section Distinct

variable (v : Vars)

theorem image_nodes (image : Image) : nodes (image.entries v imagesPath) =
    [image.name :: imagesPath, "hash-1".toList :: image.name :: imagesPath] ++
      (if image.secured then (if v.UBOOT_ENCRYPT_ENABLE then ["cipher".toList :: imagesPath] else []) ++
        (if v.signsImages then
          ["signature-1".toList :: (if v.UBOOT_ENCRYPT_ENABLE then "cipher".toList :: imagesPath else image.name :: imagesPath)]
        else [])
      else []) := by
  rw [Image.entries, nodes_append, nodes_append, nodes_leaf, algoNode, nodes_leaf]
  refine congrArg (fun more => [image.name :: imagesPath, "hash-1".toList :: image.name :: imagesPath] ++ more) ?_
  cases image.secured with
  | false => rfl
  | true =>
      rw [if_pos rfl, if_pos rfl, securityNodes, nodes_append]
      refine congrArg₂ (fun front back => front ++ back) ?_ ?_
      · cases v.UBOOT_ENCRYPT_ENABLE with
        | false => rfl
        | true => exact nodes_leaf _ _ _
      · cases v.signsImages with
        | false => rfl
        | true => exact nodes_leaf _ _ _

-- Where a node of an image belongs: to the image, or to the node behind it.
theorem image_place (image : Image) (place : Path) (inside : place ∈ nodes (image.entries v imagesPath)) :
    (∃ above, place = above ++ image.name :: imagesPath) ∨
      (image.secured = true ∧ v.UBOOT_ENCRYPT_ENABLE = true ∧ ∃ above, place = above ++ "cipher".toList :: imagesPath) := by
  rcases (image_node v imagesPath place image).mp ((mem_nodes place _).mp inside) with
    same | same | ⟨secured, (⟨encrypts, same⟩ | ⟨_, same⟩)⟩
  · exact .inl ⟨[], same⟩
  · exact .inl ⟨["hash-1".toList], same⟩
  · exact .inr ⟨secured, encrypts, [], same⟩
  · split at same
    · next encrypts => exact .inr ⟨secured, encrypts, ["signature-1".toList], same⟩
    · exact .inl ⟨["signature-1".toList], same⟩

theorem place_name (above more : Path) (name other : List Char) (path : Path)
    (same : above ++ name :: path = more ++ other :: path) : name = other := by
  have backs := congrArg List.reverse same
  simp only [List.reverse_append, List.reverse_cons, List.append_assoc, List.append_cancel_left_eq, List.singleton_append] at backs
  exact (List.cons.inj backs).1

def Shared (image other : Image) : Prop := v.UBOOT_ENCRYPT_ENABLE = true ∧ image.secured = true ∧ other.secured = true

theorem images_disjoint (image other : Image) (apart : image.name ≠ other.name) (plain : image.name ≠ "cipher".toList)
    (plain' : other.name ≠ "cipher".toList) (unshared : ¬ Shared v image other) :
    (nodes (image.entries v imagesPath)).Disjoint (nodes (other.entries v imagesPath)) := by
  intro place first second
  rcases image_place v image place first with ⟨above, one⟩ | ⟨secured, encrypts, above, one⟩
  · rcases image_place v other place second with ⟨more, two⟩ | ⟨_, _, more, two⟩
    · exact apart (place_name above more _ _ imagesPath (one.symm.trans two))
    · exact plain (place_name above more _ _ imagesPath (one.symm.trans two))
  · rcases image_place v other place second with ⟨more, two⟩ | ⟨secured', _, more, two⟩
    · exact plain' (place_name above more _ _ imagesPath (one.symm.trans two)).symm
    · exact unshared ⟨encrypts, secured, secured'⟩

theorem shared_meet (image other : Image) (shared : Shared v image other) :
    ¬ (nodes (image.entries v imagesPath)).Disjoint (nodes (other.entries v imagesPath)) := by
  obtain ⟨encrypts, secured, secured'⟩ := shared
  intro disjoint
  have cipher (image : Image) (secured : image.secured = true) :
      "cipher".toList :: imagesPath ∈ nodes (image.entries v imagesPath) :=
    (mem_nodes _ _).mpr ((image_node_top v _ image).mpr (.inr ⟨secured, encrypts, rfl⟩))
  exact disjoint (cipher image secured) (cipher other secured')

theorem own_distinct (hash signature name : List Char) (path : Path) (apart : hash ≠ signature) :
    [name :: path, hash :: name :: path, signature :: name :: path].Nodup := by
  simp [apart]

theorem cipher_distinct (hash signature cipher name : List Char) (path : Path) (plain : name ≠ cipher) :
    [name :: path, hash :: name :: path, cipher :: path, signature :: cipher :: path].Nodup := by
  simp [plain]

theorem front_distinct (front back : List Path) (distinct : (front ++ back).Nodup) : front.Nodup := distinct.of_append_left

theorem image_nodes_distinct (image : Image) (plain : image.name ≠ "cipher".toList) :
    (nodes (image.entries v imagesPath)).Nodup := by
  have apart : "hash-1".toList ≠ "signature-1".toList := by decide
  have own := own_distinct "hash-1".toList "signature-1".toList image.name imagesPath apart
  have crypt := cipher_distinct "hash-1".toList "signature-1".toList "cipher".toList image.name imagesPath plain
  have front : [image.name :: imagesPath, "hash-1".toList :: image.name :: imagesPath].Nodup := front_distinct _ [_] own
  rw [image_nodes]
  cases image.secured with
  | false => exact front
  | true =>
      cases v.UBOOT_ENCRYPT_ENABLE with
      | false =>
          cases v.signsImages with
          | false => exact front
          | true => exact own
      | true =>
          cases v.signsImages with
          | false => exact front_distinct _ ["signature-1".toList :: "cipher".toList :: imagesPath] crypt
          | true => exact crypt

theorem conf_nodes (conf : Conf) : nodes (conf.entries v) =
    [conf.name :: confsPath, "hash-1".toList :: conf.name :: confsPath] ++
      (if v.signsConfs then ["signature-1".toList :: conf.name :: confsPath] else []) := by
  rw [Conf.entries, nodes_append, nodes_append, nodes_append, nodes_said, nodes_leaf, algoNode, nodes_leaf]
  refine congrArg (fun more => [conf.name :: confsPath, "hash-1".toList :: conf.name :: confsPath] ++ more) ?_
  cases v.signsConfs with
  | false => rfl
  | true => exact nodes_leaf _ _ _

theorem conf_place (conf : Conf) (place : Path) (inside : place ∈ nodes (conf.entries v)) :
    ∃ above, place = above ++ conf.name :: confsPath := by
  rcases (conf_node v place conf).mp ((mem_nodes place _).mp inside) with same | same | ⟨_, same⟩
  · exact ⟨[], same⟩
  · exact ⟨["hash-1".toList], same⟩
  · exact ⟨["signature-1".toList], same⟩

theorem confs_distinct (confs : List Conf) (apart : confs.Pairwise fun conf other => conf.name ≠ other.name) :
    (confs.flatMap fun conf => nodes (conf.entries v)).Nodup := by
  refine List.nodup_flatMap.mpr ⟨?_, apart.imp ?_⟩
  · intro conf _
    have own := own_distinct "hash-1".toList "signature-1".toList conf.name confsPath (by decide)
    rw [conf_nodes]
    cases v.signsConfs with
    | false => exact front_distinct _ [_] own
    | true => exact own
  · intro conf other differ place first second
    obtain ⟨above, one⟩ := conf_place v conf place first
    obtain ⟨more, two⟩ := conf_place v other place second
    exact differ (place_name above more _ _ confsPath (one.symm.trans two))

theorem fit_nodes (images : List Image) (confs : List Conf) : nodes (fitEntries v images confs) =
    ([['/']] :: imagesPath :: images.flatMap fun image => nodes (image.entries v imagesPath)) ++
      confsPath :: confs.flatMap fun conf => nodes (conf.entries v) := by
  rw [fitEntries, nodes_append, nodes_append]
  exact congrArg₂ (fun front back => [['/']] :: imagesPath :: front ++ confsPath :: back) List.filterMap_flatMap List.filterMap_flatMap

-- The nodes outside of the images never get in each other's way.
theorem fit_nodes_distinct (images : List Image) (confs : List Conf)
    (apart : confs.Pairwise fun conf other => conf.name ≠ other.name) :
    (nodes (fitEntries v images confs)).Nodup ↔ (images.flatMap fun image => nodes (image.entries v imagesPath)).Nodup := by
  have image_long (place : Path) (inside : place ∈ images.flatMap fun image => nodes (image.entries v imagesPath)) :
      ∃ name above, place = above ++ name :: imagesPath := by
    obtain ⟨image, _, own⟩ := List.mem_flatMap.mp inside
    exact image_deeper v imagesPath image (.node place) ((mem_nodes place _).mp own)
  have conf_long (place : Path) (inside : place ∈ confs.flatMap fun conf => nodes (conf.entries v)) :
      ∃ name above, place = above ++ name :: confsPath := by
    obtain ⟨conf, _, own⟩ := List.mem_flatMap.mp inside
    exact ⟨conf.name, conf_place v conf place own⟩
  have deep (above : Path) (name : List Char) (path : Path) : (above ++ name :: path).length ≠ path.length := by
    rw [List.length_append, List.length_cons]
    omega
  have deeper (above : Path) (name : List Char) : (above ++ name :: imagesPath).length ≠ 1 := by
    rw [List.length_append, List.length_cons, show imagesPath.length = 2 from rfl]
    omega
  rw [fit_nodes, List.nodup_append, List.nodup_cons, List.nodup_cons, List.nodup_cons]
  constructor
  · intro all
    exact all.1.2.2
  · intro distinct
    refine ⟨⟨?_, ?_, distinct⟩, ⟨?_, confs_distinct v confs apart⟩, ?_⟩
    · intro inside
      cases List.mem_cons.mp inside with
      | inl same => exact absurd same (by decide)
      | inr own =>
          obtain ⟨name, above, same⟩ := image_long _ own
          exact deeper above name (congrArg List.length same).symm
    · intro inside
      obtain ⟨name, above, same⟩ := image_long _ inside
      exact deep above name imagesPath (congrArg List.length same).symm
    · intro inside
      obtain ⟨name, above, same⟩ := conf_long _ inside
      exact deep above name confsPath (congrArg List.length same).symm
    · rintro place first other second rfl
      cases List.mem_cons.mp second with
      | inl top =>
          rw [top] at first
          rcases List.mem_cons.mp first with same | first
          · exact absurd same (by decide)
          · rcases List.mem_cons.mp first with same | first
            · exact absurd same (by decide)
            · obtain ⟨name, above, same⟩ := image_long _ first
              exact deep above name imagesPath (congrArg List.length same).symm
      | inr own =>
          obtain ⟨name, above, rfl⟩ := conf_long _ own
          rcases List.mem_cons.mp first with same | first
          · have short := congrArg List.length same
            rw [List.length_append, List.length_cons, show confsPath.length = 2 from rfl] at short
            simp at short
          · rcases List.mem_cons.mp first with same | first
            · have lengths := congrArg List.length same
              exact deep above name confsPath lengths
            · obtain ⟨word, more, same⟩ := image_long _ first
              exact apart_paths more above word name same.symm

variable (b : Build) (ramdiskcount : List Char) (found : Found) (trees ramdisks : List Image) (its : List Line)
variable (assembly : Assembly v b ramdiskcount found trees ramdisks its)

include assembly

theorem assembly_distinct_iff :
    (nodes (fitEntries v (allImages v b trees ramdisks) (confs v b ramdiskcount found))).Nodup ↔
      v.UBOOT_ENCRYPT_ENABLE = false ∨ ∀ name,
        .node (name :: imagesPath) ∈ fitEntries v (allImages v b trees ramdisks) (confs v b ramdiskcount found) →
          name ∈ [kernelName, setupName, "cipher".toList] := by
  have apart := images_apart v b ramdiskcount found trees ramdisks its assembly
  have facts := image_facts v b ramdiskcount found trees ramdisks its assembly
  rw [fit_nodes_distinct v _ _ (confs_apart v b ramdiskcount found trees ramdisks its assembly), List.nodup_flatMap]
  constructor
  · rintro ⟨_, disjoint⟩
    cases encrypts : v.UBOOT_ENCRYPT_ENABLE with
    | false => exact .inl rfl
    | true =>
        refine .inr fun name begun => ?_
        obtain ⟨image, there, own⟩ := (image_entry v _ _ [] name _ rfl).mp begun
        rcases (image_node_top v name image).mp own with rfl | ⟨_, _, rfl⟩
        · by_contra other
          have rest : image ∈ trees ++ bootImages v b ++ setupImages v b ++ ramdisks := by
            refine (List.mem_cons.mp there).resolve_left fun kernel => other ?_
            rw [kernel]
            exact List.mem_cons_self
          have secured : image.secured = true := (facts image there).1.mpr fun setup => other (by
            rw [setup]
            exact List.mem_cons_of_mem _ List.mem_cons_self)
          exact shared_meet v (kernelImage v) image ⟨encrypts, rfl, secured⟩ ((List.pairwise_cons.mp disjoint).1 image rest)
        · exact List.mem_cons_of_mem _ (List.mem_cons_of_mem _ List.mem_cons_self)
  · intro few
    refine ⟨fun image there => image_nodes_distinct v image (facts image there).2, ?_⟩
    refine apart.imp_of_mem ?_
    intro image other there there' differ
    apply images_disjoint v image other differ (facts image there).2 (facts other there').2
    rintro ⟨encrypts, secured, secured'⟩
    have kernel (image : Image) (there : image ∈ allImages v b trees ramdisks) (secured : image.secured = true) :
        image.name = kernelName := by
      have only := few.resolve_left (by rw [encrypts]; decide) image.name (image_listed v _ _ image there)
      rcases List.mem_cons.mp only with same | only
      · exact same
      · rcases List.mem_cons.mp only with same | only
        · exact absurd same ((facts image there).1.mp secured)
        · exact absurd (List.mem_singleton.mp only) (facts image there).2
    exact differ ((kernel image there secured).trans (kernel other there' secured').symm)

end Distinct

section Tasks

variable (v : Vars) (b : Build) (its : List Line)

-- The signatures of what the tasks write.
theorem fit_source_signed (assembled : Assembled v b its) (unconfused : Unconfused (treeNames v b)) :
    ∃ entries, sourceEntries its = some entries ∧ Signed v entries := by
  obtain ⟨ramdiskcount, _, tidy, some_its⟩ := assembled_asked v b its assembled
  obtain ⟨found, trees, ramdisks, assembly⟩ := assemble_reads v b ramdiskcount tidy its unconfused some_its
  exact ⟨_, assembly.read, assembly_signed v b ramdiskcount found trees ramdisks its assembly⟩

theorem machine_signed : ∃ its entries, doAssembleFitimage machine tree = some its ∧ sourceEntries its = some entries ∧
    Signed machine entries := by
  obtain ⟨its, assembled⟩ : ∃ its, doAssembleFitimage machine tree = some its := ⟨_, rfl⟩
  obtain ⟨entries, read, signed⟩ := fit_source_signed machine tree its (.inl assembled) machine_unconfused
  exact ⟨its, entries, assembled, read, signed⟩

-- The nodes of the source have different paths exactly if nothing is encrypted or
-- the kernel alone is: each encrypted image brings a node of the same name.
theorem fit_source_distinct_iff (assembled : Assembled v b its) (unconfused : Unconfused (treeNames v b)) :
    ∃ entries, sourceEntries its = some entries ∧ ((nodes entries).Nodup ↔ v.UBOOT_ENCRYPT_ENABLE = false ∨
      ∀ name, .node (name :: imagesPath) ∈ entries → name ∈ [kernelName, setupName, "cipher".toList]) := by
  obtain ⟨ramdiskcount, _, tidy, some_its⟩ := assembled_asked v b its assembled
  obtain ⟨found, trees, ramdisks, assembly⟩ := assemble_reads v b ramdiskcount tidy its unconfused some_its
  exact ⟨_, assembly.read, assembly_distinct_iff v b ramdiskcount found trees ramdisks its assembly⟩

theorem machine_distinct : ∃ its entries, doAssembleFitimage machine tree = some its ∧ sourceEntries its = some entries ∧
    (nodes entries).Nodup := by
  obtain ⟨its, assembled⟩ : ∃ its, doAssembleFitimage machine tree = some its := ⟨_, rfl⟩
  obtain ⟨entries, read, distinct⟩ := fit_source_distinct_iff machine tree its (.inl assembled) machine_unconfused
  exact ⟨its, entries, assembled, read, distinct.mpr (.inl rfl)⟩

end Tasks

end SummitSom.Fit
