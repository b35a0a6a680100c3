import SummitSom.Boot.RootSide

set_option autoImplicit false

namespace SummitSom.Boot

open Shell

-- A line of lsblk: the name in its column, then the label as it is.
structure Row where
  name : String
  label : String
  blanks : Nat
  given : name.toList ≠ []
  plain : ' ' ∉ name.toList
  apart : 0 < blanks

def columns (name : List Char) (blanks : Nat) (label : List Char) : String :=
  String.ofList (name ++ (List.replicate blanks ' ' ++ label))

def Row.line (row : Row) : String := columns row.name.toList row.blanks row.label.toList

-- What lsblk lists for a disk: the disk, which has no label, its partitions and
-- what is on them. padding counts the blanks after the name of the disk.
structure Listing (disk : String) where
  padding : Nat
  rows : List Row
  others : ∀ row ∈ rows, row.name ≠ disk

def Listing.lines {disk : String} (listing : Listing disk) : List String :=
  columns disk.toList listing.padding [] :: listing.rows.map Row.line

theorem drop_blanks_replicate (count : Nat) (text : List Char) : dropBlanks (List.replicate count ' ' ++ text) = dropBlanks text := by
  induction count with
  | zero => rfl
  | succ count ih => exact ih

theorem drop_blanks_all (count : Nat) : dropBlanks (List.replicate count ' ') = [] := by
  have dropped := drop_blanks_replicate count []
  rwa [List.append_nil] at dropped

theorem solid (name : List Char) (plain : ' ' ∉ name) (letter : Char) (member : letter ∈ name) :
    decide (letter ≠ ' ') = true :=
  decide_eq_true fun blank => plain (blank ▸ member)

theorem columns_name (name label : List Char) (blanks : Nat) (plain : ' ' ∉ name) (apart : 0 < blanks) :
    (columns name blanks label).toList.takeWhile (fun letter => letter ≠ ' ') = name ∧
      (columns name blanks label).toList.dropWhile (fun letter => letter ≠ ' ') = List.replicate blanks ' ' ++ label := by
  obtain ⟨more, rfl⟩ := Nat.exists_eq_succ_of_ne_zero (Nat.ne_of_gt apart)
  rw [columns, String.toList_ofList]
  rw [List.takeWhile_append_of_pos (solid name plain), List.dropWhile_append_of_pos (solid name plain)]
  simp [List.replicate_succ]

theorem part_line_row (part : String) (row : Row) :
    partLine part row.line = if dropBlanks row.label.toList = part.toList then some row.name else none := by
  obtain ⟨name, rest⟩ := columns_name row.name.toList row.label.toList row.blanks row.plain row.apart
  have wide : List.replicate row.blanks ' ' ++ row.label.toList ≠ [] := by
    intro empty
    have none := congrArg List.length empty
    have apart := row.apart
    simp only [List.length_append, List.length_replicate, List.length_nil] at none
    omega
  rw [partLine, Row.line, name, rest, drop_blanks_replicate]
  simp [row.given, wide]

theorem part_line_disk (part disk : String) (padding : Nat) (plain : ' ' ∉ disk.toList) (wanted : part.toList ≠ []) :
    partLine part (columns disk.toList padding []) = none := by
  have blank : dropBlanks ((columns disk.toList padding []).toList.dropWhile fun letter => letter ≠ ' ') = [] := by
    rw [columns, String.toList_ofList, List.dropWhile_append_of_pos (solid _ plain), List.append_nil]
    cases padding with
    | zero => rfl
    | succ padding =>
        rw [List.replicate_succ, List.dropWhile_cons_of_neg (by decide), ← List.replicate_succ, drop_blanks_all]
  rw [partLine, blank]
  simp [Ne.symm wanted]

theorem side_line_disk (disk : String) (padding : Nat) :
    sideLine disk (columns disk.toList padding []) = if 2 ≤ padding then some " " else none := by
  have rest : (columns disk.toList padding []).toList.drop disk.length = List.replicate padding ' ' := by
    rw [columns, String.toList_ofList, ← String.length_toList, List.drop_left, List.append_nil]
  have begins : startsWith disk (columns disk.toList padding []) = true := by
    rw [startsWith, columns, String.toList_ofList, List.isPrefixOf_iff_prefix]
    exact List.prefix_append _ _
  rw [sideLine, rest, begins, drop_blanks_all]
  cases padding with
  | zero => rfl
  | succ padding => simp [List.replicate_succ]

theorem side_line_row (disk : String) (row : Row) (plain : ' ' ∉ disk.toList) (other : row.name ≠ disk) :
    sideLine disk row.line = none := by
  by_cases begins : startsWith disk row.line = true
  · have within : disk.toList <+: row.name.toList := by
      rw [← (columns_name row.name.toList row.label.toList row.blanks row.plain row.apart).1]
      exact (prefix_take_while _ _ _ (solid _ plain)).mpr (List.isPrefixOf_iff_prefix.mp begins)
    obtain ⟨more, name⟩ := within
    have next : ∃ letter tail, more = letter :: tail ∧ letter ≠ ' ' := by
      cases more with
      | nil => exact absurd (String.toList_inj.mp (by rw [← name, List.append_nil])) other
      | cons letter tail =>
          refine ⟨letter, tail, rfl, fun blank => row.plain ?_⟩
          rw [← name, blank]
          exact List.mem_append_right _ List.mem_cons_self
    obtain ⟨letter, tail, rfl, visible⟩ := next
    have rest : row.line.toList.drop disk.length = letter :: (tail ++ (List.replicate row.blanks ' ' ++ row.label.toList)) := by
      rw [Row.line, columns, String.toList_ofList, ← name, ← String.length_toList, List.append_assoc, List.drop_left]
      rfl
    rw [sideLine, rest, List.head?_cons]
    exact if_pos (.inr fun same => visible (Option.some.inj same))
  · rw [sideLine]
    exact if_pos (.inl (Bool.not_eq_true _ ▸ begins))

def Listing.labelled {disk : String} (listing : Listing disk) (label : String) : List String :=
  (listing.rows.filter fun row => row.label = label).map Row.name

section Detection

variable (booted : Booted) (dev root : String) (listing : Listing (diskOf root)) (side : Char)

-- The kernel command line names dev as the root device, which is the mmcblk
-- partition root or lies on it; the label of root ends in the side.
structure Setting : Prop where
  named : ∃ rest, LastMarked "root=/dev/".toList beginsWord booted.cmdline.toList rest ∧
    String.ofList (rest.takeWhile fun letter => letter ≠ ' ') = dev
  resolved : (if startsWith "dm-" dev then booted.slaves dev else dev) = root
  mmc : startsWith "mmcblk" root = true
  soc : startsWith "sama5d3" booted.soc_id = false
  listed : booted.lsblk (diskOf root) = listing.lines
  labelled : ∃ row ∈ listing.rows, row.name = root ∧ ∃ base, row.label = base ++ "_" ++ String.singleton side
  sided : side = 'a' ∨ side = 'b'
  agrees : ∀ rest, LastMarked "bootside=".toList beginsSide booted.cmdline.toList rest → rest.head? = some side

def sidePart (part : String) (side : Char) : String := part ++ "_" ++ String.singleton side

structure Detected : Prop where
  found : rootDevActual booted = some root
  sided : getSide booted root = String.singleton side
  parts : ∀ part ∈ ["kernel", "rootfs_data"], getPart booted root part = some (listing.labelled (sidePart part side))

-- No other label looks like the wanted one in the column.
def Unambiguous : Prop :=
  ∀ part ∈ ["kernel", "rootfs_data"], ∀ row ∈ listing.rows,
    dropBlanks row.label.toList = (sidePart part side).toList → row.label = sidePart part side

def SaysSide : Prop := ∃ rest, MarkedAt "bootside=".toList beginsSide booted.cmdline.toList rest

theorem root_dev_named (setting : Setting booted dev root listing side) : rootDev booted.cmdline = dev := by
  obtain ⟨rest, last, named⟩ := setting.named
  rw [rootDev, (after_last_iff _ _ _ _).mpr last]
  exact named

theorem root_detected (setting : Setting booted dev root listing side) : rootDevActual booted = some root := by
  rw [rootDevActual, root_dev_named booted dev root listing side setting, setting.resolved, if_pos setting.mmc]

theorem side_word_said (setting : Setting booted dev root listing side) (said : SaysSide booted) :
    bootsideWord booted.cmdline = String.singleton side := by
  rw [bootsideWord]
  cases found : afterLastMark "bootside=".toList beginsSide booted.cmdline.toList with
  | none =>
      obtain ⟨rest, marked⟩ := said
      exact absurd marked (after_last_none _ _ _ found rest)
  | some rest =>
      have first := setting.agrees rest (after_last_some _ _ _ _ found)
      obtain ⟨tail, rfl⟩ := List.head?_eq_some_iff.mp first
      rfl

theorem side_word_unsaid (silent : ¬SaysSide booted) : bootsideWord booted.cmdline = "" := by
  rw [bootsideWord]
  cases found : afterLastMark "bootside=".toList beginsSide booted.cmdline.toList with
  | none => rfl
  | some rest => exact absurd ⟨rest, (after_last_some _ _ _ _ found).toMarkedAt⟩ silent

theorem disk_plain (setting : Setting booted dev root listing side) : ' ' ∉ (diskOf root).toList := by
  obtain ⟨row, _, rfl, _⟩ := setting.labelled
  rw [diskOf, cutAtFirst, String.toList_ofList]
  exact fun blank => row.plain ((List.takeWhile_prefix _).subset blank)

theorem emmc_data_side (setting : Setting booted dev root listing side) :
    getEmmcData booted root (sideLine (diskOf root)) = if 2 ≤ listing.padding then [" "] else [] := by
  have plain := disk_plain booted dev root listing side setting
  have rows : (listing.rows.map Row.line).filterMap (sideLine (diskOf root)) = [] := by
    rw [List.filterMap_map, List.filterMap_eq_nil_iff]
    intro row member
    rw [Function.comp_apply]
    exact side_line_row _ row plain (listing.others row member)
  have first := side_line_disk (diskOf root) listing.padding
  rw [getEmmcData, setting.listed, Listing.lines]
  by_cases wide : 2 ≤ listing.padding
  · rw [if_pos wide] at first ⊢
    rw [List.filterMap_cons_some first, rows]
  · rw [if_neg wide] at first ⊢
    rw [List.filterMap_cons_none first, rows]

-- The fallback looks at the line of the disk and not at that of the root
-- partition.
theorem get_side_silent (setting : Setting booted dev root listing side) (silent : ¬SaysSide booted) :
    getSide booted root = if 2 ≤ listing.padding then " " else "a" := by
  rw [getSide, side_word_unsaid booted silent, if_neg (not_not_intro rfl)]
  dsimp only
  rw [if_pos setting.mmc, setting.soc, emmc_data_side booted dev root listing side setting]
  by_cases wide : 2 ≤ listing.padding
  · rw [if_pos wide, if_pos wide]
    decide
  · rw [if_neg wide, if_neg wide]
    decide

theorem get_side_said (setting : Setting booted dev root listing side) (said : SaysSide booted) :
    getSide booted root = String.singleton side := by
  have word := side_word_said booted dev root listing side setting said
  have given : bootsideWord booted.cmdline ≠ "" := by
    rw [word]
    rcases setting.sided with rfl | rfl <;> decide
  rw [getSide, if_pos given, word]

theorem side_detected_iff (setting : Setting booted dev root listing side) :
    getSide booted root = String.singleton side ↔ SaysSide booted ∨ (listing.padding < 2 ∧ side = 'a') := by
  by_cases said : SaysSide booted
  · exact ⟨fun _ => .inl said, fun _ => get_side_said booted dev root listing side setting said⟩
  · rw [get_side_silent booted dev root listing side setting said, or_iff_right said]
    rcases setting.sided with rfl | rfl
    · by_cases wide : 2 ≤ listing.padding
      · rw [if_pos wide]
        exact ⟨fun same => absurd same (by decide), fun narrow => absurd wide (Nat.not_le.mpr narrow.1)⟩
      · rw [if_neg wide]
        exact ⟨fun _ => ⟨Nat.not_le.mp wide, rfl⟩, fun _ => by decide⟩
    · have other : ¬(if 2 ≤ listing.padding then " " else "a") = String.singleton 'b' := by
        split <;> decide
      exact ⟨fun same => absurd same other, fun narrow => absurd narrow.2 (by decide)⟩

theorem side_part_given (part : String) : (sidePart part side).toList ≠ [] := by
  simp [sidePart]

theorem part_lines_rows (rows : List Row) (part : String) :
    (rows.map Row.line).filterMap (partLine part) =
      (rows.filter fun row => dropBlanks row.label.toList = part.toList).map Row.name := by
  induction rows with
  | nil => rfl
  | cons row rows ih =>
      rw [List.map_cons, List.filterMap_cons, part_line_row, List.filter_cons, ih]
      by_cases same : dropBlanks row.label.toList = part.toList
      · simp [same]
      · simp [same]

theorem get_part_lines (setting : Setting booted dev root listing side) (part : String)
    (member : part ∈ ["kernel", "rootfs_data"]) (sided : getSide booted root = String.singleton side) :
    getPart booted root part = some ((listing.rows.filter fun row =>
      dropBlanks row.label.toList = (sidePart part side).toList).map Row.name) := by
  have plain := disk_plain booted dev root listing side setting
  have given : String.singleton side ≠ "" := by simp
  have withSide : withSide booted root part = sidePart part side := by
    rw [withSide, sided, if_pos (by simpa using member), if_neg given, sidePart]
  have other : part ≠ "rootfs" := by
    rintro rfl
    exact absurd member (by decide)
  rw [getPart, if_neg other, if_pos setting.mmc, setting.soc, withSide, getEmmcData, setting.listed, Listing.lines,
    List.filterMap_cons, part_line_disk _ _ _ plain (side_part_given side part), part_lines_rows]
  rfl

theorem labelled_unambiguous (listing : Listing (diskOf root)) (label : String) (solid : dropBlanks label.toList = label.toList) :
    (listing.rows.filter fun row => dropBlanks row.label.toList = label.toList).map Row.name = listing.labelled label ↔
      ∀ row ∈ listing.rows, dropBlanks row.label.toList = label.toList → row.label = label := by
  have both (row : Row) : (decide (dropBlanks row.label.toList = label.toList) && decide (row.label = label)) =
      decide (row.label = label) := by
    by_cases same : row.label = label
    · rw [same]
      simp [solid]
    · simp [same]
  constructor
  · intro equal row member looks
    have inner : (listing.rows.filter fun row => row.label = label) =
        (listing.rows.filter fun row => dropBlanks row.label.toList = label.toList).filter fun row => row.label = label := by
      rw [List.filter_filter]
      exact List.filter_congr fun row _ => by rw [Bool.and_comm, both]
    have lengths := congrArg List.length equal
    rw [Listing.labelled, List.length_map, List.length_map, inner] at lengths
    have whole := List.Sublist.eq_of_length List.filter_sublist lengths.symm
    have kept := List.filter_eq_self.mp whole row (List.mem_filter.mpr ⟨member, decide_eq_true looks⟩)
    exact of_decide_eq_true kept
  · intro unambiguous
    rw [Listing.labelled]
    congr 1
    refine List.filter_congr fun row member => ?_
    rw [← both]
    by_cases looks : dropBlanks row.label.toList = label.toList
    · simp [unambiguous row member looks]
    · simp [looks]

theorem side_part_solid (part : String) (member : part ∈ ["kernel", "rootfs_data"]) (sided : side = 'a' ∨ side = 'b') :
    dropBlanks (sidePart part side).toList = (sidePart part side).toList := by
  rcases List.mem_pair.mp member with rfl | rfl <;> rcases sided with rfl | rfl <;> decide

-- The detection agrees with the root partition exactly if the command line says
-- the side, or it is the default one and the fallback finds nothing.
theorem detected_iff (setting : Setting booted dev root listing side) :
    Detected booted root listing side ↔
      (SaysSide booted ∨ (listing.padding < 2 ∧ side = 'a')) ∧ Unambiguous root listing side := by
  rw [← side_detected_iff booted dev root listing side setting]
  have lines (part : String) (member : part ∈ ["kernel", "rootfs_data"]) (sided : getSide booted root = String.singleton side) :
      getPart booted root part = some (listing.labelled (sidePart part side)) ↔ ∀ row ∈ listing.rows,
        dropBlanks row.label.toList = (sidePart part side).toList → row.label = sidePart part side := by
    rw [get_part_lines booted dev root listing side setting part member sided, Option.some_inj]
    exact labelled_unambiguous root listing _ (side_part_solid side part member setting.sided)
  constructor
  · intro detected
    exact ⟨detected.sided, fun part member => (lines part member detected.sided).mp (detected.parts part member)⟩
  · rintro ⟨sided, unambiguous⟩
    exact ⟨root_detected booted dev root listing side setting, sided,
      fun part member => (lines part member sided).mpr (unambiguous part member)⟩

end Detection

def emmc : Listing (diskOf "mmcblk0p5") where
  padding := 3
  rows := [⟨"mmcblk0p2", "kernel_a", 1, by decide, by decide, by decide⟩,
    ⟨"mmcblk0p3", "kernel_b", 1, by decide, by decide, by decide⟩,
    ⟨"mmcblk0p5", "rootfs_b", 1, by decide, by decide, by decide⟩,
    ⟨"mmcblk0p7", "rootfs_data_b", 1, by decide, by decide, by decide⟩]
  others := by decide

def sideB (cmdline : String) : Booted where
  cmdline := cmdline
  slaves := id
  soc_id := "i.MX8MM"
  lsblk := fun _ => emmc.lines
  blockName := fun _ => none
  find_ubi_device := fun _ => none
  ubiName := fun _ => ""

theorem setting_b (cmdline : String) (rest : List Char)
    (found : afterLastMark "root=/dev/".toList beginsWord cmdline.toList = some rest)
    (named : String.ofList (rest.takeWhile fun letter => letter ≠ ' ') = "mmcblk0p5")
    (agrees : ∀ rest, afterLastMark "bootside=".toList beginsSide cmdline.toList = some rest → rest.head? = some 'b') :
    Setting (sideB cmdline) "mmcblk0p5" "mmcblk0p5" emmc 'b' where
  named := ⟨rest, after_last_some _ _ _ _ found, named⟩
  resolved := ite_self _
  mmc := by decide
  soc := show startsWith "sama5d3" "i.MX8MM" = false by decide
  listed := rfl
  labelled := by
    refine ⟨⟨"mmcblk0p5", "rootfs_b", 1, by decide, by decide, by decide⟩, ?_, rfl, "rootfs", by decide⟩
    simp [emmc]
  sided := .inr rfl
  agrees rest last := agrees rest ((after_last_iff _ _ _ _).mpr last)

def saidB : String := "root=/dev/mmcblk0p5 bootside=b"

theorem said_b_marks : afterLastMark "bootside=".toList beginsSide saidB.toList = some ['b'] := by decide

theorem detected_iff_said : Detected (sideB saidB) "mmcblk0p5" emmc 'b' := by
  have setting : Setting (sideB saidB) "mmcblk0p5" "mmcblk0p5" emmc 'b' := by
    refine setting_b saidB "mmcblk0p5 bootside=b".toList (by decide) (by decide) fun rest found => ?_
    rw [said_b_marks] at found
    cases found
    rfl
  refine (detected_iff _ _ _ _ _ setting).mpr ⟨.inl ⟨['b'], (after_last_some _ _ _ _ said_b_marks).toMarkedAt⟩, ?_⟩
  rw [Unambiguous]
  decide

theorem silent_b_undetected : ¬∀ (booted : Booted) (dev root : String) (listing : Listing (diskOf root)) (side : Char),
    Setting booted dev root listing side → Detected booted root listing side := by
  intro detects
  have silent : afterLastMark "bootside=".toList beginsSide "root=/dev/mmcblk0p5".toList = none := by decide
  have setting := setting_b "root=/dev/mmcblk0p5" "mmcblk0p5".toList (by decide) (by decide)
    fun rest found => nomatch silent.symm.trans found
  have detected := detects _ _ _ _ _ setting
  exact absurd detected.sided (by decide)

end SummitSom.Boot
