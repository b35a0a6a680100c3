import SummitSom.Boot.ConfName
import SummitSom.Fit.Closed

set_option autoImplicit false

namespace SummitSom.Boot.ConfName

open Dts Fit

-- A build for the machine: its device trees are those of the kernel alone.
structure SummitBuild (v : Vars) (b : Build) : Prop where
  trees : v.KERNEL_DEVICETREE.map DtbPath.text = KERNEL_DEVICETREE
  named : v.FIT_CONF_PREFIX.text = FIT_CONF_PREFIX
  vendored : v.KERNEL_DTBVENDORED = false
  external : b.external = none

section Build

variable (v : Vars) (b : Build) (summit : SummitBuild v b)

include summit

theorem summit_tree_name (path : DtbPath) (inside : path ∈ v.KERNEL_DEVICETREE) :
    treeName v path = Fit.basename path.text := by
  have text : path.text ∈ KERNEL_DEVICETREE := by
    rw [← summit.trees]
    exact List.mem_map_of_mem inside
  have plain : ∀ text ∈ KERNEL_DEVICETREE, ¬ "/dts/".toList <:+: text ∧ underscored (Fit.basename text) = Fit.basename text := by
    decide +kernel
  rw [treeName, shortName, summit.vendored, if_neg Bool.false_ne_true, dtbFile, if_neg (plain _ text).1]
  exact (plain _ text).2

theorem summit_tree_names : treeNames v b = KERNEL_DEVICETREE.map Fit.basename := by
  have names : v.KERNEL_DEVICETREE.map (treeName v) = v.KERNEL_DEVICETREE.map fun path => Fit.basename path.text :=
    List.map_congr_left (summit_tree_name v b summit)
  rw [treeNames, providerTrees, summit.external, List.map_nil, List.append_nil, names, ← summit.trees, List.map_map]
  rfl

theorem summit_unconfused : Unconfused (treeNames v b) := by
  rw [summit_tree_names v b summit]
  decide +kernel

variable (ramdiskcount : List Char) (found : Found) (trees ramdisks : List Image) (its : List Line)
variable (assembly : Assembly v b ramdiskcount found trees ramdisks its)

include assembly

theorem summit_listed (DTB : List Char) : DTB ∈ found.DTBS ↔ DTB ∈ KERNEL_DEVICETREE.map Fit.basename := by
  rw [← summit_tree_names v b summit]
  refine ⟨assembly.gathered.among DTB, ?_⟩
  intro known
  rcases List.mem_append.mp known with kernel | provided
  · obtain ⟨path, inside, rfl⟩ := List.mem_map.mp kernel
    refine assembly.listed.kernel path inside ?_
    rw [emptyFile, summit.external]
  · rw [providerTrees, summit.external] at provided
    cases provided

-- The configurations of the image are those that are listed above.
theorem summit_configurations (name : List Char) :
    .node (name :: confsPath) ∈ fitEntries v (allImages v b trees ramdisks) (confs v b ramdiskcount found) ↔
      name ∈ fitConfigurations := by
  have listed := summit_listed v b summit ramdiskcount found trees ramdisks its assembly
  have conf_named : ∀ DTB, confName v DTB = FIT_CONF_PREFIX ++ DTB := fun DTB => congrArg (· ++ DTB) summit.named
  rw [conf_entry v _ _ [] name _ rfl, fitConfigurations, List.mem_map]
  constructor
  · rintro ⟨made, there, own⟩
    have same : name = made.name := by
      rcases (conf_node v _ made).mp own with same | same | ⟨_, same⟩
      · exact (List.cons.inj same).1
      · exact absurd (List.cons.inj same).2.symm (List.cons_ne_self _ _)
      · exact absurd (List.cons.inj same).2.symm (List.cons_ne_self _ _)
    have filled : found.DTBS ≠ [] := by
      intro none
      have first := (listed _).mpr (List.mem_map_of_mem List.mem_cons_self)
      rw [none] at first
      cases first
    obtain ⟨DTB, known, named⟩ := configured_tree v b ramdiskcount found trees ramdisks its assembly filled made there
    obtain ⟨dtb, inside, rfl⟩ := List.mem_map.mp ((listed DTB).mp known)
    exact ⟨dtb, inside, by rw [same, named, conf_named]⟩
  · rintro ⟨dtb, known, rfl⟩
    obtain ⟨made, there, named⟩ := tree_configured v b ramdiskcount found trees ramdisks its assembly (Fit.basename dtb)
      ((listed _).mpr (List.mem_map_of_mem known))
    exact ⟨made, there, (conf_node v _ made).mpr (.inl (by rw [named, conf_named]))⟩

end Build

-- Whatever modes were set and whatever boards the card was started on, the image
-- of the machine has the configuration that conf names, but for a WBX with the M7.
theorem conf_configured (v : Vars) (b : Build) (its : List Line) (summit : SummitBuild v b) (assembled : Assembled v b its)
    (events : List Event) (som : Som) (choice : Choice) (shows : Shows som choice) :
    ∃ last entries, som.run events = some last ∧ sourceEntries its = some entries ∧
      (.node (last.conf :: confsPath) ∈ entries ↔
        ¬ ((choice.run events).setting.board = .wbx ∧ (choice.run events).setting.m7 = true)) := by
  obtain ⟨ramdiskcount, _, tidy, some_its⟩ := assembled_asked v b its assembled
  obtain ⟨found, trees, ramdisks, assembly⟩ :=
    assemble_reads v b ramdiskcount tidy its (summit_unconfused v b summit) some_its
  obtain ⟨last, run, shown⟩ := run_shown events som choice shows
  refine ⟨last, _, run, assembly.read, ?_⟩
  rw [summit_configurations v b summit ramdiskcount found trees ramdisks its assembly, shown_conf last _ shown]
  exact setting_name_listed _

theorem summit_trees_proper : ∀ text ∈ KERNEL_DEVICETREE, text.all dtbLetter = true ∧ Fit.basename text ≠ [] ∧
    text.head? ≠ some '-' ∧ (Fit.basename text).head? ≠ some '-' := by
  decide +kernel

def summitTrees : List DtbPath :=
  KERNEL_DEVICETREE.pmap (fun text proper => ⟨text, proper.1, proper.2.1, proper.2.2⟩) summit_trees_proper

def summitVars : Vars := { machine with KERNEL_DEVICETREE := summitTrees }

def kernelBuild : Build := ⟨fun _ => false, false, none, fun _ => ⟨[], rfl⟩⟩

theorem summit_build : SummitBuild summitVars kernelBuild where
  trees := by
    change summitTrees.map DtbPath.text = KERNEL_DEVICETREE
    rw [summitTrees, List.map_pmap, List.pmap_eq_map, List.map_id']
  named := rfl
  vendored := rfl
  external := rfl

theorem wbx_m7_unconfigured :
    ∃ its entries last, doAssembleFitimage summitVars kernelBuild = some its ∧ sourceEntries its = some entries ∧
      (⟨defaultEnv, []⟩ : Som).run wbxEvents = some last ∧ .node (last.conf :: confsPath) ∉ entries := by
  obtain ⟨its, assembled⟩ : ∃ its, doAssembleFitimage summitVars kernelBuild = some its := ⟨_, rfl⟩
  obtain ⟨last, entries, run, read, configured⟩ := conf_configured summitVars kernelBuild its summit_build (.inl assembled)
    wbxEvents ⟨defaultEnv, []⟩ ⟨⟨.dvk, .pcieUart, false⟩, []⟩ ⟨by decide, rfl⟩
  refine ⟨its, entries, last, assembled, read, run, fun inside => configured.mp inside ⟨?_, ?_⟩⟩
  · decide +kernel
  · decide +kernel

end SummitSom.Boot.ConfName
