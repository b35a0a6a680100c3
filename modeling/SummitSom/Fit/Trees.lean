import SummitSom.Fit.Images

set_option autoImplicit false

namespace SummitSom.Fit

open Dts

section Loops

variable (v : Vars) (b : Build)

def kernelFile (path : DtbPath) : List Char :=
  let inDts := v.KERNEL_OUTPUT_DIR.text ++ "/dts/".toList ++ dtbFile path
  if b.exist inDts then inDts else v.KERNEL_OUTPUT_DIR.text ++ '/' :: dtbFile path

theorem kernel_file_plain (path : DtbPath) : (kernelFile v b path).all valueLetter = true := by
  have name := (lettered_tidy _ (file_lettered path).2).2
  have between : "/dts/".toList.all valueLetter = true := by decide
  have slash : valueLetter '/' = true := by decide
  rw [kernelFile]
  split
  · rw [List.all_append, List.all_append, v.KERNEL_OUTPUT_DIR.plain, between, name]
    rfl
  · rw [List.all_append, List.all_cons, v.KERNEL_OUTPUT_DIR.plain, slash, name]
    rfl

theorem kernel_dtb_eq (path : DtbPath) (found : Found) :
    kernelDtb v b path found =
      if emptyFile b (dtbFile path) then
        (if (found.chosen v (shortName v path)).DTBS.any (grepLine (treeName v path)) then found.chosen v (shortName v path)
        else ⟨emitSectionDtb v (treeName v path) (kernelFile v b path) (found.chosen v (shortName v path)).its,
          (found.chosen v (shortName v path)).DTBS ++ [treeName v path],
          (found.chosen v (shortName v path)).default_dtb_image⟩)
      else found := rfl

def chosenName (DTB : List Char) (found : Found) : List Char :=
  if v.FIT_CONF_DEFAULT_DTB.text = DTB then underscored DTB else found.default_dtb_image

theorem chosen_eq (DTB : List Char) (found : Found) :
    found.chosen v DTB = { found with default_dtb_image := chosenName v DTB found } := by
  rw [Found.chosen, chosenName]
  split <;> rfl

theorem chosen_name (DTB : List Char) (found : Found) :
    chosenName v DTB found = found.default_dtb_image ∨ chosenName v DTB found = underscored DTB := by
  rw [chosenName]
  split
  · exact .inr rfl
  · exact .inl rfl

variable (start : List Entry) (names : List (List Char))

-- The loop goes on with more device trees, this one among them if it takes it.
def Goes (found next : Found) (DTB : List Char) (taken : Bool) : Prop :=
  ∃ images, Gathered v b start names next images ∧ found.DTBS <+: next.DTBS ∧ (taken = true → DTB ∈ next.DTBS)

theorem kernel_dtb_goes (unconfused : Unconfused names) (path : DtbPath) (found : Found) (images : List Image) (known : treeName v path ∈ names)
    (gathered : Gathered v b start names found images) :
    Goes v b start names found (kernelDtb v b path found) (treeName v path) (emptyFile b (dtbFile path)) := by
  have choice := chosen_name v (shortName v path) found
  have listed := listed_iff names unconfused found.DTBS gathered.among (treeName v path) known
  rw [kernel_dtb_eq]
  cases empty : emptyFile b (dtbFile path) with
  | false => exact ⟨images, gathered, List.prefix_rfl, fun taken => absurd taken Bool.false_ne_true⟩
  | true =>
      rw [if_pos rfl, chosen_eq]
      by_cases before : treeName v path ∈ found.DTBS
      · rw [if_pos (listed.mpr before)]
        exact ⟨images, gathered_kept v b start names found images _ _ gathered before choice, List.prefix_rfl, fun _ => before⟩
      · rw [if_neg fun greps => before (listed.mp greps)]
        have added := gathered_added v b start names found images (treeName v path) _ gathered known (tree_lettered v path) before
          choice (kernelFile v b path) (kernel_file_plain v b path)
        exact ⟨_, added, List.prefix_append _ _, fun _ => List.mem_append_right _ List.mem_cons_self⟩

theorem external_dtb_goes (unconfused : Unconfused names) (provider : Provider) (given : b.external = some provider)
    (path : DtbPath) (found : Found) (images : List Image) (known : underscored path.text ∈ names) (gathered : Gathered v b start names found images) :
    Goes v b start names found (externalDtb v provider path found) (underscored path.text) true := by
  have choice := chosen_name v path.text found
  have lettered := underscored_lettered path.text (path_lettered path)
  have listed := listed_iff names unconfused found.DTBS gathered.among (underscored path.text) known
  rw [externalDtb, chosen_eq]
  by_cases before : underscored path.text ∈ found.DTBS
  · rw [if_pos (listed.mpr before)]
    exact ⟨images, gathered_kept v b start names found images _ _ gathered before choice, List.prefix_rfl, fun _ => before⟩
  · rw [if_neg fun greps => before (listed.mp greps)]
    cases link : provider.symlinkPointsBelow (underscored path.text) with
    | some target =>
        have linked : symlinkPointsBelow b (underscored path.text) ≠ none := by
          rw [symlinkPointsBelow, given, Option.bind_some, link]
          exact Option.some_ne_none _
        have added := gathered_linked v b start names found images (underscored path.text) _ gathered known lettered before choice
          linked
        exact ⟨_, added, List.prefix_append _ _, fun _ => List.mem_append_right _ List.mem_cons_self⟩
    | none =>
        have slash : valueLetter '/' = true := by decide
        have plain : (provider.dir.text ++ '/' :: underscored path.text).all valueLetter = true := by
          rw [List.all_append, List.all_cons, provider.dir.plain, slash, (lettered_tidy _ lettered.2).2]
          rfl
        have added := gathered_added v b start names found images (underscored path.text) _ gathered known lettered before choice
          _ plain
        exact ⟨_, added, List.prefix_append _ _, fun _ => List.mem_append_right _ List.mem_cons_self⟩

-- A loop over device trees, of which each step goes on.
theorem loop_goes (paths : List DtbPath) (step : DtbPath → Found → Found) (name : DtbPath → List Char)
    (taken : DtbPath → Bool) (goes : ∀ path ∈ paths, ∀ found images, Gathered v b start names found images →
      Goes v b start names found (step path found) (name path) (taken path))
    (found : Found) (images : List Image) (gathered : Gathered v b start names found images) :
    ∃ after, Gathered v b start names (paths.foldl (fun found path => step path found) found) after ∧
      found.DTBS <+: (paths.foldl (fun found path => step path found) found).DTBS ∧
      ∀ path ∈ paths, taken path = true → name path ∈ (paths.foldl (fun found path => step path found) found).DTBS := by
  induction paths generalizing found images with
  | nil => exact ⟨images, gathered, List.prefix_rfl, fun _ inside => nomatch inside⟩
  | cons path paths ih =>
      obtain ⟨next, first, front, own⟩ := goes path List.mem_cons_self found images gathered
      obtain ⟨after, last, longer, rest⟩ := ih (fun other inside => goes other (List.mem_cons_of_mem path inside)) _ next first
      refine ⟨after, last, front.trans longer, ?_⟩
      intro other inside takes
      cases inside with
      | head => exact longer.subset (own takes)
      | tail _ later => exact rest other later takes

end Loops

section All

variable (v : Vars) (b : Build)

def providerTrees : List DtbPath :=
  match b.external with
  | none => []
  | some provider => provider.trees

-- The names that the device trees go by.
def treeNames : List (List Char) :=
  v.KERNEL_DEVICETREE.map (treeName v) ++ (providerTrees b).map fun path => underscored path.text

structure Listed (DTBS : List (List Char)) : Prop where
  kernel : ∀ path ∈ v.KERNEL_DEVICETREE, emptyFile b (dtbFile path) = true → treeName v path ∈ DTBS
  provided : ∀ path ∈ providerTrees b, underscored path.text ∈ DTBS

theorem add_dtbs_gathers (unconfused : Unconfused (treeNames v b)) (start : List Entry) (its : List Line)
    (reads : Reads its imagesPath start) :
    ∃ images, Gathered v b start (treeNames v b) (addDtbs v b its) images ∧ Listed v b (addDtbs v b its).DTBS := by
  have none_yet : Gathered v b start (treeNames v b) ⟨its, [], []⟩ [] := by
    refine ⟨?_, ?_, ?_, List.nodup_nil, .inl rfl, List.Sublist.refl _, ?_, ?_⟩
    · rw [Shows, List.flatMap_nil, List.append_nil]
      exact reads
    all_goals
      intro other inside
      cases inside
  obtain ⟨images, kernel, _, covered⟩ := loop_goes v b start (treeNames v b) v.KERNEL_DEVICETREE (kernelDtb v b)
    (treeName v) (fun path => emptyFile b (dtbFile path))
    (fun path inside found images gathered => kernel_dtb_goes v b start _ unconfused path found images
      (List.mem_append_left _ (List.mem_map_of_mem inside)) gathered) _ [] none_yet
  rw [addDtbs]
  cases given : b.external with
  | none =>
      refine ⟨images, kernel, covered, ?_⟩
      intro path inside
      rw [providerTrees, given] at inside
      cases inside
  | some provider =>
      have trees : providerTrees b = provider.trees := by rw [providerTrees, given]
      obtain ⟨after, last, longer, provided⟩ := loop_goes v b start (treeNames v b) provider.trees (externalDtb v provider)
        (fun path => underscored path.text) (fun _ => true)
        (fun path inside found images gathered => external_dtb_goes v b start _ unconfused provider given path found images
          (List.mem_append_right _ (List.mem_map_of_mem (trees ▸ inside))) gathered) _ images kernel
      refine ⟨after, last, ?_, ?_⟩
      · intro path inside empty
        exact longer.subset (covered path inside empty)
      · intro path inside
        rw [trees] at inside
        exact provided path inside rfl

end All

end SummitSom.Fit
