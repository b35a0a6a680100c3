import SummitSom.Automount.UsbMount

set_option autoImplicit false

namespace SummitSom.Automount

open Interact Shell Paths

def Board.Mountable (board : Board) (device : String) : Prop := board.fstype device ≠ "" ∧ board.fstype device ≠ "swap"

-- What the line of the device shows where it is read for TYPE.
def Board.TypeShown (board : Board) (device : String) : Prop :=
  ∀ line ∈ board.line device, (answered typeKey line.pairs).getD [] ∉ [[], "swap".toList]

-- A claim that stands beside a directory reached over these places: neither path
-- leads below the other's directory.
structure Claim.Apart (claim : Claim) (dir : Dir) (looked : List Dir) : Prop where
  other : claim.dir ≠ dir
  behind : ∀ place ∈ looked, ¬ Below claim.dir place
  under : ∀ place ∈ claim.looked, ¬ Below dir place

-- The type of a device that can be mounted is shown. An add run makes its mount
-- point only where its path leads to a directory, no other device is mounted and no
-- other add run is about to mount. rmdir spares what the paths of such runs lead
-- over, and umount takes nothing from other devices.
def CarefulMedia (board : Board) (name : String) (s : Media) : MediaCmd → Prop
  | .blkid device => board.Mountable device → board.TypeShown device
  | .mkdir path fstype => fstype ≠ "swap" → (mkdirs s.tree path).place ≠ none ∧ ∀ dir ∈ (mkdirs s.tree path).place,
      (∀ entry ∈ s.mounts, entry.device ≠ name → entry.dir ≠ dir) ∧
      ∀ claim ∈ s.claims, claim.name ≠ name → claim.Apart dir (mkdirs s.tree path).looked
  | .rmdir path => ∀ dir, Removable s path dir → ∀ claim ∈ s.claims, dir ∉ claim.looked
  | .umount path => ∀ dir, MountedAt s path dir →
      (∀ entry ∈ s.mounts, entry.device ≠ name → ¬ dir <+: entry.dir) ∧
      ∀ claim ∈ s.claims, ∀ place ∈ claim.looked, ¬ Below dir place
  | _ => True

abbrev carefulMediaCrew (board : Board) : Crew String MediaCmd MediaAnswer Ending Media :=
  (mediaCrew board).admitting (CarefulMedia board) fun _ _ _ => True

structure Claim.Leads (claim : Claim) (tree : Tree) : Prop where
  place : (find tree claim.path).place = some claim.dir
  looked : (find tree claim.path).looked = claim.looked

structure Media.Sound (s : Media) : Prop where
  distinct : ∀ entry ∈ s.mounts, ∀ other ∈ s.mounts, entry.device ≠ other.device → entry.dir ≠ other.dir
  free : ∀ claim ∈ s.claims, ∀ entry ∈ s.mounts, entry.device ≠ claim.name → entry.dir ≠ claim.dir
  leads : ∀ claim ∈ s.claims, claim.Leads s.tree
  apart : ∀ claim ∈ s.claims, ∀ other ∈ s.claims, claim.name ≠ other.name → claim.Apart other.dir other.looked

def Mounted (name : String) (s : Media) : Prop := ∃ entry ∈ s.mounts, entry.device = name

structure MediaRelied (name : String) (s t : Media) : Prop where
  claims : ∀ claim ∈ s.claims, claim.name = name → claim ∈ t.claims
  adding : t.adding name = s.adding name
  mounted : Mounted name s → Mounted name t

theorem media_same (name : String) (s : Media) : MediaRelied name s s := ⟨fun _ inside _ => inside, rfl, id⟩

-- A path leads where it led as long as nothing changes at the places it leads over.
theorem leads_still (claim : Claim) (tree other : Tree) (leads : claim.Leads tree)
    (same : ∀ place ∈ claim.looked, other.node place = tree.node place) : claim.Leads other := by
  have found := found_parts claim.path
  have again := walk_again places linkLimit (parts false claim.path) tree other [] claim.dir leads.place ?_
  · rw [parts_found] at again
    constructor
    · rw [find, again]
    · rw [find, again]
      exact leads.looked
  · intro place looked
    rw [walk_found_tree places linkLimit _ tree [] found]
    exact same place (leads.looked ▸ looked)

theorem leads_grown (claim : Claim) (tree : Tree) (path : String) (leads : claim.Leads tree) :
    claim.Leads (mkdirs tree path).tree := by
  apply leads_still claim tree _ leads
  intro place looked
  apply walk_grown
  have found := found_parts claim.path
  have there := walk_looked places linkLimit (parts false claim.path) tree [] claim.dir leads.place place
    (leads.looked.symm ▸ looked)
  rwa [walk_found_tree places linkLimit _ tree [] found] at there

-- What mkdir -p has made is found there.
theorem leads_made (name path : String) (tree : Tree) (dir : Dir) (made : (mkdirs tree path).place = some dir) :
    (Claim.mk name path dir (mkdirs tree path).looked).Leads (mkdirs tree path).tree := by
  have again := walk_again places linkLimit (parts true path) tree (mkdirs tree path).tree [] dir made fun _ _ => rfl
  rw [parts_found] at again
  constructor
  · exact congrArg Walked.place again
  · have looked := congrArg Walked.looked again
    exact looked

theorem claim_others (name : String) (claims : List Claim) (claim : Claim) :
    claim ∈ unclaimed name claims ↔ claim ∈ claims ∧ claim.name ≠ name := by
  rw [unclaimed, List.mem_filter, decide_eq_true_iff]

theorem claims_made (name path : String) (made : Walked Dir) (claims : List Claim) (dir : Dir) (reached : made.place = some dir)
    (claim : Claim) : claim ∈ claimed name path made claims ↔
      claim = ⟨name, path, dir, made.looked⟩ ∨ claim ∈ claims ∧ claim.name ≠ name := by
  rw [claimed, reached]
  simp only [List.mem_cons, claim_others]

theorem mkdir_sound (name path : String) (s : Media) (dir : Dir) (sound : s.Sound)
    (made : (mkdirs s.tree path).place = some dir) (unused : ∀ entry ∈ s.mounts, entry.device ≠ name → entry.dir ≠ dir)
    (alone : ∀ claim ∈ s.claims, claim.name ≠ name → claim.Apart dir (mkdirs s.tree path).looked) :
    ({ s with tree := (mkdirs s.tree path).tree
              claims := claimed name path (mkdirs s.tree path) s.claims } : Media).Sound := by
  have known := claims_made name path (mkdirs s.tree path) s.claims dir made
  constructor
  · exact sound.distinct
  · intro claim inside entry mounted different
    cases (known claim).mp inside with
    | inl own =>
        subst own
        exact unused entry mounted different
    | inr before => exact sound.free claim before.1 entry mounted different
  · intro claim inside
    cases (known claim).mp inside with
    | inl own =>
        subst own
        exact leads_made name path s.tree dir made
    | inr before => exact leads_grown claim s.tree path (sound.leads claim before.1)
  · intro claim inside other within different
    cases (known claim).mp inside with
    | inl own =>
        subst own
        cases (known other).mp within with
        | inl again => exact absurd (again ▸ rfl) different
        | inr before =>
            have beside := alone other before.1 before.2
            exact ⟨beside.other.symm, beside.under, beside.behind⟩
    | inr before =>
        cases (known other).mp within with
        | inl own =>
            subst own
            exact alone claim before.1 before.2
        | inr theirs => exact sound.apart claim before.1 other theirs.1 different

theorem mount_sound (name rest : String) (s : Media) (claim : Claim) (tree : Tree) (sound : s.Sound) (inside : claim ∈ s.claims)
    (own : claim.name = name) (outside : SameOutside claim.dir s.tree tree) :
    ({ s with mounts := ⟨name, claim.dir, rest⟩ :: s.mounts, tree := tree, claims := unclaimed name s.claims } : Media).Sound := by
  subst own
  constructor
  · intro entry mounted other within different
    cases mounted with
    | head =>
        cases within with
        | head => exact absurd rfl different
        | tail _ within => exact (sound.free claim inside other within (Ne.symm different)).symm
    | tail _ mounted =>
        cases within with
        | head => exact sound.free claim inside entry mounted different
        | tail _ within => exact sound.distinct entry mounted other within different
  · intro other theirs entry mounted different
    obtain ⟨there, apart⟩ := (claim_others _ _ _).mp theirs
    cases mounted with
    | head => exact (sound.apart claim inside other there (Ne.symm apart)).other
    | tail _ mounted => exact sound.free other there entry mounted different
  · intro other theirs
    obtain ⟨there, apart⟩ := (claim_others _ _ _).mp theirs
    have beside := sound.apart claim inside other there (Ne.symm apart)
    exact leads_still other s.tree tree (sound.leads other there) fun place looked => outside place (beside.behind place looked)
  · intro first ours second theirs different
    exact sound.apart first ((claim_others _ _ _).mp ours).1 second ((claim_others _ _ _).mp theirs).1 different

theorem rmdir_sound (s : Media) (dir : Dir) (sound : s.Sound) (spared : ∀ claim ∈ s.claims, dir ∉ claim.looked) :
    ({ s with tree := s.tree.set dir .absent } : Media).Sound := by
  refine ⟨sound.distinct, sound.free, ?_, sound.apart⟩
  intro claim inside
  apply leads_still claim s.tree _ (sound.leads claim inside)
  intro place looked
  have other : place ≠ dir := fun same => spared claim inside (same ▸ looked)
  rw [node_set, if_neg other]

theorem umount_sound (s : Media) (dir : Dir) (tree : Tree) (mounts : List Entry) (sound : s.Sound)
    (fewer : ∀ entry ∈ mounts, entry ∈ s.mounts) (outside : SameOutside dir s.tree tree)
    (spared : ∀ claim ∈ s.claims, ∀ place ∈ claim.looked, ¬ Below dir place) :
    ({ s with mounts := mounts, tree := tree } : Media).Sound := by
  constructor
  · intro entry inside other within
    exact sound.distinct entry (fewer entry inside) other (fewer other within)
  · intro claim inside entry mounted
    exact sound.free claim inside entry (fewer entry mounted)
  · intro claim inside
    exact leads_still claim s.tree tree (sound.leads claim inside) fun place looked =>
      outside place (spared claim inside place looked)
  · exact sound.apart

-- Commands that only look, or hand the mounted drive over.
def Looks : MediaCmd → Prop
  | .mkdir _ _ | .mount _ _ | .rmdir _ | .umount _ => False
  | _ => True

def Clears : MediaCmd → Prop
  | .mkdir _ _ | .mount _ _ => False
  | _ => True

section Steps

variable (board : Board)

theorem looks_same (name : String) (s t : Media) (cmd : MediaCmd) (answer : MediaAnswer cmd) (looks : Looks cmd)
    (reply : mediaReply board name s cmd answer t) : t = s := by
  cases cmd with
  | mkdir path fstype => exact looks.elim
  | mount device path => exact looks.elim
  | rmdir path => exact looks.elim
  | umount path => exact looks.elim
  | chown user path => exact reply
  | startUnit unit path => exact reply
  | _ => exact reply.2

theorem umounted_still (name other : String) (s : Media) (dir : Dir) (gone : Entry → Bool)
    (others : ∀ entry ∈ s.mounts, entry.device ≠ name → ¬ dir <+: entry.dir)
    (below : ∀ entry, gone entry = true → Below dir entry.dir) (apart : other ≠ name) (mounted : Mounted other s) :
    ∃ entry ∈ (s.mounts.eraseP fun entry => entry.dir = dir).filter (fun entry => !gone entry), entry.device = other := by
  obtain ⟨entry, inside, device⟩ := mounted
  have beside := others entry inside fun same => apart (device.symm.trans same)
  refine ⟨entry, List.mem_filter.mpr ⟨?_, ?_⟩, device⟩
  · apply (List.mem_eraseP_of_neg _).mpr inside
    simpa using fun same : entry.dir = dir => beside (same ▸ List.prefix_rfl)
  · cases lost : gone entry with
    | true => exact absurd (below entry lost).1 beside
    | false => rfl

theorem clears_sound (name : String) (s t : Media) (cmd : MediaCmd) (answer : MediaAnswer cmd) (sound : s.Sound)
    (clears : Clears cmd) (careful : CarefulMedia board name s cmd) (reply : mediaReply board name s cmd answer t) :
    t.Sound ∧ t.adding = s.adding ∧ ∀ other, other ≠ name → MediaRelied other s t := by
  have same (still : t = s) : t.Sound ∧ t.adding = s.adding ∧ ∀ other, other ≠ name → MediaRelied other s t := by
    subst still
    exact ⟨sound, rfl, fun other _ => media_same other t⟩
  cases cmd with
  | mkdir path fstype => exact clears.elim
  | mount device path => exact clears.elim
  | rmdir path =>
      by_cases goes : ∃ dir, Removable s path dir
      · obtain ⟨dir, removable⟩ := goes
        obtain rfl := reply.1 dir removable
        exact ⟨rmdir_sound s dir sound (careful dir removable), rfl, fun other _ => ⟨fun _ inside _ => inside, rfl, id⟩⟩
      · exact same (reply.2 fun dir removable => goes ⟨dir, removable⟩)
  | umount path =>
      by_cases goes : ∃ dir, MountedAt s path dir
      · obtain ⟨dir, mounted⟩ := goes
        obtain ⟨_, gone, tree, outside, below, rfl⟩ := reply.1 dir mounted
        obtain ⟨others, spared⟩ := careful dir mounted
        refine ⟨umount_sound s dir tree _ sound ?_ outside spared, rfl, fun other apart => ⟨fun _ inside _ => inside, rfl, ?_⟩⟩
        · exact fun entry inside => List.mem_of_mem_eraseP (List.mem_of_mem_filter inside)
        · exact umounted_still name other s dir gone others below apart
      · exact same (reply.2 fun dir mounted => goes ⟨dir, mounted⟩).2
  | _ => exact same (looks_same board name s t _ answer trivial reply)

structure MediaOutline {A : Type} (name : String) (post : Except Ending A → (Media → Prop) → Prop) (script : MediaScript A)
    (fact : Media → Prop) : Prop where
  outlined : Outlined (carefulMediaCrew board) Media.Sound MediaRelied name post script fact

def IsAdding (name : String) (adding : Bool) (s : Media) : Prop := s.adding name = adding

theorem adding_stable (name : String) (adding : Bool) : Stable Media.Sound (MediaRelied name) (IsAdding name adding) := by
  intro s t _ _ now relied
  exact relied.adding.trans now

theorem clears_outline {A : Type} (name : String) (adding : Bool) (post : Except Ending A → (Media → Prop) → Prop)
    (script : MediaScript A) (only : Only Clears script) (posts : ∀ result, post result (IsAdding name adding)) :
    MediaOutline board name post script (IsAdding name adding) := by
  constructor
  apply outlined_only _ _ _ _ _ Clears script _ only (adding_stable name adding) _ posts
  intro s cmd answer t sound now clears reply
  obtain ⟨after, same, relied⟩ := clears_sound board name s t cmd answer sound clears reply.1 reply.2
  exact ⟨after, relied, (congrFun same name).trans now⟩

-- What is known of an answer, and that the step was a careful one, stays out of the fact.
theorem look_call {A : Type} (name : String) (fact : Media → Prop) (post : Except Ending A → (Media → Prop) → Prop)
    (cmd : MediaCmd) (rest : MediaAnswer cmd → MediaScript A) (looks : Looks cmd)
    (stable : Stable Media.Sound (MediaRelied name) fact)
    (onward : ∀ s answer, CarefulMedia board name s cmd → mediaReply board name s cmd answer s →
      MediaOutline board name post (rest answer) fact) :
    MediaOutline board name post (.call cmd rest) fact := by
  constructor
  intro s answer t sound now reply
  obtain rfl := looks_same board name s t cmd answer looks reply.2
  exact ⟨sound, fun other _ => media_same other t, fact, now, stable, (onward t answer reply.1 reply.2).outlined⟩

-- Where an add run may end without a mount: at its checks, and for a device that
-- holds no file system or swap.
def MayEnd (name : String) : Ending → Prop
  | .noFilesystem | .swap => ¬ board.Mountable name
  | .mountFailed => False
  | _ => True

def Finished (name : String) (s : Media) : Except Ending Unit → Prop
  | .ok _ => Mounted name s
  | .error ending => MayEnd board name ending

def MediaPost (name : String) (result : Except Ending Unit) (fact : Media → Prop) : Prop :=
  Leaving (carefulMediaCrew board) Media.Sound MediaRelied name result fact ∧
    ∀ s, fact s → s.adding name = true → Finished board name s result

theorem media_leaving (name : String) (result : Except Ending Unit) (fact : Media → Prop) :
    Leaving (carefulMediaCrew board) Media.Sound MediaRelied name result fact := by
  intro s t sound _ left
  obtain rfl : t = _ := left
  have before (claim : Claim) (inside : claim ∈ unclaimed name s.claims) : claim ∈ s.claims :=
    ((claim_others name s.claims claim).mp inside).1
  refine ⟨⟨sound.distinct, ?_, ?_, ?_⟩, fun other apart => ⟨?_, rfl, id⟩⟩
  · exact fun claim inside => sound.free claim (before claim inside)
  · exact fun claim inside => sound.leads claim (before claim inside)
  · exact fun claim inside other within => sound.apart claim (before claim inside) other (before other within)
  · exact fun claim inside own => (claim_others name s.claims claim).mpr ⟨inside, own.symm ▸ apart⟩

theorem stop_outline (name : String) (ending : Ending) (fact : Media → Prop) (may : MayEnd board name ending) :
    MediaOutline board name (MediaPost board name) (.stop ending) fact :=
  ⟨⟨media_leaving board name _ fact, fun _ _ _ => may⟩⟩

section Adding

variable (name : String)

theorem check_sd_card_outline (devbase : String) (rest : Unit → MediaScript Unit)
    (onward : MediaOutline board name (MediaPost board name) (rest ()) (IsAdding name true)) :
    MediaOutline board name (MediaPost board name) (checkSdCard devbase >>= rest) (IsAdding name true) := by
  have stable := adding_stable name true
  rw [checkSdCard]
  split
  · apply look_call board name _ _ (.mmctype devbase) _ trivial stable
    intro s (mmctype : String) _ _
    dsimp only
    split
    · exact stop_outline board name .notSdCard _ trivial
    · apply look_call board name _ _ (.rootDevice devbase) _ trivial stable
      intro s (root : Bool) _ _
      cases root with
      | true => exact stop_outline board name .rootDevice _ trivial
      | false => exact onward
  · exact onward

theorem type_read (device : String) (s : Media) (careful : CarefulMedia board name s (.blkid device))
    (wrong : parseBlkid (board.blkid device) "TYPE" = "" ∨ parseBlkid (board.blkid device) "TYPE" = "swap") :
    ¬ board.Mountable device := by
  intro mountable
  cases found : board.line device with
  | none =>
      apply mountable.1
      rw [Board.fstype, found]
      rfl
  | some line =>
      have shown := careful mountable line found
      have read : parseBlkid (board.blkid device) "TYPE" = String.ofList ((answered typeKey line.pairs).getD []) := by
        rw [Board.blkid, found]
        exact parse_blkid_answered typeKey line
      rw [read] at wrong
      apply shown
      rcases wrong with empty | swap
      · rw [String.ofList_inj.mp (empty.trans String.ofList_nil.symm)]
        exact .head _
      · rw [← swap, String.toList_ofList]
        exact .tail _ (.head _)

theorem identify_outline (job : Job) (rest : String × String → MediaScript Unit) (own : job.device = name)
    (told : job.id_fs_type ≠ "" → job.id_fs_type = board.fstype name)
    (onward : ∀ info : String × String, (info.1 = "swap" → ¬ board.Mountable name) →
      MediaOutline board name (MediaPost board name) (rest info) (IsAdding name true)) :
    MediaOutline board name (MediaPost board name) (identify job >>= rest) (IsAdding name true) := by
  rw [identify]
  split
  · next given => exact onward _ fun swap mountable => mountable.2 ((told given).symm.trans swap)
  · apply look_call board name _ _ (.blkid job.device) _ trivial (adding_stable name true)
    intro s (blkid : String) careful reply
    obtain rfl : blkid = board.blkid job.device := reply.1
    dsimp only
    rw [own] at careful ⊢
    split
    · next untyped => exact stop_outline board name .noFilesystem _ (type_read board name name s careful (.inl untyped))
    · exact onward _ fun swap => type_read board name name s careful (.inr swap)

theorem choose_label_outline (root devbase label : String) (rest : String → MediaScript Unit)
    (onward : ∀ chosen, MediaOutline board name (MediaPost board name) (rest chosen) (IsAdding name true)) :
    MediaOutline board name (MediaPost board name) (chooseLabel root devbase label >>= rest) (IsAdding name true) := by
  rw [chooseLabel]
  split
  · exact onward _
  · apply look_call board name _ _ (.inMounts _) _ trivial (adding_stable name true)
    exact fun _ _ _ _ => onward _

structure HasClaimed (path : String) (s : Media) : Prop where
  adding : s.adding name = true
  claimed : ∃ claim ∈ s.claims, claim.name = name ∧ claim.path = path

structure HasMounted (s : Media) : Prop where
  adding : s.adding name = true
  mounted : Mounted name s

theorem claimed_stable (path : String) : Stable Media.Sound (MediaRelied name) (HasClaimed name path) := by
  intro s t _ _ now relied
  obtain ⟨claim, inside, own, same⟩ := now.claimed
  exact ⟨relied.adding.trans now.adding, claim, relied.claims claim inside own, own, same⟩

theorem mounted_stable : Stable Media.Sound (MediaRelied name) (HasMounted name) := by
  intro s t _ _ now relied
  exact ⟨relied.adding.trans now.adding, relied.mounted now.mounted⟩

theorem hand_over_outline (job : Job) (path : String) :
    MediaOutline board name (MediaPost board name) (handOver job path) (HasMounted name) := by
  have units (items : List String) : MediaOutline board name (MediaPost board name)
      (forEach items fun unit => .call (.startUnit unit path) .done) (HasMounted name) := by
    induction items with
    | nil => exact ⟨⟨media_leaving board name _ _, fun s now _ => now.mounted⟩⟩
    | cons unit items ih =>
        apply look_call board name _ _ (.startUnit unit path) _ trivial (mounted_stable name)
        exact fun _ _ _ _ => ih
  rw [handOver]
  split
  · exact units _
  · apply look_call board name _ _ (.chown job.mount_user path) _ trivial (mounted_stable name)
    exact fun _ _ _ _ => units _

theorem mount_outline (job : Job) (path : String) (own : job.device = name) :
    MediaOutline board name (MediaPost board name)
      (.call (.mount job.device path) fun (mounted : Bool) =>
        if mounted then handOver job path else .call (.rmdir path) fun _ => .stop .mountFailed)
      (HasClaimed name path) := by
  constructor
  intro s (mounted : Bool) t sound now reply
  obtain ⟨claim, inside, named, rfl⟩ := now.claimed
  obtain ⟨rfl, rest, tree, outside, rfl⟩ := reply.2.1 claim.dir (sound.leads claim inside).place
  rw [own]
  refine ⟨mount_sound name rest s claim tree sound inside named outside, ?_, ?_⟩
  · intro other apart
    refine ⟨?_, rfl, ?_⟩
    · exact fun theirs there same => (claim_others name s.claims theirs).mpr ⟨there, same.symm ▸ apart⟩
    · intro mounted
      obtain ⟨entry, inside, device⟩ := mounted
      exact ⟨entry, .tail _ inside, device⟩
  · exact ⟨HasMounted name, ⟨now.adding, _, .head _, rfl⟩, mounted_stable name, (hand_over_outline board name job _).outlined⟩

theorem mount_at_outline (job : Job) (fstype path : String) (own : job.device = name)
    (swap : fstype = "swap" → ¬ board.Mountable name) :
    MediaOutline board name (MediaPost board name) (mountAt job fstype path) (IsAdding name true) := by
  constructor
  intro s answer t sound now reply
  obtain ⟨careful, reply⟩ := reply
  obtain rfl : t = _ := reply
  by_cases swapping : fstype = "swap"
  · refine ⟨?_, ?_, IsAdding name true, now, adding_stable name true, ?_⟩
    · simp only [if_pos swapping]
      exact ⟨sound.distinct, sound.free, fun claim inside => leads_grown claim s.tree path (sound.leads claim inside), sound.apart⟩
    · intro other _
      simp only [if_pos swapping]
      exact ⟨fun _ inside _ => inside, rfl, id⟩
    · rw [if_pos swapping]
      exact (stop_outline board name .swap _ (swap swapping)).outlined
  · obtain ⟨some, free⟩ := careful swapping
    obtain ⟨dir, made⟩ := Option.ne_none_iff_exists'.mp some
    obtain ⟨unused, alone⟩ := free dir made
    have known := claims_made name path (mkdirs s.tree path) s.claims dir made
    simp only [if_neg swapping]
    refine ⟨mkdir_sound name path s dir sound made unused alone, ?_, HasClaimed name path, ?_, claimed_stable name _, ?_⟩
    · intro other apart
      exact ⟨fun claim inside own => (known claim).mpr (.inr ⟨inside, own.symm ▸ apart⟩), rfl, id⟩
    · exact ⟨now, _, (known _).mpr (.inl rfl), rfl, rfl⟩
    · exact (mount_outline board name job path own).outlined

theorem do_mount_outline (root : String) (job : Job) (mount_point : List String) (own : job.device = name)
    (told : job.id_fs_type ≠ "" → job.id_fs_type = board.fstype name) :
    MediaOutline board name (MediaPost board name) (doMount root job mount_point) (IsAdding name true) := by
  rw [doMount]
  apply check_sd_card_outline
  split
  · exact stop_outline board name .alreadyMounted _ trivial
  · apply identify_outline board name job _ own told
    intro info swap
    apply choose_label_outline
    intro label
    exact mount_at_outline board name job info.1 _ own swap

end Adding

theorem for_each_only (allowed : MediaCmd → Prop) (items : List String) (body : String → MediaScript Unit)
    (only : ∀ item, Only allowed (body item)) : Only allowed (forEach items body) := by
  induction items with
  | nil => trivial
  | cons item items ih => exact only_bind allowed (body item) _ (only item) fun _ => ih

theorem clean_up_only (path : String) : Only Clears (cleanUp path) := by
  refine ⟨trivial, fun (present : Bool) => ?_⟩
  cases present with
  | true =>
      refine ⟨trivial, fun (empty : Bool) => ?_⟩
      cases empty with
      | true =>
          refine ⟨trivial, fun (used : Bool) => ?_⟩
          cases used with
          | true => trivial
          | false => exact ⟨trivial, fun _ => trivial⟩
      | false => trivial
  | false => trivial

theorem do_unmount_only (root : String) (mount_point : List String) : Only Clears (doUnmount root mount_point) := by
  refine ⟨trivial, fun paths => ?_⟩
  apply only_bind
  · apply for_each_only
    intro path
    rw [unmountOne]
    split
    · exact ⟨trivial, fun _ => trivial⟩
    · trivial
  · intro _
    exact ⟨trivial, fun children => for_each_only Clears children cleanUp clean_up_only⟩

theorem run_outline (name : String) (job : Job) (own : job.device = name)
    (told : job.id_fs_type ≠ "" → job.id_fs_type = board.fstype name) :
    MediaOutline board name (MediaPost board name) (usbMount board.mount_root job) (IsAdding name (job.action == .add)) := by
  apply look_call board name _ _ (.mountPointsOf job.device) _ trivial (adding_stable name _)
  intro _ (mount_point : List String) _ _
  cases job.action with
  | add => exact do_mount_outline board name board.mount_root job mount_point own told
  | remove =>
      apply clears_outline board name false _ _ (do_unmount_only board.mount_root mount_point)
      intro result
      refine ⟨media_leaving board name result _, ?_⟩
      intro s removing adding
      rw [removing] at adding
      cases adding

theorem media_enters (name : String) (program : MediaScript Unit) (s t : Media) (sound : s.Sound)
    (entered : (carefulMediaCrew board).enters name program s t) :
    t.Sound ∧ (∀ other, other ≠ name → MediaRelied other s t) ∧
      ReadyFor (carefulMediaCrew board) Media.Sound MediaRelied (MediaPost board) name program t := by
  obtain ⟨⟨job, own, told, rfl, rfl⟩, _⟩ := entered
  refine ⟨⟨sound.distinct, sound.free, sound.leads, sound.apart⟩, ?_, ?_⟩
  · exact fun other apart => ⟨fun _ inside _ => inside, Function.update_of_ne apart _ _, id⟩
  · exact ⟨IsAdding name (job.action == .add), Function.update_self name _ _, adding_stable name _,
      (run_outline board name job own told).outlined⟩

-- What the commands can answer: none of them hangs.
def mountAnswer (name device : String) (s : Media) : Option Dir → Bool × Media
  | some dir => (true, { s with mounts := ⟨device, dir, "vfat rw"⟩ :: s.mounts, claims := unclaimed name s.claims })
  | none => (false, s)

def umountAnswer (s : Media) : Option Dir → Bool × Media
  | some dir =>
      if ∃ entry ∈ s.mounts, entry.dir = dir then (true, { s with mounts := s.mounts.eraseP fun entry => entry.dir = dir })
      else (false, s)
  | none => (false, s)

def rmdirAnswer (s : Media) : Option Dir → Media
  | some dir =>
      if s.tree.node dir = .directory ∧ s.tree.Empty dir ∧ ∀ entry ∈ s.mounts, entry.dir ≠ dir then
        { s with tree := s.tree.set dir .absent }
      else s
  | none => s

def childrenOf (mount_root : String) (root : Dir) (tree : Tree) : List String :=
  let listed := (tree.listed.map Prod.fst).filter fun dir => dir ≠ [] ∧ dir.dropLast = root ∧ tree.node dir ≠ .absent
  ((listed.map fun dir => dir.getLastD "").dedup.filter fun child => '/' ∉ child.toList).map fun child => mount_root ++ "/" ++ child

def mediaHandler (root : Dir) (name : String) (s : Media) : (cmd : MediaCmd) → MediaAnswer cmd × Media
  | .mountPointsOf device => ((s.mounts.filter fun entry => entry.device = device).map Entry.text, s)
  | .mmctype devbase => (board.mmctype devbase, s)
  | .rootDevice devbase => (grepFixed ("/dev/" ++ devbase ++ "p") board.cmdline, s)
  | .blkid device => (board.blkid device, s)
  | .inMounts path => (s.mounts.any fun entry => grepFixed (" " ++ path ++ " ") entry.line, s)
  | .mkdir path fstype =>
      ((), { s with
        tree := (mkdirs s.tree path).tree
        claims := if fstype = "swap" then s.claims else claimed name path (mkdirs s.tree path) s.claims })
  | .mount device path => mountAnswer name device s (find s.tree path).place
  | .rmdir path => ((), rmdirAnswer s (entryOf s.tree path))
  | .chown _ _ => ((), s)
  | .startUnit _ _ => ((), s)
  | .words mount_point => (mount_point, s)
  | .umount path => umountAnswer s (find s.tree path).place
  | .children => (childrenOf board.mount_root root s.tree, s)
  | .isPresent path => ((find s.tree path).place.isSome, s)
  | .isEmpty path => ((find s.tree path).place.any fun dir => decide (s.tree.Empty dir), s)

theorem mount_answered (root : Dir) (name device path : String) (s : Media) :
    mediaReply board name s (.mount device path) (mediaHandler board root name s (.mount device path)).1
      (mediaHandler board root name s (.mount device path)).2 := by
  simp only [mediaReply, mediaHandler]
  constructor
  · intro dir reached
    rw [reached]
    exact ⟨rfl, "vfat rw", s.tree, fun _ _ => rfl, rfl⟩
  · intro lost
    rw [lost]
    exact ⟨rfl, rfl⟩

theorem umount_answered (root : Dir) (name path : String) (s : Media) :
    mediaReply board name s (.umount path) (mediaHandler board root name s (.umount path)).1
      (mediaHandler board root name s (.umount path)).2 := by
  simp only [mediaReply, mediaHandler]
  constructor
  · rintro dir ⟨reached, mounted⟩
    rw [reached, umountAnswer, if_pos mounted]
    exact ⟨rfl, fun _ => false, s.tree, fun _ _ => rfl, by simp, by simp⟩
  · intro none
    cases found : (find s.tree path).place with
    | none => exact ⟨rfl, rfl⟩
    | some dir =>
        rw [umountAnswer, if_neg fun mounted => none dir ⟨found, mounted⟩]
        exact ⟨rfl, rfl⟩

theorem rmdir_answered (root : Dir) (name path : String) (s : Media) :
    mediaReply board name s (.rmdir path) (mediaHandler board root name s (.rmdir path)).1
      (mediaHandler board root name s (.rmdir path)).2 := by
  simp only [mediaReply, mediaHandler]
  constructor
  · rintro dir ⟨names, there, empty, unused⟩
    rw [names, rmdirAnswer, if_pos ⟨there, empty, unused⟩]
  · intro none
    cases found : entryOf s.tree path with
    | none => rfl
    | some dir =>
        rw [rmdirAnswer, if_neg]
        exact fun goes => none dir ⟨found, goes.1, goes.2.1, goes.2.2⟩

theorem media_handler_obeys (root : Dir) (name : String) (s : Media) (cmd : MediaCmd) :
    mediaReply board name s cmd (mediaHandler board root name s cmd).1 (mediaHandler board root name s cmd).2 := by
  cases cmd with
  | mkdir path fstype => rfl
  | chown user path => rfl
  | startUnit unit path => rfl
  | mount device path => exact mount_answered board root name device path s
  | umount path => exact umount_answered board root name path s
  | rmdir path => exact rmdir_answered board root name path s
  | words mount_point => exact ⟨fun _ => rfl, rfl⟩
  | children =>
      refine ⟨fun path inside => ?_, rfl⟩
      obtain ⟨child, listed, rfl⟩ := List.mem_map.mp inside
      exact ⟨child, of_decide_eq_true (List.mem_filter.mp listed).2, rfl⟩
  | isPresent path => exact ⟨Option.isSome_iff_ne_none.mpr, rfl⟩
  | isEmpty path =>
      refine ⟨fun dir reached => ?_, rfl⟩
      simp only [mediaHandler, reached, Option.any_some, decide_eq_true_iff]
  | _ => exact ⟨rfl, rfl⟩

abbrev MediaPool := Pool String MediaCmd MediaAnswer Ending Media

-- No run has begun, and no devices share a mount point.
structure Media.Settled (s : Media) : Prop where
  unclaimed : s.claims = []
  distinct : ∀ entry ∈ s.mounts, ∀ other ∈ s.mounts, entry.device ≠ other.device → entry.dir ≠ other.dir

structure MediaKept (pool : MediaPool) : Prop where
  distinct : ∀ entry ∈ pool.state.mounts, ∀ other ∈ pool.state.mounts, entry.device ≠ other.device → entry.dir ≠ other.dir
  finished : ∀ name result, pool.threads name = some (outcome result) → pool.state.adding name = true →
    Finished board name pool.state result
  goesOn : ∀ name cmd rest, pool.threads name = some (.call cmd rest) →
    ∃ answer t, mediaReply board name pool.state cmd answer t

end Steps

def vfatLine (device : String) : Option BlkidLine :=
  if plain : '"' ∉ device.toList ∧ '\n' ∉ device.toList then
    let vfat : Quotable := ⟨"vfat", by unfold quoteless; decide, by decide⟩
    some ⟨⟨device, plain.1, plain.2⟩, [labelPair, ⟨typeKey, vfat⟩], by decide⟩
  else none

def cardBoard : Board := ⟨"/media", fun _ => "SD", "console=ttyS0 root=/dev/mmcblk0p2", vfatLine⟩

def idle : Media where
  mounts := [⟨"/dev/mmcblk0p2", [], "ext4 rw"⟩]
  tree := ⟨[([], .directory), (["media"], .directory)]⟩
  claims := []
  adding _ := false

theorem idle_settled : idle.Settled := ⟨rfl, by simp [idle]⟩

def vfatJob (device label : String) : Job := ⟨.add, device, "", [], "vfat", label⟩

def started (name : String) (adding : Bool) (s : Media) : Media := { s with adding := Function.update s.adding name adding }

def MediaPool.go (able : Media → MediaCmd → Bool) (pool : MediaPool) (name : String) (n : Nat) : MediaPool :=
  pool.turn (mediaHandler cardBoard ["media"] name) able name n

def MediaPool.enter (pool : MediaPool) (job : Job) : MediaPool :=
  pool.move job.device (some (usbMount "/media" job)) (started job.device (job.action == .add) pool.state)

def MediaPool.leave (pool : MediaPool) (name : String) : MediaPool :=
  pool.move name none { pool.state with claims := unclaimed name pool.state.claims }

-- The checks that make a step of the concrete runs a careful one.
def carefulAnswer (name : String) (s : Media) : MediaCmd → Bool
  | .blkid device => (cardBoard.line device).all fun line =>
      (answered typeKey line.pairs).getD [] ≠ [] && (answered typeKey line.pairs).getD [] ≠ "swap".toList
  | .mkdir path _ =>
      let made := mkdirs s.tree path
      made.place.isSome && made.place.all fun dir =>
        (s.mounts.all fun entry => entry.device = name || entry.dir ≠ dir) &&
          s.claims.all fun claim => claim.name = name || (claim.dir ≠ dir && made.looked.all (fun place => ¬ Below claim.dir place) &&
            claim.looked.all fun place => ¬ Below dir place)
  | .rmdir path => (entryOf s.tree path).all fun dir => s.claims.all fun claim => claim.looked.all fun place => dir ≠ place
  | .umount path => (find s.tree path).place.all fun dir =>
      (s.mounts.all fun entry => entry.device = name || ¬ dir <+: entry.dir) &&
        s.claims.all fun claim => claim.looked.all fun place => ¬ Below dir place
  | _ => true

theorem careful_answer (name : String) (s : Media) (cmd : MediaCmd) (able : carefulAnswer name s cmd = true) :
    CarefulMedia cardBoard name s cmd := by
  cases cmd with
  | blkid device =>
      intro _ line found
      have shown : (cardBoard.line device).all _ = true := able
      rw [found, Option.all_some, Bool.and_eq_true, decide_eq_true_iff, decide_eq_true_iff] at shown
      simpa using shown
  | mkdir path fstype =>
      intro _
      simp only [carefulAnswer, Bool.and_eq_true, Option.isSome_iff_ne_none, Option.all_eq_true, List.all_eq_true,
        Bool.or_eq_true, decide_eq_true_iff] at able
      refine ⟨able.1, fun dir made => ?_⟩
      obtain ⟨unused, alone⟩ := able.2 dir made
      refine ⟨fun entry inside other => (unused entry inside).resolve_left other, fun claim inside other => ?_⟩
      obtain ⟨⟨different, behind⟩, under⟩ := (alone claim inside).resolve_left other
      exact ⟨different, behind, under⟩
  | rmdir path =>
      simp only [carefulAnswer, Option.all_eq_true, List.all_eq_true, decide_eq_true_iff] at able
      exact fun dir removable claim inside looked => able dir removable.names claim inside dir looked rfl
  | umount path =>
      simp only [carefulAnswer, Option.all_eq_true, Bool.and_eq_true, List.all_eq_true, Bool.or_eq_true, decide_eq_true_iff] at able
      intro dir mounted
      obtain ⟨others, spared⟩ := able dir mounted.1
      exact ⟨fun entry inside other => (others entry inside).resolve_left other, spared⟩
  | _ => trivial

theorem go_careful (pool : MediaPool) (name : String) (n : Nat) (before : Interleaved (carefulMediaCrew cardBoard) idle pool) :
    Interleaved (carefulMediaCrew cardBoard) idle (pool.go (carefulAnswer name) name n) :=
  interleaved_turn _ _ pool _ _ name n before fun s cmd able =>
    ⟨careful_answer name s cmd able, media_handler_obeys cardBoard ["media"] name s cmd⟩

theorem enter_careful (pool : MediaPool) (job : Job) (before : Interleaved (carefulMediaCrew cardBoard) idle pool)
    (free : (pool.threads job.device).isNone = true) (told : job.id_fs_type ≠ "" → job.id_fs_type = cardBoard.fstype job.device) :
    Interleaved (carefulMediaCrew cardBoard) idle (pool.enter job) :=
  .enter pool job.device _ _ before (Option.isNone_iff_eq_none.mp free) ⟨⟨job, rfl, told, rfl, rfl⟩, trivial⟩

def hasEnded : Option (MediaScript Unit) → Bool
  | some (.done _) => true
  | _ => false

theorem has_ended (thread : Option (MediaScript Unit)) (ended : hasEnded thread = true) : thread = some (outcome (.ok ())) := by
  rcases thread with _ | _ | _ | _
  · cases ended
  · rfl
  · cases ended
  · cases ended

theorem leave_careful (pool : MediaPool) (name : String) (before : Interleaved (carefulMediaCrew cardBoard) idle pool)
    (ended : hasEnded (pool.threads name) = true) : Interleaved (carefulMediaCrew cardBoard) idle (pool.leave name) :=
  .leave pool name (.ok ()) _ before (has_ended _ ended) rfl

def firstChosen : MediaPool :=
  (MediaPool.enter ⟨idle, fun _ => none⟩ (vfatJob "/dev/sda1" "DISK")).go (carefulAnswer "/dev/sda1") "/dev/sda1" 2

-- A second disk has made its mount point when the first one is mounted.
def disksAdded : MediaPool :=
  ((firstChosen.enter ⟨.add, "/dev/sdb1", "", [], "", ""⟩).go (carefulAnswer "/dev/sdb1") "/dev/sdb1" 4).go
    (carefulAnswer "/dev/sda1") "/dev/sda1" 2

-- The first is taken away, and the second mounted before the clean-up.
def diskRemoved : MediaPool :=
  ((((disksAdded.leave "/dev/sda1").enter ⟨.remove, "/dev/sda1", "", [], "vfat", "DISK"⟩).go
    (carefulAnswer "/dev/sda1") "/dev/sda1" 3).go (carefulAnswer "/dev/sdb1") "/dev/sdb1" 1).go
    (carefulAnswer "/dev/sda1") "/dev/sda1" 20

-- The first comes back with the label of the second.
def diskBack : MediaPool :=
  ((diskRemoved.leave "/dev/sda1").enter (vfatJob "/dev/sda1" "DATA")).go (carefulAnswer "/dev/sda1") "/dev/sda1" 20

theorem disk_back_run : Interleaved (carefulMediaCrew cardBoard) idle diskBack := by
  have chosen : Interleaved (carefulMediaCrew cardBoard) idle firstChosen :=
    go_careful _ _ _ (enter_careful _ _ .start rfl fun _ => by decide +kernel)
  have added : Interleaved (carefulMediaCrew cardBoard) idle disksAdded :=
    go_careful _ _ _ (go_careful _ _ _ (enter_careful firstChosen _ chosen (by decide +kernel) fun given => absurd rfl given))
  have ended := leave_careful disksAdded "/dev/sda1" added (by decide +kernel)
  have removed : Interleaved (carefulMediaCrew cardBoard) idle diskRemoved :=
    go_careful _ _ _ (go_careful _ _ _ (go_careful _ _ _ (enter_careful _ _ ended (by decide +kernel) fun _ => by decide +kernel)))
  have cleaned := leave_careful diskRemoved "/dev/sda1" removed (by decide +kernel)
  exact go_careful _ _ _ (enter_careful _ _ cleaned (by decide +kernel) fun _ => by decide +kernel)

-- In every interleaving of such steps no mount point is shared, and every add
-- run for a device that can be mounted ends at a check or with the device mounted.
theorem careful_mounts_kept (board : Board) (origin : Media) (pool : MediaPool) (settled : origin.Settled)
    (run : Interleaved (carefulMediaCrew board) origin pool) : MediaKept board pool := by
  have begins : origin.Sound := by
    refine ⟨settled.distinct, ?_, ?_, ?_⟩
    · simp [settled.unclaimed]
    · simp [settled.unclaimed]
    · simp [settled.unclaimed]
  have kept := interleaved_kept_for (carefulMediaCrew board) Media.Sound MediaRelied (MediaPost board) origin begins
    (fun name result fact reached => reached.1) ?_ (media_enters board) pool run
  · refine ⟨kept.invariant.distinct, ?_, fun name cmd rest _ => ⟨_, _, media_handler_obeys board [] name pool.state cmd⟩⟩
    intro name result ended adding
    obtain ⟨fact, now, _, finished⟩ := ended_posted _ _ _ _ pool name result kept ended
    exact finished pool.state now adding
  · intro s t sound drifted
    obtain rfl : t = s := drifted
    exact ⟨sound, fun other => media_same other t⟩

theorem careful_mounts_kept_disk :
    (diskBack.state.mounts.map Entry.dir = [["media", "DATA-sda1"], ["media", "DATA"], []] ∧
      hasEnded (diskBack.threads "/dev/sda1") = true ∧ hasEnded (diskBack.threads "/dev/sdb1") = true) ∧
      MediaKept cardBoard diskBack :=
  ⟨by decide +kernel, careful_mounts_kept cardBoard idle diskBack idle_settled disk_back_run⟩

def cardMounted : MediaPool :=
  (MediaPool.enter ⟨idle, fun _ => none⟩ (vfatJob "/dev/mmcblk1p1" "")).go (fun _ _ => true) "/dev/mmcblk1p1" 20

def bothMounted : MediaPool := (cardMounted.enter (vfatJob "/dev/mmcblk1p2" "")).go (fun _ _ => true) "/dev/mmcblk1p2" 20

theorem partition_added (pool : MediaPool) (name : String) (before : Interleaved (mediaCrew cardBoard) idle pool)
    (free : (pool.threads name).isNone = true) (vfat : "vfat" = cardBoard.fstype name) :
    Interleaved (mediaCrew cardBoard) idle ((pool.enter (vfatJob name "")).go (fun _ _ => true) name 20) := by
  have entered := Interleaved.enter pool name _ _ before (Option.isNone_iff_eq_none.mp free)
    ⟨vfatJob name "", rfl, fun _ => vfat, rfl, rfl⟩
  exact interleaved_turn _ _ _ _ _ name 20 entered fun s cmd _ => media_handler_obeys cardBoard ["media"] name s cmd

-- Two partitions of one card without labels, one after the other.
theorem card_partitions_share :
    ¬ ∀ (board : Board) (origin : Media) (pool : MediaPool), origin.Settled →
      Interleaved (mediaCrew board) origin pool → MediaKept board pool := by
  intro kept
  have first : Interleaved (mediaCrew cardBoard) idle cardMounted :=
    partition_added _ "/dev/mmcblk1p1" .start rfl (by decide +kernel)
  have second : Interleaved (mediaCrew cardBoard) idle bothMounted :=
    partition_added cardMounted "/dev/mmcblk1p2" first (by decide +kernel) (by decide +kernel)
  have distinct := (kept cardBoard idle bothMounted idle_settled second).distinct
  have mounts : bothMounted.state.mounts = [⟨"/dev/mmcblk1p2", ["media", "mmcblk1"], "vfat rw"⟩,
      ⟨"/dev/mmcblk1p1", ["media", "mmcblk1"], "vfat rw"⟩, ⟨"/dev/mmcblk0p2", [], "ext4 rw"⟩] := by
    decide +kernel
  rw [mounts] at distinct
  exact distinct _ (.head _) _ (.tail _ (.head _)) (by decide) rfl

end SummitSom.Automount
