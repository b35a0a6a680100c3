import SummitSom.Data.FactoryReset

set_option autoImplicit false

namespace SummitSom.Data

open Interact

theorem making_kind (made kind : Kind) (region : Path → Prop) (s t : DataTree) (path : Path)
    (making : Making made region s t) (present : s.isKind kind path = true) : t.isKind kind path = true := by
  obtain ⟨found, there, same⟩ := (is_kind_iff s kind path).mp present
  cases making path with
  | inl kept => exact (is_kind_iff t kind path).mpr ⟨found, kept.trans there, same⟩
  | inr found =>
      obtain ⟨_, absent, _⟩ := found
      rw [there] at absent
      cases absent

theorem making_shaped (image : Image) (made : Kind) (region : Path → Prop) (s t : DataTree)
    (making : Making made region s t) (dirs : region miscTarget → made = .dir) (shaped : Shaped image s) :
    Shaped image t := by
  refine ⟨fun found present fresh => ?_, shaped.secret.imp_left (making_kind made .dir region s t _ making)⟩
  cases making miscTarget with
  | inl kept => exact shaped.misc found (kept.symm.trans present) fresh
  | inr found =>
      obtain ⟨inside, _, new⟩ := found
      obtain rfl := Option.some.inj (new.symm.trans present)
      exact dirs inside

theorem making_cleared (made : Kind) (region : Path → Prop) (s t : DataTree) (making : Making made region s t)
    (cleared : Cleared s) : Cleared t := by
  intro path found present old
  cases making path with
  | inl kept => exact cleared path found (kept.symm.trans present) old
  | inr found =>
      obtain ⟨_, _, new⟩ := found
      obtain rfl := Option.some.inj (new.symm.trans present)
      cases old

theorem replacing_cleared (region : Path → Prop) (s t : DataTree) (replacing : Replacing region s t)
    (cleared : Cleared s) : Cleared t := by
  intro path found present old
  cases replacing path with
  | inl kept => exact cleared path found (kept.symm.trans present) old
  | inr found =>
      obtain ⟨_, made, new, fresh⟩ := found
      obtain rfl := Option.some.inj (new.symm.trans present)
      exact absurd old fresh

theorem replacing_shaped (image : Image) (region : Path → Prop) (s t : DataTree) (replacing : Replacing region s t)
    (noMisc : ¬ region miscTarget) (noSecret : ¬ region secretTarget) (shaped : Shaped image s) : Shaped image t := by
  have misc : t.entry miscTarget = s.entry miscTarget := (replacing miscTarget).resolve_right fun made => noMisc made.1
  have secret : t.entry secretTarget = s.entry secretTarget :=
    (replacing secretTarget).resolve_right fun made => noSecret made.1
  refine ⟨fun found present => shaped.misc found (misc.symm.trans present), ?_⟩
  simpa only [DataTree.isKind, secret] using shaped.secret

theorem removing_shaped (image : Image) (path : Path) (s t : DataTree) (removing : Removing path s t)
    (noSecret : ¬ path <+: secretTarget) (shaped : Shaped image s) : Shaped image t := by
  have secret : t.entry secretTarget = s.entry secretTarget :=
    (removing secretTarget).resolve_right fun gone => noSecret gone.1
  refine ⟨fun found present fresh => ?_, by simpa only [DataTree.isKind, secret] using shaped.secret⟩
  cases removing miscTarget with
  | inl kept => exact shaped.misc found (kept.symm.trans present) fresh
  | inr found =>
      obtain ⟨_, gone⟩ := found
      rw [gone] at present
      cases present

theorem below_target_apart (source : Source) :
    ¬ Below source.target miscTarget ∧ ¬ Below source.target secretTarget := by
  constructor <;> (rintro ⟨rest, nonempty, same⟩; cases source <;> simp_all [Source.target, secretTarget, miscTarget])

theorem copying_shaped (image : Image) (source : Source) (s t : DataTree) (shaped : Shaped image s)
    (cleared : Cleared s) (copying : Copying image source s t) : Shaped image t ∧ Cleared t := by
  have unchanged (same : ∀ place, t.entry place = s.entry place) : Shaped image t ∧ Cleared t := by
    have replacing : Replacing (fun _ => False) s t := fun place => .inl (same place)
    exact ⟨replacing_shaped image _ s t replacing id id shaped, replacing_cleared _ s t replacing cleared⟩
  unfold Copying at copying
  split at copying
  · have apart := below_target_apart source
    exact ⟨replacing_shaped image _ s t copying apart.1 apart.2 shaped, replacing_cleared _ s t copying cleared⟩
  · next noDir =>
      split at copying
      · exact unchanged copying
      · next single =>
          cases source with
          | secret => exact absurd shaped.secret (by simp_all [Source.target, Image.defaults])
          | misc => exact absurd image.several single

theorem copied_holds (image : Image) (source : Source) (s t : DataTree) (shaped : Shaped image s)
    (copied : Copied image source s t) : Replacing (Below source.target) s t ∧
      ∀ item ∈ image.defaults source, t.Holds (source.target ++ item.path) item.kind := by
  unfold Copied at copied
  split at copied
  · refine ⟨copied.1, fun item member => copied.2 item member (image.named item ?_)⟩
    cases source with
    | secret => exact List.mem_append_left _ member
    | misc => exact List.mem_append_right _ member
  · next noDir =>
      cases source with
      | secret => exact absurd shaped.secret (by simp_all [Source.target, Image.defaults])
      | misc => exact absurd image.several (by simpa [Image.defaults] using copied.1)

section Checks

variable (image : Image)

structure Stage (P : DataTree → Prop) : Prop where
  shaped : ∀ s, P s → Shaped image s
  making : ∀ made region s t, Making made region s t → (region miscTarget → made = .dir) → P s → P t

def Fresh (s : DataTree) : Prop := Shaped image s ∧ Cleared s

def WithSecret (s : DataTree) : Prop := Fresh image s ∧ ∀ item ∈ image.secret, s.Holds (secretTarget ++ item.path) item.kind

def WithMisc (s : DataTree) : Prop := WithSecret image s ∧ ∀ item ∈ image.misc, s.Holds (miscTarget ++ item.path) item.kind

def Complete (s : DataTree) : Prop := Fresh image s ∧ Installed image s

theorem fresh_stage : Stage image (Fresh image) :=
  ⟨fun _ => And.left, fun made region s t making dirs fresh =>
    ⟨making_shaped image made region s t making dirs fresh.1, making_cleared made region s t making fresh.2⟩⟩

theorem secret_stage : Stage image (WithSecret image) :=
  ⟨fun _ filled => filled.1.1, fun made region s t making dirs filled =>
    ⟨(fresh_stage image).making made region s t making dirs filled.1,
      fun item member => making_holds _ made region s t _ making (filled.2 item member)⟩⟩

theorem misc_stage : Stage image (WithMisc image) :=
  ⟨fun _ filled => filled.1.1.1, fun made region s t making dirs filled =>
    ⟨(secret_stage image).making made region s t making dirs filled.1,
      fun item member => making_holds _ made region s t _ making (filled.2 item member)⟩⟩

theorem complete_stage : Stage image (Complete image) := by
  refine ⟨fun _ filled => filled.1.1, fun made region s t making dirs filled => ⟨?_, ?_⟩⟩
  · exact (fresh_stage image).making made region s t making dirs filled.1
  · refine ⟨fun item member => ?_, fun item member apart => ?_, ?_⟩
    · exact making_holds _ made region s t _ making (filled.2.secret item member)
    · exact making_holds _ made region s t _ making (filled.2.misc item member apart)
    · cases making localtime with
      | inl kept =>
          rw [kept]
          exact filled.2.localtime
      | inr found =>
          obtain ⟨_, absent, _⟩ := found
          exact absurd absent filled.2.localtime

abbrev Checked (post : Except Nat Unit → DataTree → Prop) (script : ResetScript) (s : DataTree) : Prop :=
  Safe (resetWorld image) (Shaped image) post script s

theorem quiet_checked (P : DataTree → Prop) (stage : Stage image P) (cmd : ResetCmd) (s : DataTree) (kept : P s)
    (quiet : ∀ t, (resetWorld image).midst s cmd t → t = s)
    (settle : ResetAnswer cmd → ResetScript)
    (onward : ∀ answer t, (resetWorld image).reply s cmd answer t → Checked image (fun _ => P) (settle answer) t) :
    Checked image (fun _ => P) (.call cmd settle) s :=
  ⟨stage.shaped s kept, fun t midst => quiet t midst ▸ stage.shaped s kept, onward⟩

theorem mkdirs_checked (P : DataTree → Prop) (stage : Stage image P) (path : Path) (s : DataTree) (kept : P s) :
    Checked image (fun _ => P) (run (.mkdirs path)) s := by
  have made (t : DataTree) (making : Making .dir (fun place => place <+: path) s t) : P t :=
    stage.making .dir _ s t making (fun _ => rfl) kept
  refine ⟨stage.shaped s kept, fun t midst => stage.shaped t (made t midst), fun status t reply => ?_⟩
  have after := made t reply.1
  exact ⟨stage.shaped t after, after⟩

theorem wanted_mkdirs_checked (P : DataTree → Prop) (stage : Stage image P) (executable : Bool) (path : Path) (s : DataTree)
    (kept : P s) : Checked image (fun _ => P) (if executable then run (.mkdirs path) else .done ()) s := by
  cases executable with
  | true => exact mkdirs_checked image P stage path s kept
  | false => exact ⟨stage.shaped s kept, kept⟩

theorem bluetooth_dir_checked (P : DataTree → Prop) (stage : Stage image P) (s : DataTree) (kept : P s) :
    Checked image (fun _ => P) bluetoothDir s := by
  apply quiet_checked image P stage .bluetoothd s kept (fun _ => id) _
  intro executable t given
  obtain ⟨_, rfl⟩ := given
  exact wanted_mkdirs_checked image P stage executable _ t kept

theorem dropbear_state_checked (P : DataTree → Prop) (stage : Stage image P) (s : DataTree) (kept : P s) :
    Checked image (fun _ => P) dropbearState s := by
  apply quiet_checked image P stage .dropbear s kept (fun _ => id) _
  intro executable t given
  obtain ⟨_, rfl⟩ := given
  exact wanted_mkdirs_checked image P stage executable _ t kept

theorem hooks_checked (P : DataTree → Prop) (stage : Stage image P) (pattern : String) (s : DataTree) (kept : P s) :
    Checked image (fun _ => P) (run (.hooks pattern)) s := by
  apply quiet_checked image P stage (.hooks pattern) s kept (fun _ => id) _
  intro _ t same
  subst same
  exact ⟨stage.shaped _ kept, kept⟩

theorem sync_checked (P : DataTree → Prop) (stage : Stage image P) (s : DataTree) (kept : P s) :
    Checked image (fun _ => P) syncLast s := by
  apply quiet_checked image P stage .sync s kept (fun _ => id) _
  intro status t same
  subst same
  by_cases succeeded : status = 0
  · simp only [if_pos succeeded]
    exact ⟨stage.shaped _ kept, kept⟩
  · simp only [if_neg succeeded]
    exact ⟨stage.shaped _ kept, kept⟩

theorem default_zone_checked (P : DataTree → Prop) (stage : Stage image P) (s : DataTree) (kept : P s) :
    Checked image (fun _ => P) defaultZone s := by
  apply quiet_checked image P stage (.testFile timezone) s kept (fun _ => id) _
  intro present t given
  obtain ⟨_, rfl⟩ := given
  cases present with
  | true => exact ⟨stage.shaped t kept, kept⟩
  | false =>
      have made (u : DataTree) (making : Making .file (fun place => place = timezone) t u) : P u :=
        stage.making .file _ t u making (by simp [miscTarget, timezone]) kept
      refine ⟨stage.shaped t kept, fun u midst => stage.shaped u (made u midst), fun _ u reply => ?_⟩
      exact ⟨stage.shaped u (made u reply), made u reply⟩

theorem copy_checked (source : Source) (Q : DataTree → Prop) (s : DataTree) (fresh : Fresh image s)
    (fills : ∀ t, Fresh image t → Replacing (Below source.target) s t →
      (∀ item ∈ image.defaults source, t.Holds (source.target ++ item.path) item.kind) → Q t) :
    Checked image (fun result t => result = .ok () → Q t) (.call (.copy source) orExit) s := by
  have shaped (t : DataTree) (copying : Copying image source s t) : Shaped image t :=
    (copying_shaped image source s t fresh.1 fresh.2 copying).1
  refine ⟨fresh.1, shaped, fun status t reply => ?_⟩
  by_cases succeeded : status = 0
  · simp only [resetWorld, if_pos succeeded] at reply
    simp only [orExit, if_pos succeeded]
    obtain ⟨replacing, holds⟩ := copied_holds image source s t fresh.1 reply
    have apart := below_target_apart source
    have after := replacing_shaped image _ s t replacing apart.1 apart.2 fresh.1
    exact ⟨after, fun _ => fills t ⟨after, replacing_cleared _ s t replacing fresh.2⟩ replacing holds⟩
  · simp only [resetWorld, if_neg succeeded] at reply
    simp only [orExit, if_neg succeeded]
    exact ⟨shaped t reply, by simp⟩

theorem copy_secret_checked (s : DataTree) (fresh : Fresh image s) :
    Checked image (fun result t => result = .ok () → WithSecret image t) (.call (.copy .secret) orExit) s :=
  copy_checked image .secret (WithSecret image) s fresh fun _ after _ holds => ⟨after, holds⟩

theorem copy_misc_checked (s : DataTree) (filled : WithSecret image s) :
    Checked image (fun result t => result = .ok () → WithMisc image t) (.call (.copy .misc) orExit) s := by
  refine copy_checked image .misc (WithMisc image) s filled.1 fun t after replacing holds => ⟨⟨after, ?_⟩, holds⟩
  intro item member
  refine replacing_holds _ s t _ _ replacing ?_ (filled.2 item member)
  intro given
  obtain ⟨rest, _, same⟩ := given
  simp [secretTarget, Source.target, miscTarget] at same

theorem link_localtime_checked (s : DataTree) (filled : WithMisc image s) :
    Checked image (fun result t => result = .ok () → Complete image t) (.call .linkLocaltime orExit) s := by
  have shaped (t : DataTree) (linking : Linking s t) : Shaped image t :=
    replacing_shaped image _ s t linking (by decide) (by decide) filled.1.1.1
  refine ⟨filled.1.1.1, shaped, fun status t reply => ?_⟩
  by_cases succeeded : status = 0
  · simp only [orExit, if_pos succeeded]
    refine ⟨shaped t reply.1, fun _ => ⟨⟨shaped t reply.1, replacing_cleared _ s t reply.1 filled.1.1.2⟩, ?_⟩⟩
    refine ⟨fun item member => ?_, fun item member apart => ?_, reply.2 succeeded⟩
    · refine replacing_holds _ s t _ _ reply.1 ?_ (filled.1.2 item member)
      intro given
      obtain ⟨rest, same⟩ := given
      simp [secretTarget, localtime] at same
    · exact replacing_holds _ s t _ _ reply.1 apart (filled.2 item member)
  · simp only [orExit, if_neg succeeded]
    exact ⟨shaped t reply.1, by simp⟩

theorem touch_adjtime_checked (P : DataTree → Prop) (stage : Stage image P) (s : DataTree) (kept : P s) :
    Checked image (fun _ => P) (.call (.touch adjtime) orExit) s := by
  have made (t : DataTree) (making : Making .file (fun place => place = adjtime) s t) : P t :=
    stage.making .file _ s t making (by simp [miscTarget, adjtime]) kept
  refine ⟨stage.shaped s kept, fun t midst => stage.shaped t (made t midst), fun status t reply => ?_⟩
  have after := made t reply.1
  unfold orExit
  split <;> exact ⟨stage.shaped t after, after⟩

theorem populate_checked (s : DataTree) (fresh : Fresh image s) :
    Checked image (fun result t => result = .ok () → Complete image t) populate s := by
  have failed {P : DataTree → Prop} (code : Nat) (t : DataTree) :
      P t → Except.error code = Except.ok () → Complete image t := by
    intro _ impossible
    cases impossible
  refine safe_then _ _ _ _ _ _ s (bluetooth_dir_checked image _ (fresh_stage image) s fresh) (fun _ s fresh => ?_) failed
  refine safe_then _ _ _ _ _ _ s (dropbear_state_checked image _ (fresh_stage image) s fresh) (fun _ s fresh => ?_) failed
  refine safe_then _ _ _ _ _ _ s (copy_secret_checked image s fresh) (fun _ s filled => ?_) (fun _ _ _ => by simp)
  have filled := filled rfl
  refine safe_then _ _ _ _ _ _ s (mkdirs_checked image _ (secret_stage image) _ s filled) (fun _ s filled => ?_) failed
  refine safe_then _ _ _ _ _ _ s (copy_misc_checked image s filled) (fun _ s filled => ?_) (fun _ _ _ => by simp)
  have filled := filled rfl
  refine safe_then _ _ _ _ _ _ s (default_zone_checked image _ (misc_stage image) s filled) (fun _ s filled => ?_) failed
  refine safe_then _ _ _ _ _ _ s (link_localtime_checked image s filled) (fun _ s complete => ?_) (fun _ _ _ => by simp)
  have complete := complete rfl
  refine safe_then _ _ _ _ _ _ s (touch_adjtime_checked image _ (complete_stage image) s complete)
    (fun _ s complete => ?_) failed
  exact safe_mono _ _ _ _ _ _ s (sync_checked image _ (complete_stage image) s complete) (fun _ => id) fun _ t _ done _ => done

theorem power_up_checked (s : DataTree) (complete : Complete image s) :
    Checked image (fun _ => Complete image) powerUp s := by
  have stage := complete_stage image
  refine safe_then _ _ _ _ _ _ s (bluetooth_dir_checked image _ stage s complete) (fun _ s complete => ?_) fun _ _ => id
  refine safe_then _ _ _ _ _ _ s (dropbear_state_checked image _ stage s complete) (fun _ s complete => ?_) fun _ _ => id
  refine safe_then _ _ _ _ _ _ s (hooks_checked image _ stage _ s complete) (fun _ s complete => ?_) fun _ _ => id
  exact sync_checked image _ stage s complete

def Swept (dir : Path) (names : List String) (tree : DataTree) : Prop :=
  ∀ name rest, name ∈ names → tree.entry (dir ++ name :: rest) = none

theorem removed_swept (dir : Path) (name : String) (done : List String) (s t : DataTree)
    (removed : Removed (dir ++ [name]) s t) (swept : Swept dir done s) : Swept dir (done ++ [name]) t := by
  intro other rest member
  cases List.mem_append.mp member with
  | inl before =>
      cases removed.1 (dir ++ other :: rest) with
      | inl kept =>
          rw [kept, swept other rest before]
      | inr gone => exact gone.2
  | inr last =>
      obtain rfl := List.mem_singleton.mp last
      exact removed.2 _ ⟨rest, by simp⟩

theorem remove_all_checked (dir : Path) (P : DataTree → Prop) (names done : List String) (s : DataTree)
    (apart : ∀ name ∈ names, ¬ dir ++ [name] <+: secretTarget)
    (removes : ∀ path s t, Removing path s t → P s → P t)
    (shaped : Shaped image s) (kept : P s) (swept : Swept dir done s) :
    Checked image (fun result t => result = .ok () ∧ Shaped image t ∧ P t ∧ Swept dir (done ++ names) t)
      (removeAll dir names) s := by
  induction names generalizing done s with
  | nil => exact ⟨shaped, rfl, shaped, kept, by simpa using swept⟩
  | cons name rest ih =>
      have still (t : DataTree) (removing : Removing (dir ++ [name]) s t) : Shaped image t :=
        removing_shaped image _ s t removing (apart name (by simp)) shaped
      refine ⟨shaped, still, fun _ t removed => ?_⟩
      have next := ih (done ++ [name]) t (fun other member => apart other (by simp [member])) (still t removed.1)
        (removes _ s t removed.1 kept) (removed_swept dir name done s t removed swept)
      rw [List.append_assoc] at next
      exact next

theorem find_remove_checked (dir : Path) (keep : String) (P : DataTree → Prop) (s : DataTree)
    (apart : ∀ name, name ≠ keep → ¬ dir ++ [name] <+: secretTarget)
    (removes : ∀ path s t, Removing path s t → P s → P t) (shaped : Shaped image s) (kept : P s) :
    Checked image (fun result t => result = .ok () ∧ Shaped image t ∧ P t ∧
      ∀ name rest found, t.entry (dir ++ name :: rest) = some found → name = keep) (findRemove dir keep) s := by
  refine ⟨shaped, ?_, ?_⟩
  · intro t midst
    obtain rfl : t = s := midst
    exact shaped
  intro names t given
  obtain ⟨listed, rfl⟩ := given
  have unlisted (name : String) (rest : Path) (missing : name ∉ names) (other : name ≠ keep) :
      t.entry (dir ++ name :: rest) = none := by
    by_contra there
    obtain ⟨found, present⟩ := Option.ne_none_iff_exists'.mp there
    have path : dir ++ name :: rest = (dir ++ [name]) ++ rest := by simp
    rw [path] at present
    obtain ⟨ancestor, above⟩ := ancestor_present t (dir ++ [name]) rest found (by simp) present
    exact missing ((listed name).mpr ⟨other, by simp [above]⟩)
  have swept := remove_all_checked image dir
    (fun u => P u ∧ ∀ name rest, name ∉ names → name ≠ keep → u.entry (dir ++ name :: rest) = none) names [] t
    (fun name member => apart name ((listed name).mp member).1) ?_ shaped ⟨kept, unlisted⟩ (by simp [Swept])
  · refine safe_mono _ _ _ _ _ _ t swept (fun _ => id) fun _ u _ after => ⟨after.1, after.2.1, after.2.2.1.1, ?_⟩
    intro name rest found present
    by_contra other
    by_cases member : name ∈ names
    · rw [after.2.2.2 name rest (by simpa using member)] at present
      cases present
    · rw [after.2.2.1.2 name rest member other] at present
      cases present
  · intro path u v removing given
    obtain ⟨before, absent⟩ := given
    refine ⟨removes path u v removing before, fun name rest missing other => ?_⟩
    cases removing (dir ++ name :: rest) with
    | inl same =>
        rw [same, absent name rest missing other]
    | inr gone => exact gone.2

theorem clean_up_checked (s : DataTree) (shaped : Shaped image s) :
    Checked image (fun result t => result = .ok () ∧ Fresh image t) cleanUp s := by
  have first := find_remove_checked image [] "secret" (fun _ => True) s
    (fun name other => by simpa [secretTarget] using other) (fun _ _ _ _ => id) shaped trivial
  refine safe_then _ _ _ _ _ _ s first (fun _ t swept => ?_) fun code t failed => by cases failed.1
  have second := find_remove_checked image secretTarget "permanent"
    (fun u => ∀ name rest found, u.entry (name :: rest) = some found → name = "secret") t
    (fun name _ => by simp [secretTarget]) ?_ swept.2.1 swept.2.2.2
  · refine safe_then _ _ _ _ _ _ t second (fun _ u swept => ?_) fun code t failed => by cases failed.1
    have cleared : Cleared u := by
      intro path found present _
      cases path with
      | nil => exact .inl (by simp)
      | cons name rest =>
          obtain rfl := swept.2.2.1 name rest found present
          cases rest with
          | nil => exact .inl (by simp [permanent])
          | cons inner deeper =>
              obtain rfl := swept.2.2.2 inner deeper found present
              exact .inr ⟨deeper, rfl⟩
    have hooks := hooks_checked image (Fresh image) (fresh_stage image) "/usr/sbin/factory_reset_*.sh" u ⟨swept.2.1, cleared⟩
    refine ⟨hooks.1, hooks.2.1, fun answer v reply => ?_⟩
    have after := hooks.2.2 answer v reply
    exact ⟨after.1, rfl, after.2⟩
  · intro path u v removing only name rest found present
    cases removing (name :: rest) with
    | inl same => exact only name rest found (same.symm.trans present)
    | inr gone =>
        rw [gone.2] at present
        cases present

theorem check_completes (s : DataTree) (shaped : Shaped image s) (safe : SafeToCut image s) :
    Checked image (fun result t => result = .ok () → Complete image t) doCheckAndReset s := by
  refine ⟨shaped, ?_, ?_⟩
  · intro t midst
    obtain rfl : t = s := midst
    exact shaped
  intro requested t given
  obtain ⟨tested, rfl⟩ := given
  cases requested with
  | true =>
      refine safe_then _ _ _ _ _ _ t (clean_up_checked image t shaped) (fun _ u fresh => ?_) fun code u failed => by
        cases failed.1
      exact populate_checked image u fresh.2
  | false =>
      obtain ⟨cleared, rest⟩ := safe.resolve_left (by simp [← tested])
      refine ⟨shaped, ?_, ?_⟩
      · intro u midst
        obtain rfl : u = t := midst
        exact shaped
      intro populated u given
      obtain ⟨seen, rfl⟩ := given
      cases populated with
      | false => exact populate_checked image u ⟨shaped, cleared⟩
      | true =>
          have installed := rest.resolve_left (by simp [← seen])
          exact safe_mono _ _ _ _ _ _ u (power_up_checked image u ⟨⟨shaped, cleared⟩, installed⟩) (fun _ => id)
            fun _ v _ complete _ => complete

-- Every step of a check, wherever it starts, keeps the shape that the check
-- relies on, so that a power cut anywhere does.
theorem check_shaped (s : DataTree) (shaped : Shaped image s) (safe : SafeToCut image s) (t : DataTree)
    (seen : Seen (resetWorld image) doCheckAndReset s t) : Shaped image t :=
  safe_seen _ _ _ _ s t (check_completes image s shaped safe) seen

end Checks

end SummitSom.Data
