import SummitSom.Data.ResetSteps

set_option autoImplicit false

namespace SummitSom.Data

open Interact

inductive Interrupted (image : Image) (admits : DataTree → Prop) (origin : DataTree) : DataTree → Prop where
  | requested (s : DataTree) (ended : Ends (resetWorld image) (doFactoryReset "reset") origin (.ok ()) s)
      (admitted : admits s) : Interrupted image admits origin s
  | cut (s t : DataTree) (before : Interrupted image admits origin s)
      (seen : Seen (resetWorld image) (doFactoryReset "check") s t) (admitted : admits t) :
      Interrupted image admits origin t

-- Before a request everything is old, and the secret directory is there unless
-- a missing one makes the copy fail.
structure Before (image : Image) (tree : DataTree) : Prop where
  old : ∀ path found, tree.entry path = some found → found.origin = .old
  target : tree.isKind .dir secretTarget = true ∨ 2 ≤ (sources image.secret).length

theorem before_shaped (image : Image) (s t : DataTree) (before : Before image s)
    (ended : Ends (resetWorld image) (doFactoryReset "reset") s (.ok ()) t) : Shaped image t := by
  have shaped : Shaped image s := ⟨fun found present fresh => absurd (before.old _ found present) fresh, before.target⟩
  have touched (u : DataTree) (making : Making .file (fun place => place = marker) s u) : Shaped image u :=
    making_shaped image .file _ s u making (by simp [miscTarget, marker]) shaped
  have safe : Safe (resetWorld image) (Shaped image) (fun _ => Shaped image) (doFactoryReset "reset") s :=
    ⟨shaped, touched, fun _ u reply => ⟨touched u reply.1, touched u reply.1⟩⟩
  exact safe_ends _ _ _ _ s t _ safe ended

theorem interrupted_shaped (image : Image) (origin s : DataTree) (before : Before image origin)
    (interrupted : Interrupted image (SafeToCut image) origin s) : Shaped image s ∧ SafeToCut image s := by
  induction interrupted with
  | requested s ended admitted => exact ⟨before_shaped image origin s before ended, admitted⟩
  | cut s t _ seen admitted ih => exact ⟨check_shaped image s ih.1 ih.2 t seen, admitted⟩

def treeOf (items : List (Path × Entry))
    (rooted : ∀ item ∈ items, item.1.dropLast = [] ∨ (items.lookup item.1.dropLast).map Entry.kind = some .dir) :
    DataTree where
  entry path := items.lookup path
  rooted := by
    intro path name found nonempty present
    obtain ⟨before, after, rfl, _⟩ := List.lookup_eq_some_iff.mp present
    have parent := rooted (path ++ [name], found) (by simp)
    rw [List.dropLast_concat] at parent
    simpa [Option.map_eq_some_iff] using parent.resolve_left nonempty

def settings : List (Path × Entry) :=
  [(networkManager ++ ["wifi"], ⟨.file, .old⟩), (networkManager, ⟨.dir, .old⟩), (secretTarget, ⟨.dir, .old⟩)]

def userData : DataTree := treeOf settings (by decide)

def requested : DataTree := treeOf ((marker, ⟨.file, .script⟩) :: settings) (by decide)

def smallImage : Image where
  bluetoothd := false
  dropbear := false
  secret := [⟨["NetworkManager"], .dir⟩]
  misc := [⟨["timezone"], .file⟩, ⟨["localtime"], .file⟩, ⟨["adjtime"], .file⟩]
  several := by decide
  named := by
    intro item member
    simp only [List.cons_append, List.nil_append, List.mem_cons, List.not_mem_nil, or_false] at member
    rcases member with rfl | rfl | rfl | rfl <;> exact ⟨_, _, rfl, by decide⟩

theorem lookup_other (item : Path × Entry) (items : List (Path × Entry)) (place : Path) (other : place ≠ item.1) :
    (item :: items).lookup place = items.lookup place := by
  rw [List.lookup_cons, beq_eq_false_iff_ne.mpr other]

theorem lookup_missing (items : List (Path × Entry)) (place : Path) (missing : ∀ item ∈ items, place ≠ item.1) :
    items.lookup place = none :=
  List.lookup_eq_none_iff.mpr fun item member => by simpa using missing item member

theorem user_data_before : Before smallImage userData := by
  refine ⟨fun path found present => ?_, .inl (by decide)⟩
  obtain ⟨before, after, parts, _⟩ := List.lookup_eq_some_iff.mp present
  have member : (path, found) ∈ settings := by simp [parts]
  revert member
  simp only [settings, List.mem_cons, List.not_mem_nil, or_false, Prod.mk.injEq]
  rintro (⟨_, rfl⟩ | ⟨_, rfl⟩ | ⟨_, rfl⟩) <;> rfl

def Extends (item : Path × Entry) (s t : DataTree) : Prop :=
  s.entry item.1 = none ∧ t.entry item.1 = some item.2 ∧ ∀ place, place ≠ item.1 → t.entry place = s.entry place

theorem extends_making (path : Path) (kind : Kind) (region : Path → Prop) (s t : DataTree)
    (extends_ : Extends (path, ⟨kind, .script⟩) s t) (inside : region path) : Making kind region s t := by
  intro place
  by_cases same : place = path
  · subst same
    exact .inr ⟨inside, extends_.1, extends_.2.1⟩
  · exact .inl (extends_.2.2 place same)

theorem marker_made (s t : DataTree) (extends_ : Extends (marker, ⟨.file, .script⟩) s t) :
    Ends (resetWorld smallImage) (doFactoryReset "reset") s (.ok ()) t := by
  have touched : Making .file (fun place => place = marker) s t := extends_making marker .file _ s t extends_ rfl
  refine ends_call (resetWorld smallImage) (.touch marker) _ (0 : Nat) s t _ _ ⟨touched, fun _ => ?_⟩ (.here _ _)
  simp [extends_.2.1]

theorem marker_gone (s t : DataTree) (extends_ : Extends (marker, ⟨.file, .script⟩) s t)
    (missing : ∀ place, marker <+: place → s.entry place = none) : Removed ([] ++ [".factory_reset"]) t s := by
  refine ⟨fun place => ?_, missing⟩
  by_cases same : place = marker
  · subst same
    exact .inr ⟨List.prefix_rfl, extends_.1⟩
  · exact .inl (extends_.2.2 place same).symm

theorem user_data_extends : Extends (marker, ⟨.file, .script⟩) userData requested :=
  ⟨by decide, by decide, lookup_other (marker, ⟨.file, .script⟩) settings⟩

theorem requested_names (name : String) :
    name ∈ [".factory_reset"] ↔ name ≠ "secret" ∧ requested.entry ([] ++ [name]) ≠ none := by
  by_cases same : name = ".factory_reset"
  · subst same
    decide
  · by_cases secret : name = "secret"
    · simp [secret]
    · have missing : requested.entry [name] = none := by
        apply lookup_missing _ [name]
        simp [settings, marker, secretTarget, networkManager, same, secret]
      simp [same, missing]

-- The request is the first thing that find removes. After a power cut the
-- NetworkManager directory makes the next check take the old data for settings.
theorem marker_removed : Seen (resetWorld smallImage) (doFactoryReset "check") requested userData := by
  apply seen_call (resetWorld smallImage) (.testFile marker) _ true requested requested _ ⟨by decide, rfl⟩
  refine seen_call (resetWorld smallImage) (.find [] "secret") _ [".factory_reset"] requested requested _
    ⟨requested_names, rfl⟩ ?_
  refine seen_call (resetWorld smallImage) (.rm marker) _ (0 : Nat) requested userData _
    (marker_gone userData requested user_data_extends ?_) (seen_start _ _ _)
  intro _ given
  obtain ⟨rest, rfl⟩ := given
  apply lookup_missing settings (marker ++ rest)
  simp [settings, marker, secretTarget, networkManager]

theorem old_data_accepted : Ends (resetWorld smallImage) (doFactoryReset "check") userData (.ok ()) userData := by
  apply ends_call (resetWorld smallImage) (.testFile marker) _ false userData userData _ _ ⟨by decide, rfl⟩
  apply ends_call (resetWorld smallImage) (.testDir networkManager) _ true userData userData _ _ ⟨by decide, rfl⟩
  apply ends_call (resetWorld smallImage) .bluetoothd _ false userData userData _ _ ⟨rfl, rfl⟩
  apply ends_call (resetWorld smallImage) .dropbear _ false userData userData _ _ ⟨rfl, rfl⟩
  apply ends_call (resetWorld smallImage) (.hooks _) _ (0 : Nat) userData userData _ _ rfl
  exact ends_call (resetWorld smallImage) .sync _ (0 : Nat) userData userData _ _ rfl (.here _ _)

def bare : List (Path × Entry) := [(secretTarget, ⟨.dir, .old⟩)]

def bareData : DataTree := treeOf bare (by decide)

def bareRequested : DataTree := treeOf ((marker, ⟨.file, .script⟩) :: bare) (by decide)

def withSecret : List (Path × Entry) := (networkManager, ⟨.dir, .factory⟩) :: bare

def secretData : DataTree := treeOf withSecret (by decide)

def withMiscDir : List (Path × Entry) := (miscTarget, ⟨.dir, .script⟩) :: withSecret

def miscDirData : DataTree := treeOf withMiscDir (by decide)

def allDefaults : List (Path × Entry) :=
  (timezone, ⟨.file, .factory⟩) :: (localtime, ⟨.file, .factory⟩) :: (adjtime, ⟨.file, .factory⟩) :: withMiscDir

def allData : DataTree := treeOf allDefaults (by decide)

theorem bare_extends : Extends (marker, ⟨.file, .script⟩) bareData bareRequested :=
  ⟨by decide, by decide, lookup_other (marker, ⟨.file, .script⟩) bare⟩

def notes : Path := ["notes"]

def noted : List (Path × Entry) := (notes, ⟨.file, .old⟩) :: bare

def notedData : DataTree := treeOf noted (by decide)

def notedRequested : DataTree := treeOf ((marker, ⟨.file, .script⟩) :: noted) (by decide)

theorem noted_before : Before smallImage notedData := by
  refine ⟨fun path found present => ?_, .inl (by decide)⟩
  obtain ⟨before, after, parts, _⟩ := List.lookup_eq_some_iff.mp present
  have member : (path, found) ∈ noted := by simp [parts]
  revert member
  simp only [noted, bare, List.mem_cons, List.not_mem_nil, or_false, Prod.mk.injEq]
  rintro (⟨_, rfl⟩ | ⟨_, rfl⟩) <;> rfl

theorem noted_extends : Extends (marker, ⟨.file, .script⟩) notedData notedRequested :=
  ⟨by decide, by decide, lookup_other (marker, ⟨.file, .script⟩) noted⟩

theorem noted_names (name : String) :
    name ∈ ["notes", ".factory_reset"] ↔ name ≠ "secret" ∧ notedRequested.entry ([] ++ [name]) ≠ none := by
  by_cases same : name = "notes" ∨ name = ".factory_reset"
  · rcases same with rfl | rfl <;> decide
  · obtain ⟨other, apart⟩ := not_or.mp same
    by_cases secret : name = "secret"
    · simp [secret]
    · have missing : notedRequested.entry [name] = none := by
        apply lookup_missing _ [name]
        simp [noted, bare, marker, notes, secretTarget, other, apart, secret]
      simp [other, apart, missing]

-- Power is lost when find has removed the notes and not yet the request.
theorem notes_removed : Seen (resetWorld smallImage) (doFactoryReset "check") notedRequested bareRequested := by
  have gone : Removed ([] ++ ["notes"]) notedRequested bareRequested := by
    refine ⟨fun place => ?_, ?_⟩
    · by_cases same : place = notes
      · subst same
        exact .inr ⟨List.prefix_rfl, by decide⟩
      · by_cases request : place = marker
        · subst request
          exact .inl (by decide)
        · have first := lookup_other (marker, ⟨.file, .script⟩) bare place request
          have second := lookup_other (marker, ⟨.file, .script⟩) noted place request
          exact .inl (first.trans ((lookup_other (notes, ⟨.file, .old⟩) bare place same).symm.trans second.symm))
    · intro _ given
      obtain ⟨rest, rfl⟩ := given
      apply lookup_missing _ (["notes"] ++ rest)
      simp [bare, marker, secretTarget]
  apply seen_call (resetWorld smallImage) (.testFile marker) _ true notedRequested notedRequested _ ⟨by decide, rfl⟩
  refine seen_call (resetWorld smallImage) (.find [] "secret") _ ["notes", ".factory_reset"] notedRequested
    notedRequested _ ⟨noted_names, rfl⟩ ?_
  exact seen_call (resetWorld smallImage) (.rm notes) _ (0 : Nat) notedRequested bareRequested _ gone (seen_start _ _ _)

theorem bare_names (name : String) :
    name ∈ [".factory_reset"] ↔ name ≠ "secret" ∧ bareRequested.entry ([] ++ [name]) ≠ none := by
  by_cases same : name = ".factory_reset"
  · subst same
    decide
  · by_cases secret : name = "secret"
    · simp [secret]
    · have missing : bareRequested.entry [name] = none := by
        apply lookup_missing _ [name]
        simp [bare, marker, secretTarget, same, secret]
      simp [same, missing]

theorem bare_secret_names (name : String) :
    name ∈ ([] : List String) ↔ name ≠ "permanent" ∧ bareData.entry (secretTarget ++ [name]) ≠ none := by
  have missing : bareData.entry (secretTarget ++ [name]) = none := by
    apply lookup_missing _ _
    simp [bare, secretTarget]
  simp [missing]

theorem secret_copied : (resetWorld smallImage).reply bareData (.copy .secret) (0 : Nat) secretData := by
  have replaced : Replacing (Below secretTarget) bareData secretData := by
    intro place
    by_cases same : place = networkManager
    · subst same
      exact .inr ⟨⟨["NetworkManager"], by simp, rfl⟩, _, rfl, by simp⟩
    · exact .inl (lookup_other (networkManager, ⟨.dir, .factory⟩) bare place same)
  show Copied smallImage .secret bareData secretData
  unfold Copied
  rw [if_pos (by decide)]
  refine ⟨replaced, fun item member _ => ?_⟩
  obtain rfl := List.mem_singleton.mp member
  exact ⟨⟨.dir, .factory⟩, by decide, rfl, by simp⟩

theorem misc_copied : (resetWorld smallImage).reply miscDirData (.copy .misc) (0 : Nat) allData := by
  have replaced : Replacing (Below miscTarget) miscDirData allData := by
    intro place
    by_cases zone : place = timezone
    · subst zone
      exact .inr ⟨⟨["timezone"], by simp, rfl⟩, _, rfl, by simp⟩
    · by_cases here : place = localtime
      · subst here
        exact .inr ⟨⟨["localtime"], by simp, rfl⟩, _, rfl, by simp⟩
      · by_cases adjusted : place = adjtime
        · subst adjusted
          exact .inr ⟨⟨["adjtime"], by simp, rfl⟩, _, rfl, by simp⟩
        · have first := lookup_other (timezone, ⟨.file, .factory⟩)
            ((localtime, ⟨.file, .factory⟩) :: (adjtime, ⟨.file, .factory⟩) :: withMiscDir) place zone
          have second := lookup_other (localtime, ⟨.file, .factory⟩) ((adjtime, ⟨.file, .factory⟩) :: withMiscDir) place here
          have third := lookup_other (adjtime, ⟨.file, .factory⟩) withMiscDir place adjusted
          exact .inl (first.trans (second.trans third))
  show Copied smallImage .misc miscDirData allData
  unfold Copied
  rw [if_pos (by decide)]
  refine ⟨replaced, fun item member _ => ?_⟩
  simp only [Image.defaults, smallImage, List.mem_cons, List.not_mem_nil, or_false] at member
  rcases member with rfl | rfl | rfl <;> exact ⟨⟨.file, .factory⟩, by decide, rfl, fun _ => rfl⟩

theorem bare_check : Ends (resetWorld smallImage) (doFactoryReset "check") bareRequested (.ok ()) allData := by
  have gone : Removed ([] ++ [".factory_reset"]) bareRequested bareData := by
    apply marker_gone bareData bareRequested bare_extends
    intro _ given
    obtain ⟨rest, rfl⟩ := given
    apply lookup_missing bare (marker ++ rest)
    simp [bare, marker, secretTarget]
  have dirMade : Making .dir (fun place => place <+: miscTarget) secretData miscDirData :=
    extends_making miscTarget .dir _ _ _ ⟨by decide, by decide, lookup_other (miscTarget, ⟨.dir, .script⟩) withSecret⟩
      List.prefix_rfl
  apply ends_call (resetWorld smallImage) (.testFile marker) _ true bareRequested bareRequested _ _ ⟨by decide, rfl⟩
  refine ends_call (resetWorld smallImage) (.find [] "secret") _ [".factory_reset"] bareRequested bareRequested _ _
    ⟨bare_names, rfl⟩ ?_
  apply ends_call (resetWorld smallImage) (.rm marker) _ (0 : Nat) bareRequested bareData _ _ gone
  refine ends_call (resetWorld smallImage) (.find secretTarget "permanent") _ [] bareData bareData _ _
    ⟨bare_secret_names, rfl⟩ ?_
  apply ends_call (resetWorld smallImage) (.hooks _) _ (0 : Nat) bareData bareData _ _ rfl
  apply ends_call (resetWorld smallImage) .bluetoothd _ false bareData bareData _ _ ⟨rfl, rfl⟩
  apply ends_call (resetWorld smallImage) .dropbear _ false bareData bareData _ _ ⟨rfl, rfl⟩
  apply ends_call (resetWorld smallImage) (.copy .secret) _ (0 : Nat) bareData secretData _ _ secret_copied
  refine ends_call (resetWorld smallImage) (.mkdirs miscTarget) _ (0 : Nat) secretData miscDirData _ _
    ⟨dirMade, fun _ => by decide⟩ ?_
  apply ends_call (resetWorld smallImage) (.copy .misc) _ (0 : Nat) miscDirData allData _ _ misc_copied
  apply ends_call (resetWorld smallImage) (.testFile timezone) _ true allData allData _ _ ⟨by decide, rfl⟩
  refine ends_call (resetWorld smallImage) .linkLocaltime _ (0 : Nat) allData allData _ _
    ⟨fun _ => .inl rfl, fun _ => by decide⟩ ?_
  refine ends_call (resetWorld smallImage) (.touch adjtime) _ (0 : Nat) allData allData _ _
    ⟨fun _ => .inl rfl, fun _ => by decide⟩ ?_
  exact ends_call (resetWorld smallImage) .sync _ (0 : Nat) allData allData _ _ rfl (.here _ _)

-- However often a reset is interrupted at moments where that is safe, the first
-- check that succeeds has finished it.
theorem reset_completes (image : Image) (origin s t : DataTree) (before : Before image origin)
    (interrupted : Interrupted image (SafeToCut image) origin s)
    (ended : Ends (resetWorld image) (doFactoryReset "check") s (.ok ()) t) : Cleared t ∧ Installed image t := by
  obtain ⟨shaped, safe⟩ := interrupted_shaped image origin s before interrupted
  have complete := safe_ends _ _ _ _ s t _ (check_completes image s shaped safe) ended rfl
  exact ⟨complete.1.2, complete.2⟩

theorem reset_completes_bare : Cleared allData ∧ Installed smallImage allData := by
  have asked : Interrupted smallImage (SafeToCut smallImage) notedData notedRequested :=
    .requested notedRequested (marker_made notedData notedRequested noted_extends) (.inl (by decide))
  have resumed := Interrupted.cut notedRequested bareRequested asked notes_removed (.inl (by decide))
  exact reset_completes smallImage notedData bareRequested allData noted_before resumed bare_check

theorem cut_reset_keeps_old_data :
    ¬ ∀ (image : Image) (origin s t : DataTree), (∀ path found, origin.entry path = some found → found.origin = .old) →
      Interrupted image (fun _ => True) origin s →
      Ends (resetWorld image) (doFactoryReset "check") s (.ok ()) t → Cleared t ∧ Installed image t := by
  intro completes
  have resumed : Interrupted smallImage (fun _ => True) userData userData :=
    .cut requested userData (.requested requested (marker_made userData requested user_data_extends) trivial) marker_removed trivial
  have cleared := (completes smallImage userData userData userData user_data_before.old resumed old_data_accepted).1
  exact absurd (cleared (networkManager ++ ["wifi"]) ⟨.file, .old⟩ (by decide) rfl) (by simp [Exempt, permanent, networkManager])

end SummitSom.Data
