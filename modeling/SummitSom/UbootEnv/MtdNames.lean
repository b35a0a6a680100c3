import SummitSom.Chase.Walk
import SummitSom.Cstr.Scan
import SummitSom.Print.Page
import Mathlib.Order.Nat

set_option autoImplicit false

namespace SummitSom.UbootEnv

open Chase Cstr Print

def EBADF : Int := 9

def DEVNAME_SEPARATOR : Char := ':'

def DEVICE_MTD_NAME : List Char := "/dev/mtd".toList

-- The mtd devices that are there, finitely many, with their names. A name
-- leaves room for a newline and a NUL in a buffer of DEVNAME_MAX_LENGTH.
structure MtdTable (DEVNAME_MAX_LENGTH : Nat) where
  name : Nat → Option (List Char)
  bound : Nat
  finite : ∀ i, bound ≤ i → name i = none
  short : ∀ i text, name i = some text → text.length + 1 < DEVNAME_MAX_LENGTH

section Lookup

variable {DEVNAME_MAX_LENGTH : Nat} (table : MtdTable DEVNAME_MAX_LENGTH)

-- The file /sys/class/mtd/mtd%d/name is read into a buffer of zeros, and its
-- first word is the name.
def mtdGetVolumeName (vol_id : Nat) : Option (List Char) :=
  (table.name vol_id).bind fun text => scanWord ((text ++ ['\n']).take DEVNAME_MAX_LENGTH)

def volTurn (volname : List Char) (i : Nat) : Nat ⊕ Int :=
  match mtdGetVolumeName table i with
  | none => .inr (-1)
  | some name => if name = volname then .inr i else .inl (i + 1)

def mtdGetVolId (fuel : Nat) (volname : List Char) : Option Int := chase (volTurn table volname) fuel 0

def afterSeparator (devname : List Char) : Option (List Char) :=
  match devname.dropWhile fun letter => letter ≠ DEVNAME_SEPARATOR with
  | [] => none
  | _ :: rest => some rest

-- sscanf leaves the zeros where there is no word.
def volume (rest : List Char) : List Char := (scanWord rest).getD []

-- What mtd_update_name returns, and the device name after it.
def mtdUpdateName (fuel : Nat) (devname : List Char) : Option (Int × List Char) :=
  match afterSeparator devname with
  | none => some (0, devname)
  | some rest =>
      (mtdGetVolId table fuel (volume rest)).map fun vol_id =>
        if vol_id < 0 then (-EBADF, devname) else (0, DEVICE_MTD_NAME ++ decimal vol_id)

def Named (requested : List Char) (i : Nat) : Prop := table.name i = some requested

structure Smallest (requested : List Char) (i : Nat) : Prop where
  named : Named table requested i
  first : ∀ j, Named table requested j → i ≤ j

def mtdDevice (requested : List Char) : List Char := DEVICE_MTD_NAME ++ [DEVNAME_SEPARATOR] ++ requested

structure LookupRight (requested : List Char) : Prop where
  found : ∀ i, Smallest table requested i →
    ∃ fuel, mtdGetVolId table fuel (volume requested) = some (i : Int) ∧
      mtdUpdateName table fuel (mtdDevice requested) = some (0, DEVICE_MTD_NAME ++ decimal i)
  missing : (∀ i, ¬ Named table requested i) →
    ∃ fuel vol_id ret, mtdGetVolId table fuel (volume requested) = some vol_id ∧ vol_id < 0 ∧ ret ≠ 0 ∧
      mtdUpdateName table fuel (mtdDevice requested) = some (ret, mtdDevice requested)

-- The search comes to a number when there are no gaps and no blank names before it.
def InRun (i : Nat) : Prop := ∀ j, j ≤ i → ∃ text word, table.name j = some text ∧ scanWord text = some word

-- The device that the search takes has the requested name, when one has it.
structure Reachable (requested : List Char) : Prop where
  reached : ∀ i, Named table requested i → ∃ j, Named table requested j ∧ InRun table j
  first : ∀ i text, InRun table i → table.name i = some text → scanWord text = scanWord requested →
    ∃ j, j ≤ i ∧ Named table requested j

theorem volume_name_eq (i : Nat) : mtdGetVolumeName table i = (table.name i).bind scanWord := by
  rw [mtdGetVolumeName]
  cases present : table.name i with
  | none => rfl
  | some text =>
      have short := table.short i text present
      have whole : (text ++ ['\n']).take DEVNAME_MAX_LENGTH = text ++ ['\n'] := by
        apply List.take_of_length_le
        rw [List.length_append]
        exact Nat.le_of_lt short
      rw [Option.bind_some, Option.bind_some, whole]
      exact scan_word_trailing text '\n' (by decide)

theorem in_run_iff (i : Nat) : InRun table i ↔ ∀ j, j ≤ i → mtdGetVolumeName table j ≠ none := by
  apply forall_congr'
  intro j
  apply forall_congr'
  intro _
  rw [volume_name_eq]
  cases table.name j with
  | none => simp
  | some text => cases found : scanWord text <;> simp [found]

theorem device_volume (requested : List Char) (fuel : Nat) :
    mtdUpdateName table fuel (mtdDevice requested) =
      (mtdGetVolId table fuel (volume requested)).map fun vol_id =>
        if vol_id < 0 then (-EBADF, mtdDevice requested) else (0, DEVICE_MTD_NAME ++ decimal vol_id) := rfl

-- The first number of the run whose first word is the volume.
structure Hit (volname : List Char) (i : Nat) : Prop where
  run : InRun table i
  word : mtdGetVolumeName table i = some volname

theorem vol_id_hit (volname : List Char) (i : Nat) (hit : Hit table volname i) (first : ∀ j, Hit table volname j → i ≤ j) :
    ∃ fuel, mtdGetVolId table fuel volname = some (i : Int) := by
  apply chase_counts (volTurn table volname) 0 i i (Nat.zero_le i)
  · intro j _ before
    have run : InRun table j := fun k below => hit.run k (Nat.le_of_lt (Nat.lt_of_le_of_lt below before))
    rw [volTurn]
    cases read : mtdGetVolumeName table j with
    | none => exact absurd read ((in_run_iff table j).mp run j (Nat.le_refl j))
    | some name =>
        have other : name ≠ volname := fun same => absurd (first j ⟨run, same ▸ read⟩) (Nat.not_le_of_lt before)
        simp only [if_neg other]
  · simp only [volTurn, hit.word, if_true]

theorem vol_id_none (volname : List Char) (none : ∀ i, ¬ Hit table volname i) :
    ∃ fuel, mtdGetVolId table fuel volname = some (-1) := by
  have ends : ∃ gap, mtdGetVolumeName table gap = .none := by
    refine ⟨table.bound, ?_⟩
    rw [volume_name_eq, table.finite table.bound (Nat.le_refl _), Option.bind_none]
  classical
  have gap := Nat.find_spec ends
  apply chase_counts (volTurn table volname) 0 (Nat.find ends) (-1) (Nat.zero_le _)
  · intro j _ before
    have run : InRun table j :=
      (in_run_iff table j).mpr fun k below => Nat.find_min ends (Nat.lt_of_le_of_lt below before)
    rw [volTurn]
    cases read : mtdGetVolumeName table j with
    | none => exact absurd read ((in_run_iff table j).mp run j (Nat.le_refl j))
    | some name =>
        have other : name ≠ volname := fun same => none j ⟨run, same ▸ read⟩
        simp only [if_neg other]
  · simp only [volTurn, gap]

theorem vol_id_unique (volname : List Char) (fuel other : Nat) (first second : Int)
    (ended : mtdGetVolId table fuel volname = some first) (again : mtdGetVolId table other volname = some second) :
    first = second :=
  chase_unique (volTurn table volname) fuel other 0 first second ended again

-- Every search ends, with the first hit or without one.
theorem vol_id_ends (volname : List Char) :
    (∃ i, Hit table volname i ∧ (∀ j, Hit table volname j → i ≤ j) ∧ ∃ fuel, mtdGetVolId table fuel volname = some (i : Int)) ∨
      ((∀ i, ¬ Hit table volname i) ∧ ∃ fuel, mtdGetVolId table fuel volname = some (-1)) := by
  classical
  by_cases hits : ∃ i, Hit table volname i
  · refine .inl ⟨Nat.find hits, Nat.find_spec hits, fun j hit => Nat.find_min' hits hit, ?_⟩
    exact vol_id_hit table volname _ (Nat.find_spec hits) fun j hit => Nat.find_min' hits hit
  · have none : ∀ i, ¬ Hit table volname i := fun i hit => hits ⟨i, hit⟩
    exact .inr ⟨none, vol_id_none table volname none⟩

-- The volume is what the names are compared by, in the run.
theorem hit_iff (requested : List Char) (i : Nat) :
    Hit table (volume requested) i ↔
      InRun table i ∧ ∃ text, table.name i = some text ∧ scanWord text = scanWord requested := by
  constructor
  · intro hit
    refine ⟨hit.run, ?_⟩
    obtain ⟨text, word, present, scanned⟩ := hit.run i (Nat.le_refl i)
    refine ⟨text, present, ?_⟩
    have read := hit.word
    rw [volume_name_eq, present, Option.bind_some, scanned] at read
    have same := Option.some.inj read
    have nonempty := scan_word_nonempty text word scanned
    cases found : scanWord requested with
    | none =>
        rw [volume, found, Option.getD_none] at same
        exact absurd same nonempty
    | some other =>
        rw [volume, found, Option.getD_some] at same
        rw [scanned, same]
  · intro given
    obtain ⟨run, text, present, same⟩ := given
    refine ⟨run, ?_⟩
    obtain ⟨other, word, named, scanned⟩ := run i (Nat.le_refl i)
    obtain rfl := Option.some.inj (named.symm.trans present)
    rw [volume_name_eq, present, Option.bind_some, volume, ← same, scanned, Option.getD_some]

theorem smallest_exists (requested : List Char) (named : ∃ i, Named table requested i) :
    ∃ i, Smallest table requested i := by
  classical
  exact ⟨Nat.find named, Nat.find_spec named, fun j given => Nat.find_min' named given⟩

theorem reachable_hit (requested : List Char) (reachable : Reachable table requested) (i : Nat)
    (smallest : Smallest table requested i) :
    Hit table (volume requested) i ∧ ∀ j, Hit table (volume requested) j → i ≤ j := by
  obtain ⟨j, named, run⟩ := reachable.reached i smallest.named
  have below : InRun table i := fun k less => run k (Nat.le_trans less (smallest.first j named))
  refine ⟨(hit_iff table requested i).mpr ⟨below, requested, smallest.named, rfl⟩, ?_⟩
  intro k hit
  obtain ⟨run, text, present, same⟩ := (hit_iff table requested k).mp hit
  obtain ⟨other, before, named⟩ := reachable.first k text run present same
  exact Nat.le_trans (smallest.first other named) before

theorem right_hit (requested : List Char) (right : LookupRight table requested) (i : Nat)
    (smallest : Smallest table requested i) :
    Hit table (volume requested) i ∧ ∀ j, Hit table (volume requested) j → i ≤ j := by
  obtain ⟨fuel, ended, _⟩ := right.found i smallest
  cases vol_id_ends table (volume requested) with
  | inl hits =>
      obtain ⟨j, hit, first, other, again⟩ := hits
      have same : i = j := Int.ofNat.inj (vol_id_unique table _ fuel other _ _ ended again)
      rw [same]
      exact ⟨hit, first⟩
  | inr none =>
      obtain ⟨_, other, again⟩ := none
      have same := vol_id_unique table _ fuel other _ _ ended again
      omega

-- The lookup is right when the search reaches a device of that name before one
-- that has only the first word of it.
theorem mtd_lookup_right_iff (requested : List Char) : LookupRight table requested ↔ Reachable table requested := by
  constructor
  · intro right
    constructor
    · intro i named
      obtain ⟨j, smallest⟩ := smallest_exists table requested ⟨i, named⟩
      exact ⟨j, smallest.named, (right_hit table requested right j smallest).1.run⟩
    · intro i text run present same
      have hit := (hit_iff table requested i).mpr ⟨run, text, present, same⟩
      by_cases named : ∃ j, Named table requested j
      · obtain ⟨j, smallest⟩ := smallest_exists table requested named
        exact ⟨j, (right_hit table requested right j smallest).2 i hit, smallest.named⟩
      · obtain ⟨fuel, vol_id, _, ended, negative, _⟩ := right.missing fun j given => named ⟨j, given⟩
        cases vol_id_ends table (volume requested) with
        | inl hits =>
            obtain ⟨j, _, _, other, again⟩ := hits
            have same := vol_id_unique table _ fuel other _ _ ended again
            omega
        | inr none => exact absurd hit (none.1 i)
  · intro reachable
    constructor
    · intro i smallest
      obtain ⟨hit, first⟩ := reachable_hit table requested reachable i smallest
      obtain ⟨fuel, ended⟩ := vol_id_hit table (volume requested) i hit first
      refine ⟨fuel, ended, ?_⟩
      rw [device_volume, ended, Option.map_some, if_neg (by omega)]
    · intro missing
      have none : ∀ i, ¬ Hit table (volume requested) i := by
        intro i hit
        obtain ⟨run, text, present, same⟩ := (hit_iff table requested i).mp hit
        obtain ⟨j, _, named⟩ := reachable.first i text run present same
        exact missing j named
      obtain ⟨fuel, ended⟩ := vol_id_none table (volume requested) none
      refine ⟨fuel, -1, -EBADF, ended, by decide, by decide, ?_⟩
      rw [device_volume, ended, Option.map_some, if_pos (by decide)]

end Lookup

-- mtd1 has been removed.
def gapped (i : Nat) : Option (List Char) :=
  if i = 0 then some "spl".toList else if i = 2 then some "u-boot-env".toList else none

def gappedTable : MtdTable 40 where
  name := gapped
  bound := 3
  finite := by
    intro i beyond
    rw [gapped, if_neg (by omega), if_neg (by omega)]
  short := by
    intro i text present
    rw [gapped] at present
    split at present
    · obtain rfl := Option.some.inj present
      decide
    · split at present
      · obtain rfl := Option.some.inj present
        decide
      · cases present

theorem gap_hides_device :
    ¬ ∀ (DEVNAME_MAX_LENGTH : Nat) (table : MtdTable DEVNAME_MAX_LENGTH) (requested : List Char),
      LookupRight table requested := by
  intro right
  have smallest : Smallest gappedTable "u-boot-env".toList 2 := by
    refine ⟨rfl, ?_⟩
    intro j named
    have all : ∀ j, j < 2 → gapped j ≠ some "u-boot-env".toList := by decide
    by_contra before
    exact all j (Nat.lt_of_not_le before) named
  have run := (right_hit gappedTable _ (right 40 gappedTable "u-boot-env".toList) 2 smallest).1.run
  obtain ⟨text, _, present, _⟩ := run 1 (by decide)
  cases present

end SummitSom.UbootEnv
