import SummitSom.Timedate.TimeZone
import SummitSom.Chase.Walk

set_option autoImplicit false

namespace SummitSom.Timedate

open Shell Chase

section Loops

-- What readlink_malloc answers for a path, as the file system is.
variable (read : String → Except Int String) (zoneOf : String → Option String) (valid : String → Bool)

-- One turn of a loop that follows the links: what becomes of a read that fails,
-- and of a target inside the zone database.
def linkTurn {R : Type} (failed : String → Int → R) (found : String → String → R) (n : String) : String ⊕ R :=
  match read n with
  | .error code => .inr (failed n code)
  | .ok t =>
      match zoneOf t with
      | some e => .inr (found n e)
      | none => .inl t

def unlinkedZone (code : Int) : Except Int String := if code = -ENOENT then .ok "UTC" else .error code

def checkedZone (e : String) : Except Int String := if valid e then .ok e else .error (-EINVAL)

-- get_timezone returns from inside its loop or right behind it.
def getTurn : String → String ⊕ Except Int String :=
  linkTurn read zoneOf (fun _ => unlinkedZone) (fun _ => checkedZone valid)

-- The loop of context_write_data_timezone ends with the last name.
def lastTurn : String → String ⊕ String := linkTurn read zoneOf (fun n _ => n) (fun n _ => n)

def Follows (n t : String) : Prop := read n = .ok t ∧ zoneOf t = none

-- Some name comes up again on the way from /etc/localtime.
def LinkCycle : Prop :=
  ∃ n, Relation.ReflTransGen (Follows read zoneOf) localtime n ∧ Relation.TransGen (Follows read zoneOf) n n

structure WalksEnd : Prop where
  get : ∃ fuel result, chase (getTurn read zoneOf valid) fuel localtime = some result
  write : ∃ fuel n, chase (lastTurn read zoneOf) fuel localtime = some n
  refused : LinkCycle read zoneOf →
    ∃ fuel code, chase (getTurn read zoneOf valid) fuel localtime = some (.error code)

theorem link_turn_follows {R : Type} (failed : String → Int → R) (found : String → String → R) (n t : String) :
    Goes (linkTurn read zoneOf failed found) n t ↔ Follows read zoneOf n t := by
  rw [Goes, linkTurn, Follows]
  cases read n with
  | error code => simp
  | ok target =>
      cases zone : zoneOf target with
      | some e =>
          simp only [zone, reduceCtorEq, false_iff, not_and, Except.ok.injEq]
          intro same none
          rw [← same, zone] at none
          cases none
      | none =>
          simp only [zone, Sum.inl.injEq, Except.ok.injEq]
          constructor
          · intro same
            exact ⟨same, same ▸ zone⟩
          · intro given
            exact given.1

theorem link_walk_ends_iff {R : Type} (failed : String → Int → R) (found : String → String → R)
    (finite : {t | ∃ n, read n = .ok t}.Finite) :
    (∃ fuel result, chase (linkTurn read zoneOf failed found) fuel localtime = some result) ↔ ¬ LinkCycle read zoneOf := by
  have same : Goes (linkTurn read zoneOf failed found) = Follows read zoneOf :=
    funext fun n => funext fun t => propext (link_turn_follows read zoneOf failed found n t)
  have steps : {t | ∃ n, Goes (linkTurn read zoneOf failed found) n t}.Finite := by
    apply finite.subset
    intro t given
    rw [same] at given
    obtain ⟨n, step⟩ := given
    exact ⟨n, step.1⟩
  have ends := chase_ends_iff (linkTurn read zoneOf failed found) localtime steps
  rw [Cyclic, same] at ends
  exact ends

-- The loops come to an end unless the links lead round in a circle.
theorem link_walks_end_iff (finite : {t | ∃ n, read n = .ok t}.Finite) :
    WalksEnd read zoneOf valid ↔ ¬ LinkCycle read zoneOf := by
  have got := link_walk_ends_iff read zoneOf (fun _ => unlinkedZone) (fun _ => checkedZone valid) finite
  have last := link_walk_ends_iff read zoneOf (fun n _ => n) (fun n _ => n) finite
  constructor
  · intro ends
    exact got.mp ends.get
  · intro acyclic
    exact ⟨got.mpr acyclic, last.mpr acyclic, fun cycle => absurd cycle acyclic⟩

end Loops

-- /etc/localtime leads to the data partition, where the link is missing.
def oneLink (n : String) : Except Int String :=
  if n = localtime then .ok "/data/etc/localtime" else .error (-ENOENT)

theorem one_link_follows (n t : String) (follows : Follows oneLink zoneinfoPart n t) :
    n = localtime ∧ t = "/data/etc/localtime" := by
  have found := follows.1
  rw [oneLink] at found
  split at found
  · next start => exact ⟨start, (Except.ok.inj found).symm⟩
  · cases found

theorem link_walks_end_iff_one_link : WalksEnd oneLink zoneinfoPart isZone := by
  apply (link_walks_end_iff oneLink zoneinfoPart isZone ?_).mpr
  · intro cycle
    obtain ⟨n, _, cycle⟩ := cycle
    obtain ⟨_, first, _⟩ := Relation.TransGen.head'_iff.mp cycle
    obtain ⟨_, _, last⟩ := Relation.TransGen.tail'_iff.mp cycle
    have start := (one_link_follows _ _ first).1
    have target := (one_link_follows _ _ last).2
    exact absurd (start.symm.trans target) (by decide)
  · apply (Set.finite_singleton "/data/etc/localtime").subset
    intro t given
    obtain ⟨n, found⟩ := given
    rw [oneLink] at found
    split at found
    · exact (Except.ok.inj found).symm
    · cases found

-- The link on the data partition leads back.
def roundTrip (n : String) : Except Int String :=
  if n = localtime then .ok "/data/etc/localtime" else if n = "/data/etc/localtime" then .ok localtime else .error (-ENOENT)

theorem round_trip_walks_on :
    ¬ ∀ (read : String → Except Int String) (zoneOf : String → Option String) (valid : String → Bool),
      {t | ∃ n, read n = .ok t}.Finite → WalksEnd read zoneOf valid := by
  intro ends
  have finite : {t | ∃ n, roundTrip n = .ok t}.Finite := by
    apply (Set.toFinite {"/data/etc/localtime", localtime}).subset
    intro t given
    obtain ⟨n, found⟩ := given
    rw [roundTrip] at found
    split at found
    · exact .inl (Except.ok.inj found).symm
    · split at found
      · exact .inr (Except.ok.inj found).symm
      · cases found
  have there : Follows roundTrip zoneinfoPart localtime "/data/etc/localtime" := ⟨rfl, by decide⟩
  have back : Follows roundTrip zoneinfoPart "/data/etc/localtime" localtime := ⟨by rw [roundTrip]; decide, by decide⟩
  have cycle : LinkCycle roundTrip zoneinfoPart := ⟨localtime, .refl, .tail (.single there) back⟩
  obtain ⟨fuel, result, ended⟩ := (ends roundTrip zoneinfoPart isZone finite).get
  exact (link_walk_ends_iff roundTrip zoneinfoPart _ _ finite).mp ⟨fuel, result, ended⟩ cycle

section OfPlaces

variable (cwd : Place) (zoneOf : String → Option String) (valid : String → Bool) (links : Place → Node)

-- The loops over a file system whose directories are no links.
theorem get_timezone_chase (fuel : Nat) (n : String) :
    getTimezone cwd zoneOf valid links fuel n = chase (getTurn (readlinkMalloc cwd links) zoneOf valid) fuel n := by
  induction fuel generalizing n with
  | zero => rfl
  | succ fuel ih =>
      rw [getTimezone, chase, getTurn, linkTurn]
      cases readlinkMalloc cwd links n with
      | error code => rfl
      | ok t =>
          cases zone : zoneOf t with
          | some e => simp only [zone, checkedZone]
          | none =>
              simp only [zone]
              exact ih t

theorem last_name_chase (fuel : Nat) (n : String) :
    lastName cwd zoneOf links fuel n = chase (lastTurn (readlinkMalloc cwd links) zoneOf) fuel n := by
  induction fuel generalizing n with
  | zero => rfl
  | succ fuel ih =>
      rw [lastName, chase, lastTurn, linkTurn]
      cases readlinkMalloc cwd links n with
      | error code => rfl
      | ok t =>
          cases zone : zoneOf t with
          | some e => simp only [zone]
          | none =>
              simp only [zone]
              exact ih t

theorem write_returns_iff (outcomes : Outcomes) (zone : String) (utc : Bool) (timezone : Option String)
    (finite : {t | ∃ n, readlinkMalloc cwd links n = .ok t}.Finite) :
    (∃ fuel done, contextWriteDataTimezone cwd zoneOf fuel outcomes zone utc ⟨links, timezone⟩ = some done) ↔
      ¬ LinkCycle (readlinkMalloc cwd links) zoneOf := by
  rw [← link_walk_ends_iff (readlinkMalloc cwd links) zoneOf (fun n _ => n) (fun n _ => n) finite]
  constructor
  · intro given
    obtain ⟨fuel, done, returned⟩ := given
    rw [contextWriteDataTimezone, last_name_chase] at returned
    obtain ⟨n, ended, _⟩ := Option.map_eq_some_iff.mp returned
    exact ⟨fuel, n, ended⟩
  · intro given
    obtain ⟨fuel, n, ended⟩ := given
    refine ⟨fuel, writeZone cwd outcomes zone utc n ⟨links, timezone⟩, ?_⟩
    rw [contextWriteDataTimezone, last_name_chase, lastTurn, ended, Option.map_some]

end OfPlaces

end SummitSom.Timedate
