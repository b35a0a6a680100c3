import SummitSom.Shell.Words
import Mathlib.Logic.Function.Basic

set_option autoImplicit false

namespace SummitSom.Timedate

open Shell

abbrev Place := List String

inductive Node where
  | missing
  | link (target : String)
  | other
deriving DecidableEq

-- The links of the file system and the text of /etc/timezone.
structure Etc where
  links : Place → Node
  timezone : Option String

def ENOENT : Int := 2
def EINVAL : Int := 22

def localtime : String := "/etc/localtime"

-- How the calls end that change something. A failed write has left some text.
structure Outcomes where
  write : Except (Int × Option String) Unit
  unlink : Except Int Unit
  symlink : Except Int Unit

section Calls

-- The working directory, PATH_STARTSWITH_SET with the two spellings of
-- /usr/share/zoneinfo/, and timezone_is_valid.
variable (cwd : Place) (zoneOf : String → Option String) (valid : String → Bool)

def readlinkMalloc (links : Place → Node) (n : String) : Except Int String :=
  match links (locate cwd n) with
  | .missing => .error (-ENOENT)
  | .link target => .ok target
  | .other => .error (-EINVAL)

def getTimezone (links : Place → Node) : Nat → String → Option (Except Int String)
  | 0, _ => none
  | fuel + 1, n =>
      match readlinkMalloc cwd links n with
      | .error code => some (if code = -ENOENT then .ok "UTC" else .error code)
      | .ok t =>
          match zoneOf t with
          | some e => some (if valid e then .ok e else .error (-EINVAL))
          | none => getTimezone links fuel t

-- The loop at the start of context_write_data_timezone.
def lastName (links : Place → Node) : Nat → String → Option String
  | 0, _ => none
  | fuel + 1, n =>
      match readlinkMalloc cwd links n with
      | .error _ => some n
      | .ok t =>
          match zoneOf t with
          | some _ => some n
          | none => lastName links fuel t

def isUtc (zone : String) : Bool := zone == "" || zone == "UTC"

def Etc.writeTimezone (s : Etc) (line : String) : Etc := { s with timezone := some (line ++ "\n") }

def Etc.setLink (s : Etc) (n : String) (node : Node) : Etc := { s with links := Function.update s.links (locate cwd n) node }

def unlinkLast (outcomes : Outcomes) (n : String) (s : Etc) : Except Int Unit × Etc :=
  match outcomes.unlink with
  | .error code => (.error code, s)
  | .ok () => (.ok (), s.setLink cwd n .missing)

def symlinkAtomic (outcomes : Outcomes) (source n : String) (s : Etc) : Except Int Unit × Etc :=
  match outcomes.symlink with
  | .error code => (.error code, s)
  | .ok () => (.ok (), s.setLink cwd n (.link source))

def writeStringFile (outcomes : Outcomes) (line : String) (s : Etc) (next : Etc → Except Int Unit × Etc) :
    Except Int Unit × Etc :=
  match outcomes.write with
  | .error failure => (.error failure.1, { s with timezone := failure.2 })
  | .ok () => next (s.writeTimezone line)

-- What follows the loop. utc says whether /usr/share/zoneinfo/UTC is there.
def writeZone (outcomes : Outcomes) (zone : String) (utc : Bool) (n : String) (s : Etc) : Except Int Unit × Etc :=
  if isUtc zone then
    if utc then writeStringFile outcomes zone s (symlinkAtomic cwd outcomes "/usr/share/zoneinfo/UTC" n)
    else writeStringFile outcomes "UTC" s (unlinkLast cwd outcomes n)
  else writeStringFile outcomes zone s (symlinkAtomic cwd outcomes ("/usr/share/zoneinfo/" ++ zone) n)

def contextWriteDataTimezone (fuel : Nat) (outcomes : Outcomes) (zone : String) (utc : Bool) (s : Etc) :
    Option (Except Int Unit × Etc) :=
  (lastName cwd zoneOf s.links fuel localtime).map fun n => writeZone cwd outcomes zone utc n s

end Calls

-- A link points into the zone database from the directory that it is in.
def Pointing (place : Place) (target : String) : Prop := ["usr", "share", "zoneinfo"] <+: locate place.dropLast target

inductive Chain (links : Place → Node) : Place → List Place → Prop where
  | missing (place : Place) (gone : links place = .missing) : Chain links place [place]
  | zone (place : Place) (target : String) (found : links place = .link target) (pointing : Pointing place target) :
      Chain links place [place]
  | follow (place : Place) (target : String) (chain : List Place) (found : links place = .link target)
      (elsewhere : ¬ Pointing place target) (onward : Chain links (locate place.dropLast target) chain) :
      Chain links place (place :: chain)

-- The links of the chain from /etc/localtime except the last.
def Earlier (links : Place → Node) (place : Place) : Prop :=
  ∃ chain, Chain links (locate [] localtime) chain ∧ place ∈ chain.dropLast

def zoneName (zone : String) : String := if zone = "" then "UTC" else zone

section Agreement

variable (cwd : Place) (zoneOf : String → Option String) (valid : String → Bool)

-- Set and get agree, and a call that fails has changed nothing.
def Agrees (zone : String) (s : Etc) : Except Int Unit × Etc → Prop
  | (.ok _, t) =>
      (∃ fuel, getTimezone cwd zoneOf valid t.links fuel localtime = some (.ok (zoneName zone))) ∧
      t.timezone = some (zoneName zone ++ "\n") ∧ ∀ place, Earlier s.links place → t.links place = s.links place
  | (.error _, t) => t.links = s.links ∧ t.timezone = s.timezone

def removes (zone : String) (utc : Bool) : Bool := isUtc zone && !utc

def written (zone : String) (utc : Bool) : String := if removes zone utc then "UTC" else zone

def lastNode (zone : String) (utc : Bool) : Node :=
  if removes zone utc then .missing else .link ("/usr/share/zoneinfo/" ++ zoneName zone)

-- What the outcomes and the state have to be like: a failed write leaves the
-- text, the text is the same already when the link fails, and otherwise the zone
-- is not the empty one next to an installed UTC and the loop has ended at no
-- earlier link.
def Consistent (outcomes : Outcomes) (zone : String) (utc : Bool) (n : String) (s : Etc) : Prop :=
  match outcomes.write with
  | .error failure => failure.2 = s.timezone
  | .ok () =>
      match (if removes zone utc then outcomes.unlink else outcomes.symlink) with
      | .error _ => s.timezone = some (written zone utc ++ "\n")
      | .ok () =>
          ¬ (zone = "" ∧ utc = true) ∧ (Earlier s.links (locate cwd n) → s.links (locate cwd n) = lastNode zone utc)

-- What get_timezone makes of an entry where it stops.
def answer (node : Node) : Option (Except Int String) :=
  match node with
  | .missing => some (.ok "UTC")
  | .link target => (zoneOf target).map fun e => if valid e then .ok e else .error (-EINVAL)
  | .other => none

theorem get_timezone_answers (links : Place → Node) (fuel : Nat) (n : String) (result : Except Int String)
    (answers : answer zoneOf valid (links (locate cwd n)) = some result) :
    getTimezone cwd zoneOf valid links (fuel + 1) n = some result := by
  rw [getTimezone, readlinkMalloc]
  cases found : links (locate cwd n) with
  | missing =>
      rw [found] at answers
      exact answers
  | link target =>
      rw [found, answer] at answers
      obtain ⟨e, zone, rfl⟩ := Option.map_eq_some_iff.mp answers
      simp only [zone]
  | other =>
      rw [found] at answers
      cases answers

-- The entries in front of the last one are not touched, so that the next walk
-- comes to the same name.
theorem changed_last_answers (links : Place → Node) (fuel : Nat) (m n : String) (node : Node) (result : Except Int String)
    (ended : lastName cwd zoneOf links fuel m = some n) (answers : answer zoneOf valid node = some result) :
    getTimezone cwd zoneOf valid (Function.update links (locate cwd n) node) fuel m = some result := by
  induction fuel generalizing m with
  | zero => cases ended
  | succ fuel ih =>
      by_cases last : locate cwd m = locate cwd n
      · apply get_timezone_answers
        rw [last, Function.update_self]
        exact answers
      · have same : readlinkMalloc cwd (Function.update links (locate cwd n) node) m = readlinkMalloc cwd links m := by
          rw [readlinkMalloc, readlinkMalloc, Function.update_of_ne last]
        rw [lastName] at ended
        rw [getTimezone, same]
        cases read : readlinkMalloc cwd links m with
        | error code =>
            rw [read] at ended
            obtain rfl := Option.some.inj ended
            exact absurd rfl last
        | ok t =>
            rw [read] at ended
            cases zone : zoneOf t with
            | none =>
                simp only [zone] at ended ⊢
                exact ih t ended
            | some e =>
                simp only [zone] at ended
                obtain rfl := Option.some.inj ended
                exact absurd rfl last

theorem is_utc_iff (zone : String) : isUtc zone = true ↔ zone = "" ∨ zone = "UTC" := by
  simp [isUtc]

theorem utc_name (zone : String) (utc : isUtc zone = true) : zoneName zone = "UTC" := by
  cases (is_utc_iff zone).mp utc with
  | inl empty => rw [zoneName, if_pos empty]
  | inr named =>
      subst named
      rfl

theorem other_name (zone : String) (other : ¬ isUtc zone = true) : zoneName zone = zone := by
  rw [zoneName, if_neg fun empty => other ((is_utc_iff zone).mpr (.inl empty))]

theorem write_zone_eq (outcomes : Outcomes) (zone : String) (utc : Bool) (n : String) (s : Etc) :
    writeZone cwd outcomes zone utc n s =
      writeStringFile outcomes (written zone utc) s
        (if removes zone utc then unlinkLast cwd outcomes n
          else symlinkAtomic cwd outcomes ("/usr/share/zoneinfo/" ++ zoneName zone) n) := by
  rw [writeZone, written, removes]
  by_cases empty : isUtc zone = true
  · rw [if_pos empty, empty, utc_name zone empty]
    cases utc with
    | true => rfl
    | false => rfl
  · rw [if_neg empty, other_name zone empty]
    simp [empty]

theorem written_name (zone : String) (utc : Bool) : written zone utc = zoneName zone ↔ ¬ (zone = "" ∧ utc = true) := by
  by_cases empty : zone = ""
  · subst empty
    cases utc with
    | true => decide
    | false => decide
  · have kept : zoneName zone = zone := by rw [zoneName, if_neg empty]
    rw [kept, written, removes]
    by_cases named : zone = "UTC"
    · subst named
      cases utc with
      | true => decide
      | false => decide
    · simp [isUtc, empty, named]

theorem written_line (zone : String) (utc : Bool) :
    some (written zone utc ++ "\n") = some (zoneName zone ++ "\n") ↔ ¬ (zone = "" ∧ utc = true) := by
  rw [← written_name]
  constructor
  · intro same
    simpa using same
  · intro same
    rw [same]

-- What the two helpers are relied on for: UTC is always a zone, and a zone is
-- found again behind the prefix.
structure ZoneNames : Prop where
  utc : valid "UTC" = true
  spelled : ∀ name, valid name = true → zoneOf ("/usr/share/zoneinfo/" ++ name) = some name

theorem last_node_answers (zone : String) (utc : Bool) (names : ZoneNames zoneOf valid) (named : zone = "" ∨ valid zone = true) :
    answer zoneOf valid (lastNode zone utc) = some (.ok (zoneName zone)) := by
  by_cases removing : removes zone utc = true
  · rw [removes, Bool.and_eq_true] at removing
    rw [lastNode, removes, removing.1, removing.2, utc_name zone removing.1]
    rfl
  · have accepted : valid (zoneName zone) = true := by
      cases named with
      | inl empty => rw [zoneName, if_pos empty, names.utc]
      | inr accepted =>
          rw [zoneName]
          split
          · exact names.utc
          · exact accepted
    rw [lastNode, if_neg removing, answer, names.spelled _ accepted, Option.map_some, if_pos accepted]

theorem done_agrees (zone : String) (utc : Bool) (n : String) (s : Etc) (fuel : Nat) (names : ZoneNames zoneOf valid)
    (named : zone = "" ∨ valid zone = true) (ended : lastName cwd zoneOf s.links fuel localtime = some n) :
    Agrees cwd zoneOf valid zone s (.ok (), (s.writeTimezone (written zone utc)).setLink cwd n (lastNode zone utc)) ↔
      ¬ (zone = "" ∧ utc = true) ∧ (Earlier s.links (locate cwd n) → s.links (locate cwd n) = lastNode zone utc) := by
  have answers := last_node_answers zoneOf valid zone utc names named
  have got := changed_last_answers cwd zoneOf valid s.links fuel localtime n (lastNode zone utc) _ ended answers
  constructor
  · intro agrees
    obtain ⟨_, text, kept⟩ := agrees
    refine ⟨(written_line zone utc).mp text, fun earlier => ?_⟩
    have same := kept (locate cwd n) earlier
    exact same.symm.trans (Function.update_self (locate cwd n) _ _)
  · intro given
    obtain ⟨present, kept⟩ := given
    refine ⟨⟨fuel, got⟩, (written_line zone utc).mpr present, ?_⟩
    intro place earlier
    by_cases own : place = locate cwd n
    · subst own
      exact (Function.update_self (locate cwd n) _ _).trans (kept earlier).symm
    · exact Function.update_of_ne own _ _

theorem failed_agrees (zone line : String) (code : Int) (s : Etc) :
    Agrees cwd zoneOf valid zone s (.error code, s.writeTimezone line) ↔ s.timezone = some (line ++ "\n") := by
  constructor
  · intro agrees
    exact agrees.2.symm
  · intro same
    exact ⟨rfl, same.symm⟩

theorem write_zone_agrees (outcomes : Outcomes) (zone : String) (utc : Bool) (n : String) (s : Etc) (fuel : Nat)
    (names : ZoneNames zoneOf valid) (named : zone = "" ∨ valid zone = true)
    (ended : lastName cwd zoneOf s.links fuel localtime = some n) :
    Agrees cwd zoneOf valid zone s (writeZone cwd outcomes zone utc n s) ↔ Consistent cwd outcomes zone utc n s := by
  have done := done_agrees cwd zoneOf valid zone utc n s fuel names named ended
  rw [write_zone_eq, writeStringFile, Consistent]
  cases outcomes.write with
  | error failure =>
      constructor
      · intro agrees
        exact agrees.2
      · intro same
        exact ⟨rfl, same⟩
  | ok wrote =>
      cases removing : removes zone utc with
      | true =>
          simp only [if_true, unlinkLast]
          cases outcomes.unlink with
          | error code => exact failed_agrees cwd zoneOf valid zone _ code s
          | ok _ =>
              rw [lastNode, removing] at done
              rw [lastNode, removing]
              exact done
      | false =>
          simp only [Bool.false_eq_true, if_false, symlinkAtomic]
          cases outcomes.symlink with
          | error code => exact failed_agrees cwd zoneOf valid zone _ code s
          | ok _ =>
              rw [lastNode, removing] at done
              rw [lastNode, removing]
              exact done

-- The call returns and keeps the agreement exactly when the loop ends and the
-- outcomes are consistent.
theorem set_get_agree_iff (outcomes : Outcomes) (zone : String) (utc : Bool) (s : Etc)
    (names : ZoneNames zoneOf valid) (named : zone = "" ∨ valid zone = true) :
    (∃ fuel done, contextWriteDataTimezone cwd zoneOf fuel outcomes zone utc s = some done ∧
        Agrees cwd zoneOf valid zone s done) ↔
      ∃ fuel n, lastName cwd zoneOf s.links fuel localtime = some n ∧ Consistent cwd outcomes zone utc n s := by
  constructor
  · intro given
    obtain ⟨fuel, done, returned, agrees⟩ := given
    rw [contextWriteDataTimezone] at returned
    obtain ⟨n, ended, rfl⟩ := Option.map_eq_some_iff.mp returned
    have consistent := (write_zone_agrees cwd zoneOf valid outcomes zone utc n s fuel names named ended).mp agrees
    exact ⟨fuel, n, ended, consistent⟩
  · intro given
    obtain ⟨fuel, n, ended, consistent⟩ := given
    have agrees := (write_zone_agrees cwd zoneOf valid outcomes zone utc n s fuel names named ended).mpr consistent
    exact ⟨fuel, _, by rw [contextWriteDataTimezone, ended, Option.map_some], agrees⟩

-- The loop reads a link as it is when what looks like a zone is one and its
-- target leads to the same entry from the working directory. All absolute links
-- do the latter.
def ReadAsIs (links : Place → Node) (place : Place) : Prop :=
  ∀ target, links place = .link target →
    (zoneOf target ≠ none ↔ Pointing place target) ∧
    (¬ Pointing place target → locate cwd target = locate place.dropLast target)

theorem locate_absolute (dir other : Place) (path : String) (absolute : startsWith "/" path = true) :
    locate dir path = locate other path := by
  rw [locate, locate, if_pos absolute, if_pos absolute]

theorem earlier_followed (links : Place → Node) (start place : Place) (chain : List Place) (found : Chain links start chain)
    (earlier : place ∈ chain.dropLast) : ∃ target, links place = .link target ∧ ¬ Pointing place target := by
  induction found with
  | missing start gone => cases earlier
  | zone start target link pointing => cases earlier
  | follow start target chain link elsewhere onward ih =>
      cases chain with
      | nil => cases earlier
      | cons next rest =>
          cases earlier with
          | head => exact ⟨target, link, elsewhere⟩
          | tail _ later => exact ih later

theorem chain_walked (links : Place → Node) (start : Place) (chain : List Place) (m : String) (found : Chain links start chain)
    (plain : ∀ place ∈ chain, ReadAsIs cwd zoneOf links place) (same : locate cwd m = start) :
    ∃ fuel n, lastName cwd zoneOf links fuel m = some n ∧
      ∀ target, links (locate cwd n) = .link target → Pointing (locate cwd n) target := by
  induction found generalizing m with
  | missing start gone =>
      refine ⟨1, m, ?_, ?_⟩
      · rw [lastName, readlinkMalloc, same, gone]
      · intro target link
        rw [same, gone] at link
        cases link
  | zone start target link pointing =>
      obtain ⟨e, zone⟩ := Option.ne_none_iff_exists'.mp (((plain start (.head _)) target link).1.mpr pointing)
      refine ⟨1, m, ?_, ?_⟩
      · rw [lastName, readlinkMalloc, same, link]
        simp only [zone]
      · intro other found
        rw [same, link] at found
        cases found
        exact same ▸ pointing
  | follow start target chain link elsewhere onward ih =>
      obtain ⟨looks, leads⟩ := (plain start (.head _)) target link
      have zone : zoneOf target = none := by
        by_contra named
        exact elsewhere (looks.mp named)
      obtain ⟨fuel, n, ended, last⟩ := ih target (fun place inside => plain place (.tail _ inside)) (leads elsewhere)
      refine ⟨fuel + 1, n, ?_, last⟩
      rw [lastName, readlinkMalloc, same, link]
      simp only [zone]
      exact ended

-- Such a chain is read to its last link.
theorem plain_chain_ends (links : Place → Node) (chain : List Place) (found : Chain links (locate [] localtime) chain)
    (plain : ∀ place ∈ chain, ReadAsIs cwd zoneOf links place) :
    ∃ fuel n, lastName cwd zoneOf links fuel localtime = some n ∧ ¬ Earlier links (locate cwd n) := by
  have same := locate_absolute cwd [] localtime (by decide)
  obtain ⟨fuel, n, ended, last⟩ := chain_walked cwd zoneOf links _ chain localtime found plain same
  refine ⟨fuel, n, ended, ?_⟩
  intro earlier
  obtain ⟨other, chained, inside⟩ := earlier
  obtain ⟨target, link, elsewhere⟩ := earlier_followed links _ _ other chained inside
  exact elsewhere (last target link)

end Agreement

-- The helpers as they are for two zones.
def zoneinfoPart (target : String) : Option String :=
  if startsWith "/usr/share/zoneinfo/" target then some (removePrefix "/usr/share/zoneinfo/" target)
  else if startsWith "../usr/share/zoneinfo/" target then some (removePrefix "../usr/share/zoneinfo/" target)
  else none

def isZone (name : String) : Bool := name == "UTC" || name == "Europe/Berlin"

theorem zone_names : ZoneNames zoneinfoPart isZone := by
  constructor
  · decide
  · intro name accepted
    rw [isZone, Bool.or_eq_true, beq_iff_eq, beq_iff_eq] at accepted
    cases accepted with
    | inl utc =>
        subst utc
        decide
    | inr berlin =>
        subst berlin
        decide

-- /etc/localtime leads to a data partition, where the link is missing.
def onData : Etc where
  links place := if place = ["etc", "localtime"] then .link "/data/etc/localtime" else .missing
  timezone := some "UTC\n"

def succeeding : Outcomes := ⟨.ok (), .ok (), .ok ()⟩

def unlinked : Outcomes := ⟨.ok (), .ok (), .error (-ENOENT)⟩

theorem on_data_chain : Chain onData.links (locate [] localtime) [["etc", "localtime"], ["data", "etc", "localtime"]] :=
  .follow _ "/data/etc/localtime" _ (by decide) (by unfold Pointing; decide) (.missing _ (by decide))

theorem on_data_last : lastName [] zoneinfoPart onData.links 2 localtime = some "/data/etc/localtime" := by decide

theorem set_get_agree_iff_on_data :
    ∃ fuel done, contextWriteDataTimezone [] zoneinfoPart fuel succeeding "Europe/Berlin" true onData = some done ∧
      Agrees [] zoneinfoPart isZone "Europe/Berlin" onData done := by
  apply (set_get_agree_iff [] zoneinfoPart isZone succeeding "Europe/Berlin" true onData zone_names (.inr rfl)).mpr
  refine ⟨2, "/data/etc/localtime", on_data_last, by decide, ?_⟩
  intro earlier
  obtain ⟨chain, chained, inside⟩ := earlier
  obtain ⟨target, link, _⟩ := earlier_followed onData.links _ _ chain chained inside
  cases link

-- Without the data partition the link cannot be made, but the name is written.
theorem failed_link_changes_timezone :
    ¬ ∀ (cwd : Place) (zoneOf : String → Option String) (valid : String → Bool) (outcomes : Outcomes) (zone : String)
      (utc : Bool) (s : Etc), ZoneNames zoneOf valid → (zone = "" ∨ valid zone = true) →
      (∃ chain, Chain s.links (locate [] localtime) chain) →
      ∀ fuel done, contextWriteDataTimezone cwd zoneOf fuel outcomes zone utc s = some done →
        Agrees cwd zoneOf valid zone s done := by
  intro agree
  have returned : contextWriteDataTimezone [] zoneinfoPart 2 unlinked "Europe/Berlin" true onData =
      some (.error (-ENOENT), onData.writeTimezone "Europe/Berlin") := by
    rw [contextWriteDataTimezone, on_data_last]
    rfl
  have agrees := agree [] zoneinfoPart isZone unlinked "Europe/Berlin" true onData zone_names (.inr rfl)
    ⟨_, on_data_chain⟩ 2 _ returned
  exact absurd agrees.2 (by decide)

end SummitSom.Timedate
