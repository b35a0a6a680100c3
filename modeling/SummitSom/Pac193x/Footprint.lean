import SummitSom.Pac193x.Driver

set_option autoImplicit false

namespace SummitSom.Pac193x

open Interact

-- Exactly the commands of a snapshot with a REFRESH, and of retrieving data.
def Snaps {J : Type} : Cmd J → Prop
  | .jiffies | .setTstamp _ | .lock | .unlock | .read _ _ _ | .usleepRange _ _ | .decode => True
  | .write reg data => reg = refreshReg ∧ data = []
  | _ => False

def Retrieves {J : Type} : Cmd J → Prop
  | .tstamp | .modTimer _ => True
  | cmd => Snaps cmd

-- The commands of a snapshot, those of retrieving data, which also sets the
-- timer, and those of a sysfs call.
def Snapping : Cmd Int → Prop
  | .modTimer _ | .queueWork | .setSampleRate _ | .setSpeedCode _ => False
  | _ => True

def Retrieving : Cmd Int → Prop
  | .queueWork | .setSampleRate _ | .setSpeedCode _ => False
  | _ => True

def Calling : Cmd Int → Prop
  | .queueWork => False
  | _ => True

theorem snaps_retrieves {J : Type} (cmd : Cmd J) (snaps : Snaps cmd) : Retrieves cmd := by
  cases cmd <;> trivial

theorem snaps_snapping (cmd : Cmd Int) (snaps : Snaps cmd) : Snapping cmd := by
  cases cmd <;> trivial

theorem retrieves_retrieving (cmd : Cmd Int) (retrieves : Retrieves cmd) : Retrieving cmd := by
  cases cmd <;> trivial

theorem snapping_retrieving (cmd : Cmd Int) (snapping : Snapping cmd) : Retrieving cmd := by
  cases cmd with
  | queueWork => exact snapping.elim
  | setSampleRate rate => exact snapping.elim
  | setSpeedCode code => exact snapping.elim
  | _ => trivial

theorem retrieving_calling (cmd : Cmd Int) (retrieving : Retrieving cmd) : Calling cmd := by
  cases cmd with
  | queueWork => exact retrieving.elim
  | _ => trivial

section Snapshots

variable {J : Type}

theorem rfsh_sent_snaps (wait_time : Nat) : Completes Snaps (rfshSent wait_time : Act J Unit) :=
  ⟨trivial, fun _ => ⟨trivial, fun _ => ⟨trivial, fun _ => trivial⟩⟩⟩

theorem send_rfsh_snaps (wait_time : Nat) : Completes Snaps (sendRfsh false wait_time : Act J Int) := by
  rw [send_rfsh_eq]
  refine ⟨⟨rfl, rfl⟩, fun ret => ?_⟩
  dsimp only
  split
  · trivial
  · exact completes_bind Snaps _ _ (rfsh_sent_snaps wait_time) fun _ => trivial

theorem read_blocks_snaps : Completes Snaps (readBlocks : Act J Int) := by
  rw [read_blocks_eq]
  refine ⟨trivial, fun ret => ?_⟩
  dsimp only
  split
  · trivial
  · refine ⟨trivial, fun ret => ?_⟩
    dsimp only
    split
    · trivial
    · exact ⟨trivial, fun _ => trivial⟩

theorem reg_snapshot_snaps (wait_time : Nat) : Completes Snaps (regSnapshot true false wait_time : Act J Int) := by
  simp only [regSnapshot, issue_bind, if_true]
  refine ⟨trivial, fun _ => completes_bind Snaps _ _ (send_rfsh_snaps wait_time) fun ret => ?_⟩
  apply completes_bind
  · split
    · trivial
    · exact read_blocks_snaps
  · exact fun _ => ⟨trivial, fun _ => trivial⟩

variable [Jiffies J]

theorem retrieve_data_retrieves (hz wait_time : Nat) : Completes Retrieves (retrieveData hz wait_time : Act J Int) := by
  simp only [retrieveData, issue_bind]
  refine ⟨trivial, fun now => ⟨trivial, fun tstamp => ?_⟩⟩
  dsimp only
  split
  · apply completes_bind Retrieves
    · exact completes_mono Snaps Retrieves _ snaps_retrieves (reg_snapshot_snaps wait_time)
    · exact fun _ => ⟨trivial, fun _ => ⟨trivial, fun _ => trivial⟩⟩
  · trivial

theorem force_snapshot_retrieves (hz old_samp_rate : Nat) (positive : old_samp_rate ≠ 0) :
    Completes Retrieves (forceSnapshot hz old_samp_rate : Act J Int) := by
  simp only [forceSnapshot, issue_bind, divide, if_neg positive]
  refine ⟨trivial, fun tstamp => ⟨trivial, fun _ => ?_⟩⟩
  exact completes_bind Retrieves (retrieveData hz _) _ (retrieve_data_retrieves hz _) fun _ => trivial

theorem force_snapshot_only (hz old_samp_rate : Nat) : Only Retrieves (forceSnapshot hz old_samp_rate : Act J Int) := by
  by_cases zero : old_samp_rate = 0
  · simp only [forceSnapshot, issue_bind, divide, if_pos zero]
    exact ⟨trivial, fun tstamp => ⟨trivial, fun _ => trivial⟩⟩
  · exact completes_only Retrieves _ (force_snapshot_retrieves hz old_samp_rate zero)

end Snapshots

theorem work_periodic_rfsh_completes : Completes Snapping (workPeriodicRfsh : Act Int Unit) := by
  have snaps := completes_mono Snaps Snapping _ snaps_snapping (reg_snapshot_snaps minUpdateWaitTime)
  exact completes_bind Snapping _ _ snaps fun _ => trivial

theorem retrieve_data_completes (hz wait_time : Nat) : Completes Retrieving (retrieveData hz wait_time : Act Int Int) :=
  completes_mono Retrieves Retrieving _ retrieves_retrieving (retrieve_data_retrieves hz wait_time)

theorem force_snapshot_completes (hz old_samp_rate : Nat) (positive : old_samp_rate ≠ 0) :
    Completes Retrieving (forceSnapshot hz old_samp_rate : Act Int Int) :=
  completes_mono Retrieves Retrieving _ retrieves_retrieving (force_snapshot_retrieves hz old_samp_rate positive)

theorem field_completes (source : Field) (chan : ChanSpec) : Completes Snapping (readField source chan : Act Int Reading) :=
  ⟨trivial, fun _ => trivial⟩

theorem energy_completes (chan : ChanSpec) : Completes Snapping (readEnergy chan : Act Int Reading) :=
  ⟨trivial, fun _ => trivial⟩

theorem served_completes (fits : Bool) (act : Act Int Reading) (completes : Completes Snapping act) :
    Completes Snapping (if fits = true then act else pure (failed EINVAL)) := by
  cases fits with
  | true => exact completes
  | false => trivial

theorem read_raw_data_completes (chan : ChanSpec) : Completes Snapping (readRawData chan : Act Int Reading) := by
  rw [readRawData]
  cases chan.type with
  | voltage => exact served_completes _ _ (field_completes .vbus chan)
  | current => exact served_completes _ _ (field_completes .vsense chan)
  | power => exact served_completes _ _ (field_completes .vpower chan)
  | _ => trivial

theorem read_average_raw_completes (chan : ChanSpec) : Completes Snapping (readAverageRaw chan : Act Int Reading) := by
  rw [readAverageRaw]
  cases chan.type with
  | voltage => exact served_completes _ _ (field_completes .vbus_avg chan)
  | current => exact served_completes _ _ (field_completes .vsense_avg chan)
  | energy => exact served_completes _ _ (energy_completes chan)
  | _ => trivial

theorem loads_snapping (cmd : Cmd Int) (loads : Loads cmd) : Snapping cmd := by
  cases cmd with
  | shunt channel => trivial
  | sampleRate => trivial
  | _ => exact loads.elim

theorem read_data_only (chan : ChanSpec) (mask : Mask) : Only Snapping (readData chan mask : Act Int Reading) := by
  cases data : mask.data with
  | false => exact only_mono Loads Snapping _ loads_snapping (read_data_loads chan mask data)
  | true =>
      cases read_data_split chan mask data with
      | inl found =>
          obtain ⟨_, source, channel, rest, same, only⟩ := found
          rw [same]
          exact ⟨trivial, fun value => only_mono Loads Snapping _ loads_snapping (only value)⟩
      | inr refused =>
          rw [refused]
          trivial

theorem write_raw_only (hz : Nat) (val : Int) (mask : Mask) : Only Calling (writeRaw hz val mask : Act Int Int) := by
  simp only [writeRaw, issue_bind]
  refine ⟨trivial, fun enabled => ?_⟩
  dsimp only
  split
  · trivial
  · cases mask with
    | samp_freq =>
        apply only_bind
        · rw [matchSampRate]
          split
          · exact ⟨trivial, fun _ => trivial⟩
          · trivial
        · intro unmatched
          split
          · trivial
          · simp only [writeSampRate, issue_bind]
            refine ⟨trivial, fun old => ⟨trivial, fun _ => ⟨trivial, fun _ => ⟨trivial, fun code => ⟨trivial, fun ret => ⟨trivial, fun _ => ?_⟩⟩⟩⟩⟩⟩
            split
            · trivial
            · have retrieving := only_mono Retrieves Retrieving _ retrieves_retrieving (force_snapshot_only hz old)
              exact only_mono Retrieving Calling _ retrieving_calling retrieving
    | _ => trivial

end SummitSom.Pac193x
