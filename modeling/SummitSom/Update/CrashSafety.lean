import SummitSom.Interact.Life
import SummitSom.Update.FwCommands
import SummitSom.Update.SwDescription

set_option autoImplicit false

namespace SummitSom.Update

open Interact Shell

-- The eMMC as the updates see it. A piece of a partition holds the number of
-- the update that installed it completely, the initial installation being
-- number 0, or nothing when it may hold anything else.
structure Emmc where
  running : Side
  selector : Nat
  stamp : Nat
  content : Cell → Option Nat
  written : List Partition

-- set_bootside with the boot partition that get_boot_side reads.
def bootside (selector : Nat) : Side := if selector = 2 then .b else .a

def Emmc.begin (s : Emmc) : Emmc := { s with stamp := s.stamp + 1 }

def Emmc.boot (s : Emmc) : Emmc := { s with running := bootside s.selector, written := [] }

def Emmc.Complete (s : Emmc) (side : Side) : Prop :=
  ∃ update, ∀ cell ∈ (block side).cells, s.content cell = some update

structure Emmc.Initial (s : Emmc) : Prop where
  selected : bootside s.selector = s.running
  stamp : s.stamp = 0
  installed : ∀ cell ∈ (block s.running).cells, s.content cell = some 0
  others : ∀ cell, s.content cell = some 0 ∨ s.content cell = none
  written : s.written = []

def Emmc.Disturbed (s t : Emmc) (partition : Partition) (disturbs : Cell → Bool) : Prop :=
  ∃ content, t = { s with content := content, written := partition :: s.written } ∧
    ∀ cell, disturbs cell = false → content cell = s.content cell

-- erase_data.sh either leaves its target alone or makes a file system there.
def swWorld : World SwCmd (fun _ => Nat) Emmc where
  midst s cmd t :=
    match cmd with
    | .write write => s.Disturbed t write.cell.partition write.disturbs
    | .eraseData _ target => t = s ∨ s.Disturbed t target fun cell => cell.partition = target
    | .bootpartEnable part => t = s ∨ t = { s with selector := part }
    | .sync | .extcsdGrep _ | .sleep => t = s
  reply s cmd status t :=
    match cmd with
    | .write write =>
        s.Disturbed t write.cell.partition write.disturbs ∧ (status = 0 → t.content write.cell = some s.stamp)
    | .eraseData _ target =>
        t = s ∨ ((s.Disturbed t target fun cell => cell.partition = target) ∧
          (status = 0 → t.content ⟨target, .filesystem⟩ = some s.stamp))
    | .bootpartEnable part => t = s ∨ t = { s with selector := part }
    | .extcsdGrep part => t = s ∧ (status = 0 → s.selector = part)
    | .sync | .sleep => t = s

-- swupdate-client answers 0 only when every step of the block succeeded; with
-- another status, or while it runs, the block may have come to any point. All
-- else that fw_update runs on an eMMC leaves both sides and the selector alone.
def fwWorld (sw : World SwCmd (fun _ => Nat) Emmc) : World Cmd Answer Emmc where
  midst s cmd t :=
    match cmd with
    | .swupdateClient selection _ _ =>
        t = s ∨ ∃ chosen, selectBlock selection = some chosen ∧ Seen sw (swupdate chosen) s.begin t
    | _ => t = s
  reply s cmd answer t :=
    match cmd, answer with
    | .swupdateClient selection _ _, status =>
        if status = 0 then ∃ chosen, selectBlock selection = some chosen ∧ Ends sw (swupdate chosen) s.begin (.ok ()) t
        else t = s ∨ ∃ chosen, selectBlock selection = some chosen ∧ Seen sw (swupdate chosen) s.begin t
    | _, _ => t = s

def ask (s : Emmc) (program : Script Unit) : Prop :=
  ∃ facts args, program = fwUpdate facts args ∧ facts.bootside = s.running.name ∧ runOnSd facts = false ∧
    ∀ found ∈ (getopts optionSpec none args).1, found.name ≠ 'm' ∧ found.name ≠ 's'

abbrev FwMoment (sw : World SwCmd (fun _ => Nat) Emmc) (origin s : Emmc) : Prop :=
  Moment (fwWorld sw) ask (fun t u => u = t.boot) origin s

def SwCmd.Overwrites : SwCmd → Prop
  | .write _ | .eraseData _ _ => True
  | _ => False

-- The other side is written only while the running side is still the selected
-- one, as it is until an update has switched the selector.
def Unswitched (s : Emmc) (cmd : SwCmd) : Prop := cmd.Overwrites → bootside s.selector = s.running

def guarded : World SwCmd (fun _ => Nat) Emmc := swWorld.admitting Unswitched

structure Emmc.Sound (s : Emmc) : Prop where
  complete : s.Complete (bootside s.selector)
  untouched : ∀ partition ∈ s.written, partition.side ≠ s.running

structure Filled (side : Side) (writes : List Write) (s : Emmc) : Prop where
  sound : s.Sound
  running : s.running = side.other
  installed : ∀ write ∈ writes, s.content write.cell = some s.stamp

theorem side_other_ne (side : Side) : side ≠ side.other := by
  cases side <;> decide

theorem initial_sound (s : Emmc) (initial : s.Initial) : s.Sound := by
  refine ⟨⟨0, ?_⟩, ?_⟩
  · rw [initial.selected]
    exact initial.installed
  · simp [initial.written]

theorem boot_sound (s : Emmc) (sound : s.Sound) : s.boot.Sound :=
  ⟨sound.complete, by simp [Emmc.boot]⟩

theorem disturbed_sound (side : Side) (s t : Emmc) (partition : Partition) (disturbs : Cell → Bool)
    (sound : s.Sound) (running : s.running = side.other) (selected : bootside s.selector = s.running)
    (aside : partition.side = side) (within : ∀ cell, disturbs cell = true → cell.partition = partition)
    (disturbed : s.Disturbed t partition disturbs) : t.Sound := by
  obtain ⟨content, rfl, kept⟩ := disturbed
  obtain ⟨update, complete⟩ := sound.complete
  refine ⟨⟨update, fun cell member => ?_⟩, fun other member => ?_⟩
  · have away : disturbs cell = false := by
      by_contra hit
      have own := within cell (by simpa using hit)
      have cellSide := block_cells_side _ cell member
      rw [own, aside, selected, running] at cellSide
      exact side_other_ne side cellSide
    exact (kept cell away).trans (complete cell member)
  · cases List.mem_cons.mp member with
    | inl same =>
        subst same
        rw [aside, running]
        exact side_other_ne side
    | inr before => exact sound.untouched other before

theorem write_safe (side : Side) (write : Write) (s t : Emmc) (member : write ∈ (block side).writes)
    (sound : s.Sound) (running : s.running = side.other) (selected : bootside s.selector = s.running)
    (disturbed : s.Disturbed t write.cell.partition write.disturbs) : t.Sound :=
  disturbed_sound side s t _ _ sound running selected (block_writes_side side write member)
    (write_disturbs_partition write) disturbed

theorem write_filled (side : Side) (done : List Write) (write : Write) (s t : Emmc)
    (filled : Filled side done s) (member : write ∈ (block side).writes)
    (apart : ∀ earlier ∈ done, write.disturbs earlier.cell = false) (selected : bootside s.selector = s.running)
    (disturbed : s.Disturbed t write.cell.partition write.disturbs) (intact : t.content write.cell = some s.stamp) :
    Filled side (done ++ [write]) t := by
  have sound := write_safe side write s t member filled.sound filled.running selected disturbed
  obtain ⟨content, rfl, kept⟩ := disturbed
  refine ⟨sound, filled.running, fun entry entryMember => ?_⟩
  cases List.mem_append.mp entryMember with
  | inl earlier => exact (kept entry.cell (apart entry earlier)).trans (filled.installed entry earlier)
  | inr last =>
      obtain rfl := List.mem_singleton.mp last
      exact intact

theorem run_writes_safe (side : Side) (done todo : List Write) (s : Emmc)
    (parts : (block side).writes = done ++ todo) (filled : Filled side done s) :
    Safe guarded Emmc.Sound (fun result t => t.Sound ∧ (result = .ok () → Filled side (block side).writes t))
      (runWrites todo) s := by
  induction todo generalizing done s with
  | nil =>
      refine ⟨filled.sound, filled.sound, fun _ => ?_⟩
      simpa only [parts, List.append_nil] using filled
  | cons write rest ih =>
      have member : write ∈ (block side).writes := by simp [parts]
      have apart : ∀ earlier ∈ done, write.disturbs earlier.cell = false := by
        have pairwise := block_writes_apart side
        rw [parts] at pairwise
        intro earlier before
        exact (List.pairwise_append.mp pairwise).2.2 earlier before write (by simp)
      refine ⟨filled.sound, fun t midst => ?_, fun status t reply => ?_⟩
      · exact write_safe side write s t member filled.sound filled.running (midst.1 trivial) midst.2
      · obtain ⟨admitted, disturbed, intact⟩ := reply
        by_cases succeeded : status = 0
        · simp only [if_pos succeeded]
          apply ih (done ++ [write]) t (by simp [parts])
          exact write_filled side done write s t filled member apart (admitted trivial) disturbed (intact succeeded)
        · simp only [if_neg succeeded, safe_stop]
          have sound := write_safe side write s t member filled.sound filled.running (admitted trivial) disturbed
          exact ⟨sound, sound, by simp⟩

theorem erase_filled (side : Side) (target : Partition) (s t : Emmc) (filled : Filled side (block side).writes s)
    (only : ∀ write ∈ (block side).writes, write.cell.partition = target → write.cell = ⟨target, .filesystem⟩)
    (sound : t.Sound) (disturbed : s.Disturbed t target fun cell => cell.partition = target)
    (intact : t.content ⟨target, .filesystem⟩ = some s.stamp) : Filled side (block side).writes t := by
  obtain ⟨content, rfl, kept⟩ := disturbed
  refine ⟨sound, filled.running, fun write member => ?_⟩
  by_cases inside : write.cell.partition = target
  · rw [only write member inside]
    exact intact
  · exact (kept write.cell (by simpa using inside)).trans (filled.installed write member)

theorem selected_filled (side : Side) (part : Nat) (s : Emmc) (filled : Filled side (block side).writes s)
    (chosen : bootside part = side) : Filled side (block side).writes { s with selector := part } := by
  refine ⟨⟨⟨s.stamp, fun cell member => ?_⟩, filled.sound.untouched⟩, filled.running, filled.installed⟩
  simp only [chosen, Block.cells, List.mem_map] at member
  obtain ⟨write, entry, rfl⟩ := member
  exact filled.installed write entry

theorem select_part_safe (side : Side) (part timeout : Nat) (s : Emmc) (chosen : bootside part = side)
    (filled : Filled side (block side).writes s) :
    Safe guarded Emmc.Sound (fun _ => Emmc.Sound) (selectPart part timeout) s := by
  induction timeout generalizing s with
  | zero => exact ⟨filled.sound, filled.sound⟩
  | succ timeout ih =>
      have enabled (t : Emmc) (either : t = s ∨ t = { s with selector := part }) :
          Filled side (block side).writes t := by
        cases either with
        | inl same =>
            subst same
            exact filled
        | inr same =>
            subst same
            exact selected_filled side part s filled chosen
      refine ⟨filled.sound, fun t midst => midst.2 ▸ filled.sound, ?_⟩
      intro _ _ given
      obtain ⟨_, rfl⟩ := given
      refine ⟨filled.sound, fun t midst => (enabled t midst.2).sound, ?_⟩
      intro _ t given
      obtain ⟨_, either⟩ := given
      have kept := enabled t either
      refine ⟨kept.sound, fun u midst => midst.2 ▸ kept.sound, ?_⟩
      intro status _ given
      obtain ⟨_, rfl, _⟩ := given
      by_cases succeeded : status = 0
      · simp only [if_pos succeeded]
        exact ⟨kept.sound, kept.sound⟩
      · simp only [if_neg succeeded]
        refine ⟨kept.sound, fun u midst => midst.2 ▸ kept.sound, ?_⟩
        intro _ _ given
        obtain ⟨_, rfl⟩ := given
        exact ih _ kept

theorem run_scripts_safe (side : Side) (s : Emmc) (filled : Filled side (block side).writes s) :
    Safe guarded Emmc.Sound (fun _ => Emmc.Sound) (runScripts (block side).scripts) s := by
  obtain ⟨source, target, aside, only, scripts⟩ := block_scripts side
  rw [scripts]
  have erased (t : Emmc) (selected : bootside s.selector = s.running)
      (either : t = s ∨ s.Disturbed t target fun cell => cell.partition = target) : t.Sound := by
    cases either with
    | inl same =>
        subst same
        exact filled.sound
    | inr disturbed =>
        exact disturbed_sound side s t target _ filled.sound filled.running selected aside (by simp) disturbed
  refine ⟨filled.sound, fun t midst => erased t (midst.1 trivial) midst.2, fun status t reply => ?_⟩
  obtain ⟨admitted, either⟩ := reply
  have sound := erased t (admitted trivial) (either.imp_right And.left)
  by_cases succeeded : status = 0
  · simp only [if_pos succeeded]
    have kept : Filled side (block side).writes t := by
      cases either with
      | inl same =>
          subst same
          exact filled
      | inr found =>
          obtain ⟨disturbed, intact⟩ := found
          exact erase_filled side target s t filled only sound disturbed (intact succeeded)
    have selects := select_part_safe side (if side.name = "b" then 2 else 1) 10 t (by cases side <;> decide) kept
    exact safe_then _ _ _ _ _ _ t selects (fun _ u after => ⟨after, after⟩) fun _ _ => id
  · simp only [if_neg succeeded]
    exact ⟨sound, sound⟩

theorem swupdate_safe (side : Side) (s : Emmc) (sound : s.Sound) (running : s.running = side.other) :
    Safe guarded Emmc.Sound (fun _ => Emmc.Sound) (swupdate (block side)) s := by
  have writes := run_writes_safe side [] (block side).writes s rfl ⟨sound, running, by simp⟩
  refine safe_then _ _ _ _ _ _ s writes (fun _ t filled => ?_) fun _ t failed => failed.1
  exact run_scripts_safe side t (filled.2 rfl)

theorem apply_option_full (vars changed : Vars) (found : Found) (plain : found.name ≠ 'm' ∧ found.name ≠ 's')
    (applied : applyOption vars found = some changed) :
    changed.o_method = vars.o_method ∧ changed.o_side = vars.o_side := by
  unfold applyOption at applied
  split at applied
  · next name => exact absurd name plain.1
  · next name => exact absurd name plain.2
  · split at applied <;> (obtain rfl := Option.some.inj applied; exact ⟨rfl, rfl⟩)
  · obtain rfl := Option.some.inj applied
    exact ⟨rfl, rfl⟩
  · obtain rfl := Option.some.inj applied
    exact ⟨rfl, rfl⟩
  · cases applied

theorem options_full (found : List Found) (vars changed : Vars)
    (plain : ∀ option ∈ found, option.name ≠ 'm' ∧ option.name ≠ 's')
    (applied : found.foldlM applyOption vars = some changed) :
    changed.o_method = vars.o_method ∧ changed.o_side = vars.o_side := by
  induction found generalizing vars with
  | nil =>
      obtain rfl := Option.some.inj applied
      exact ⟨rfl, rfl⟩
  | cons option rest ih =>
      rw [List.foldlM_cons] at applied
      cases turned : applyOption vars option with
      | none => simp [turned] at applied
      | some next =>
          simp only [turned, Option.bind_eq_bind, Option.bind_some] at applied
          have first := apply_option_full vars next option (plain option (by simp)) turned
          have rest := ih next (fun other member => plain other (by simp [member])) applied
          exact ⟨rest.1.trans first.1, rest.2.trans first.2⟩

theorem accepted_full (facts : Boot) (args : List String) (vars : Vars) (url : String) (side : Side)
    (running : facts.bootside = side.name) (notSd : runOnSd facts = false)
    (plain : ∀ found ∈ (getopts optionSpec none args).1, found.name ≠ 'm' ∧ found.name ≠ 's')
    (parsed : accepted facts args = some (vars, url)) : vars.o_method = "full" ∧ vars.o_side = side.other.name := by
  unfold accepted at parsed
  split at parsed
  · cases parsed
  · obtain ⟨chosen, folded, same⟩ := Option.map_eq_some_iff.mp parsed
    obtain rfl : chosen = vars := (Prod.mk.inj same).1
    have kept := options_full _ _ _ plain folded
    rw [kept.1, kept.2]
    refine ⟨by simp [defaults, notSd], ?_⟩
    cases side <;> simp [defaults, running, Side.name, Side.other]

theorem fw_update_selects (facts : Boot) (args : List String) (side : Side)
    (running : facts.bootside = side.name) (notSd : runOnSd facts = false)
    (plain : ∀ found ∈ (getopts optionSpec none args).1, found.name ≠ 'm' ∧ found.name ≠ 's') :
    Only (fun cmd => ∀ selection verbose package, cmd = .swupdateClient selection verbose package →
      selectBlock selection = some (block side.other)) (fwUpdate facts args) := by
  refine fw_update_only _ facts args ?_ ?_ ?_
  · intro cmd _ spares selection verbose package same
    subst same
    exact absurd trivial spares
  · intro vars url _ _ cmd erases selection verbose package same
    subst same
    exact erases.elim
  · intro vars url p_method parsed chosen verbose package selection _ _ same
    obtain ⟨rfl, rfl, rfl⟩ := Cmd.swupdateClient.inj same
    obtain ⟨method, other⟩ := accepted_full facts args vars url side running notSd plain parsed
    simp [methodGuard, method, notSd, other, Yields] at chosen
    rw [← chosen]
    exact select_block_full side.other

theorem swupdate_running (chosen : Block) (s t : Emmc) (seen : Seen guarded (swupdate chosen) s t) :
    t.running = s.running := by
  have disturbed (s t : Emmc) (partition : Partition) (disturbs : Cell → Bool)
      (changed : s.Disturbed t partition disturbs) : t.running = s.running := by
    obtain ⟨content, rfl, _⟩ := changed
    rfl
  refine seen_keeps guarded (fun t => t.running = s.running) _ s t rfl ?_ ?_ seen
  · intro t cmd u same given
    obtain ⟨_, midst⟩ := given
    cases cmd with
    | write write => exact (disturbed t u _ _ midst).trans same
    | eraseData source target =>
        cases midst with
        | inl same =>
            subst same
            exact same
        | inr changed => exact (disturbed t u _ _ changed).trans same
    | bootpartEnable part => rcases midst with rfl | rfl <;> exact same
    | _ =>
        obtain rfl : u = t := midst
        exact same
  · intro t cmd status u same given
    obtain ⟨_, reply⟩ := given
    cases cmd with
    | write write => exact (disturbed t u _ _ reply.1).trans same
    | eraseData source target =>
        cases reply with
        | inl same =>
            subst same
            exact same
        | inr found =>
            obtain ⟨changed, _⟩ := found
            exact (disturbed t u _ _ changed).trans same
    | bootpartEnable part => rcases reply with rfl | rfl <;> exact same
    | extcsdGrep part =>
        obtain ⟨rfl, _⟩ := reply
        exact same
    | _ =>
        obtain rfl : u = t := reply
        exact same

theorem begin_sound (s : Emmc) (sound : s.Sound) : s.begin.Sound :=
  ⟨sound.complete, sound.untouched⟩

theorem fw_update_safe (s : Emmc) (program : Script Unit) (sound : s.Sound) (asked : ask s program) :
    Safe (fwWorld guarded) Emmc.Sound (fun _ => Emmc.Sound) program s := by
  obtain ⟨facts, args, rfl, side, notSd, plain⟩ := asked
  have installing (t u : Emmc) (chosen : Block) (kept : t.Sound ∧ t.running = s.running)
      (other : chosen = block s.running.other) (seen : Seen guarded (swupdate chosen) t.begin u) :
      u.Sound ∧ u.running = s.running := by
    subst other
    have apart : t.begin.running = s.running.other.other := by
      have same : t.begin.running = s.running := kept.2
      rw [same]
      cases s.running <;> rfl
    refine ⟨?_, (swupdate_running _ _ u seen).trans kept.2⟩
    exact safe_seen _ _ _ _ _ _ (swupdate_safe s.running.other t.begin (begin_sound t kept.1) apart) seen
  have midway (t u : Emmc) (selection : String) (kept : t.Sound ∧ t.running = s.running)
      (selects : selectBlock selection = some (block s.running.other))
      (either : u = t ∨ ∃ chosen, selectBlock selection = some chosen ∧ Seen guarded (swupdate chosen) t.begin u) :
      u.Sound ∧ u.running = s.running := by
    cases either with
    | inl same =>
        subst same
        exact kept
    | inr found =>
        obtain ⟨chosen, selected, seen⟩ := found
        exact installing t u chosen kept (Option.some.inj (selects.symm.trans selected)).symm seen
  have safe := only_safe (fwWorld guarded) _ (fun t => t.Sound ∧ t.running = s.running) _ s
    (fw_update_selects facts args s.running side notSd plain) ⟨sound, rfl⟩ ?_ ?_
  · exact safe_mono _ _ _ _ _ _ s safe (fun t kept => kept.1) (fun result t kept _ => kept.1)
  · intro t cmd u selects kept midst
    cases cmd with
    | swupdateClient selection verbose package => exact midway t u selection kept (selects _ _ _ rfl) midst
    | _ =>
        obtain rfl : u = t := midst
        exact kept
  · intro t cmd answer u selects kept reply
    cases cmd with
    | swupdateClient selection verbose package =>
        by_cases succeeded : answer = 0
        · simp only [fwWorld, if_pos succeeded] at reply
          obtain ⟨chosen, selected, ended⟩ := reply
          have other := (selects _ _ _ rfl).symm.trans selected
          exact installing t u chosen kept (Option.some.inj other).symm (ends_seen _ _ _ _ _ ended)
        · simp only [fwWorld, if_neg succeeded] at reply
          exact midway t u selection kept (selects _ _ _ rfl) reply
    | _ =>
        obtain rfl : u = t := reply
        exact kept

def factory : Emmc where
  running := .a
  selector := 1
  stamp := 0
  content _ := some 0
  written := []

theorem factory_initial : factory.Initial :=
  ⟨rfl, rfl, fun _ _ => rfl, fun _ => .inl rfl, rfl⟩

def swHandler (status : Nat) (s : Emmc) (cmd : SwCmd) : Nat × Emmc :=
  match cmd with
  | .write write =>
      (status, { s with
        content := fun cell =>
          if write.disturbs cell then (if status = 0 ∧ cell = write.cell then some s.stamp else none) else s.content cell
        written := write.cell.partition :: s.written })
  | .bootpartEnable part => (0, { s with selector := part })
  | .extcsdGrep part => (if s.selector = part then 0 else 1, s)
  | .eraseData _ _ | .sync | .sleep => (0, s)

def fwHandler (status : Nat) (s : Emmc) (cmd : Cmd) : Answer cmd × Emmc :=
  match cmd with
  | .swupdateClient selection _ _ =>
      match selectBlock selection with
      | none => (1, s)
      | some chosen =>
          match eval (swHandler status) (swupdate chosen) s.begin with
          | (.ok _, t) => (0, t)
          | (.error _, t) => (1, t)
  | .grepUbi | .hookExecutable | .readable _ | .curlExecutable | .wgetExecutable | .migrateExecutable => (true, s)
  | .deviceUpdate _ | .curlProbe _ | .wgetProbe _ | .flashCleanup | .flashFormat | .migrateData | .reboot => ((0 : Nat), s)
  | .flashFactoryTest => (.status 0, s)

theorem sw_handler_obeys (status : Nat) (s : Emmc) (cmd : SwCmd) :
    swWorld.reply s cmd (swHandler status s cmd).1 (swHandler status s cmd).2 := by
  cases cmd with
  | write write =>
      refine ⟨⟨_, rfl, fun cell away => by simp [away]⟩, ?_⟩
      intro succeeded
      have succeeded : status = 0 := succeeded
      simp [swHandler, succeeded, write_disturbs_own]
  | eraseData source target => exact .inl rfl
  | bootpartEnable part => exact .inr rfl
  | extcsdGrep part =>
      refine ⟨rfl, ?_⟩
      simp [swHandler]
  | sync => rfl
  | sleep => rfl

def swAble (s : Emmc) (cmd : SwCmd) : Bool :=
  match cmd with
  | .write _ | .eraseData _ _ => bootside s.selector = s.running
  | _ => true

def fwAble (status : Nat) (able : Emmc → SwCmd → Bool) (s : Emmc) (cmd : Cmd) : Bool :=
  match cmd with
  | .swupdateClient selection _ _ =>
      (selectBlock selection).all fun chosen => manages (swHandler status) able (swupdate chosen) s.begin
  | _ => true

theorem sw_handler_guarded (status : Nat) (s : Emmc) (cmd : SwCmd) (able : swAble s cmd = true) :
    guarded.reply s cmd (swHandler status s cmd).1 (swHandler status s cmd).2 := by
  refine ⟨fun writes => ?_, sw_handler_obeys status s cmd⟩
  cases cmd with
  | write write => simpa [swAble] using able
  | eraseData source target => simpa [swAble] using able
  | bootpartEnable part => exact writes.elim
  | extcsdGrep part => exact writes.elim
  | sync => exact writes.elim
  | sleep => exact writes.elim

theorem fw_handler_obeys (sw : World SwCmd (fun _ => Nat) Emmc) (status : Nat) (able : Emmc → SwCmd → Bool)
    (obeys : ∀ s cmd, able s cmd = true → sw.reply s cmd (swHandler status s cmd).1 (swHandler status s cmd).2)
    (s : Emmc) (cmd : Cmd) (managed : fwAble status able s cmd = true) :
    (fwWorld sw).reply s cmd (fwHandler status s cmd).1 (fwHandler status s cmd).2 := by
  cases cmd with
  | swupdateClient selection verbose package =>
      cases selected : selectBlock selection with
      | none => simp [fwHandler, fwWorld, selected]
      | some chosen =>
          rw [fwAble, selected, Option.all_some] at managed
          have ended := ends_managed sw (swHandler status) able (swupdate chosen) s.begin obeys managed
          cases result : eval (swHandler status) (swupdate chosen) s.begin with
          | mk outcome t =>
              rw [result] at ended
              cases outcome with
              | ok value =>
                  simp only [fwHandler, fwWorld, selected, result, if_true]
                  exact ⟨chosen, rfl, ended⟩
              | error code =>
                  simp only [fwHandler, fwWorld, selected, result, Nat.one_ne_zero, if_false]
                  exact .inr ⟨chosen, rfl, ends_seen _ _ _ _ _ ended⟩
  | _ => rfl

theorem fw_update_ends (sw : World SwCmd (fun _ => Nat) Emmc) (status : Nat) (able : Emmc → SwCmd → Bool)
    (obeys : ∀ s cmd, able s cmd = true → sw.reply s cmd (swHandler status s cmd).1 (swHandler status s cmd).2)
    (program : Script Unit) (s : Emmc) (managed : manages (fwHandler status) (fwAble status able) program s = true) :
    Ends (fwWorld sw) program s (eval (fwHandler status) program s).1 (eval (fwHandler status) program s).2 :=
  ends_managed (fwWorld sw) (fwHandler status) _ program s (fw_handler_obeys sw status able obeys) managed

-- One call of fw_update on the side that runs.
def updateFrom (running : Side) : Script Unit := fwUpdate ⟨"mmcblk2p2", "MMC", running.name⟩ ["-x", "r", "/tmp/som.swu"]

theorem update_from_asked (s : Emmc) : ask s (updateFrom s.running) := by
  have notSd (side : Side) : runOnSd ⟨"mmcblk2p2", "MMC", side.name⟩ = false := by
    cases side <;> decide
  exact ⟨_, _, rfl, rfl, notSd s.running, by decide⟩

def afterFirst : Emmc := (eval (fwHandler 0) (updateFrom .a) factory).2

-- Updates interrupted anywhere keep a complete side selected, as long as the
-- other side is only written while the running one is selected.
theorem unswitched_updates_sound (origin s : Emmc) (initial : origin.Initial) (moment : FwMoment guarded origin s) :
    s.Complete (bootside s.selector) ∧ ∀ partition ∈ s.written, partition.side ≠ s.running := by
  have sound : s.Sound := by
    refine life_moments (fwWorld guarded) ask _ origin Emmc.Sound Emmc.Sound (initial_sound origin initial)
      (fun _ => id) (fun t program held asked => fw_update_safe t program held asked) ?_ s moment
    intro t u held same
    subst same
    exact boot_sound t held
  exact ⟨sound.complete, sound.untouched⟩

-- An update, the reboot into side b, and a second update whose first format fails.
theorem unswitched_updates_sound_rebooted :
    let s := (eval (fwHandler 1) (updateFrom .b) afterFirst.boot).2
    (s.selector = 2 ∧ s.running = .b ∧ s.written = [.p1]) ∧
      s.Complete (bootside s.selector) ∧ ∀ partition ∈ s.written, partition.side ≠ s.running := by
  have first : Life (fwWorld guarded) ask (fun t u => u = t.boot) factory afterFirst :=
    .finish _ factory afterFirst _ .start (update_from_asked factory)
      (fw_update_ends guarded 0 swAble (sw_handler_guarded 0) (updateFrom .a) factory (by decide +kernel))
  have second := fw_update_ends guarded 1 swAble (sw_handler_guarded 1) (updateFrom .b) afterFirst.boot (by decide +kernel)
  refine ⟨by decide +kernel, ?_⟩
  exact unswitched_updates_sound factory _ factory_initial
    (.rest _ (.finish _ afterFirst.boot _ _ (.reboot _ _ first rfl) (update_from_asked afterFirst.boot) second))

-- Two updates without a reboot between them: the second one formats and fails
-- in the side that the first one has selected.
def afterSecond : Emmc := (eval (fwHandler 1) (updateFrom .a) afterFirst).2

theorem repeated_update_breaks_selected_side :
    ¬ ∀ origin s : Emmc, origin.Initial → FwMoment swWorld origin s →
      s.Complete (bootside s.selector) ∧ ∀ partition ∈ s.written, partition.side ≠ s.running := by
  intro safe
  have first : Life (fwWorld swWorld) ask (fun t u => u = t.boot) factory afterFirst :=
    .finish _ factory afterFirst _ .start (update_from_asked factory)
      (fw_update_ends swWorld 0 (fun _ _ => true) (fun s cmd _ => sw_handler_obeys 0 s cmd) (updateFrom .a) factory
        (by decide +kernel))
  have second : Life (fwWorld swWorld) ask (fun t u => u = t.boot) factory afterSecond :=
    .finish _ afterFirst afterSecond _ first (update_from_asked afterFirst)
      (fw_update_ends swWorld 1 (fun _ _ => true) (fun s cmd _ => sw_handler_obeys 1 s cmd) (updateFrom .a) afterFirst
        (by decide +kernel))
  obtain ⟨update, complete⟩ := (safe factory afterSecond factory_initial (.rest _ second)).1
  have selected : bootside afterSecond.selector = .b := by decide
  have formatted : afterSecond.content ⟨.p4, .filesystem⟩ = none := by decide
  have installed := complete ⟨.p4, .filesystem⟩ (by rw [selected]; decide)
  rw [formatted] at installed
  cases installed

end SummitSom.Update
