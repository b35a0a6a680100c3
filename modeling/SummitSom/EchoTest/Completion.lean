import SummitSom.EchoTest.Protocol
import SummitSom.Interact.Measured

set_option autoImplicit false

namespace SummitSom.EchoTest

open Fifo

section Setup

variable (setup : Setup)

def Event.expired : Event → Bool
  | .write _ => false
  | .read expired => expired
  | .leave => false
  | .echo expired => expired
  | .carryToEcho => false
  | .carryToSender => false

-- No wait runs out at this event.
abbrev Event.Timely (event : Event) : Prop := event.expired = false

structure Going (link : Link) : Prop where
  kept : Kept setup link
  complete : link.stage ≠ .incomplete
  more : link.do_more = true

-- The steps of one packet: it is written and read, and each byte is carried
-- twice and echoed at most once.
def perPacket : Nat := 4 * setup.pkt_len + 2

def stageLeft (link : Link) : Nat :=
  match link.stage with
  | .loop => (setup.pkt_count - link.npkt) * perPacket setup + 1
  | .reading _ => (setup.pkt_count - link.npkt - 1) * perPacket setup + 2
  | .mismatch => 0
  | .incomplete => 0
  | .passed => 0

def stepsLeft (link : Link) : Nat :=
  stageLeft setup link + (link.toEcho.load + 2 * link.toEcho.bytes.length) + link.toSender.load

theorem opened_going : Going setup Link.opened :=
  ⟨opened_kept setup, fun place => Stage.noConfusion place, rfl⟩

theorem write_lessens (some_packets : 0 < setup.pkt_count) (link next : Link) (pkt_write : List UInt8)
    (stepped : testWrite setup link pkt_write = some next) : stepsLeft setup next < stepsLeft setup link := by
  rw [testWrite] at stepped
  split at stepped
  · next able =>
      cases stepped
      obtain ⟨place, count, length⟩ := able
      have missing : link.npkt < setup.pkt_count := count.resolve_left (Nat.ne_of_gt some_packets)
      obtain ⟨others, packets⟩ : ∃ others, setup.pkt_count - link.npkt = others + 1 := ⟨_, (Nat.succ_pred (by omega)).symm⟩
      simp only [stepsLeft, stageLeft, place, put_bytes, put_load, List.length_append, length, packets, Nat.add_sub_cancel,
        Nat.succ_mul, perPacket]
      omega
  · cases stepped

theorem leave_lessens (link next : Link) (stepped : testLeave setup link = some next) :
    stepsLeft setup next < stepsLeft setup link := by
  rw [testLeave] at stepped
  split at stepped
  · next able =>
      cases stepped
      simp only [stepsLeft, stageLeft, able.1]
      omega
  · cases stepped

theorem read_lessens (link next : Link) (stepped : testRead setup link false = some next) :
    stepsLeft setup next < stepsLeft setup link := by
  rw [testRead] at stepped
  split at stepped
  · next pkt_write place =>
      obtain ⟨⟨pkt_read, wire⟩, got, rfl⟩ := Option.map_eq_some_iff.mp stepped
      obtain ⟨_, _, load⟩ := read_full _ _ _ _ _ got
      have after : stageLeft setup { link with stage := .loop, npkt := link.npkt + 1, toSender := wire } + 1 = stageLeft setup link := by
        simp only [stageLeft, place, Nat.sub_sub]
      have before : 2 ≤ stageLeft setup link := by
        simp only [stageLeft, place]
        exact Nat.le_add_left 2 _
      dsimp only
      rw [checkPacket]
      split
      · split
        · simp only [stepsLeft, stageLeft] at after ⊢
          omega
        · simp only [stepsLeft, stageLeft] at before ⊢
          omega
      · split
        · simp only [stepsLeft, stageLeft] at before ⊢
          omega
        · simp only [stepsLeft, stageLeft] at after ⊢
          omega
  · cases stepped

theorem echo_lessens (longer : 0 < setup.echo_len) (link next : Link) (stepped : echoRead setup link false = some next) :
    stepsLeft setup next < stepsLeft setup link ∧ next.do_more = true := by
  rw [echoRead] at stepped
  split at stepped
  · next more =>
      obtain ⟨⟨pkt, wire⟩, got, rfl⟩ := Option.map_eq_some_iff.mp stepped
      obtain ⟨full, parts, load⟩ := read_full _ _ _ _ _ got
      have nonempty : pkt ≠ [] := List.ne_nil_of_length_pos (full ▸ longer)
      have lengths := congrArg List.length parts
      rw [List.length_append, full] at lengths
      dsimp only
      rw [if_pos ⟨nonempty, full⟩]
      refine ⟨?_, more⟩
      simp only [stepsLeft, stageLeft, put_load, full]
      omega
  · cases stepped

theorem carry_lessens (link : Link) (wire : Wire UInt8) :
    (link.toEcho.carry = some wire → stepsLeft setup { link with toEcho := wire } < stepsLeft setup link) ∧
      (link.toSender.carry = some wire → stepsLeft setup { link with toSender := wire } < stepsLeft setup link) := by
  constructor
  · intro carried
    obtain ⟨bytes, load⟩ := carry_some _ _ carried
    simp only [stepsLeft, stageLeft, bytes]
    omega
  · intro carried
    obtain ⟨_, load⟩ := carry_some _ _ carried
    simp only [stepsLeft, stageLeft]
    omega

-- A packet that is read in full does not count as incomplete.
theorem read_complete (longer : 0 < setup.pkt_len) (link next : Link) (stepped : testRead setup link false = some next) :
    next.stage ≠ .incomplete ∧ next.do_more = link.do_more := by
  rw [testRead] at stepped
  split at stepped
  · obtain ⟨⟨pkt_read, wire⟩, got, rfl⟩ := Option.map_eq_some_iff.mp stepped
    obtain ⟨full, _, _⟩ := read_full _ _ _ _ _ got
    have nonempty : pkt_read ≠ [] := List.ne_nil_of_length_pos (full ▸ longer)
    dsimp only
    rw [checkPacket, if_pos ⟨nonempty, full⟩]
    split
    · exact ⟨Stage.noConfusion, rfl⟩
    · exact ⟨Stage.noConfusion, rfl⟩
  · cases stepped

-- What both sides need for a test that can end: a sender that waits, a number of
-- packets, and lengths above zero.
structure Bounded : Prop where
  patient : setup.pkt_timeout ≠ 0
  packets : 0 < setup.pkt_count
  length : 0 < setup.pkt_len
  echo_length : 0 < setup.echo_len

theorem going_stage (link next : Link) (going : Going setup link) (kept : Kept setup next) (stage : next.stage = link.stage)
    (more : next.do_more = link.do_more) : Going setup next :=
  ⟨kept, fun place => going.complete (stage.symm.trans place), more.trans going.more⟩

theorem timely_lessens (bounded : Bounded setup) (link next : Link) (event : Event) (going : Going setup link)
    (timely : event.Timely) (stepped : step setup link event = some next) :
    Going setup next ∧ stepsLeft setup next < stepsLeft setup link := by
  have kept := step_kept setup bounded.patient link next event going.kept stepped
  cases event with
  | write pkt_write =>
      refine ⟨?_, write_lessens setup bounded.packets link next pkt_write stepped⟩
      rw [step, testWrite] at stepped
      split at stepped
      · cases stepped
        exact ⟨kept, Stage.noConfusion, going.more⟩
      · cases stepped
  | read expired =>
      have inTime : expired = false := timely
      subst inTime
      obtain ⟨complete, more⟩ := read_complete setup bounded.length link next stepped
      exact ⟨⟨kept, complete, more.trans going.more⟩, read_lessens setup link next stepped⟩
  | leave =>
      refine ⟨?_, leave_lessens setup link next stepped⟩
      rw [step, testLeave] at stepped
      split at stepped
      · cases stepped
        exact ⟨kept, Stage.noConfusion, going.more⟩
      · cases stepped
  | echo expired =>
      have inTime : expired = false := timely
      subst inTime
      obtain ⟨less, more⟩ := echo_lessens setup bounded.echo_length link next stepped
      refine ⟨⟨kept, ?_, more⟩, less⟩
      rw [step, echoRead, if_pos going.more] at stepped
      obtain ⟨got, _, rfl⟩ := Option.map_eq_some_iff.mp stepped
      split
      · exact going.complete
      · exact going.complete
  | carryToEcho =>
      obtain ⟨wire, carried, rfl⟩ := Option.map_eq_some_iff.mp stepped
      exact ⟨going_stage setup link _ going kept rfl rfl, (carry_lessens setup link wire).1 carried⟩
  | carryToSender =>
      obtain ⟨wire, carried, rfl⟩ := Option.map_eq_some_iff.mp stepped
      exact ⟨going_stage setup link _ going kept rfl rfl, (carry_lessens setup link wire).2 carried⟩

-- Nothing is on its way and neither side has enough to read: then less than a
-- packet of the echo is left, and there is no such part of a packet.
theorem stuck_nowhere (whole : setup.echo_len ∣ setup.pkt_len) (link : Link) (going : Going setup link)
    (pkt_write : List UInt8) (place : link.stage = .reading pkt_write)
    (back : link.toSender.carry = none) (there : link.toEcho.carry = none)
    (short : link.toSender.arrived.length < setup.pkt_len) : ¬ link.toEcho.arrived.length < setup.echo_len := by
  intro part
  have kept := going.kept
  rw [Kept, place] at kept
  obtain ⟨⟨rest, written, counted, waiting⟩, length, _⟩ := kept
  rw [carry_none _ back] at written
  rw [← waiting going.more, carry_none _ there] at written counted
  have divided : setup.echo_len ∣ link.toEcho.arrived.length := by
    have all : setup.echo_len ∣ link.npkt * setup.pkt_len + pkt_write.length := by
      rw [length]
      exact Nat.dvd_add (Nat.dvd_mul_left_of_dvd whole _) whole
    rw [← counted] at all
    exact (Nat.dvd_add_right (Nat.dvd_mul_left _ _)).mp all
  have nothing := Nat.eq_zero_of_dvd_of_lt divided part
  have lengths := congrArg List.length written
  rw [List.length_append, nothing, length] at lengths
  omega

theorem going_moves (whole : setup.echo_len ∣ setup.pkt_len) (link : Link) (going : Going setup link)
    (unfinished : link.stage ≠ .passed) : ∃ event next, Event.Timely event ∧ step setup link event = some next := by
  cases place : link.stage with
  | loop =>
      by_cases count : setup.pkt_count = 0 ∨ link.npkt < setup.pkt_count
      · let pkt_write : List UInt8 := List.replicate setup.pkt_len 0
        let next : Link := { link with stage := .reading pkt_write, toEcho := link.toEcho.put pkt_write }
        exact ⟨.write pkt_write, next, rfl, if_pos ⟨place, count, List.length_replicate⟩⟩
      · exact ⟨.leave, { link with stage := .passed }, rfl, if_pos ⟨place, count⟩⟩
  | reading pkt_write =>
      cases full : link.toSender.read (limited setup.pkt_timeout) setup.pkt_len false with
      | some got =>
          have moves : ∃ next, testRead setup link false = some next := by
            simp only [testRead, place, full, Option.map_some]
            exact ⟨_, rfl⟩
          obtain ⟨next, moved⟩ := moves
          exact ⟨.read false, next, rfl, moved⟩
      | none =>
          cases back : link.toSender.carry with
          | some wire => exact ⟨.carryToSender, _, rfl, by rw [step, back, Option.map_some]⟩
          | none =>
              cases there : link.toEcho.carry with
              | some wire => exact ⟨.carryToEcho, _, rfl, by rw [step, there, Option.map_some]⟩
              | none =>
                  cases echoed : link.toEcho.read (limited setup.echo_timeout) setup.echo_len false with
                  | some got =>
                      have moves : ∃ next, echoRead setup link false = some next := by
                        rw [echoRead, if_pos going.more, echoed, Option.map_some]
                        exact ⟨_, rfl⟩
                      obtain ⟨next, moved⟩ := moves
                      exact ⟨.echo false, next, rfl, moved⟩
                  | none =>
                      have short := read_waits _ _ _ full
                      exact absurd (read_waits _ _ _ echoed)
                        (stuck_nowhere setup whole link going pkt_write place back there short)
  | mismatch =>
      have kept := going.kept
      rw [Kept, place] at kept
      exact kept.elim
  | incomplete => exact absurd place going.complete
  | passed => exact absurd place unfinished

end Setup

def mostSteps (setup : Setup) : Nat := setup.pkt_count * (4 * setup.pkt_len + 2) + 1

-- When the packets of the sender are made of whole packets of the echo and no
-- wait runs out, the test is over within that many steps and has passed, however
-- they are ordered. With other lengths it never passes.
theorem test_completes (setup : Setup) (bounded : Bounded setup) :
    (setup.echo_len ∣ setup.pkt_len →
      ∀ events last, (∀ event ∈ events, Event.Timely event) → run setup Link.opened events = some last →
        events.length ≤ mostSteps setup ∧
          ((∀ event, event.Timely → step setup last event = none) → last.stage = .passed)) ∧
      ((∃ events last, run setup Link.opened events = some last ∧ last.stage = .passed) ↔ setup.echo_len ∣ setup.pkt_len) := by
  have lessens (link next : Link) (event : Event) (going : Going setup link) (timely : event.Timely)
      (stepped : step setup link event = some next) := timely_lessens setup bounded link next event going timely stepped
  refine ⟨?_, ?_, ?_⟩
  · intro whole events last timely ran
    obtain ⟨going, most⟩ := Interact.measured_run (step setup) (Going setup) Event.Timely (stepsLeft setup) lessens
      events Link.opened last (opened_going setup) timely ran
    constructor
    · have first : stepsLeft setup Link.opened = mostSteps setup := rfl
      omega
    · intro stuck
      by_contra unfinished
      obtain ⟨event, next, known, stepped⟩ := going_moves setup whole last going unfinished
      rw [stuck event known] at stepped
      cases stepped
  · intro passing
    obtain ⟨events, last, ran, place⟩ := passing
    have kept := run_kept setup bounded.patient events Link.opened last (opened_kept setup) ran
    rw [Kept, place] at kept
    have some_back : last.npkt ≠ 0 := fun none_back => kept.2.2 (kept.2.1.symm.trans none_back)
    exact run_divides setup bounded.patient events Link.opened last (opened_kept setup) (fun first => absurd rfl first) ran some_back
  · intro whole
    obtain ⟨events, last, _, ran, place⟩ := Interact.measured_finish (step setup) (Going setup) Event.Timely (stepsLeft setup)
      lessens (fun link => link.stage = .passed) (going_moves setup whole) Link.opened (opened_going setup)
    exact ⟨events, last, ran, place⟩

theorem small_test_completes :
    (∃ events last, run smallSetup Link.opened events = some last ∧ last.stage = .passed) ∧ smallRun.length ≤ mostSteps smallSetup := by
  have bounded : Bounded smallSetup := ⟨by decide, by decide, by decide, by decide⟩
  have completes := test_completes smallSetup bounded
  refine ⟨completes.2.mpr (by decide), ?_⟩
  exact (completes.1 (by decide) smallRun ⟨.passed, 1, true, 2, Wire.idle, Wire.idle⟩ (by decide) rfl).1

end SummitSom.EchoTest
