import SummitSom.Fifo.Wire

set_option autoImplicit false

namespace SummitSom.EchoTest

open Fifo

-- The arguments of the two programs at the ends of the line.
structure Setup where
  pkt_len : Nat
  pkt_count : Nat
  pkt_timeout : Int
  echo_len : Nat
  echo_timeout : Int

-- Where test_send is.
inductive Stage where
  | loop
  | reading (pkt_write : List UInt8)
  | mismatch
  | incomplete
  | passed
deriving DecidableEq

-- echoed counts the packets of test_echo, and do_more is its flag.
structure Link where
  stage : Stage
  npkt : Nat
  do_more : Bool
  echoed : Nat
  toEcho : Wire UInt8
  toSender : Wire UInt8

def Link.opened : Link := ⟨.loop, 0, true, 0, Wire.idle, Wire.idle⟩

section Setup

variable (setup : Setup)

-- A timeout below zero is none.
def limited (timeout : Int) : Bool := decide (0 ≤ timeout)

def testWrite (link : Link) (pkt_write : List UInt8) : Option Link :=
  if link.stage = .loop ∧ (setup.pkt_count = 0 ∨ link.npkt < setup.pkt_count) ∧ pkt_write.length = setup.pkt_len then
    some { link with stage := .reading pkt_write, toEcho := link.toEcho.put pkt_write }
  else none

def testLeave (link : Link) : Option Link :=
  if link.stage = .loop ∧ ¬ (setup.pkt_count = 0 ∨ link.npkt < setup.pkt_count) then some { link with stage := .passed } else none

-- What the loop of test_send makes of a packet.
def checkPacket (npkt : Nat) (pkt_write pkt_read : List UInt8) : Stage × Nat :=
  if pkt_read ≠ [] ∧ pkt_read.length = setup.pkt_len then
    if pkt_read = pkt_write then (.loop, npkt + 1) else (.mismatch, npkt)
  else if 0 < setup.pkt_timeout then (.incomplete, npkt)
  else (.loop, npkt + 1)

def testRead (link : Link) (expired : Bool) : Option Link :=
  match link.stage with
  | .reading pkt_write =>
      (link.toSender.read (limited setup.pkt_timeout) setup.pkt_len expired).map fun got =>
        let checked := checkPacket setup link.npkt pkt_write got.1
        { link with stage := checked.1, npkt := checked.2, toSender := got.2 }
  | _ => none

def echoRead (link : Link) (expired : Bool) : Option Link :=
  if link.do_more = true then
    (link.toEcho.read (limited setup.echo_timeout) setup.echo_len expired).map fun got =>
      if got.1 ≠ [] ∧ got.1.length = setup.echo_len then
        { link with echoed := link.echoed + 1, toEcho := got.2, toSender := link.toSender.put got.1 }
      else { link with do_more := false, toEcho := got.2 }
  else none

inductive Event where
  | write (pkt_write : List UInt8)
  | read (expired : Bool)
  | leave
  | echo (expired : Bool)
  | carryToEcho
  | carryToSender
deriving DecidableEq

def step (link : Link) : Event → Option Link
  | .write pkt_write => testWrite setup link pkt_write
  | .read expired => testRead setup link expired
  | .leave => testLeave setup link
  | .echo expired => echoRead setup link expired
  | .carryToEcho => link.toEcho.carry.map fun wire => { link with toEcho := wire }
  | .carryToSender => link.toSender.carry.map fun wire => { link with toSender := wire }

def run (link : Link) (events : List Event) : Option Link := events.foldlM (step setup) link

-- What the sender has written and not yet read back is on its way back, or is
-- still to be echoed. The rest is lost when the echo has stopped.
def Outstanding (link : Link) (pkt_write : List UInt8) : Prop :=
  ∃ rest, link.toSender.bytes ++ rest = pkt_write ∧
    link.echoed * setup.echo_len + rest.length = link.npkt * setup.pkt_len + pkt_write.length ∧
    (link.do_more = true → link.toEcho.bytes = rest)

def Kept (link : Link) : Prop :=
  match link.stage with
  | .loop => Outstanding setup link [] ∧ (setup.pkt_count = 0 ∨ link.npkt ≤ setup.pkt_count)
  | .reading pkt_write =>
      Outstanding setup link pkt_write ∧ pkt_write.length = setup.pkt_len ∧
        (setup.pkt_count = 0 ∨ link.npkt < setup.pkt_count)
  | .mismatch => False
  | .incomplete => True
  | .passed => Outstanding setup link [] ∧ link.npkt = setup.pkt_count ∧ setup.pkt_count ≠ 0

theorem opened_kept : Kept setup Link.opened := by
  refine ⟨⟨[], rfl, ?_, fun _ => rfl⟩, Or.inr (Nat.zero_le _)⟩
  rw [Link.opened, Nat.zero_mul, Nat.zero_mul]

-- What the line and the echo do leaves the sender where it is.
theorem kept_moved (link next : Link) (stage : next.stage = link.stage) (npkt : next.npkt = link.npkt)
    (outstanding : ∀ pkt_write, Outstanding setup link pkt_write → Outstanding setup next pkt_write)
    (kept : Kept setup link) : Kept setup next := by
  rw [Kept] at kept ⊢
  rw [stage, npkt]
  cases place : link.stage with
  | loop =>
      rw [place] at kept
      exact ⟨outstanding [] kept.1, kept.2⟩
  | reading pkt_write =>
      rw [place] at kept
      exact ⟨outstanding pkt_write kept.1, kept.2⟩
  | mismatch =>
      rw [place] at kept
      exact kept
  | incomplete => exact trivial
  | passed =>
      rw [place] at kept
      exact ⟨outstanding [] kept.1, kept.2⟩

theorem carried_to_echo (link : Link) (wire : Wire UInt8) (carried : link.toEcho.carry = some wire) (pkt_write : List UInt8)
    (outstanding : Outstanding setup link pkt_write) : Outstanding setup { link with toEcho := wire } pkt_write := by
  obtain ⟨rest, written, counted, waiting⟩ := outstanding
  exact ⟨rest, written, counted, fun more => (carry_some link.toEcho wire carried).1.trans (waiting more)⟩

theorem carried_to_sender (link : Link) (wire : Wire UInt8) (carried : link.toSender.carry = some wire)
    (pkt_write : List UInt8) (outstanding : Outstanding setup link pkt_write) :
    Outstanding setup { link with toSender := wire } pkt_write := by
  obtain ⟨rest, written, counted, waiting⟩ := outstanding
  refine ⟨rest, ?_, counted, waiting⟩
  rw [(carry_some link.toSender wire carried).1]
  exact written

theorem echo_full (link : Link) (pkt : List UInt8) (wire : Wire UInt8) (full : pkt.length = setup.echo_len)
    (more : link.do_more = true) (got : pkt ++ wire.bytes = link.toEcho.bytes) (pkt_write : List UInt8)
    (outstanding : Outstanding setup link pkt_write) :
    Outstanding setup { link with echoed := link.echoed + 1, toEcho := wire, toSender := link.toSender.put pkt } pkt_write := by
  obtain ⟨rest, written, counted, waiting⟩ := outstanding
  have split : rest = pkt ++ wire.bytes := (waiting more).symm.trans got.symm
  refine ⟨wire.bytes, ?_, ?_, fun _ => rfl⟩
  · rw [put_bytes, List.append_assoc, ← split]
    exact written
  · change (link.echoed + 1) * setup.echo_len + wire.bytes.length = link.npkt * setup.pkt_len + pkt_write.length
    rw [split, List.length_append, full] at counted
    rw [Nat.succ_mul]
    omega

theorem echo_stopped (link : Link) (wire : Wire UInt8) (pkt_write : List UInt8)
    (outstanding : Outstanding setup link pkt_write) :
    Outstanding setup { link with do_more := false, toEcho := wire } pkt_write := by
  obtain ⟨rest, written, counted, _⟩ := outstanding
  exact ⟨rest, written, counted, fun more => absurd more Bool.false_ne_true⟩

theorem echo_kept (link next : Link) (expired : Bool) (kept : Kept setup link) (stepped : echoRead setup link expired = some next) :
    Kept setup next := by
  rw [echoRead] at stepped
  split at stepped
  · next more =>
      obtain ⟨⟨pkt, wire⟩, got, rfl⟩ := Option.map_eq_some_iff.mp stepped
      dsimp only
      split
      · next full =>
          apply kept_moved setup link _ ?_ ?_ ?_ kept
          · rfl
          · rfl
          · cases expired with
            | false => exact echo_full setup link pkt wire full.2 more (read_full _ _ _ _ _ got).2.1
            | true => exact absurd full.2 (Nat.ne_of_lt (read_short _ _ _ _ _ got).2.1)
      · exact kept_moved setup link _ rfl rfl (echo_stopped setup link wire) kept
  · cases stepped

theorem write_kept (link next : Link) (pkt_write : List UInt8) (kept : Kept setup link)
    (stepped : testWrite setup link pkt_write = some next) : Kept setup next := by
  rw [testWrite] at stepped
  split at stepped
  · next able =>
      cases stepped
      obtain ⟨place, count, length⟩ := able
      rw [Kept, place] at kept
      obtain ⟨⟨rest, written, counted, waiting⟩, _⟩ := kept
      obtain ⟨back, none_left⟩ := List.append_eq_nil_iff.mp written
      subst none_left
      refine ⟨⟨pkt_write, ?_, ?_, ?_⟩, length, count⟩
      · change link.toSender.bytes ++ pkt_write = pkt_write
        rw [back, List.nil_append]
      · change link.echoed * setup.echo_len + pkt_write.length = link.npkt * setup.pkt_len + pkt_write.length
        exact congrArg (· + pkt_write.length) counted
      · intro more
        change (link.toEcho.put pkt_write).bytes = pkt_write
        rw [put_bytes, waiting more, List.nil_append]
  · cases stepped

theorem leave_kept (link next : Link) (kept : Kept setup link) (stepped : testLeave setup link = some next) :
    Kept setup next := by
  rw [testLeave] at stepped
  split at stepped
  · next able =>
      cases stepped
      obtain ⟨place, spent⟩ := able
      rw [Kept, place] at kept
      rw [not_or, Nat.not_lt] at spent
      obtain ⟨outstanding, counted⟩ := kept
      exact ⟨outstanding, Nat.le_antisymm (counted.resolve_left spent.1) spent.2, spent.1⟩
  · cases stepped

-- The packet that is read in full is the one that was written.
theorem full_packet (link : Link) (pkt_write pkt_read : List UInt8) (wire : Wire UInt8)
    (same : pkt_read.length = pkt_write.length) (got : pkt_read ++ wire.bytes = link.toSender.bytes) (rest : List UInt8)
    (written : link.toSender.bytes ++ rest = pkt_write) : pkt_read = pkt_write ∧ wire.bytes = [] ∧ rest = [] := by
  rw [← got, List.append_assoc] at written
  have lengths := congrArg List.length written
  rw [List.length_append, List.length_append] at lengths
  have left : wire.bytes = [] := List.eq_nil_of_length_eq_zero (by omega)
  have right : rest = [] := List.eq_nil_of_length_eq_zero (by omega)
  rw [left, right, List.append_nil, List.append_nil] at written
  exact ⟨written, left, right⟩

theorem accepted_kept (link : Link) (pkt_write : List UInt8) (wire : Wire UInt8) (length : pkt_write.length = setup.pkt_len)
    (got : pkt_write ++ wire.bytes = link.toSender.bytes) (outstanding : Outstanding setup link pkt_write)
    (count : setup.pkt_count = 0 ∨ link.npkt < setup.pkt_count) :
    Kept setup { link with stage := .loop, npkt := link.npkt + 1, toSender := wire } := by
  obtain ⟨rest, written, counted, waiting⟩ := outstanding
  obtain ⟨_, back, none_left⟩ := full_packet link pkt_write pkt_write wire rfl got rest written
  subst none_left
  refine ⟨⟨[], ?_, ?_, waiting⟩, count.imp_right Nat.succ_le_of_lt⟩
  · change wire.bytes ++ [] = []
    rw [back, List.nil_append]
  · change link.echoed * setup.echo_len + 0 = (link.npkt + 1) * setup.pkt_len + 0
    rw [List.length_nil, Nat.add_zero, length] at counted
    rw [Nat.succ_mul]
    exact counted

theorem read_kept (patient : setup.pkt_timeout ≠ 0) (link next : Link) (expired : Bool) (kept : Kept setup link)
    (stepped : testRead setup link expired = some next) : Kept setup next := by
  rw [testRead] at stepped
  cases place : link.stage with
  | reading pkt_write =>
      rw [place] at stepped
      obtain ⟨⟨pkt_read, wire⟩, got, rfl⟩ := Option.map_eq_some_iff.mp stepped
      rw [Kept, place] at kept
      obtain ⟨outstanding, length, count⟩ := kept
      cases expired with
      | true =>
          -- A wait that has run out ends the test, for its limit is above zero.
          obtain ⟨limit, short, _⟩ := read_short _ _ _ _ _ got
          have above : 0 < setup.pkt_timeout := by
            rw [limited, decide_eq_true_eq] at limit
            omega
          dsimp only
          rw [checkPacket, if_neg (fun full => Nat.ne_of_lt short full.2), if_pos above]
          exact trivial
      | false =>
          obtain ⟨full, parts, _⟩ := read_full _ _ _ _ _ got
          obtain ⟨rest, written, _⟩ := id outstanding
          obtain ⟨same, _⟩ := full_packet link pkt_write pkt_read wire (full.trans length.symm) parts rest written
          subst same
          have accepted := accepted_kept setup link pkt_read wire length parts outstanding count
          dsimp only
          rw [checkPacket]
          split
          · rw [if_pos rfl]
            exact accepted
          · split
            · exact trivial
            · exact accepted
  | loop =>
      rw [place] at stepped
      cases stepped
  | mismatch =>
      rw [place] at stepped
      cases stepped
  | incomplete =>
      rw [place] at stepped
      cases stepped
  | passed =>
      rw [place] at stepped
      cases stepped

theorem step_kept (patient : setup.pkt_timeout ≠ 0) (link next : Link) (event : Event) (kept : Kept setup link)
    (stepped : step setup link event = some next) : Kept setup next := by
  cases event with
  | write pkt_write => exact write_kept setup link next pkt_write kept stepped
  | read expired => exact read_kept setup patient link next expired kept stepped
  | leave => exact leave_kept setup link next kept stepped
  | echo expired => exact echo_kept setup link next expired kept stepped
  | carryToEcho =>
      obtain ⟨wire, carried, rfl⟩ := Option.map_eq_some_iff.mp stepped
      exact kept_moved setup link _ rfl rfl (carried_to_echo setup link wire carried) kept
  | carryToSender =>
      obtain ⟨wire, carried, rfl⟩ := Option.map_eq_some_iff.mp stepped
      exact kept_moved setup link _ rfl rfl (carried_to_sender setup link wire carried) kept

theorem run_kept (patient : setup.pkt_timeout ≠ 0) (events : List Event) (link last : Link) (kept : Kept setup link)
    (ran : run setup link events = some last) : Kept setup last := by
  induction events generalizing link with
  | nil =>
      cases ran
      exact kept
  | cons event events ih =>
      rw [run, List.foldlM_cons] at ran
      obtain ⟨next, stepped, later⟩ := Option.bind_eq_some_iff.mp ran
      exact ih next (step_kept setup patient link next event kept stepped) later

theorem read_counts (link next : Link) (expired : Bool) (stepped : testRead setup link expired = some next) :
    next.npkt = link.npkt ∨ next.stage = .loop ∧ next.npkt = link.npkt + 1 := by
  rw [testRead] at stepped
  split at stepped
  · next pkt_write _ =>
      obtain ⟨⟨pkt_read, wire⟩, _, rfl⟩ := Option.map_eq_some_iff.mp stepped
      dsimp only
      rw [checkPacket]
      split
      · split
        · exact Or.inr ⟨rfl, rfl⟩
        · exact Or.inl rfl
      · split
        · exact Or.inl rfl
        · exact Or.inr ⟨rfl, rfl⟩
  · cases stepped

theorem step_counts (link next : Link) (event : Event) (stepped : step setup link event = some next) :
    next.npkt = link.npkt ∨ next.stage = .loop ∧ next.npkt = link.npkt + 1 := by
  cases event with
  | write pkt_write =>
      rw [step, testWrite] at stepped
      split at stepped
      · cases stepped
        exact Or.inl rfl
      · cases stepped
  | read expired => exact read_counts setup link next expired stepped
  | leave =>
      rw [step, testLeave] at stepped
      split at stepped
      · cases stepped
        exact Or.inl rfl
      · cases stepped
  | echo expired =>
      rw [step, echoRead] at stepped
      split at stepped
      · obtain ⟨got, _, rfl⟩ := Option.map_eq_some_iff.mp stepped
        split
        · exact Or.inl rfl
        · exact Or.inl rfl
      · cases stepped
  | carryToEcho =>
      obtain ⟨wire, _, rfl⟩ := Option.map_eq_some_iff.mp stepped
      exact Or.inl rfl
  | carryToSender =>
      obtain ⟨wire, _, rfl⟩ := Option.map_eq_some_iff.mp stepped
      exact Or.inl rfl

-- The first packet comes back only when it is made of whole packets of the echo.
theorem step_divides (patient : setup.pkt_timeout ≠ 0) (link next : Link) (event : Event) (kept : Kept setup link)
    (divides : link.npkt ≠ 0 → setup.echo_len ∣ setup.pkt_len) (stepped : step setup link event = some next) :
    next.npkt ≠ 0 → setup.echo_len ∣ setup.pkt_len := by
  intro counted
  cases step_counts setup link next event stepped with
  | inl same => exact divides (same ▸ counted)
  | inr more =>
      obtain ⟨place, count⟩ := more
      by_cases first : link.npkt = 0
      · have after := step_kept setup patient link next event kept stepped
        rw [Kept, place] at after
        obtain ⟨⟨rest, written, length, _⟩, _⟩ := after
        rw [(List.append_eq_nil_iff.mp written).2, count, first, Nat.zero_add, Nat.one_mul] at length
        exact ⟨next.echoed, by rw [Nat.mul_comm]; exact length.symm⟩
      · exact divides first

theorem run_divides (patient : setup.pkt_timeout ≠ 0) (events : List Event) (link last : Link) (kept : Kept setup link)
    (divides : link.npkt ≠ 0 → setup.echo_len ∣ setup.pkt_len) (ran : run setup link events = some last) :
    last.npkt ≠ 0 → setup.echo_len ∣ setup.pkt_len := by
  induction events generalizing link with
  | nil =>
      cases ran
      exact divides
  | cons event events ih =>
      rw [run, List.foldlM_cons] at ran
      obtain ⟨next, stepped, later⟩ := Option.bind_eq_some_iff.mp ran
      have after := step_kept setup patient link next event kept stepped
      exact ih next after (step_divides setup patient link next event kept divides stepped) later

end Setup

-- However the bytes travel and the waits run out, a sender that waits for its
-- packets never takes one for another, and it passes only when all came back.
theorem sender_sound (setup : Setup) (patient : setup.pkt_timeout ≠ 0) (events : List Event) (last : Link)
    (ran : run setup Link.opened events = some last) :
    last.stage ≠ .mismatch ∧
      (last.stage = .passed →
        last.npkt = setup.pkt_count ∧ last.echoed * setup.echo_len = setup.pkt_count * setup.pkt_len ∧
          last.toSender.bytes = [] ∧ setup.echo_len ∣ setup.pkt_len) := by
  have kept := run_kept setup patient events Link.opened last (opened_kept setup) ran
  have divides := run_divides setup patient events Link.opened last (opened_kept setup) (fun first => absurd rfl first) ran
  constructor
  · intro place
    rw [Kept, place] at kept
    exact kept
  · intro place
    rw [Kept, place] at kept
    obtain ⟨⟨rest, written, length, _⟩, count, some_packets⟩ := kept
    obtain ⟨back, none_left⟩ := List.append_eq_nil_iff.mp written
    rw [none_left, count] at length
    exact ⟨count, length, back, divides (count ▸ some_packets)⟩

def smallSetup : Setup := ⟨2, 1, 30, 1, -1⟩

def smallRun : List Event :=
  [.write [7, 9], .carryToEcho, .echo false, .carryToEcho, .carryToSender, .echo false, .carryToSender, .read false, .leave]

theorem small_run_sound : ∃ last, run smallSetup Link.opened smallRun = some last ∧ last.echoed * 1 = 1 * 2 := by
  refine ⟨⟨.passed, 1, true, 2, Wire.idle, Wire.idle⟩, rfl, ?_⟩
  exact ((sender_sound smallSetup (by decide) smallRun _ rfl).2 rfl).2.1

-- Without a wait a packet that comes late is taken for the next one.
example :
    (run { smallSetup with pkt_timeout := 0, pkt_count := 2 } Link.opened
      [.write [7, 9], .read true, .write [1, 2], .carryToEcho, .echo false, .carryToEcho, .echo false, .carryToSender,
        .carryToSender, .read false]).map Link.stage = some .mismatch := by
  rfl

end SummitSom.EchoTest
