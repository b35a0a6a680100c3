import SummitSom.Pac193x.Energy
import Mathlib.Data.Nat.Bitwise

set_option autoImplicit false

namespace SummitSom.Pac193x

-- The registers behind one block read. VPOWER is left aligned in its word.
structure ChipRegs where
  acc_count : BitVec 24
  vpower_acc : Nat → BitVec 48
  vbus : Nat → BitVec 16
  vsense : Nat → BitVec 16
  vbus_avg : Nat → BitVec 16
  vsense_avg : Nat → BitVec 16
  vpower : Nat → BitVec 28
  unused : Nat → BitVec 4

-- The groups of registers that follow ACC_COUNT, in their order.
inductive Reg where
  | vpower_acc
  | vbus
  | vsense
  | vbus_avg
  | vsense_avg
  | vpower
deriving DecidableEq

def Reg.order : List Reg := [.vpower_acc, .vbus, .vsense, .vbus_avg, .vsense_avg, .vpower]

def Reg.len : Reg → Nat
  | .vpower_acc => vpowerAccRegLen
  | .vpower => vpowerRegLen
  | _ => vbusSenseRegLen

def ChipRegs.word (regs : ChipRegs) (cnt : Nat) : Reg → Nat
  | .vpower_acc => (regs.vpower_acc cnt).toNat
  | .vbus => (regs.vbus cnt).toNat
  | .vsense => (regs.vsense cnt).toNat
  | .vbus_avg => (regs.vbus_avg cnt).toNat
  | .vsense_avg => (regs.vsense_avg cnt).toNat
  | .vpower => (regs.vpower cnt ++ regs.unused cnt).toNat

def ChipRegs.own (regs : ChipRegs) (cnt : Nat) (reg : Reg) : Bytes := bytesOf reg.len (regs.word cnt reg)

def maxNumChannels : Nat := 4

-- The bit of CHANNEL_DIS that turns a channel off.
def channelOff (cnt : Nat) : Nat := 0x80 >>> cnt

def enabled (channel_dis cnt : Nat) : Bool := channel_dis &&& channelOff cnt = 0

example : (List.range maxNumChannels).map channelOff = [0x80, 0x40, 0x20, 0x10] := rfl

def channelDis (ctrl_regs : Bytes) : Nat := byteAt ctrl_regs channelDisLatRegOff

-- The chip skips the registers of its disabled channels.
def encode (channels : Nat) (ctrl_regs : Bytes) (regs : ChipRegs) : Bytes :=
  bytesOf accRegLen regs.acc_count.toNat ++
    Reg.order.flatMap fun reg =>
      ((List.range channels).filter (enabled (channelDis ctrl_regs))).flatMap fun cnt => regs.own cnt reg

-- The driver's test of the shifted byte is the test of the channel's own bit.
theorem active_enabled (ctrl_regs : Bytes) (cnt : Nat) : active ctrl_regs cnt = enabled (channelDis ctrl_regs) cnt := by
  rw [active, enabled, channelOff, channelDis]
  generalize byteAt ctrl_regs channelDisLatRegOff = channel_dis
  have top : (0x80 : Nat) = 2 ^ 7 := by decide
  by_cases inside : cnt ≤ 7
  · have shifted : (2 ^ 7 : Nat) >>> cnt = 2 ^ (7 - cnt) := by
      rw [Nat.shiftRight_eq_div_pow, Nat.pow_div inside (by decide)]
    rw [top, shifted, Nat.and_two_pow, Nat.and_two_pow, Nat.testBit_shiftLeft, decide_eq_true inside, Bool.true_and]
    cases channel_dis.testBit (7 - cnt) <;> simp
  · have gone : (2 ^ 7 : Nat) >>> cnt = 0 := by
      rw [Nat.shiftRight_eq_div_pow]
      exact Nat.div_eq_of_lt (Nat.pow_lt_pow_right (by decide) (by omega))
    rw [top, gone, Nat.and_two_pow, Nat.testBit_shiftLeft, decide_eq_false inside]
    simp

theorem active_eq (ctrl_regs : Bytes) : active ctrl_regs = enabled (channelDis ctrl_regs) := funext (active_enabled ctrl_regs)

theorem encode_active (channels : Nat) (ctrl_regs : Bytes) (regs : ChipRegs) :
    encode channels ctrl_regs regs = bytesOf accRegLen regs.acc_count.toNat ++
      Reg.order.flatMap fun reg => ((List.range channels).filter (active ctrl_regs)).flatMap fun cnt => regs.own cnt reg := by
  rw [active_eq, encode]

-- The field of the driver's data that a register ends up in, and its decoder.
def RegData.stored (data : RegData) (cnt : Nat) : Reg → Int
  | .vpower_acc => data.vpower_acc cnt
  | .vbus => data.vbus cnt
  | .vsense => data.vsense cnt
  | .vbus_avg => data.vbus_avg cnt
  | .vsense_avg => data.vsense_avg cnt
  | .vpower => data.vpower cnt

def Reg.decoder (bi_dir : Bool) : Reg → Bytes → Nat → Int
  | .vpower_acc => if bi_dir then mVPOWER_ACCs else mVPOWER_ACCu
  | .vsense | .vsense_avg => if bi_dir then mVBUS_SENSEs else mVBUS_SENSEu
  | .vpower => if bi_dir then mVPOWERs else mVPOWERu
  | .vbus | .vbus_avg => mVBUS_SENSEu

-- The six loops of pac193x_reg_snapshot as a list.
structure Loop where
  len : Nat
  store : Nat → Nat → RegData → RegData

def runLoops (channels : List Nat) (loops : List Loop) (s : Nat × RegData) : Nat × RegData :=
  loops.foldl (fun s loop => channelLoop loop.len loop.store channels s) s

theorem run_loops_cons (channels : List Nat) (loop : Loop) (rest : List Loop) (s : Nat × RegData) :
    runLoops channels (loop :: rest) s = runLoops channels rest (channelLoop loop.len loop.store channels s) := rfl

def Reg.store : Reg → Nat → Nat → RegData → RegData
  | .vpower_acc => storeVpowerAcc
  | .vbus => storeVbus
  | .vsense => storeVsense
  | .vbus_avg => storeVbusAvg
  | .vsense_avg => storeVsenseAvg
  | .vpower => storeVpower

def Reg.loop (reg : Reg) : Loop := ⟨reg.len, reg.store⟩

def counted (data : RegData) : RegData := { data with acc_count := mACC_COUNT data.meas_regs 0 }

theorem decode_loops (phys_channels : Nat) (data : RegData) :
    decode phys_channels data =
      (runLoops (List.range phys_channels) (Reg.order.map Reg.loop) (accRegLen, counted data)).2 := rfl

-- What no store changes.
structure SameInput (data other : RegData) : Prop where
  bi_dir : other.bi_dir = data.bi_dir
  meas_regs : other.meas_regs = data.meas_regs
  ctrl_regs : other.ctrl_regs = data.ctrl_regs
  acc_count : other.acc_count = data.acc_count

theorem same_input_trans (data middle other : RegData) (first : SameInput data middle) (second : SameInput middle other) :
    SameInput data other :=
  ⟨second.bi_dir.trans first.bi_dir, second.meas_regs.trans first.meas_regs, second.ctrl_regs.trans first.ctrl_regs,
    second.acc_count.trans first.acc_count⟩

def Loop.Reads (loop : Loop) : Prop := ∀ cnt offset data, SameInput data (loop.store cnt offset data)

theorem reg_loops_read (loop : Loop) (member : loop ∈ Reg.order.map Reg.loop) : loop.Reads := by
  obtain ⟨reg, _, rfl⟩ := List.mem_map.mp member
  cases reg <;> exact fun _ _ _ => ⟨rfl, rfl, rfl, rfl⟩

section Channels

variable (loop : Loop) (reads : loop.Reads)

include reads

theorem channel_loop_input (channels : List Nat) (s : Nat × RegData) :
    SameInput s.2 (channelLoop loop.len loop.store channels s).2 := by
  induction channels generalizing s with
  | nil => exact ⟨rfl, rfl, rfl, rfl⟩
  | cons cnt rest ih =>
      rw [channelLoop]
      by_cases on : active s.2.ctrl_regs cnt = true
      · rw [if_pos on]
        exact same_input_trans _ _ _ (reads cnt s.1 s.2) (ih (s.1 + loop.len, loop.store cnt s.1 s.2))
      · rw [if_neg on]
        exact ih s

theorem channel_loop_offset (channels : List Nat) (s : Nat × RegData) :
    (channelLoop loop.len loop.store channels s).1 =
      s.1 + loop.len * (channels.filter (active s.2.ctrl_regs)).length := by
  induction channels generalizing s with
  | nil => rfl
  | cons cnt rest ih =>
      rw [channelLoop, List.filter_cons]
      by_cases on : active s.2.ctrl_regs cnt = true
      · have same := (reads cnt s.1 s.2).ctrl_regs
        rw [if_pos on, if_pos on, ih, same, List.length_cons, Nat.mul_succ]
        omega
      · rw [if_neg on, if_neg on, ih]

end Channels

theorem channel_loop_append (len : Nat) (store : Nat → Nat → RegData → RegData) (first second : List Nat) (s : Nat × RegData) :
    channelLoop len store (first ++ second) s = channelLoop len store second (channelLoop len store first s) := by
  induction first generalizing s with
  | nil => rfl
  | cons cnt rest ih =>
      rw [List.cons_append, channelLoop, channelLoop]
      exact ih _

section Parts

variable {P : Type} (part : RegData → P) (channel : Nat)

-- The part of the data that belongs to one channel.
def Loop.Spares (loop : Loop) : Prop :=
  ∀ cnt offset data, cnt ≠ channel → part (loop.store cnt offset data) = part data

def Loop.Keeps (loop : Loop) : Prop := ∀ cnt offset data, part (loop.store cnt offset data) = part data

theorem channel_loop_spares (loop : Loop) (reads : loop.Reads) (spares : loop.Spares part channel) (channels : List Nat)
    (s : Nat × RegData) (absent : channel ∉ channels ∨ active s.2.ctrl_regs channel = false) :
    part (channelLoop loop.len loop.store channels s).2 = part s.2 := by
  induction channels generalizing s with
  | nil => rfl
  | cons cnt rest ih =>
      rw [channelLoop]
      by_cases on : active s.2.ctrl_regs cnt = true
      · have other : cnt ≠ channel := by
          intro same
          subst same
          simp [on] at absent
        rw [if_pos on, ih]
        · exact spares cnt s.1 s.2 other
        · rw [(reads cnt s.1 s.2).ctrl_regs]
          exact absent.imp_left fun missing member => missing (List.mem_cons_of_mem cnt member)
      · rw [if_neg on, ih]
        exact absent.imp_left fun missing member => missing (List.mem_cons_of_mem cnt member)

def rank (ctrl_regs : Bytes) (cnt : Nat) : Nat := ((List.range cnt).filter (active ctrl_regs)).length

theorem range_split (n cnt : Nat) (present : cnt < n) :
    ∃ after, List.range n = List.range cnt ++ cnt :: after ∧ cnt ∉ after := by
  refine ⟨List.range' (cnt + 1) (n - cnt - 1), ?_, by simp⟩
  have rest : n - cnt - 1 + 1 = n - cnt := by omega
  rw [List.range_eq_range', List.range_eq_range', ← List.range'_succ, rest]
  have joined := @List.range'_append_1 0 cnt (n - cnt)
  rw [Nat.zero_add, Nat.add_sub_cancel' (le_of_lt present)] at joined
  exact joined.symm

theorem channel_loop_part (loop : Loop) (reads : loop.Reads) (spares : loop.Spares part channel) (n : Nat)
    (present : channel < n) (s : Nat × RegData) (on : active s.2.ctrl_regs channel = true) :
    ∃ data, SameInput s.2 data ∧ part data = part s.2 ∧
      part (channelLoop loop.len loop.store (List.range n) s).2 =
        part (loop.store channel (s.1 + loop.len * rank s.2.ctrl_regs channel) data) := by
  obtain ⟨after, split, fresh⟩ := range_split n channel present
  have input := channel_loop_input loop reads (List.range channel) s
  have offset := channel_loop_offset loop reads (List.range channel) s
  have before := channel_loop_spares part channel loop reads spares (List.range channel) s (.inl (by simp))
  refine ⟨_, input, before, ?_⟩
  rw [split, channel_loop_append]
  generalize channelLoop loop.len loop.store (List.range channel) s = t at input offset before ⊢
  rw [channelLoop, if_pos (by rw [input.ctrl_regs]; exact on), channel_loop_spares part channel loop reads spares after _ (.inl fresh),
    offset]
  rfl

theorem run_loops_input (loops : List Loop) (reads : ∀ loop ∈ loops, loop.Reads) (channels : List Nat) (s : Nat × RegData) :
    SameInput s.2 (runLoops channels loops s).2 := by
  induction loops generalizing s with
  | nil => exact ⟨rfl, rfl, rfl, rfl⟩
  | cons loop rest ih =>
      have first := channel_loop_input loop (reads loop (by simp)) channels s
      exact same_input_trans _ _ _ first (ih (fun other member => reads other (by simp [member])) _)

theorem run_loops_offset (loops : List Loop) (reads : ∀ loop ∈ loops, loop.Reads) (channels : List Nat) (s : Nat × RegData) :
    (runLoops channels loops s).1 = s.1 + (loops.map Loop.len).sum * (channels.filter (active s.2.ctrl_regs)).length := by
  induction loops generalizing s with
  | nil => simp [runLoops]
  | cons loop rest ih =>
      have first := channel_loop_offset loop (reads loop (by simp)) channels s
      have input := channel_loop_input loop (reads loop (by simp)) channels s
      have onward := ih (fun other member => reads other (by simp [member])) (channelLoop loop.len loop.store channels s)
      rw [first, input.ctrl_regs] at onward
      rw [run_loops_cons, onward, List.map_cons, List.sum_cons, Nat.add_mul, Nat.add_assoc]

theorem run_loops_keep (loops : List Loop) (keeps : ∀ loop ∈ loops, loop.Keeps part) (channels : List Nat)
    (s : Nat × RegData) : part (runLoops channels loops s).2 = part s.2 := by
  induction loops generalizing s with
  | nil => rfl
  | cons loop rest ih =>
      have first := channel_loop_keeps part loop.len loop.store (keeps loop (by simp)) channels s
      exact (ih (fun other member => keeps other (by simp [member])) _).trans first

theorem run_loops_append (channels : List Nat) (first second : List Loop) (s : Nat × RegData) :
    runLoops channels (first ++ second) s = runLoops channels second (runLoops channels first s) :=
  List.foldl_append

-- The one loop that writes a part hands the bytes of the channel to its store.
theorem run_loops_part (before after : List Loop) (loop : Loop) (reads : ∀ other ∈ before ++ loop :: after, other.Reads)
    (keepsBefore : ∀ other ∈ before, other.Keeps part) (spares : loop.Spares part channel)
    (keepsAfter : ∀ other ∈ after, other.Keeps part) (n : Nat) (present : channel < n) (s : Nat × RegData)
    (on : active s.2.ctrl_regs channel = true) :
    ∃ data, SameInput s.2 data ∧ part data = part s.2 ∧
      part (runLoops (List.range n) (before ++ loop :: after) s).2 =
        part (loop.store channel
          (s.1 + (before.map Loop.len).sum * rank s.2.ctrl_regs n + loop.len * rank s.2.ctrl_regs channel) data) := by
  have readsBefore : ∀ other ∈ before, other.Reads := fun other member => reads other (by simp [member])
  have input := run_loops_input before readsBefore (List.range n) s
  have offset := run_loops_offset before readsBefore (List.range n) s
  have kept := run_loops_keep part before keepsBefore (List.range n) s
  rw [run_loops_append]
  generalize runLoops (List.range n) before s = t at input offset kept ⊢
  obtain ⟨data, same, stays, found⟩ := channel_loop_part part channel loop (reads loop (by simp)) spares n present t
    (by rw [input.ctrl_regs]; exact on)
  refine ⟨data, same_input_trans _ _ _ input same, stays.trans kept, ?_⟩
  rw [run_loops_cons, run_loops_keep part after keepsAfter, found, offset, input.ctrl_regs]
  rfl

theorem run_loops_spare (loops : List Loop) (reads : ∀ loop ∈ loops, loop.Reads)
    (spares : ∀ loop ∈ loops, loop.Spares part channel) (channels : List Nat) (s : Nat × RegData)
    (absent : channel ∉ channels ∨ active s.2.ctrl_regs channel = false) :
    part (runLoops channels loops s).2 = part s.2 := by
  induction loops generalizing s with
  | nil => rfl
  | cons loop rest ih =>
      have first := channel_loop_spares part channel loop (reads loop (by simp)) (spares loop (by simp)) channels s absent
      have input := channel_loop_input loop (reads loop (by simp)) channels s
      rw [run_loops_cons, ih (fun other member => reads other (by simp [member]))
        (fun other member => spares other (by simp [member]))]
      · exact first
      · rw [input.ctrl_regs]
        exact absent

end Parts

-- A loop whose accesses past the end of the snapshot do something else.
def Loop.guarded (trap : RegData → RegData) (loop : Loop) : Loop where
  len := loop.len
  store cnt offset data := if offset + loop.len ≤ measRegSnapshotLen then loop.store cnt offset data else trap data

theorem channel_loop_guarded (trap : RegData → RegData) (loop : Loop) (reads : loop.Reads) (channels : List Nat)
    (s : Nat × RegData)
    (fits : s.1 + loop.len * (channels.filter (active s.2.ctrl_regs)).length ≤ measRegSnapshotLen) :
    channelLoop loop.len (loop.guarded trap).store channels s = channelLoop loop.len loop.store channels s := by
  induction channels generalizing s with
  | nil => rfl
  | cons cnt rest ih =>
      rw [channelLoop, channelLoop]
      by_cases on : active s.2.ctrl_regs cnt = true
      · rw [List.filter_cons, if_pos on, List.length_cons, Nat.mul_succ] at fits
        have inside : s.1 + loop.len ≤ measRegSnapshotLen := by omega
        have same : (loop.guarded trap).store cnt s.1 s.2 = loop.store cnt s.1 s.2 := if_pos inside
        rw [if_pos on, if_pos on, same]
        apply ih
        rw [(reads cnt s.1 s.2).ctrl_regs]
        omega
      · rw [List.filter_cons, if_neg on] at fits
        rw [if_neg on, if_neg on]
        exact ih s fits

theorem run_loops_guarded (trap : RegData → RegData) (loops : List Loop) (reads : ∀ loop ∈ loops, loop.Reads)
    (channels : List Nat) (s : Nat × RegData)
    (fits : s.1 + (loops.map Loop.len).sum * (channels.filter (active s.2.ctrl_regs)).length ≤ measRegSnapshotLen) :
    runLoops channels (loops.map (Loop.guarded trap)) s = runLoops channels loops s := by
  induction loops generalizing s with
  | nil => rfl
  | cons loop rest ih =>
      rw [List.map_cons, List.sum_cons, Nat.add_mul] at fits
      have first := channel_loop_guarded trap loop (reads loop (by simp)) channels s (by omega)
      have offset := channel_loop_offset loop (reads loop (by simp)) channels s
      have input := channel_loop_input loop (reads loop (by simp)) channels s
      rw [List.map_cons, run_loops_cons, run_loops_cons]
      change runLoops channels _ (channelLoop loop.len (loop.guarded trap).store channels s) = _
      rw [first]
      apply ih (fun other member => reads other (by simp [member]))
      rw [offset, input.ctrl_regs]
      omega

def Reg.above (reg : Reg) : List Reg := Reg.order.takeWhile fun other => other ≠ reg

def Reg.below (reg : Reg) : List Reg := (Reg.order.dropWhile fun other => other ≠ reg).tail

theorem reg_order_split (reg : Reg) : Reg.order = reg.above ++ reg :: reg.below := by
  cases reg <;> rfl

theorem reg_order_apart (reg other : Reg) (member : other ∈ reg.above ∨ other ∈ reg.below) : other ≠ reg := by
  revert member
  cases reg <;> cases other <;> decide

-- Where the register of a channel is: every enabled channel has its register
-- in each of the groups in front.
def Reg.slot (ctrl_regs : Bytes) (phys_channels cnt : Nat) (reg : Reg) : Nat :=
  accRegLen + (reg.above.map Reg.len).sum * rank ctrl_regs phys_channels + reg.len * rank ctrl_regs cnt

theorem store_keeps (reg other : Reg) (cnt : Nat) (apart : other ≠ reg) : other.loop.Keeps fun data => data.stored cnt reg := by
  intro channel offset data
  cases reg <;> cases other <;> first | rfl | exact absurd rfl apart

theorem store_spares (reg : Reg) (cnt : Nat) : reg.loop.Spares (fun data => data.stored cnt reg) cnt := by
  intro channel offset data apart
  cases reg <;> exact Function.update_of_ne apart.symm _ _

theorem store_stored (reg : Reg) (cnt offset : Nat) (data : RegData) :
    (reg.store cnt offset data).stored cnt reg = reg.decoder (data.bi_dir cnt) data.meas_regs offset := by
  cases reg <;> cases way : data.bi_dir cnt <;>
    simp [Reg.store, RegData.stored, Reg.decoder, storeVpowerAcc, storeVbus, storeVsense, storeVbusAvg, storeVsenseAvg,
      storeVpower, senseField, way]

section Decoded

variable (phys_channels cnt : Nat) (data : RegData)

theorem decode_part {P : Type} (part : RegData → P) (reg : Reg) (present : cnt < phys_channels)
    (on : active data.ctrl_regs cnt = true) (keeps : ∀ other, other ≠ reg → other.loop.Keeps part)
    (spares : reg.loop.Spares part cnt) :
    ∃ d, SameInput (counted data) d ∧ part d = part (counted data) ∧
      part (decode phys_channels data) = part (reg.store cnt (reg.slot data.ctrl_regs phys_channels cnt) d) := by
  have kept (regs : List Reg) (apart : ∀ other ∈ regs, other ≠ reg) (loop : Loop) (member : loop ∈ regs.map Reg.loop) :
      loop.Keeps part := by
    obtain ⟨other, inside, rfl⟩ := List.mem_map.mp member
    exact keeps other (apart other inside)
  have split : Reg.order.map Reg.loop = reg.above.map Reg.loop ++ reg.loop :: reg.below.map Reg.loop := by
    conv_lhs => rw [reg_order_split reg]
    simp
  have found := run_loops_part part cnt (reg.above.map Reg.loop) (reg.below.map Reg.loop) reg.loop
    (split ▸ reg_loops_read) (kept _ fun other member => reg_order_apart reg other (.inl member)) spares
    (kept _ fun other member => reg_order_apart reg other (.inr member)) phys_channels present
    (accRegLen, counted data) on
  rw [← split, ← decode_loops, List.map_map] at found
  exact found

-- Every loop hands its store the place of the channel's register.
theorem decode_stored (reg : Reg) (present : cnt < phys_channels) (on : active data.ctrl_regs cnt = true) :
    (decode phys_channels data).stored cnt reg =
      reg.decoder (data.bi_dir cnt) data.meas_regs (reg.slot data.ctrl_regs phys_channels cnt) := by
  obtain ⟨d, same, _, found⟩ := decode_part phys_channels cnt data (fun data => data.stored cnt reg) reg present on
    (fun other apart => store_keeps reg other cnt apart) (store_spares reg cnt)
  rw [found, store_stored, same.bi_dir, same.meas_regs]
  rfl

theorem energy_keeps (other : Reg) (apart : other ≠ .vpower_acc) : other.loop.Keeps fun data => data.energy_sec_acc cnt := by
  intro channel offset data
  cases other <;> first | rfl | exact absurd rfl apart

theorem energy_spares : Reg.vpower_acc.loop.Spares (fun data => data.energy_sec_acc cnt) cnt := by
  intro channel offset data apart
  exact Function.update_of_ne apart.symm _ _

theorem store_energy (offset : Nat) (d : RegData) :
    (storeVpowerAcc cnt offset d).energy_sec_acc cnt = wrap 64 (d.energy_sec_acc cnt +
      wrap 64 (Reg.vpower_acc.decoder (d.bi_dir cnt) d.meas_regs offset * d.acc_count) >>> sampShift d.ctrl_regs) := by
  cases way : d.bi_dir cnt <;> simp [storeVpowerAcc, Reg.decoder, way]

theorem decode_energy_sec_acc (present : cnt < phys_channels) (on : active data.ctrl_regs cnt = true) :
    (decode phys_channels data).energy_sec_acc cnt = wrap 64 (data.energy_sec_acc cnt +
      wrap 64 ((decode phys_channels data).vpower_acc cnt * mACC_COUNT data.meas_regs 0) >>> sampShift data.ctrl_regs) := by
  obtain ⟨d, same, stays, found⟩ := decode_part phys_channels cnt data (fun data => data.energy_sec_acc cnt) .vpower_acc
    present on (energy_keeps cnt) (energy_spares cnt)
  have acc : (decode phys_channels data).vpower_acc cnt = _ := decode_stored phys_channels cnt data .vpower_acc present on
  have stored := store_energy cnt (Reg.vpower_acc.slot data.ctrl_regs phys_channels cnt) d
  rw [stays, same.bi_dir, same.meas_regs, same.acc_count, same.ctrl_regs] at stored
  rw [acc]
  exact found.trans stored

theorem decode_input : SameInput (counted data) (decode phys_channels data) :=
  run_loops_input _ reg_loops_read (List.range phys_channels) (accRegLen, counted data)

-- A channel that is not enabled keeps all it had.
theorem decode_disabled (off : phys_channels ≤ cnt ∨ active data.ctrl_regs cnt = false) :
    (decode phys_channels data).energy_sec_acc cnt = data.energy_sec_acc cnt ∧
      ∀ reg, (decode phys_channels data).stored cnt reg = data.stored cnt reg := by
  have absent : cnt ∉ List.range phys_channels ∨ active data.ctrl_regs cnt = false :=
    off.imp_left fun above member => absurd (List.mem_range.mp member) (not_lt.mpr above)
  constructor
  · apply run_loops_spare (fun data => data.energy_sec_acc cnt) cnt _ reg_loops_read _ _ (accRegLen, counted data) absent
    intro loop member
    obtain ⟨other, _, rfl⟩ := List.mem_map.mp member
    by_cases own : other = .vpower_acc
    · subst own
      exact energy_spares cnt
    · exact fun channel offset data _ => energy_keeps cnt other own channel offset data
  · intro reg
    apply run_loops_spare (fun data => data.stored cnt reg) cnt _ reg_loops_read _ _ (accRegLen, counted data) absent
    intro loop member
    obtain ⟨other, _, rfl⟩ := List.mem_map.mp member
    by_cases own : other = reg
    · subst own
      exact store_spares other cnt
    · exact fun channel offset data _ => store_keeps reg other cnt own channel offset data

end Decoded

section Encoded

variable (ctrl_regs : Bytes) (regs : ChipRegs)

theorem own_length (enabled : List Nat) (reg : Reg) :
    (enabled.flatMap fun cnt => regs.own cnt reg).length = reg.len * enabled.length := by
  induction enabled with
  | nil => rfl
  | cons cnt rest ih =>
      rw [List.flatMap_cons, List.length_append, ih, ChipRegs.own, bytes_of_length, List.length_cons, Nat.mul_succ, Nat.add_comm]

theorem groups_length (enabled : List Nat) (order : List Reg) :
    (order.flatMap fun reg => enabled.flatMap fun cnt => regs.own cnt reg).length =
      (order.map Reg.len).sum * enabled.length := by
  induction order with
  | nil => simp
  | cons reg rest ih =>
      rw [List.flatMap_cons, List.length_append, ih, own_length, List.map_cons, List.sum_cons, Nat.add_mul]

theorem word_fits (cnt : Nat) (reg : Reg) : regs.word cnt reg < 256 ^ reg.len := by
  cases reg with
  | vpower_acc => exact (regs.vpower_acc cnt).isLt
  | vbus => exact (regs.vbus cnt).isLt
  | vsense => exact (regs.vsense cnt).isLt
  | vbus_avg => exact (regs.vbus_avg cnt).isLt
  | vsense_avg => exact (regs.vsense_avg cnt).isLt
  | vpower => exact (regs.vpower cnt ++ regs.unused cnt).isLt

theorem enabled_split (channels cnt : Nat) (present : cnt < channels) (on : active ctrl_regs cnt = true) :
    ∃ after, (List.range channels).filter (active ctrl_regs) =
      (List.range cnt).filter (active ctrl_regs) ++ cnt :: after := by
  obtain ⟨after, split, _⟩ := range_split channels cnt present
  refine ⟨after.filter (active ctrl_regs), ?_⟩
  rw [split, List.filter_append, List.filter_cons_of_pos on]

theorem encode_count (channels : Nat) (rest : Bytes) :
    mACC_COUNT (encode channels ctrl_regs regs ++ rest) 0 = regs.acc_count.toNat := by
  rw [encode_active, List.append_assoc]
  have read := big_endian_bytes_of [] (Reg.order.flatMap (fun reg =>
    ((List.range channels).filter (active ctrl_regs)).flatMap fun cnt => regs.own cnt reg) ++ rest) accRegLen
    regs.acc_count.toNat
  exact read.trans (Nat.mod_eq_of_lt regs.acc_count.isLt)

-- The chip puts each register where the driver looks for it.
theorem encode_word (channels : Nat) (rest : Bytes) (cnt : Nat) (reg : Reg) (present : cnt < channels)
    (on : active ctrl_regs cnt = true) :
    bigEndian (encode channels ctrl_regs regs ++ rest) (reg.slot ctrl_regs channels cnt) reg.len = regs.word cnt reg := by
  obtain ⟨after, split⟩ := enabled_split ctrl_regs channels cnt present on
  have groups := groups_length regs ((List.range channels).filter (active ctrl_regs)) reg.above
  have own := own_length regs ((List.range cnt).filter (active ctrl_regs)) reg
  rw [encode_active, reg_order_split reg, List.flatMap_append, List.flatMap_cons]
  generalize reg.above.flatMap _ = front at groups ⊢
  generalize reg.below.flatMap _ = back
  rw [split, List.flatMap_append, List.flatMap_cons]
  generalize ((List.range cnt).filter (active ctrl_regs)).flatMap _ = left at own ⊢
  generalize after.flatMap _ = right
  have place : reg.slot ctrl_regs channels cnt = (bytesOf accRegLen regs.acc_count.toNat ++ front ++ left).length := by
    rw [List.length_append, List.length_append, bytes_of_length, groups, own]
    rfl
  have read := big_endian_bytes_of (bytesOf accRegLen regs.acc_count.toNat ++ front ++ left) (right ++ back ++ rest) reg.len
    (regs.word cnt reg)
  rw [← place, Nat.mod_eq_of_lt (word_fits regs cnt reg)] at read
  rw [← read, ChipRegs.own]
  simp only [List.append_assoc]

theorem own_word (cnt : Nat) (reg : Reg) : bigEndian (regs.own cnt reg) 0 reg.len = regs.word cnt reg := by
  have read := big_endian_bytes_of [] [] reg.len (regs.word cnt reg)
  rw [List.append_nil, Nat.mod_eq_of_lt (word_fits regs cnt reg)] at read
  exact read

theorem decoder_word (bi_dir : Bool) (reg : Reg) (bytes other : Bytes) (offset place : Nat)
    (same : bigEndian bytes offset reg.len = bigEndian other place reg.len) :
    reg.decoder bi_dir bytes offset = reg.decoder bi_dir other place := by
  cases reg <;> cases bi_dir <;>
    simp only [Reg.decoder, mVPOWER_ACCs, mVPOWER_ACCu, mVBUS_SENSEs, mVBUS_SENSEu, mVPOWERs, mVPOWERu, if_true,
      Bool.false_eq_true, if_false] <;>
    simp only [Reg.len, vpowerAccRegLen, vbusSenseRegLen, vpowerRegLen] at same <;> rw [same]

end Encoded

-- What the registers hold, unsigned and as two's complement.
def ChipRegs.value (regs : ChipRegs) (cnt : Nat) : Reg → Nat
  | .vpower => (regs.vpower cnt).toNat
  | reg => regs.word cnt reg

def ChipRegs.signed (regs : ChipRegs) (cnt : Nat) : Reg → Int
  | .vpower_acc => (regs.vpower_acc cnt).toInt
  | .vsense => (regs.vsense cnt).toInt
  | .vsense_avg => (regs.vsense_avg cnt).toInt
  | .vpower => (regs.vpower cnt).toInt
  | reg => regs.word cnt reg

def ChipRegs.held (regs : ChipRegs) (bi_dir : Bool) (cnt : Nat) (reg : Reg) : Int :=
  if bi_dir then regs.signed cnt reg else regs.value cnt reg

section Values

variable (regs : ChipRegs) (cnt : Nat)

theorem power_word : (regs.vpower cnt ++ regs.unused cnt).toNat / 16 = (regs.vpower cnt).toNat := by
  have low : (regs.unused cnt).toNat < 2 ^ 4 := (regs.unused cnt).isLt
  rw [BitVec.toNat_append, ← Nat.shiftLeft_add_eq_or_of_lt low, Nat.shiftLeft_eq]
  omega

theorem unsigned_decoder (reg : Reg) : reg.decoder false (regs.own cnt reg) 0 = regs.value cnt reg := by
  have word := own_word regs cnt reg
  cases reg with
  | vpower =>
      have power := power_word regs cnt
      simp only [Reg.len, vpowerRegLen, ChipRegs.word] at word
      simp only [Reg.decoder, Bool.false_eq_true, if_false, mVPOWERu, word, power, ChipRegs.value]
  | _ => exact congrArg Nat.cast word

theorem signed_decoder (reg : Reg) (other : reg ≠ .vpower) : reg.decoder true (regs.own cnt reg) 0 = regs.signed cnt reg := by
  have word := own_word regs cnt reg
  cases reg with
  | vpower_acc =>
      simp only [Reg.len, vpowerAccRegLen, ChipRegs.word] at word
      simp only [Reg.decoder, if_true, mVPOWER_ACCs, word, signExtend, ChipRegs.signed, BitVec.toInt_eq_toNat_bmod]
  | vsense =>
      simp only [Reg.len, vbusSenseRegLen, ChipRegs.word] at word
      simp only [Reg.decoder, if_true, mVBUS_SENSEs, word, wrap, ChipRegs.signed, BitVec.toInt_eq_toNat_bmod]
  | vsense_avg =>
      simp only [Reg.len, vbusSenseRegLen, ChipRegs.word] at word
      simp only [Reg.decoder, if_true, mVBUS_SENSEs, word, wrap, ChipRegs.signed, BitVec.toInt_eq_toNat_bmod]
  | vpower => exact absurd rfl other
  | _ => exact congrArg Nat.cast word

-- mVPOWERs takes bit 3 of the 28 bits for the sign.
theorem signed_power_decoder :
    Reg.vpower.decoder true (regs.own cnt .vpower) 0 = Int.bmod (regs.vpower cnt).toNat 16 := by
  have word := own_word regs cnt .vpower
  have power := power_word regs cnt
  simp only [Reg.len, vpowerRegLen, ChipRegs.word] at word
  simp only [Reg.decoder, if_true, mVPOWERs, word, power, signExtend]
  rfl

theorem signed_power_iff :
    Reg.vpower.decoder true (regs.own cnt .vpower) 0 = regs.signed cnt .vpower ↔
      -8 ≤ (regs.vpower cnt).toInt ∧ (regs.vpower cnt).toInt ≤ 7 := by
  rw [signed_power_decoder, ChipRegs.signed]
  have bound := (regs.vpower cnt).isLt
  have whole := BitVec.toInt_eq_toNat_bmod (regs.vpower cnt)
  generalize (regs.vpower cnt).toInt = field at whole ⊢
  generalize (regs.vpower cnt).toNat = word at bound whole ⊢
  rw [Int.bmod_def] at whole ⊢
  norm_num at whole ⊢
  omega

end Values

-- The decoders take nothing from the registers but a power beyond four bits.
theorem decoders_undo_iff (on : Nat → Prop) (bi_dir : Nat → Bool) (regs : ChipRegs) :
    (∀ cnt reg, on cnt → reg.decoder (bi_dir cnt) (regs.own cnt reg) 0 = regs.held (bi_dir cnt) cnt reg) ↔
      ∀ cnt, on cnt → bi_dir cnt = true → -8 ≤ (regs.vpower cnt).toInt ∧ (regs.vpower cnt).toInt ≤ 7 := by
  constructor
  · intro right cnt present way
    have power := right cnt .vpower present
    rw [way] at power
    exact (signed_power_iff regs cnt).mp power
  · intro small cnt reg present
    cases way : bi_dir cnt with
    | false => exact unsigned_decoder regs cnt reg
    | true =>
        by_cases power : reg = .vpower
        · subst power
          exact (signed_power_iff regs cnt).mpr (small cnt present way)
        · exact signed_decoder regs cnt reg power

theorem decode_encoded (phys_channels : Nat) (data : RegData) (regs : ChipRegs) (rest : Bytes) (cnt : Nat) (reg : Reg)
    (block : data.meas_regs = encode phys_channels data.ctrl_regs regs ++ rest) (present : cnt < phys_channels)
    (on : active data.ctrl_regs cnt = true) :
    (decode phys_channels data).stored cnt reg = reg.decoder (data.bi_dir cnt) (regs.own cnt reg) 0 := by
  rw [decode_stored phys_channels cnt data reg present on]
  apply decoder_word
  rw [block, encode_word _ regs phys_channels rest cnt reg present on, own_word]

theorem encode_physical (phys_channels channels : Nat) (ctrl_regs : Bytes) (regs : ChipRegs) (fits : phys_channels ≤ channels)
    (physical : ∀ cnt, phys_channels ≤ cnt → cnt < channels → active ctrl_regs cnt = false) :
    encode channels ctrl_regs regs = encode phys_channels ctrl_regs regs := by
  have none : ((List.range' phys_channels (channels - phys_channels)).filter (active ctrl_regs)) = [] := by
    apply List.filter_eq_nil_iff.mpr
    intro cnt member
    obtain ⟨low, high⟩ := List.mem_range'_1.mp member
    rw [physical cnt low (by omega)]
    exact Bool.false_ne_true
  have joined := @List.range'_append_1 0 phys_channels (channels - phys_channels)
  rw [Nat.zero_add, Nat.add_sub_cancel' fits] at joined
  rw [encode_active, encode_active, List.range_eq_range', List.range_eq_range', ← joined, List.filter_append, none, List.append_nil]

theorem rank_bound (ctrl_regs : Bytes) (cnt : Nat) : rank ctrl_regs cnt ≤ cnt := by
  have bound := List.length_filter_le (active ctrl_regs) (List.range cnt)
  rwa [List.length_range] at bound

-- t is what the snapshot makes of data and of the registers of the chip: each
-- enabled channel's decoders get its own bytes and give back what was encoded.
structure Unpacked (phys_channels : Nat) (regs : ChipRegs) (data t : RegData) : Prop where
  count : t.acc_count = regs.acc_count.toNat
  handed : ∀ cnt reg, cnt < phys_channels → enabled (channelDis data.ctrl_regs) cnt = true →
    t.stored cnt reg = reg.decoder (data.bi_dir cnt) (regs.own cnt reg) 0
  undone : ∀ cnt reg, cnt < phys_channels → enabled (channelDis data.ctrl_regs) cnt = true →
    t.stored cnt reg = regs.held (data.bi_dir cnt) cnt reg
  skipped : ∀ cnt, phys_channels ≤ cnt ∨ enabled (channelDis data.ctrl_regs) cnt = false →
    t.energy_sec_acc cnt = data.energy_sec_acc cnt ∧ ∀ reg, t.stored cnt reg = data.stored cnt reg
  inside : ∀ trap : RegData → RegData, t =
    (runLoops (List.range phys_channels) ((Reg.order.map Reg.loop).map (Loop.guarded trap)) (accRegLen, counted data)).2

def SmallPowers (phys_channels : Nat) (regs : ChipRegs) (data : RegData) : Prop :=
  ∀ cnt, cnt < phys_channels → enabled (channelDis data.ctrl_regs) cnt = true → data.bi_dir cnt = true →
    -8 ≤ (regs.vpower cnt).toInt ∧ (regs.vpower cnt).toInt ≤ 7

def threeRegs : ChipRegs where
  acc_count := 3
  vpower_acc cnt := BitVec.ofNat 48 (1000 * cnt)
  vbus cnt := BitVec.ofNat 16 cnt
  vsense cnt := BitVec.ofNat 16 cnt
  vbus_avg cnt := BitVec.ofNat 16 cnt
  vsense_avg cnt := BitVec.ofNat 16 cnt
  vpower cnt := BitVec.ofNat 28 cnt
  unused _ := 0

-- CHANNEL_DIS leaves the channels 0 and 2 of a PAC1933 on.
def twoOfThree : Bytes := [0, 0, 0, 0, 0, 0, 0, 0x50, 0, 0, 0, 0]

def taken (regs : ChipRegs) : RegData :=
  { clearedData with bi_dir := fun _ => true, ctrl_regs := twoOfThree, meas_regs := encode maxNumChannels twoOfThree regs ++ [] }

theorem two_of_three_physical (cnt : Nat) (low : 3 ≤ cnt) (high : cnt < maxNumChannels) :
    enabled (channelDis twoOfThree) cnt = false := by
  obtain rfl : cnt = 3 := by
    rw [maxNumChannels] at high
    omega
  decide

theorem snapshot_unpacks_iff (phys_channels : Nat) (data : RegData) (regs : ChipRegs) (rest : Bytes)
    (known : phys_channels ≤ maxNumChannels)
    (physical : ∀ cnt, phys_channels ≤ cnt → cnt < maxNumChannels → enabled (channelDis data.ctrl_regs) cnt = false)
    (block : data.meas_regs = encode maxNumChannels data.ctrl_regs regs ++ rest) :
    Unpacked phys_channels regs data (decode phys_channels data) ↔ SmallPowers phys_channels regs data := by
  rw [← active_eq] at physical
  rw [encode_physical phys_channels maxNumChannels data.ctrl_regs regs known physical] at block
  have handed (cnt : Nat) (reg : Reg) (present : cnt < phys_channels) (on : enabled (channelDis data.ctrl_regs) cnt = true) :
      (decode phys_channels data).stored cnt reg = reg.decoder (data.bi_dir cnt) (regs.own cnt reg) 0 :=
    decode_encoded phys_channels data regs rest cnt reg block present ((active_enabled data.ctrl_regs cnt).trans on)
  have undo := decoders_undo_iff (fun cnt => cnt < phys_channels ∧ enabled (channelDis data.ctrl_regs) cnt = true) data.bi_dir regs
  constructor
  · intro unpacked cnt present on
    refine undo.mp (fun other reg here => ?_) cnt ⟨present, on⟩
    exact (handed other reg here.1 here.2).symm.trans (unpacked.undone other reg here.1 here.2)
  · intro small
    refine ⟨?_, handed, ?_, ?_, ?_⟩
    · rw [(decode_input phys_channels data).acc_count, counted, block]
      exact encode_count data.ctrl_regs regs phys_channels rest
    · intro cnt reg present on
      exact (handed cnt reg present on).trans (undo.mpr (fun other here => small other here.1 here.2) cnt reg ⟨present, on⟩)
    · intro cnt off
      rw [← active_enabled] at off
      exact decode_disabled phys_channels cnt data off
    · intro trap
      have bound := rank_bound data.ctrl_regs phys_channels
      rw [decode_loops, run_loops_guarded trap _ reg_loops_read]
      have few : rank data.ctrl_regs phys_channels ≤ 4 := le_trans bound known
      change 3 + 18 * rank data.ctrl_regs phys_channels ≤ 76
      omega

theorem snapshot_unpacks_iff_two_of_three :
    Unpacked 3 threeRegs (taken threeRegs) (decode 3 (taken threeRegs)) ↔ SmallPowers 3 threeRegs (taken threeRegs) :=
  snapshot_unpacks_iff 3 (taken threeRegs) threeRegs [] (by decide) two_of_three_physical rfl

def eightWatts : ChipRegs := { threeRegs with vpower := fun _ => 8 }

-- A power of 8 comes back as -8.
theorem eight_not_unpacked :
    ¬ ∀ (phys_channels : Nat) (data : RegData) (regs : ChipRegs) (rest : Bytes), phys_channels ≤ maxNumChannels →
      (∀ cnt, phys_channels ≤ cnt → cnt < maxNumChannels → enabled (channelDis data.ctrl_regs) cnt = false) →
      data.meas_regs = encode maxNumChannels data.ctrl_regs regs ++ rest →
      Unpacked phys_channels regs data (decode phys_channels data) := by
  intro unpacks
  have unpacked := unpacks 3 (taken eightWatts) eightWatts [] (by decide) two_of_three_physical rfl
  exact absurd (unpacked.undone 0 .vpower (by decide) (by decide)) (by decide)

-- The stored values are the values of the registers just when no bidirectional
-- channel has a power outside the four bits that mVPOWERs keeps.
theorem twos_complement_iff (phys_channels : Nat) (data : RegData) (regs : ChipRegs) (rest : Bytes) :
    let taken := { data with meas_regs := encode phys_channels data.ctrl_regs regs ++ rest }
    (∀ cnt reg, cnt < phys_channels → active data.ctrl_regs cnt = true →
      (decode phys_channels taken).stored cnt reg = if data.bi_dir cnt then regs.signed cnt reg else regs.value cnt reg) ↔
      ∀ cnt, cnt < phys_channels → active data.ctrl_regs cnt = true → data.bi_dir cnt = true →
        -8 ≤ (regs.vpower cnt).toInt ∧ (regs.vpower cnt).toInt ≤ 7 := by
  intro taken
  have handed (cnt : Nat) (reg : Reg) := decode_encoded phys_channels taken regs rest cnt reg rfl
  have undo := decoders_undo_iff (fun cnt => cnt < phys_channels ∧ active data.ctrl_regs cnt = true) data.bi_dir regs
  constructor
  · intro right cnt present on
    refine undo.mp (fun other reg here => ?_) cnt ⟨present, on⟩
    exact (handed other reg here.1 here.2).symm.trans (right other reg here.1 here.2)
  · intro small cnt reg present on
    exact (handed cnt reg present on).trans (undo.mpr (fun other here => small other here.1 here.2) cnt reg ⟨present, on⟩)

theorem eight_decoded_negative :
    ¬ ∀ (phys_channels : Nat) (data : RegData) (regs : ChipRegs) (rest : Bytes) (cnt : Nat) (reg : Reg),
      data.meas_regs = encode phys_channels data.ctrl_regs regs ++ rest → cnt < phys_channels →
        active data.ctrl_regs cnt = true →
          (decode phys_channels data).stored cnt reg = if data.bi_dir cnt then regs.signed cnt reg else regs.value cnt reg := by
  intro right
  have power := right 1 { clearedData with
    bi_dir := fun _ => true
    ctrl_regs := twoOfThree
    meas_regs := encode 1 twoOfThree eightWatts ++ [] } eightWatts [] 0 .vpower rfl (by decide) (by decide)
  exact absurd power (by decide)

end SummitSom.Pac193x
