import SummitSom.Interact.Calls
import SummitSom.Pac193x.DeviceTree
import SummitSom.Pac193x.Footprint
import SummitSom.Pac193x.Scales

set_option autoImplicit false

namespace SummitSom.Pac193x

open Interact

-- What a write of the rate meets: whether a buffer is enabled, and how the
-- transfer that writes CTRL ends.
structure Surroundings where
  enabled : Bool
  ctrl : Int

def Surroundings.answers (around : Surroundings) : (cmd : Cmd Int) → cmd.Reply → Prop
  | .bufferEnabled, enabled => enabled = around.enabled
  | .write reg _, ret => reg = ctrlReg → ret = around.ctrl
  | _, _ => True

-- The driver, and the bytes that CTRL was written with.
abbrev Noted := Driver × Bytes

def ctrlNote (written : Bytes) : (cmd : Cmd Int) → cmd.Reply → Driver → Bytes
  | .write reg data, ret, _ => if reg = ctrlReg ∧ 0 ≤ ret then written ++ data else written
  | _, _, _ => written

def rateWorld (phys_channels : Nat) (around : Surroundings) : World (Cmd Int) Cmd.Reply Noted :=
  ((driverWorld phys_channels).answering fun _ => around.answers).watched ctrlNote

structure RateWritten (val : Int) (s : Driver) (ret : Int) (t : Noted) : Prop where
  accepts : ret = 0 → val ∈ ([8, 64, 256, 1024] : List Int)
  value : ret = 0 → (t.1.sample_rate_value : Int) = val
  code : ret = 0 → samp_rate_map_tbl[t.1.crt_samp_speed_bitfield]?.map Int.ofNat = some val
  ctrl : ret = 0 → t.2 = [CTRL_REG t.1.crt_samp_speed_bitfield 0 0 1 0 0]
  unchanged : ret ≠ 0 → t.2 = [] →
    t.1.sample_rate_value = s.sample_rate_value ∧ t.1.crt_samp_speed_bitfield = s.crt_samp_speed_bitfield

-- The rate that the 16 bits left of val name.
def rateOf (val : Int) : Nat := (val % 65536).toNat

def Driver.Holds (s : Driver) (rate : Nat) : Prop :=
  s.sample_rate_value = rate ∧ samp_rate_map_tbl[s.crt_samp_speed_bitfield]? = some rate

-- No rate is written: a buffer is enabled or there is no such rate.
def Surroundings.refuses (around : Surroundings) (val : Int) : Prop :=
  around.enabled = true ∨ rateOf val ∉ samp_rate_map_tbl

def Surroundings.suits (around : Surroundings) (val : Int) (s : Driver) : Prop :=
  if around.ctrl < 0 then s.Holds (rateOf val) else 0 ≤ val ∧ val < 65536

section Writes

variable (phys_channels hz : Nat) (around : Surroundings)

structure Unrated (s t : Noted) : Prop where
  rate : t.1.sample_rate_value = s.1.sample_rate_value
  code : t.1.crt_samp_speed_bitfield = s.1.crt_samp_speed_bitfield
  written : t.2 = s.2

theorem reply_code (s t : Driver) (cmd : Cmd Int) (answer : cmd.Reply) (other : ∀ code, cmd ≠ .setSpeedCode code)
    (reply : driverReply phys_channels s cmd answer t) : t.crt_samp_speed_bitfield = s.crt_samp_speed_bitfield := by
  cases cmd with
  | setSpeedCode code => exact (other code rfl).elim
  | _ => grind [driverReply]

-- Commands that leave the rate, its code and CTRL alone.
def Unrating : Cmd Int → Prop
  | .setSampleRate _ | .setSpeedCode _ => False
  | .write reg _ => reg ≠ ctrlReg
  | _ => True

theorem retrieves_unrating (cmd : Cmd Int) (retrieves : Retrieves cmd) : Unrating cmd := by
  cases cmd with
  | write reg data =>
      rcases retrieves with ⟨rfl, _⟩
      exact fun same => absurd same (by decide)
  | setSampleRate rate => exact retrieves
  | setSpeedCode code => exact retrieves
  | _ => trivial

theorem unrating_reply (s t : Noted) (cmd : Cmd Int) (answer : cmd.Reply) (unrating : Unrating cmd)
    (reply : (rateWorld phys_channels around).reply s cmd answer t) : Unrated s t := by
  rcases reply with ⟨⟨_, moved⟩, noted⟩
  have spared := reply_spares phys_channels s.1 t.1 cmd answer moved
  refine ⟨?_, reply_code phys_channels s.1 t.1 cmd answer ?_ moved, ?_⟩
  · rcases spared.rate with same | set
    · exact same
    · rw [set] at unrating
      exact unrating.elim
  · intro code set
    rw [set] at unrating
    exact unrating
  · rw [noted]
    cases cmd with
    | write reg data => exact if_neg fun found => unrating found.1
    | _ => rfl

theorem unrating_ends {A : Type} (act : Act Int A) (s t : Noted) (result : Except Fault A)
    (only : Only Unrating act) (ended : Ends (rateWorld phys_channels around) act s result t) : Unrated s t := by
  have safe := only_safe (rateWorld phys_channels around) Unrating (Unrated s) act s only ⟨rfl, rfl, rfl⟩
    (by
      intro u cmd v _ same during
      obtain rfl : v = u := Prod.ext during.1 during.2
      exact same)
    (by
      intro u cmd answer v unrating same reply
      have step := unrating_reply phys_channels around u v cmd answer unrating reply
      exact ⟨step.rate.trans same.rate, step.code.trans same.code, step.written.trans same.written⟩)
  exact safe_ends _ _ _ act s t result safe ended

theorem retrieve_data_positive (wait_time : Nat) (s t : Noted) (ret : Int)
    (ended : Ends (rateWorld phys_channels around) (retrieveData hz wait_time) s (.ok ret) t) : 0 ≤ ret := by
  simp only [retrieveData, issue_bind] at ended
  rcases ended_call _ _ _ s t _ ended with ⟨now, u, _, ended⟩
  rcases ended_call _ _ _ u t _ ended with ⟨tstamp, v, _, ended⟩
  split at ended
  · rcases ended_bind _ _ _ v t _ ended with ⟨_, w, _, ended⟩ | ⟨_, _, impossible⟩
    · rcases ended_call _ _ _ w t _ ended with ⟨tstamp, x, _, ended⟩
      rcases ended_call _ _ _ x t _ ended with ⟨pending, y, reply, ended⟩
      rcases ended_done _ pending y t _ ended with ⟨same, _⟩
      cases same
      rw [reply.1.2.1]
      split <;> omega
    · cases impossible
  · rcases ended_done _ _ v t _ ended with ⟨same, _⟩
    cases same
    exact le_refl 0

theorem force_snapshot_zero (old_samp_rate : Nat) (s t : Noted) (ret : Int)
    (ended : Ends (rateWorld phys_channels around) (forceSnapshot hz old_samp_rate) s (.ok ret) t) : ret = 0 := by
  simp only [forceSnapshot, issue_bind] at ended
  rcases ended_call _ _ _ s t _ ended with ⟨tstamp, u, _, ended⟩
  rcases ended_call _ _ _ u t _ ended with ⟨_, v, _, ended⟩
  rcases ended_bind _ _ _ v t _ ended with ⟨ratio, w, _, ended⟩ | ⟨_, _, impossible⟩
  · rcases ended_bind _ _ _ w t _ ended with ⟨inner, x, retrieved, ended⟩ | ⟨_, _, impossible⟩
    · have positive := retrieve_data_positive phys_channels hz around _ w x inner retrieved
      rcases ended_done _ _ x t _ ended with ⟨same, _⟩
      cases same
      exact if_neg (by omega)
    · cases impossible
  · cases impossible

theorem write_samp_rate_eq {J : Type} [Jiffies J] (hz val : Nat) :
    (writeSampRate hz val : Act J Int) = .call .sampleRate fun old_samp_rate => .call (.setSampleRate val) fun _ =>
      .call .lock fun _ => .call .speedCode fun code => .call (.write ctrlReg [CTRL_REG code 0 0 1 0 0]) fun ret =>
        .call .unlock fun _ =>
          if (if ret < 0 then ret else 0) < 0 then .done (if ret < 0 then ret else 0) else forceSnapshot hz old_samp_rate := rfl

-- A write that gets as far as CTRL.
theorem write_samp_rate_ends (val : Nat) (s t : Noted) (ret : Int)
    (ended : Ends (rateWorld phys_channels around) (writeSampRate hz val) s (.ok ret) t) :
    t.1.sample_rate_value = val ∧ t.1.crt_samp_speed_bitfield = s.1.crt_samp_speed_bitfield ∧
      if around.ctrl < 0 then ret ≠ 0 ∧ t.2 = s.2
      else ret = 0 ∧ t.2 = s.2 ++ [CTRL_REG s.1.crt_samp_speed_bitfield 0 0 1 0 0] := by
  rw [write_samp_rate_eq] at ended
  rcases ended_call _ _ _ s t _ ended with ⟨old, u, loadedRate, ended⟩
  rcases ended_call _ _ _ u t _ ended with ⟨_, v, ⟨⟨_, set⟩, quiet⟩, ended⟩
  rcases ended_call _ _ _ v t _ ended with ⟨_, w, locked, ended⟩
  rcases ended_call _ _ _ w t _ ended with ⟨code, x, loadedCode, ended⟩
  rcases ended_call _ _ _ x t _ ended with ⟨sent, y, ⟨⟨given, later, _, moved⟩, noted⟩, ended⟩
  rcases ended_call _ _ _ y t _ ended with ⟨_, z, unlocked, ended⟩
  have rated : v.1 = { u.1 with sample_rate_value := val } := set
  have first := unrating_reply phys_channels around s u _ old trivial loadedRate
  have second := unrating_reply phys_channels around v w .lock () trivial locked
  have third := unrating_reply phys_channels around w x _ code trivial loadedCode
  have last := unrating_reply phys_channels around y z .unlock () trivial unlocked
  have rate : z.1.sample_rate_value = val := by rw [last.rate, moved, third.rate, second.rate, rated]
  have same : z.1.crt_samp_speed_bitfield = s.1.crt_samp_speed_bitfield := by
    rw [last.code, moved, third.code, second.code, rated, first.code]
  have byte : code = s.1.crt_samp_speed_bitfield := by rw [loadedCode.1.2.1, second.code, rated, first.code]
  have before : x.2 = s.2 := by
    rw [third.written, second.written, ← first.written]
    exact quiet
  have written : z.2 = if 0 ≤ around.ctrl then s.2 ++ [CTRL_REG s.1.crt_samp_speed_bitfield 0 0 1 0 0] else s.2 := by
    rw [last.written, ← before, ← byte, ← given rfl]
    simpa [ctrlNote] using noted
  rw [given rfl] at ended
  by_cases fails : around.ctrl < 0
  · simp only [if_pos fails] at ended ⊢
    rcases ended_done _ _ z t _ ended with ⟨returned, rfl⟩
    cases returned
    rw [if_neg (by omega)] at written
    exact ⟨rate, same, by omega, written⟩
  · simp only [if_neg fails, lt_irrefl, if_false] at ended ⊢
    have zero := force_snapshot_zero phys_channels hz around old z t ret ended
    have only := only_mono Retrieves Unrating _ retrieves_unrating (force_snapshot_only hz old)
    have kept := unrating_ends phys_channels around _ z t _ only ended
    rw [if_pos (by omega)] at written
    exact ⟨kept.rate.trans rate, kept.code.trans same, zero, kept.written.trans written⟩

theorem match_samp_rate_cases {J : Type} (rate : Nat) :
    (rate ∉ samp_rate_map_tbl ∧ (matchSampRate rate : Act J Nat) = .done 4) ∨
      ∃ cnt, samp_rate_map_tbl[cnt]? = some rate ∧
        (matchSampRate rate : Act J Nat) = .call (.setSpeedCode cnt) fun _ => .done 0 := by
  cases found : samp_rate_map_tbl.findIdx? (fun samp_rate => rate == samp_rate) with
  | none =>
      refine .inl ⟨fun member => ?_, by rw [matchSampRate, found]; rfl⟩
      have differs := List.findIdx?_eq_none_iff.mp found rate member
      simp at differs
  | some cnt =>
      refine .inr ⟨cnt, ?_, by rw [matchSampRate, found]; rfl⟩
      obtain ⟨bound, same, _⟩ := List.findIdx?_eq_some_iff_getElem.mp found
      rw [List.getElem?_eq_getElem bound, eq_of_beq same]

theorem code_unique (rate code other : Nat) (first : samp_rate_map_tbl[code]? = some rate)
    (second : samp_rate_map_tbl[other]? = some rate) : code = other := by
  have bound := (List.getElem?_eq_some_iff.mp first).1
  exact (List.getElem?_inj bound (by decide)).mp (first.trans second.symm)

theorem rated_value (val : Int) (rated : rateOf val ∈ samp_rate_map_tbl) :
    val ∈ ([8, 64, 256, 1024] : List Int) ∧ (rateOf val : Int) = val ↔ 0 ≤ val ∧ val < 65536 := by
  simp only [rateOf, samp_rate_map_tbl, List.mem_cons, List.not_mem_nil, or_false] at rated ⊢
  omega

theorem refused_rate_written (val : Int) (s : Driver) (ret : Int) (failed : ret ≠ 0) : RateWritten val s ret (s, []) :=
  ⟨fun zero => absurd zero failed, fun zero => absurd zero failed, fun zero => absurd zero failed,
    fun zero => absurd zero failed, fun _ _ => ⟨rfl, rfl⟩⟩

theorem failed_write_iff (val : Int) (cnt : Nat) (s : Driver) (t : Noted) (ret : Int)
    (matched : samp_rate_map_tbl[cnt]? = some (rateOf val)) (failed : ret ≠ 0) (unwritten : t.2 = [])
    (value : t.1.sample_rate_value = rateOf val) (code : t.1.crt_samp_speed_bitfield = cnt) :
    RateWritten val s ret t ↔ s.Holds (rateOf val) := by
  constructor
  · intro written
    have kept := written.unchanged failed unwritten
    refine ⟨kept.1.symm.trans value, ?_⟩
    rw [← kept.2, code]
    exact matched
  · intro holds
    have same := code_unique (rateOf val) _ cnt holds.2 matched
    exact ⟨fun zero => absurd zero failed, fun zero => absurd zero failed, fun zero => absurd zero failed,
      fun zero => absurd zero failed, fun _ _ => ⟨value.trans holds.1.symm, code.trans same.symm⟩⟩

theorem done_write_iff (val : Int) (cnt : Nat) (s : Driver) (t : Noted)
    (matched : samp_rate_map_tbl[cnt]? = some (rateOf val)) (written : t.2 = [CTRL_REG cnt 0 0 1 0 0])
    (value : t.1.sample_rate_value = rateOf val) (code : t.1.crt_samp_speed_bitfield = cnt) :
    RateWritten val s 0 t ↔ 0 ≤ val ∧ val < 65536 := by
  have rated := rated_value val (List.mem_of_getElem? matched)
  constructor
  · intro exact
    refine rated.mp ⟨exact.accepts rfl, ?_⟩
    rw [← value]
    exact exact.value rfl
  · intro range
    have same := (rated.mpr range).2
    refine ⟨fun _ => (rated.mpr range).1, fun _ => ?_, fun _ => ?_, fun _ => ?_, fun failed => absurd rfl failed⟩
    · rw [value]
      exact same
    · rw [code, matched]
      exact congrArg some same
    · rw [code]
      exact written

theorem samp_freq_exact_iff (val : Int) (s : Driver) (t : Noted) (ret : Int)
    (ended : Ends (rateWorld phys_channels around) (writeSampFreq hz val) (s, []) (.ok ret) t) :
    RateWritten val s ret t ↔ rateOf val ∉ samp_rate_map_tbl ∨ around.suits val s := by
  rcases match_samp_rate_cases (rateOf val) with ⟨unknown, same⟩ | ⟨cnt, matched, same⟩
  · rw [writeSampFreq, ← rateOf, same] at ended
    rcases ended_done _ _ _ t _ ended with ⟨returned, rfl⟩
    cases returned
    exact ⟨fun _ => .inl unknown, fun _ => refused_rate_written val s _ (by decide)⟩
  · rw [writeSampFreq, ← rateOf, same] at ended
    rcases ended_call _ _ _ _ t _ ended with ⟨_, u, ⟨⟨_, set⟩, quiet⟩, ended⟩
    have coded : u.1 = { s with crt_samp_speed_bitfield := cnt } := set
    have unwritten : u.2 = [] := quiet
    rcases write_samp_rate_ends phys_channels hz around (rateOf val) u t ret ended with ⟨value, code, written⟩
    rw [coded] at code written
    rw [unwritten] at written
    have known : ¬rateOf val ∉ samp_rate_map_tbl := not_not_intro (List.mem_of_getElem? matched)
    simp only [known, false_or]
    by_cases fails : around.ctrl < 0
    · rw [if_pos fails] at written
      rw [Surroundings.suits, if_pos fails]
      exact failed_write_iff val cnt s t ret matched written.1 written.2 value code
    · rw [if_neg fails] at written
      rw [Surroundings.suits, if_neg fails]
      rcases written with ⟨rfl, written⟩
      exact done_write_iff val cnt s t matched written value code

end Writes

def rateHandler (ret : Int) (s : Noted) (cmd : Cmd Int) : cmd.Reply × Noted :=
  let (answer, t) := driverHandler 1 ret s.1 cmd
  (answer, t, ctrlNote s.2 cmd answer t)

def rateCourse (ret val : Int) : Option (Act Int Int × Noted) :=
  advance (rateHandler ret) (fun s => unlocked s.1) 20 (writeRaw 100 val .samp_freq) (calm 0 0, [])

def afterRate (ret val : Int) : Noted := ((rateCourse ret val).map Prod.snd).getD (calm 0 0, [])

theorem rate_course_ends (ret val result : Int) (t : Noted) (ran : rateCourse ret val = some (.done result, t)) :
    Ends (rateWorld 1 ⟨false, ret⟩) (writeRaw 100 val .samp_freq) (calm 0 0, []) (.ok result) t := by
  refine reaches_advance _ (rateHandler ret) (fun s => unlocked s.1) _ _ _ _ t (fun s cmd able => ?_) ran
  refine ⟨⟨?_, driver_handler_obeys 1 ret s.1 cmd able⟩, rfl⟩
  cases cmd with
  | bufferEnabled => rfl
  | write reg data => exact fun _ => rfl
  | _ => trivial

theorem rate_write_exact_iff (phys_channels hz : Nat) (around : Surroundings) (val : Int) (s : Driver) (t : Noted) (ret : Int)
    (ended : Ends (rateWorld phys_channels around) (writeRaw hz val .samp_freq) (s, []) (.ok ret) t) :
    RateWritten val s ret t ↔ around.refuses val ∨ around.suits val s := by
  simp only [writeRaw, issue_bind] at ended
  rcases ended_call _ _ _ _ t _ ended with ⟨enabled, u, ⟨⟨given, same⟩, quiet⟩, ended⟩
  obtain rfl : u = (s, []) := Prod.ext same quiet
  obtain rfl : enabled = around.enabled := given
  rw [Surroundings.refuses]
  cases busy : around.enabled with
  | true =>
      rw [busy] at ended
      rcases ended_done _ _ _ t _ ended with ⟨returned, rfl⟩
      cases returned
      exact ⟨fun _ => .inl (.inl rfl), fun _ => refused_rate_written val s _ (by decide)⟩
  | false =>
      rw [busy] at ended
      simp only [Bool.false_eq_true, false_or]
      exact samp_freq_exact_iff phys_channels hz around val s t ret ended

theorem rate_write_exact_iff_eight :
    RateWritten 8 (calm 0 0) 0 (afterRate 0 8) ↔ (⟨false, 0⟩ : Surroundings).refuses 8 ∨ (⟨false, 0⟩ : Surroundings).suits 8 (calm 0 0) :=
  rate_write_exact_iff 1 100 ⟨false, 0⟩ 8 (calm 0 0) _ 0 (rate_course_ends 0 8 0 _ rfl)

-- 65544 is taken for 8.
theorem wide_rate_accepted :
    ¬ ∀ (phys_channels hz : Nat) (around : Surroundings) (val : Int) (s : Driver) (t : Noted) (ret : Int),
      Ends (rateWorld phys_channels around) (writeRaw hz val .samp_freq) (s, []) (.ok ret) t → RateWritten val s ret t := by
  intro exact
  have written := exact 1 100 ⟨false, 0⟩ 65544 (calm 0 0) (afterRate 0 65544) 0 (rate_course_ends 0 65544 0 _ rfl)
  exact absurd (written.accepts rfl) (by decide)

end SummitSom.Pac193x
