import SummitSom.Charger.Settings
import SummitSom.Interact.Determined

set_option autoImplicit false

namespace SummitSom.Charger

open Interact

-- The limits that fill two registers.
inductive WordLimit where
  | CHRG_I_LIM
  | CHRG_V_LIM
  | INPUT_I_LIM
deriving DecidableEq

def WordLimit.msb : WordLimit → Reg
  | .CHRG_I_LIM => CHRG_I_LIM_MSB
  | .CHRG_V_LIM => CHRG_V_LIM_MSB
  | .INPUT_I_LIM => INPUT_I_LIM_MSB

def WordLimit.lsb : WordLimit → Reg
  | .CHRG_I_LIM => CHRG_I_LIM_LSB
  | .CHRG_V_LIM => CHRG_V_LIM_LSB
  | .INPUT_I_LIM => INPUT_I_LIM_LSB

def WordLimit.set : WordLimit → Int → Act Int
  | .CHRG_I_LIM => setIchrgCurr
  | .CHRG_V_LIM => setChrgVolt
  | .INPUT_I_LIM => setInputCurrLim

def WordLimit.clamped (limit : WordLimit) (s : Bq25790) (val : Int) : Int :=
  match limit with
  | .CHRG_I_LIM => clamp val 50000 s.ichg_max
  | .CHRG_V_LIM => clamp val 3000000 s.vreg_max
  | .INPUT_I_LIM => clamp val 100000 3300000

def WordLimit.code (limit : WordLimit) (s : Bq25790) (val : Int) : Int := (limit.clamped s val).tdiv 10000

def WordLimit.held (limit : WordLimit) (s : Bq25790) : Int := word (s.chip limit.msb) (s.chip limit.lsb)

def WordLimit.requested (limit : WordLimit) (s : Bq25790) (val : Int) : Int :=
  word (highByte (limit.code s val)) (lowByte (limit.code s val))

-- Every write has an outcome; one that fails has not changed the chip.
def transferAct (outcome : Reg → Int) (s : Bq25790) : (cmd : Cmd) → cmd.Reply × Bq25790
  | .regmapWrite reg val => (outcome reg, if outcome reg = 0 then s.write reg val else s)
  | cmd => answered s cmd

abbrev transferWorld (outcome : Reg → Int) : World Cmd Cmd.Reply Bq25790 := World.determined (transferAct outcome)

def NeverAbove (limit : WordLimit) (outcome : Reg → Int) (s : Bq25790) (val : Int) : Prop :=
  ∀ t, Seen (transferWorld outcome) (limit.set val) s t → limit.held t ≤ max (limit.held s) (limit.requested s val)

def ErrorKeeps (limit : WordLimit) (outcome : Reg → Int) (s : Bq25790) (val : Int) : Prop :=
  ∀ ret t, Ends (transferWorld outcome) (limit.set val) s (.ok ret) t → ret ≠ 0 → limit.held t = limit.held s

theorem word_eq (msb lsb : Nat) (byte : lsb < 256) : word msb lsb = msb * 256 + lsb := by
  have sum : (msb <<< 8 ||| lsb : Nat) = msb * 256 + lsb := by
    rw [← Nat.shiftLeft_add_eq_or_of_lt byte, Nat.shiftLeft_eq]
  rw [word, sum, Int.natCast_add, Int.natCast_mul]
  rfl

theorem low_byte_lt (code : Int) : lowByte code < 256 := by
  rw [lowByte]
  omega

section Pairs

variable (outcome : Reg → Int) (limit : WordLimit) (s : Bq25790) (val : Int)

def halfway : Bq25790 := s.write limit.msb (highByte (limit.code s val))

def finished : Bq25790 := (halfway limit s val).write limit.lsb (lowByte (limit.code s val))

theorem registers_apart : limit.lsb ≠ limit.msb := by
  cases limit <;> decide

theorem halfway_held : limit.held (halfway limit s val) = word (highByte (limit.code s val)) (s.chip limit.lsb) := by
  rw [WordLimit.held, halfway, write_chip, Function.update_self, Function.update_of_ne (registers_apart limit)]

theorem finished_held : limit.held (finished limit s val) = limit.requested s val := by
  rw [WordLimit.held, finished, halfway, write_chip, write_chip, Function.update_self,
    Function.update_of_ne (registers_apart limit).symm, Function.update_self, WordLimit.requested]

theorem set_as_pair (t : Bq25790) :
    eval (transferAct outcome) (limit.set val) s =
        eval (transferAct outcome) (setPair limit.msb limit.lsb 10000 (limit.clamped s val)) s ∧
      (t ∈ trace (transferAct outcome) (limit.set val) s ↔
        t ∈ trace (transferAct outcome) (setPair limit.msb limit.lsb 10000 (limit.clamped s val)) s) := by
  have twice (states : List Bq25790) : t ∈ s :: s :: states ↔ t ∈ s :: states := by simp
  cases limit with
  | CHRG_I_LIM => exact ⟨rfl, twice _⟩
  | CHRG_V_LIM => exact ⟨rfl, twice _⟩
  | INPUT_I_LIM => exact ⟨rfl, Iff.rfl⟩

theorem first_failed (failed : outcome limit.msb ≠ 0) :
    eval (transferAct outcome) (limit.set val) s = (.ok (outcome limit.msb), s) ∧
      ∀ t, t ∈ trace (transferAct outcome) (limit.set val) s ↔ t = s := by
  have pair : eval (transferAct outcome) (setPair limit.msb limit.lsb 10000 (limit.clamped s val)) s =
      (.ok (outcome limit.msb), s) ∧
      trace (transferAct outcome) (setPair limit.msb limit.lsb 10000 (limit.clamped s val)) s = [s, s] := by
    constructor
    · change eval _ (if outcome limit.msb ≠ 0 then pure (outcome limit.msb) else _) (if outcome limit.msb = 0 then _ else s) = _
      rw [if_pos failed, if_neg failed]
      rfl
    · change s :: trace _ (if outcome limit.msb ≠ 0 then pure (outcome limit.msb) else _)
        (if outcome limit.msb = 0 then _ else s) = _
      rw [if_pos failed, if_neg failed]
      rfl
  refine ⟨(set_as_pair outcome limit s val s).1.trans pair.1, ?_⟩
  intro t
  rw [(set_as_pair outcome limit s val t).2, pair.2]
  simp

theorem first_written (written : outcome limit.msb = 0) :
    eval (transferAct outcome) (limit.set val) s =
        (.ok (outcome limit.lsb), if outcome limit.lsb = 0 then finished limit s val else halfway limit s val) ∧
      ∀ t, t ∈ trace (transferAct outcome) (limit.set val) s ↔
        t = s ∨ t = halfway limit s val ∨ (outcome limit.lsb = 0 ∧ t = finished limit s val) := by
  have pair : eval (transferAct outcome) (setPair limit.msb limit.lsb 10000 (limit.clamped s val)) s =
      (.ok (outcome limit.lsb), if outcome limit.lsb = 0 then finished limit s val else halfway limit s val) ∧
      trace (transferAct outcome) (setPair limit.msb limit.lsb 10000 (limit.clamped s val)) s =
        [s, halfway limit s val, if outcome limit.lsb = 0 then finished limit s val else halfway limit s val] := by
    constructor
    · change eval _ (if outcome limit.msb ≠ 0 then _ else exec (.regmapWrite limit.lsb (lowByte (limit.code s val))))
        (if outcome limit.msb = 0 then halfway limit s val else _) = _
      rw [if_neg (fun bad => bad written), if_pos written]
      rfl
    · change s :: trace _ (if outcome limit.msb ≠ 0 then _ else exec (.regmapWrite limit.lsb (lowByte (limit.code s val))))
        (if outcome limit.msb = 0 then halfway limit s val else _) = _
      rw [if_neg (fun bad => bad written), if_pos written]
      rfl
  refine ⟨(set_as_pair outcome limit s val s).1.trans pair.1, ?_⟩
  intro t
  rw [(set_as_pair outcome limit s val t).2, pair.2]
  by_cases low : outcome limit.lsb = 0
  · simp [low]
  · simp [low]

-- The value between the two writes mixes a new high byte with an old low one.
theorem mixed_bounded (byte : s.chip limit.lsb < 256) :
    limit.held (halfway limit s val) ≤ max (limit.held s) (limit.requested s val) ↔
      highByte (limit.code s val) ≤ s.chip limit.msb ∨ s.chip limit.lsb ≤ lowByte (limit.code s val) := by
  have low := low_byte_lt (limit.code s val)
  rw [halfway_held, WordLimit.held, WordLimit.requested, word_eq _ _ byte, word_eq _ _ byte, word_eq _ _ low, le_max_iff]
  omega

theorem mixed_same (byte : s.chip limit.lsb < 256) :
    limit.held (halfway limit s val) = limit.held s ↔ highByte (limit.code s val) = s.chip limit.msb := by
  rw [halfway_held, WordLimit.held, word_eq _ _ byte, word_eq _ _ byte]
  omega

theorem never_above_iff (byte : s.chip limit.lsb < 256) :
    NeverAbove limit outcome s val ↔ (outcome limit.msb = 0 → s.chip limit.msb < highByte (limit.code s val) →
      s.chip limit.lsb ≤ lowByte (limit.code s val)) := by
  have mixed := mixed_bounded limit s val byte
  by_cases written : outcome limit.msb = 0
  · have states := (first_written outcome limit s val written).2
    constructor
    · intro never _ raised
      have seen := (seen_trace _ _ s _).mpr ((states (halfway limit s val)).mpr (.inr (.inl rfl)))
      exact (mixed.mp (never _ seen)).resolve_left (Nat.not_le_of_lt raised)
    · intro condition t seen
      have bounded : limit.held (halfway limit s val) ≤ max (limit.held s) (limit.requested s val) := by
        apply mixed.mpr
        by_cases raised : s.chip limit.msb < highByte (limit.code s val)
        · exact .inr (condition written raised)
        · exact .inl (Nat.le_of_not_lt raised)
      rcases (states t).mp ((seen_trace _ _ s t).mp seen) with same | half | ⟨_, last⟩
      · rw [same]
        exact le_max_left _ _
      · rw [half]
        exact bounded
      · rw [last, finished_held]
        exact le_max_right _ _
  · have states := (first_failed outcome limit s val written).2
    constructor
    · intro _ now
      exact absurd now written
    · intro _ t seen
      rw [(states t).mp ((seen_trace _ _ s t).mp seen)]
      exact le_max_left _ _

theorem error_keeps_iff (byte : s.chip limit.lsb < 256) :
    ErrorKeeps limit outcome s val ↔
      (outcome limit.msb = 0 → outcome limit.lsb ≠ 0 → highByte (limit.code s val) = s.chip limit.msb) := by
  have mixed := mixed_same limit s val byte
  by_cases written : outcome limit.msb = 0
  · have run := (first_written outcome limit s val written).1
    constructor
    · intro keeps _ low
      have ended := (ends_determined (transferAct outcome) _ s _ _).mpr run.symm
      rw [if_neg low] at ended
      exact mixed.mp (keeps _ _ ended low)
    · intro condition ret t ended bad
      have same := ((ends_determined (transferAct outcome) _ s t _).mp ended).trans run
      injection same with result last
      injection result with code
      rw [code] at bad
      rw [if_neg bad] at last
      rw [last]
      exact mixed.mpr (condition written bad)
  · have run := (first_failed outcome limit s val written).1
    constructor
    · intro _ now
      exact absurd now written
    · intro _ ret t ended _
      have same := ((ends_determined (transferAct outcome) _ s t _).mp ended).trans run
      injection same with _ last
      rw [last]

end Pairs

-- What a setter may leave in the chip, after each write and with an error.
theorem limit_writes_exact (outcome : Reg → Int) (limit : WordLimit) (s : Bq25790) (val : Int)
    (byte : s.chip limit.lsb < 256) :
    (NeverAbove limit outcome s val ↔ (outcome limit.msb = 0 → s.chip limit.msb < highByte (limit.code s val) →
      s.chip limit.lsb ≤ lowByte (limit.code s val))) ∧
    (ErrorKeeps limit outcome s val ↔
      (outcome limit.msb = 0 → outcome limit.lsb ≠ 0 → highByte (limit.code s val) = s.chip limit.msb)) :=
  ⟨never_above_iff outcome limit s val byte, error_keeps_iff outcome limit s val byte⟩

-- A charge current limit of 2.55 A on a charger for 5 A.
def nearlyFull : Bq25790 :=
  { ichg_max := 5000000, vreg_max := 18800000, vlim := 3600000, ilim := 1000000, watchdog_timer := 0, battery := none,
    chip := fun reg => if reg = CHRG_I_LIM_LSB then 0xff else 0, cache := fun _ => 0 }

theorem limit_writes_exact_lowered : NeverAbove .CHRG_I_LIM (fun _ => 0) nearlyFull 500000 ∧
    ErrorKeeps .CHRG_I_LIM (fun _ => 0) nearlyFull 500000 := by
  have exact := limit_writes_exact (fun _ => 0) .CHRG_I_LIM nearlyFull 500000 (by decide)
  exact ⟨exact.1.mpr (by decide), exact.2.mpr (by decide)⟩

-- On the way to 2.56 A the limit is 5.11 A.
theorem raised_limit_overshoots :
    ¬ ∀ (outcome : Reg → Int) (limit : WordLimit) (s : Bq25790) (val : Int),
      s.chip limit.msb < 256 → s.chip limit.lsb < 256 → NeverAbove limit outcome s val ∧ ErrorKeeps limit outcome s val := by
  intro careful
  have never := (careful (fun _ => 0) .CHRG_I_LIM nearlyFull 2560000 (by decide) (by decide)).1
  have condition := (never_above_iff (fun _ => 0) .CHRG_I_LIM nearlyFull 2560000 (by decide)).mp never
  exact absurd (condition rfl (by decide)) (by decide)

end SummitSom.Charger
