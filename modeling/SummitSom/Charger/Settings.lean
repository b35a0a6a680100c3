import SummitSom.Charger.Requests

set_option autoImplicit false

namespace SummitSom.Charger

open Interact

abbrev Session := Probing × (Property → Option Int)

def Request.note (request : Request) (asked : Property → Option Int) : Property → Option Int :=
  match request with
  | .write prop intval => Function.update asked prop (some intval)
  | .read _ => asked

section Histories

variable (spares : Watched → Cmd → Prop) (fits : Request → (cmd : Cmd) → cmd.Reply → Prop)

def sessionWorld (request : Request) : World Cmd Cmd.Reply Session :=
  (probingWorld spares (fits request)).watched fun asked _ _ _ => request.note asked

def Initializing (s t : Session) : Prop := Relation.ReflTransGen (Aside initWorld spares) s.1 t.1 ∧ t.2 = s.2

-- Requests one after the other, with bq25790_hw_init going on during and between them.
def History (origin : Session) : Session → Prop :=
  Calls (sessionWorld spares fits) Request.program (Initializing spares) (fun _ _ => True) origin

end Histories

def registered (driver : Bq25790) : Session := (((driver, fun _ => false), hwInit), fun _ => none)

def Session.driver (s : Session) : Bq25790 := s.1.1.1

def Bq25790.chargeCurrent (s : Bq25790) : Int := word (s.chip CHRG_I_LIM_MSB) (s.chip CHRG_I_LIM_LSB) * 10000

def Bq25790.chargeVoltage (s : Bq25790) : Int := word (s.chip CHRG_V_LIM_MSB) (s.chip CHRG_V_LIM_LSB) * 10000

def Kept (battery : Option BatteryInfo) (s : Session) : Prop :=
  ∀ prop intval, s.2 prop = some intval → Holds prop (code battery prop intval) s.1.1

theorem request_notes (request : Request) (fits : Request → (cmd : Cmd) → cmd.Reply → Prop) (s t : Session)
    (result : Except Fault (Int × Option Int)) (ended : Ends (sessionWorld Spares fits request) request.program s result t) :
    t.2 = request.note s.2 := by
  cases request with
  | write prop intval =>
      cases prop <;>
        exact watched_notes _ (Request.note (.write _ intval)) (fun asked => Function.update_idem ..) _ _ s t result ended
  | read prop => cases prop <;> exact watched_notes _ id (fun _ => rfl) _ _ s t result ended

theorem request_kept (battery : Option BatteryInfo) (described : Described battery) (request : Request) (s t : Session)
    (result : Except Fault (Int × Option Int)) (kept : Kept battery s)
    (ended : Ends (sessionWorld Spares (Fits battery) request) request.program s result t) : Kept battery t := by
  have run : Ends (probingWorld Spares (Fits battery request)) request.program s.1 result t.1 :=
    watched_reaches _ _ _ _ s t ended
  intro prop intval asked
  rw [request_notes request (Fits battery) s t result ended] at asked
  cases request with
  | read other =>
      refine holds_kept _ prop _ _ s.1 t.1 result (kept prop intval asked) ?_ run
      intro reg own
      exact get_property_only _ (fun _ => trivial) other
  | write other value =>
      by_cases same : prop = other
      · subst same
        rw [Request.note, Function.update_self] at asked
        cases asked
        have safe := safe_returns _ _ _ (fun _ t => Holds prop (code battery prop intval) t.1) _
          (fun ret => pure (ret, (none : Option Int))) s.1 (set_property_leads battery described prop intval s.1)
          (fun ret t written => ⟨trivial, written.2⟩)
        exact safe_ends _ _ _ _ s.1 t.1 result safe run
      · rw [Request.note, Function.update_of_ne same] at asked
        refine holds_kept _ prop _ _ s.1 t.1 result (kept prop intval asked) ?_ run
        intro reg own
        apply only_bind _ _ _ (only_mono _ _ _ (writes_to_avoids prop other same reg own) (set_property_only other value))
        intro ret
        trivial

theorem history_kept (battery : Option BatteryInfo) (described : Described battery) (origin s : Session)
    (fresh : Kept battery origin) (history : History Spares (Fits battery) origin s) : Kept battery s := by
  refine calls_keep _ _ _ _ origin (Kept battery) fresh ?_ ?_ s history
  · intro s t kept passed prop intval asked
    rw [passed.2] at asked
    exact aside_keeps initWorld Spares (Holds prop (code battery prop intval))
      (fun s t cmd answer held spared reply => holds_spared prop _ s t cmd answer held spared reply) s.1 t.1
      (kept prop intval asked) passed.1
  · intro request s t result kept _ ended
    exact request_kept battery described request s t result kept ended

theorem pair_programmed (battery : Option BatteryInfo) (described : Described battery) (prop : Property) (intval : Int)
    (msb lsb : Reg) (s : Watched) (held : HoldsPair msb lsb (code battery prop intval) s) :
    word (s.1.chip msb) (s.1.chip lsb) * prop.step = granted battery prop intval := by
  have bytes := code_bytes battery prop intval described
  rw [held.1.2.2, held.2.2.2, word_bytes _ bytes.1 bytes.2, granted]

def initAct (s : Watched) (cmd : Cmd) : cmd.Reply × Watched := ((answered s.1 cmd).1, (answered s.1 cmd).2, s.2)

def sessionAct (request : Request) (s : Session) (cmd : Cmd) : cmd.Reply × Session :=
  ((answered s.driver cmd).1, (((answered s.driver cmd).2, keep s.1.1.2 cmd), s.1.2), request.note s.2)

theorem session_act_obeys (spares : Watched → Cmd → Prop) (fits : Request → (cmd : Cmd) → cmd.Reply → Prop)
    (request : Request) (s : Session) (cmd : Cmd) (fitting : fits request cmd (answered s.driver cmd).1) :
    (sessionWorld spares fits request).reply s cmd (sessionAct request s cmd).1 (sessionAct request s cmd).2 :=
  ⟨⟨fitting, s.1, .refl, ⟨charger_answered s.driver cmd, rfl⟩, rfl⟩, rfl⟩

-- A driver whose data the kernel has just zeroed.
def zeroed (battery : BatteryInfo) : Bq25790 :=
  { ichg_max := 0, vreg_max := 0, vlim := 3600000, ilim := 1000000, watchdog_timer := 0, battery := some battery,
    chip := fun _ => 0, cache := fun _ => 0 }

def unkept (s : Watched) : Cmd → Bool
  | .regmapWrite reg _ | .regmapUpdateBits reg _ _ => !s.2 reg
  | _ => true

theorem unkept_spares (s : Watched) (cmd : Cmd) (free : unkept s cmd = true) : Spares s cmd := by
  intro reg kept
  cases cmd with
  | regmapWrite other val =>
      intro same
      subst same
      rw [unkept, kept] at free
      cases free
  | regmapUpdateBits other mask val =>
      intro same
      subst same
      rw [unkept, kept] at free
      cases free
  | _ => trivial

section Concrete

variable (spares : Watched → Cmd → Prop) (fits : Request → (cmd : Cmd) → cmd.Reply → Prop)

theorem init_history (allowed : ∀ s cmd, unkept s cmd = true → spares s cmd) (driver : Bq25790) (t : Watched)
    (last : Act Int) (ran : advance initAct unkept 60 hwInit (driver, fun _ => false) = some (last, t)) :
    History spares fits (registered driver) ((t, last), fun _ => none) := by
  have reached : Reaches (initWorld.admitting spares) hwInit (driver, fun _ => false) last t := by
    apply reaches_advance _ initAct unkept 60 hwInit last _ t _ ran
    intro s cmd free
    exact ⟨allowed s cmd free, charger_answered s.1 cmd, rfl⟩
  exact .wait _ _ .start ⟨reaches_aside initWorld spares hwInit last _ t reached, rfl⟩

theorem request_history (origin s t : Session) (request : Request) (able : Session → Cmd → Bool)
    (result : Except Fault (Int × Option Int)) (before : History spares fits origin s)
    (fitting : ∀ s cmd, able s cmd = true → fits request cmd (answered s.driver cmd).1)
    (ran : advance (sessionAct request) able 5 request.program s = some (outcome result, t)) :
    History spares fits origin t := by
  apply Calls.call request s t result before trivial
  apply reaches_advance _ (sessionAct request) able 5 request.program _ s t _ ran
  intro s cmd ready
  exact session_act_obeys spares fits request s cmd (fitting s cmd ready)

end Concrete

def loadsRated (s : Session) : Cmd → Bool
  | .ichgMax => decide (s.driver.ichg_max = 2000000)
  | .vregMax => false
  | _ => true

theorem loads_rated_fits (s : Session) (cmd : Cmd) (ready : loadsRated s cmd = true) :
    Fits (some ⟨2000000, 4200000, 120000, 200000⟩) (.write .CONSTANT_CHARGE_CURRENT 3000000) cmd (answered s.driver cmd).1 := by
  cases cmd with
  | ichgMax =>
      have loaded : s.driver.ichg_max = 2000000 := of_decide_eq_true ready
      rw [answered, loaded]
      exact .inl rfl
  | vregMax => cases ready
  | _ => trivial

-- After every history the charge current and voltage that were written are within
-- their ranges, and every property reads back as the last value granted.
theorem charge_limits_kept (driver : Bq25790) (described : Described driver.battery) (s : Session)
    (history : History Spares (Fits driver.battery) (registered driver) s) :
    (s.2 .CONSTANT_CHARGE_CURRENT ≠ none → 50000 ≤ s.driver.chargeCurrent ∧
      s.driver.chargeCurrent ≤ most driver.battery .CONSTANT_CHARGE_CURRENT) ∧
    (s.2 .CONSTANT_CHARGE_VOLTAGE ≠ none → 3000000 ≤ s.driver.chargeVoltage ∧
      s.driver.chargeVoltage ≤ most driver.battery .CONSTANT_CHARGE_VOLTAGE) ∧
    ∀ prop intval result t, s.2 prop = some intval →
      Ends (sessionWorld Spares (Fits driver.battery) (.read prop)) (Request.read prop).program s result t →
      result = .ok (granted driver.battery prop intval, some (granted driver.battery prop intval)) := by
  have kept : Kept driver.battery s := by
    apply history_kept driver.battery described (registered driver) s _ history
    intro prop intval asked
    cases asked
  refine ⟨?_, ?_, ?_⟩
  · intro written
    obtain ⟨intval, asked⟩ := Option.ne_none_iff_exists'.mp written
    have programmed := pair_programmed driver.battery described .CONSTANT_CHARGE_CURRENT intval _ _ _ (kept _ intval asked)
    have current : s.driver.chargeCurrent = _ := programmed
    rw [current]
    exact code_range driver.battery .CONSTANT_CHARGE_CURRENT intval described
  · intro written
    obtain ⟨intval, asked⟩ := Option.ne_none_iff_exists'.mp written
    have programmed := pair_programmed driver.battery described .CONSTANT_CHARGE_VOLTAGE intval _ _ _ (kept _ intval asked)
    have voltage : s.driver.chargeVoltage = _ := programmed
    rw [voltage]
    exact code_range driver.battery .CONSTANT_CHARGE_VOLTAGE intval described
  · intro prop intval result t asked ended
    have run := watched_reaches _ _ _ _ s t ended
    exact safe_ends _ _ _ _ s.1 t.1 result (get_property_reads _ driver.battery described prop intval s.1 (kept prop intval asked)) run

theorem charge_limits_kept_rated : ∃ s : Session, s.2 .CONSTANT_CHARGE_CURRENT = some 3000000 ∧
    50000 ≤ s.driver.chargeCurrent ∧ s.driver.chargeCurrent ≤ 2000000 := by
  have described : Described (some ⟨2000000, 4200000, 120000, 200000⟩) := by
    intro info prop impossible
    cases impossible
    cases prop <;> decide
  have started := init_history Spares (Fits (some ⟨2000000, 4200000, 120000, 200000⟩)) unkept_spares
    (zeroed ⟨2000000, 4200000, 120000, 200000⟩) _ _ rfl
  have history := request_history Spares (Fits (some ⟨2000000, 4200000, 120000, 200000⟩)) _ _ _
    (.write .CONSTANT_CHARGE_CURRENT 3000000) loadsRated (.ok (0, none)) started loads_rated_fits rfl
  have limits := (charge_limits_kept (zeroed ⟨2000000, 4200000, 120000, 200000⟩) described _ history).1
  exact ⟨_, rfl, limits (Option.some_ne_none _)⟩

-- The battery omits its maximum current, so that -EINVAL becomes the limit.
theorem omitted_maximum_programs_zero : ∃ s : Session,
    Described (some ⟨-EINVAL, 4200000, 120000, 200000⟩) ∧
    History (fun _ _ => True) (fun _ _ _ => True) (registered (zeroed ⟨-EINVAL, 4200000, 120000, 200000⟩)) s ∧
    s.2 .CONSTANT_CHARGE_CURRENT = some 1000000 ∧ s.driver.chargeCurrent < 50000 := by
  have started := init_history (fun _ _ => True) (fun _ _ _ => True) (fun _ _ _ => trivial)
    (zeroed ⟨-EINVAL, 4200000, 120000, 200000⟩) _ _ rfl
  have history := request_history (fun _ _ => True) (fun _ _ _ => True) _ _ _
    (.write .CONSTANT_CHARGE_CURRENT 1000000) (fun _ _ => true) (.ok (0, none)) started (fun _ _ _ => trivial) rfl
  refine ⟨_, ?_, history, rfl, by decide⟩
  intro info prop impossible
  cases impossible
  cases prop <;> decide

end SummitSom.Charger
