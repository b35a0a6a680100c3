import SummitSom.Interact.Steps

set_option autoImplicit false

namespace SummitSom.Bluez

open Interact

abbrev Message := Nat

structure ConnInfo where
  rssi : Int
  tx_power : Int
  max_tx_power : Int
deriving DecidableEq, Repr

-- sizeof(struct mgmt_rp_get_conn_info): the packed address, its type, and the
-- three powers.
def rpSize : Nat := 6 + 1 + 3

inductive Body where
  | failed (text : String)
  | connInfo (rssi tx_power max_tx_power : Int)
deriving DecidableEq, Repr

structure Reply where
  msg : Message
  body : Body
deriving DecidableEq, Repr

inductive AddrType where
  | bredr
  | lePublic
deriving DecidableEq, Repr

-- The pending call is what the patch adds to a device; known is what the
-- daemon keeps of it otherwise, and device_set_rssi changes nothing else.
structure Device (D : Type) where
  le : Bool
  known : D
  conn_info : Option Message
deriving DecidableEq, Repr

structure Response where
  status : Nat
  len : Nat
  rp : ConnInfo
deriving DecidableEq, Repr

section Daemon

variable {D : Type} (deviceSetRssi : D → Int → D) (mgmtErrstr : Nat → String)

-- No reply can be made to a null message: none is the null dereference.
def connInfoRsp (device : Device D) (response : Response) : Option (Device D × Reply) :=
  match device.conn_info with
  | none => none
  | some msg =>
      if response.status ≠ 0 then
        some ({ device with conn_info := none }, ⟨msg, .failed (mgmtErrstr response.status)⟩)
      else if response.len < rpSize then
        some ({ device with conn_info := none }, ⟨msg, .failed "Unexpected Get Conn Info len"⟩)
      else
        some ({ device with known := deviceSetRssi device.known response.rp.rssi, conn_info := none },
          ⟨msg, .connInfo response.rp.rssi response.rp.tx_power response.rp.max_tx_power⟩)

-- id is what mgmt_send returns. The command goes out on acceptance.
def devGetConnInfo (device : Device D) (msg : Message) (id : Nat) : Device D × Option Reply × Option AddrType :=
  let type := if device.le then .lePublic else .bredr
  if id = 0 then (device, some ⟨msg, .failed "Unable to send get_conn_info cmd"⟩, none)
  else ({ device with conn_info := some msg }, none, some type)

-- An accepted command remembers the call it was sent for; a reply on the bus
-- remembers the call whose fate it reports, and the response to the command of
-- that call unless it was refused. The daemon sees none of it.
structure Command where
  caller : Message
  type : AddrType
deriving DecidableEq, Repr

structure Delivery where
  reply : Reply
  caller : Message
  response : Option Response
deriving DecidableEq, Repr

structure Bus (D : Type) where
  device : Device D
  calls : Nat
  queue : List Command
  delivered : List Delivery
  faulted : Bool
deriving DecidableEq, Repr

inductive Event where
  | call (id : Nat)
  | response (response : Response)
deriving DecidableEq, Repr

-- Calls are numbered as they come in; a response answers the command at the
-- head of the queue, and after a fault nothing happens any more.
def step (s : Bus D) (event : Event) : Option (Bus D) :=
  if s.faulted then none
  else match event with
    | .call id =>
        let result := devGetConnInfo s.device s.calls id
        some { s with
          device := result.1
          calls := s.calls + 1
          queue := s.queue ++ (result.2.2.map fun type => ⟨s.calls, type⟩).toList
          delivered := s.delivered ++ (result.2.1.map fun reply => ⟨reply, s.calls, none⟩).toList }
    | .response response =>
        match s.queue with
        | [] => none
        | command :: rest =>
            match connInfoRsp deviceSetRssi mgmtErrstr s.device response with
            | none => some { s with queue := rest, faulted := true }
            | some (device, reply) =>
                some { s with
                  device := device
                  queue := rest
                  delivered := s.delivered ++ [⟨reply, command.caller, some response⟩] }

structure Bus.Initial (s : Bus D) : Prop where
  idle : s.device.conn_info = none
  calls : s.calls = 0
  queue : s.queue = []
  delivered : s.delivered = []
  running : s.faulted = false

-- What a caller is to be told: the error, or the three powers of a response
-- that is long enough to hold them.
structure Conveys (response : Response) (body : Body) : Prop where
  failed : response.status ≠ 0 → body = .failed (mgmtErrstr response.status)
  short : response.status = 0 → response.len < rpSize → ∃ text, body = .failed text
  powers : response.status = 0 → rpSize ≤ response.len →
    body = .connInfo response.rp.rssi response.rp.tx_power response.rp.max_tx_power

def Carries (mgmtErrstr : Nat → String) : Option Response → Body → Prop
  | none, body => ∃ text, body = .failed text
  | some response, body => Conveys mgmtErrstr response body

structure Bus.Sound (s : Bus D) : Prop where
  running : s.faulted = false
  own : ∀ delivery ∈ s.delivered, delivery.reply.msg = delivery.caller
  carried : ∀ delivery ∈ s.delivered, Carries mgmtErrstr delivery.response delivery.reply.body
  once : (s.delivered.map fun delivery => delivery.reply.msg).Nodup
  answered : ∀ msg, msg < s.calls →
    msg ∈ s.queue.map Command.caller ∨ msg ∈ s.delivered.map fun delivery => delivery.reply.msg

def Alone (s : Bus D) (event : Event) : Prop := ∀ id, event = .call id → id ≠ 0 → s.queue = []

-- The one outstanding command is the one whose call the device remembers.
structure Bus.Paired (s : Bus D) : Prop where
  sound : s.Sound mgmtErrstr
  known : ∀ delivery ∈ s.delivered, delivery.reply.msg < s.calls
  pending : (s.queue = [] ∧ s.device.conn_info = none) ∨
    ∃ command, s.queue = [command] ∧ s.device.conn_info = some command.caller ∧ command.caller < s.calls ∧
      ∀ delivery ∈ s.delivered, delivery.reply.msg ≠ command.caller

theorem initial_paired (s : Bus D) (initial : s.Initial) : s.Paired mgmtErrstr := by
  refine ⟨⟨initial.running, ?_, ?_, ?_, ?_⟩, ?_, .inl ⟨initial.queue, initial.idle⟩⟩
  · simp [initial.delivered]
  · simp [initial.delivered]
  · simp [initial.delivered]
  · simp [initial.calls]
  · simp [initial.delivered]

def Bus.refused (s : Bus D) (text : String) : Bus D :=
  { s with calls := s.calls + 1, delivered := s.delivered ++ [⟨⟨s.calls, .failed text⟩, s.calls, none⟩] }

def Bus.accepted (s : Bus D) (type : AddrType) : Bus D :=
  { s with
    device := { s.device with conn_info := some s.calls }
    calls := s.calls + 1
    queue := s.queue ++ [⟨s.calls, type⟩] }

def Bus.answered (s : Bus D) (device : Device D) (command : Command) (body : Body) (response : Response) : Bus D :=
  { s with
    device := device
    queue := []
    delivered := s.delivered ++ [⟨⟨command.caller, body⟩, command.caller, some response⟩] }

-- One more reply, to a call that has none yet.
theorem reply_added (calls : Nat) (delivered : List Delivery) (msg : Message) (body : Body) (response : Option Response)
    (own : ∀ delivery ∈ delivered, delivery.reply.msg = delivery.caller)
    (carried : ∀ delivery ∈ delivered, Carries mgmtErrstr delivery.response delivery.reply.body)
    (once : (delivered.map fun delivery => delivery.reply.msg).Nodup)
    (known : ∀ delivery ∈ delivered, delivery.reply.msg < calls) (bound : msg < calls)
    (unanswered : ∀ delivery ∈ delivered, delivery.reply.msg ≠ msg) (carries : Carries mgmtErrstr response body) :
    (∀ delivery ∈ delivered ++ [Delivery.mk ⟨msg, body⟩ msg response], delivery.reply.msg = delivery.caller) ∧
    (∀ delivery ∈ delivered ++ [Delivery.mk ⟨msg, body⟩ msg response],
      Carries mgmtErrstr delivery.response delivery.reply.body) ∧
    ((delivered ++ [Delivery.mk ⟨msg, body⟩ msg response]).map fun delivery => delivery.reply.msg).Nodup ∧
    ∀ delivery ∈ delivered ++ [Delivery.mk ⟨msg, body⟩ msg response], delivery.reply.msg < calls := by
  refine ⟨?_, ?_, ?_, ?_⟩
  · exact List.forall_mem_append.mpr ⟨own, List.forall_mem_singleton.mpr rfl⟩
  · exact List.forall_mem_append.mpr ⟨carried, List.forall_mem_singleton.mpr carries⟩
  · rw [List.map_append]
    refine List.nodup_append.mpr ⟨once, by simp, ?_⟩
    intro other member given last
    obtain ⟨delivery, there, rfl⟩ := List.mem_map.mp member
    obtain rfl := List.mem_singleton.mp last
    exact unanswered delivery there
  · exact List.forall_mem_append.mpr ⟨known, List.forall_mem_singleton.mpr bound⟩

theorem refused_paired (s : Bus D) (text : String) (paired : s.Paired mgmtErrstr) :
    (s.refused text).Paired mgmtErrstr := by
  have older : ∀ delivery ∈ s.delivered, delivery.reply.msg < s.calls + 1 := by
    intro delivery member
    exact Nat.lt_succ_of_lt (paired.known delivery member)
  have fresh : ∀ delivery ∈ s.delivered, delivery.reply.msg ≠ s.calls := by
    intro delivery member
    exact Nat.ne_of_lt (paired.known delivery member)
  obtain ⟨own, carried, once, known⟩ := reply_added mgmtErrstr (s.calls + 1) s.delivered s.calls (.failed text) none
    paired.sound.own paired.sound.carried paired.sound.once older (Nat.lt_succ_self s.calls) fresh ⟨text, rfl⟩
  refine ⟨⟨paired.sound.running, own, carried, once, ?_⟩, known, ?_⟩
  · intro msg bound
    by_cases last : msg = s.calls
    · exact .inr (by simp [Bus.refused, last])
    · have earlier := paired.sound.answered msg (by simp only [Bus.refused] at bound; omega)
      refine earlier.imp_right fun member => ?_
      simp only [Bus.refused, List.map_append]
      exact List.mem_append_left _ member
  · cases paired.pending with
    | inl idle => exact .inl idle
    | inr found =>
        obtain ⟨command, queued, remembered, bound, unanswered⟩ := found
        refine .inr ⟨command, queued, remembered, Nat.lt_succ_of_lt bound, fun delivery member => ?_⟩
        cases List.mem_append.mp member with
        | inl earlier => exact unanswered delivery earlier
        | inr last =>
            obtain rfl := List.mem_singleton.mp last
            exact Nat.ne_of_gt bound

theorem accepted_paired (s : Bus D) (type : AddrType) (paired : s.Paired mgmtErrstr) (idle : s.queue = []) :
    (s.accepted type).Paired mgmtErrstr := by
  refine ⟨⟨paired.sound.running, paired.sound.own, paired.sound.carried, paired.sound.once, ?_⟩, ?_, ?_⟩
  · intro msg bound
    by_cases last : msg = s.calls
    · exact .inl (by simp [Bus.accepted, last])
    · have earlier := paired.sound.answered msg (by simp only [Bus.accepted] at bound; omega)
      exact earlier.imp_left fun member => by simp [idle] at member
  · exact fun delivery member => Nat.lt_succ_of_lt (paired.known delivery member)
  · refine .inr ⟨⟨s.calls, type⟩, by simp [Bus.accepted, idle], rfl, Nat.lt_succ_self _, fun delivery member => ?_⟩
    exact Nat.ne_of_lt (paired.known delivery member)

theorem answered_paired (s : Bus D) (device : Device D) (command : Command) (body : Body) (response : Response)
    (paired : s.Paired mgmtErrstr) (queued : s.queue = [command]) (bound : command.caller < s.calls)
    (forgotten : device.conn_info = none) (unanswered : ∀ delivery ∈ s.delivered, delivery.reply.msg ≠ command.caller)
    (conveys : Conveys mgmtErrstr response body) : (s.answered device command body response).Paired mgmtErrstr := by
  obtain ⟨own, carried, once, known⟩ := reply_added mgmtErrstr s.calls s.delivered command.caller body (some response)
    paired.sound.own paired.sound.carried paired.sound.once paired.known bound unanswered conveys
  refine ⟨⟨paired.sound.running, own, carried, once, ?_⟩, known, .inl ⟨rfl, forgotten⟩⟩
  intro msg called
  refine .inr ?_
  simp only [Bus.answered, List.map_append, List.map_cons, List.map_nil, List.mem_append, List.mem_singleton]
  cases paired.sound.answered msg called with
  | inl waiting =>
      right
      simpa [queued] using waiting
  | inr member => exact .inl member

theorem conn_info_rsp_answers (device : Device D) (response : Response) (msg : Message)
    (remembered : device.conn_info = some msg) :
    ∃ next body, connInfoRsp deviceSetRssi mgmtErrstr device response = some (next, ⟨msg, body⟩) ∧ next.conn_info = none ∧
      Conveys mgmtErrstr response body := by
  unfold connInfoRsp
  rw [remembered]
  dsimp only
  by_cases status : response.status ≠ 0
  · rw [if_pos status]
    exact ⟨_, _, rfl, rfl, fun _ => rfl, fun zero => absurd zero status, fun zero => absurd zero status⟩
  · rw [if_neg status]
    by_cases short : response.len < rpSize
    · rw [if_pos short]
      exact ⟨_, _, rfl, rfl, fun failed => absurd failed status, fun _ _ => ⟨_, rfl⟩,
        fun _ whole => absurd short (Nat.not_lt.mpr whole)⟩
    · rw [if_neg short]
      exact ⟨_, _, rfl, rfl, fun failed => absurd failed status, fun _ less => absurd less short, fun _ _ => rfl⟩

theorem step_paired (s t : Bus D) (event : Event) (paired : s.Paired mgmtErrstr) (alone : Alone s event)
    (stepped : step deviceSetRssi mgmtErrstr s event = some t) : t.Paired mgmtErrstr := by
  have running : ¬ s.faulted = true := by simp [paired.sound.running]
  simp only [step, if_neg running] at stepped
  cases event with
  | call id =>
      by_cases refused : id = 0
      · simp only [devGetConnInfo, if_pos refused, Option.some.injEq] at stepped
        subst stepped
        simpa [Bus.refused] using refused_paired mgmtErrstr s "Unable to send get_conn_info cmd" paired
      · simp only [devGetConnInfo, if_neg refused, Option.some.injEq] at stepped
        subst stepped
        simpa [Bus.accepted] using accepted_paired mgmtErrstr s _ paired (alone id rfl refused)
  | response response =>
      cases paired.pending with
      | inl found =>
          obtain ⟨empty, _⟩ := found
          simp [empty] at stepped
      | inr found =>
          obtain ⟨command, queued, remembered, bound, unanswered⟩ := found
          obtain ⟨next, body, answered, forgotten, conveys⟩ :=
            conn_info_rsp_answers deviceSetRssi mgmtErrstr s.device response _ remembered
          simp only [queued, answered, Option.some.injEq] at stepped
          subst stepped
          exact answered_paired mgmtErrstr s next command body response paired queued bound forgotten unanswered conveys

-- Calls that wait for the previous answer are each answered once, with the
-- response to their own command.
theorem lone_calls_sound (origin s : Bus D) (initial : origin.Initial)
    (run : Run (step deviceSetRssi mgmtErrstr) Alone origin s) : s.Sound mgmtErrstr :=
  (run_keeps (step deviceSetRssi mgmtErrstr) Alone origin (Bus.Paired mgmtErrstr) (initial_paired mgmtErrstr origin initial)
    (fun t u event paired alone stepped => step_paired deviceSetRssi mgmtErrstr t u event paired alone stepped) s run).sound

end Daemon

-- A device of which only the strength of its signal is known.
def quiet : Bus Int := ⟨⟨true, 0, none⟩, 0, [], [], false⟩

theorem quiet_initial : quiet.Initial := ⟨rfl, rfl, rfl, rfl, rfl⟩

abbrev QuietRun (admits : Bus Int → Event → Prop) (s : Bus Int) : Prop :=
  Run (step (fun _ rssi => rssi) fun _ => "Not Connected") admits quiet s

def near : Response := ⟨0, 10, ⟨-40, 4, 10⟩⟩

def gone : Response := ⟨2, 10, ⟨127, 127, 127⟩⟩

def answeredTwice : Bus Int :=
  ⟨⟨true, -40, none⟩, 3, [], [⟨⟨0, .failed "Unable to send get_conn_info cmd"⟩, 0, none⟩,
    ⟨⟨1, .connInfo (-40) 4 10⟩, 1, some near⟩, ⟨⟨2, .failed "Not Connected"⟩, 2, some gone⟩], false⟩

theorem lone_calls_sound_once : answeredTwice.Sound fun _ => "Not Connected" := by
  refine lone_calls_sound (fun _ rssi => rssi) (fun _ => "Not Connected") quiet answeredTwice quiet_initial ?_
  have refused : QuietRun Alone _ := .next quiet _ (.call 0) .start (fun _ _ _ => rfl) rfl
  have first : QuietRun Alone _ := .next _ _ (.call 1) refused (fun _ _ _ => rfl) rfl
  have told : QuietRun Alone _ := .next _ _ (.response near) first (by rintro _ ⟨⟩) rfl
  have second : QuietRun Alone _ := .next _ _ (.call 2) told (fun _ _ _ => rfl) rfl
  exact .next _ _ (.response gone) second (by rintro _ ⟨⟩) rfl

def mixedUp : Bus Int :=
  ⟨⟨true, -40, none⟩, 2, [⟨1, .lePublic⟩], [⟨⟨1, .connInfo (-40) 4 10⟩, 0, some near⟩], false⟩

-- Two calls before the first response: it is delivered to the second caller,
-- and the second response finds no message.
theorem overlapping_calls_mixed_up :
    ¬ ∀ (deviceSetRssi : Int → Int → Int) (mgmtErrstr : Nat → String) (origin s : Bus Int), origin.Initial →
      Run (step deviceSetRssi mgmtErrstr) (fun _ _ => True) origin s → s.Sound mgmtErrstr := by
  intro sound
  have first : QuietRun (fun _ _ => True) _ := .next quiet _ (.call 1) .start trivial rfl
  have second : QuietRun (fun _ _ => True) _ := .next _ _ (.call 2) first trivial rfl
  have run : QuietRun (fun _ _ => True) mixedUp := .next _ _ (.response near) second trivial rfl
  have own := (sound _ _ quiet mixedUp quiet_initial run).own ⟨⟨1, .connInfo (-40) 4 10⟩, 0, some near⟩ (by decide)
  exact absurd own (by decide)

end SummitSom.Bluez
