import SummitSom.Charger.Bq25790
import SummitSom.Interact.Calls

set_option autoImplicit false

namespace SummitSom.Charger

open Interact

-- The low register of a pair is written after the high one.
def lowOf (reg : Reg) : Reg :=
  if reg = CHRG_V_LIM_MSB then CHRG_V_LIM_LSB
  else if reg = CHRG_I_LIM_MSB then CHRG_I_LIM_LSB
  else if reg = INPUT_I_LIM_MSB then INPUT_I_LIM_LSB
  else reg

-- The registers that hold what a property write has put there. One that starts
-- anew with the high register gives the low one free.
def keep (kept : Reg → Bool) : Cmd → Reg → Bool
  | .regmapWrite reg _, other => other = reg || (kept other && decide (other ≠ lowOf reg))
  | .regmapUpdateBits reg _ _, other => other = reg || kept other
  | _, other => kept other

abbrev Watched := Bq25790 × (Reg → Bool)

def Untouched (reg : Reg) (s : Bq25790) : Cmd → Prop
  | .regmapWrite other val => reg = other → s.cache reg = val ∧ s.chip reg = val
  | .regmapUpdateBits other mask val => reg = other → s.updated reg mask val = s.read reg
  | _ => True

-- bq25790_hw_init does not change a register that is kept.
def Spares (s : Watched) (cmd : Cmd) : Prop := ∀ reg, s.2 reg = true → Untouched reg s.1 cmd

def chargerWorld : World Cmd Cmd.Reply Bq25790 where
  midst s _ t := t = s
  reply := chargerReply

def initWorld : World Cmd Cmd.Reply Watched := chargerWorld.watched fun kept _ _ _ => kept

def propertyWorld : World Cmd Cmd.Reply Watched := chargerWorld.watched fun kept cmd _ _ => keep kept cmd

abbrev Probing := Watched × Act Int

def probingWorld (spares : Watched → Cmd → Prop) (accepts : (cmd : Cmd) → cmd.Reply → Prop) :
    World Cmd Cmd.Reply Probing :=
  (propertyWorld.beside initWorld spares).answering fun _ cmd answer => accepts cmd answer

theorem untouched_same (reg : Reg) (s t : Bq25790) (cmd : Cmd) (answer : cmd.Reply) (untouched : Untouched reg s cmd)
    (acted : chargerReply s cmd answer t) : t.cache reg = s.cache reg ∧ t.chip reg = s.chip reg := by
  cases cmd with
  | regmapWrite other val =>
      obtain ⟨_, written⟩ := acted
      by_cases own : reg = other
      · obtain ⟨cached, programmed⟩ := untouched own
        subst own
        simp only [written, write_cache, write_chip, Function.update_self, cached, programmed, and_self]
      · simp only [written, write_cache, write_chip, Function.update_of_ne own, and_self]
  | regmapUpdateBits other mask val =>
      obtain ⟨_, written⟩ := acted
      by_cases own : reg = other
      · have same := untouched own
        subst own
        rw [written, if_pos same]
        exact ⟨rfl, rfl⟩
      · rw [written]
        split
        · exact ⟨rfl, rfl⟩
        · simp only [write_cache, write_chip, Function.update_of_ne own, and_self]
  | setIchgMax max =>
      cases acted
      exact ⟨rfl, rfl⟩
  | setVregMax max =>
      cases acted
      exact ⟨rfl, rfl⟩
  | putBatteryInfo =>
      cases acted
      exact ⟨rfl, rfl⟩
  | _ =>
      rw [acted.2]
      exact ⟨rfl, rfl⟩

def Settled (reg : Reg) (fact : Nat → Nat → Prop) (s : Watched) : Prop := s.2 reg = true ∧ fact (s.1.cache reg) (s.1.chip reg)

theorem init_settled (reg : Reg) (fact : Nat → Nat → Prop) (s t : Watched) (cmd : Cmd) (answer : cmd.Reply)
    (settled : Settled reg fact s) (spared : Spares s cmd) (reply : initWorld.reply s cmd answer t) : Settled reg fact t := by
  obtain ⟨acted, kept⟩ := reply
  obtain ⟨cached, programmed⟩ := untouched_same reg s.1 t.1 cmd answer (spared reg settled.1) acted
  rw [Settled, cached, programmed, kept]
  exact settled

def Avoids (reg : Reg) : Cmd → Prop
  | .regmapWrite other _ => reg ≠ other ∧ reg ≠ lowOf other
  | .regmapUpdateBits other _ _ => reg ≠ other
  | _ => True

theorem avoids_untouched (reg : Reg) (s : Bq25790) (cmd : Cmd) (avoids : Avoids reg cmd) : Untouched reg s cmd := by
  cases cmd with
  | regmapWrite other val => exact fun own => absurd own avoids.1
  | regmapUpdateBits other mask val => exact fun own => absurd own avoids
  | _ => trivial

theorem avoids_keeps (reg : Reg) (kept : Reg → Bool) (cmd : Cmd) (avoids : Avoids reg cmd) (still : kept reg = true) :
    keep kept cmd reg = true := by
  cases cmd with
  | regmapWrite other val => simp only [keep, still, decide_eq_true avoids.2, Bool.and_self, Bool.or_true]
  | regmapUpdateBits other mask val => simp only [keep, still, Bool.or_true]
  | _ => exact still

theorem avoided_settled (reg : Reg) (fact : Nat → Nat → Prop) (s t : Watched) (cmd : Cmd) (answer : cmd.Reply)
    (settled : Settled reg fact s) (avoids : Avoids reg cmd) (reply : propertyWorld.reply s cmd answer t) :
    Settled reg fact t := by
  obtain ⟨acted, kept⟩ := reply
  obtain ⟨cached, programmed⟩ := untouched_same reg s.1 t.1 cmd answer (avoids_untouched reg s.1 cmd avoids) acted
  rw [Settled, cached, programmed, kept]
  exact ⟨avoids_keeps reg s.2 cmd avoids settled.1, settled.2⟩

section Requests

variable {A : Type} (accepts : (cmd : Cmd) → cmd.Reply → Prop)

-- A request that avoids the register leaves what is settled about it, whatever
-- bq25790_hw_init does meanwhile.
theorem request_settled (reg : Reg) (fact : Nat → Nat → Prop) (program : Act A) (s t : Probing) (result : Except Fault A)
    (settled : Settled reg fact s.1) (avoids : Only (Avoids reg) program)
    (ended : Ends (probingWorld Spares accepts) program s result t) : Settled reg fact t.1 := by
  have asides (v u : Probing) (start : Settled reg fact v.1)
      (moved : Relation.ReflTransGen (Aside initWorld Spares) v u) : Settled reg fact u.1 :=
    aside_keeps initWorld Spares (Settled reg fact)
      (fun s t cmd answer held spared reply => init_settled reg fact s t cmd answer held spared reply) v u start moved
  have safe := only_safe (probingWorld Spares accepts) (Avoids reg) (fun u => Settled reg fact u.1) program s avoids settled
    ?_ ?_
  · exact safe_ends _ _ _ program s t result safe ended
  · intro v cmd w _ start given
    obtain ⟨u, moved, during, _⟩ := given
    have unchanged : w.1 = u.1 := Prod.ext during.1 during.2
    rw [unchanged]
    exact asides v u start moved
  · intro v cmd answer w allowed start given
    obtain ⟨_, u, moved, reply, _⟩ := given
    exact avoided_settled reg fact u.1 w.1 cmd answer (asides v u start moved) allowed reply

theorem request_call (held : Watched → Prop) (post : Except Fault A → Probing → Prop) (cmd : Cmd)
    (rest : cmd.Reply → Act A) (s : Probing) (start : held s.1)
    (stable : ∀ s t cmd answer, held s → Spares s cmd → initWorld.reply s cmd answer t → held t)
    (onward : ∀ u answer t, held u → accepts cmd answer → propertyWorld.reply u cmd answer t.1 →
      Safe (probingWorld Spares accepts) (fun _ => True) post (rest answer) t) :
    Safe (probingWorld Spares accepts) (fun _ => True) post (.call cmd rest) s := by
  refine ⟨trivial, fun _ _ => trivial, ?_⟩
  intro answer t given
  obtain ⟨accepted, u, moved, reply, _⟩ := given
  exact onward u.1 answer t (aside_keeps initWorld Spares held stable s u start moved) accepted reply

end Requests

end SummitSom.Charger
