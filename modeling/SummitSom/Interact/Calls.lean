import SummitSom.Interact.Program

set_option autoImplicit false

namespace Interact

section Calls

variable {Q C : Type} {R : C → Type} {E A S G : Type}

-- A world with an observer, who takes notes of every answer and the state
-- after it.
def World.watched (W : World C R S) (note : G → (cmd : C) → R cmd → S → G) : World C R (S × G) where
  midst s cmd t := W.midst s.1 cmd t.1 ∧ t.2 = s.2
  reply s cmd answer t := W.reply s.1 cmd answer t.1 ∧ t.2 = note s.2 cmd answer t.1

inductive Aside {B : Type} (W : World C R S) (spares : S → C → Prop) : S × Prog C R E B → S × Prog C R E B → Prop where
  | step (s t : S) (cmd : C) (rest : R cmd → Prog C R E B) (answer : R cmd) (spared : spares s cmd)
      (answered : W.reply s cmd answer t) : Aside W spares (s, .call cmd rest) (t, rest answer)

-- A world in which another program takes steps between the commands.
def World.beside {B : Type} (own aside : World C R S) (spares : S → C → Prop) : World C R (S × Prog C R E B) where
  midst s cmd t := ∃ u, Relation.ReflTransGen (Aside aside spares) s u ∧ own.midst u.1 cmd t.1 ∧ t.2 = u.2
  reply s cmd answer t := ∃ u, Relation.ReflTransGen (Aside aside spares) s u ∧ own.reply u.1 cmd answer t.1 ∧ t.2 = u.2

theorem aside_keeps {B : Type} (W : World C R S) (spares : S → C → Prop) (held : S → Prop)
    (steps : ∀ s t cmd answer, held s → spares s cmd → W.reply s cmd answer t → held t) (s t : S × Prog C R E B)
    (start : held s.1) (aside : Relation.ReflTransGen (Aside W spares) s t) : held t.1 := by
  induction aside with
  | refl => exact start
  | tail _ step ih =>
      cases step with
      | step u v cmd rest answer spared answered => exact steps u v cmd answer ih spared answered

theorem reaches_aside {B : Type} (W : World C R S) (spares : S → C → Prop) (program last : Prog C R E B) (s t : S)
    (reached : Reaches (W.admitting spares) program s last t) :
    Relation.ReflTransGen (Aside W spares) (s, program) (t, last) := by
  induction reached with
  | here program s => exact .refl
  | next cmd rest s t u answer last answered _ ih => exact .head (.step s t cmd rest answer answered.1 answered.2) ih

theorem watched_reaches (W : World C R S) (note : G → (cmd : C) → R cmd → S → G) (program last : Prog C R E A)
    (s t : S × G) (reached : Reaches (W.watched note) program s last t) : Reaches W program s.1 last t.1 := by
  induction reached with
  | here program s => exact .here _ _
  | next cmd rest s t u answer last answered _ ih => exact .next cmd rest s.1 t.1 u.1 answer last answered.1 ih

theorem ended_watched (W : World C R S) (note : G → (cmd : C) → R cmd → S → G) (cmd : C) (rest : R cmd → Prog C R E A)
    (s u : S × G) (result : Except E A) (ended : Ends (W.watched note) (.call cmd rest) s result u) :
    ∃ answer t, W.reply s.1 cmd answer t ∧ Ends (W.watched note) (rest answer) (t, note s.2 cmd answer t) result u := by
  rcases ended_call _ cmd rest s u result ended with ⟨answer, t, answered, onward⟩
  have notes : t = (t.1, note s.2 cmd answer t.1) := Prod.ext rfl answered.2
  rw [notes] at onward
  exact ⟨answer, t.1, answered.1, onward⟩

theorem watched_notes (W : World C R S) (note : G → G) (again : ∀ g, note (note g) = note g) (cmd : C)
    (rest : R cmd → Prog C R E A) (s t : S × G) (result : Except E A)
    (ended : Ends (W.watched fun g _ _ _ => note g) (.call cmd rest) s result t) : t.2 = note s.2 := by
  obtain ⟨answer, v, answered, onward⟩ := ended_call _ cmd rest s t result ended
  refine seen_keeps (W.watched fun g _ _ _ => note g) (fun u => u.2 = note s.2) (rest answer) v t answered.2 ?_ ?_
    (ends_seen _ _ v result t onward)
  · intro u other w noted during
    exact during.2.trans noted
  · intro u other given w noted reply
    exact reply.2.trans ((congrArg note noted).trans (again s.2))

-- A component that serves one request at a time. A request has its program and
-- the world it meets; between requests the state may pass to another.
inductive Calls (world : Q → World C R S) (program : Q → Prog C R E A) (between : S → S → Prop)
    (admits : S → Q → Prop) (origin : S) : S → Prop where
  | start : Calls world program between admits origin origin
  | wait (s t : S) (before : Calls world program between admits origin s) (passed : between s t) :
      Calls world program between admits origin t
  | call (request : Q) (s t : S) (result : Except E A) (before : Calls world program between admits origin s)
      (admitted : admits s request) (ended : Ends (world request) (program request) s result t) :
      Calls world program between admits origin t

theorem calls_keep (world : Q → World C R S) (program : Q → Prog C R E A) (between : S → S → Prop)
    (admits : S → Q → Prop) (origin : S) (held : S → Prop) (begins : held origin)
    (waits : ∀ s t, held s → between s t → held t)
    (serves : ∀ request s t result, held s → admits s request → Ends (world request) (program request) s result t → held t)
    (s : S) (history : Calls world program between admits origin s) : held s := by
  induction history with
  | start => exact begins
  | wait s t _ passed ih => exact waits s t ih passed
  | call request s t result _ admitted ended ih => exact serves request s t result ih admitted ended

end Calls

end Interact
