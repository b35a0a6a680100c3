import SummitSom.Interact.Program
import Mathlib.Logic.Function.Basic

set_option autoImplicit false

namespace Interact

-- Threads that share a state and take turns at every command. At most one
-- thread runs under each name; the name also says how its commands act.
structure Crew (Q C : Type) (R : C → Type) (E S : Type) where
  acts : Q → World C R S
  enters : Q → Prog C R E Unit → S → S → Prop
  leaves : Q → S → S → Prop
  drifts : S → S → Prop

-- The interleavings in which threads act and enter as admitted only.
def Crew.admitting {Q C : Type} {R : C → Type} {E S : Type} (crew : Crew Q C R E S) (acts : Q → S → C → Prop)
    (enters : Q → S → S → Prop) : Crew Q C R E S where
  acts name := (crew.acts name).admitting (acts name)
  enters name program s t := crew.enters name program s t ∧ enters name s t
  leaves := crew.leaves
  drifts := crew.drifts

structure Pool (Q C : Type) (R : C → Type) (E S : Type) where
  state : S
  threads : Q → Option (Prog C R E Unit)

section Threads

variable {Q C : Type} {R : C → Type} {E S : Type}

def Stable (held : S → Prop) (rely : S → S → Prop) (fact : S → Prop) : Prop :=
  ∀ s t, held s → held t → fact s → rely s t → fact t

-- Proof outline of a program: from its present fact every command leads to a
-- next one, keeps the invariant, and does to the state only what the others
-- rely on. post says what is left to do with the last fact.
def Outlined {A : Type} (crew : Crew Q C R E S) (held : S → Prop) (rely : Q → S → S → Prop) (name : Q)
    (post : Except E A → (S → Prop) → Prop) : Prog C R E A → (S → Prop) → Prop
  | .done value, fact => post (.ok value) fact
  | .stop code, fact => post (.error code) fact
  | .call cmd rest, fact => ∀ s answer t, held s → fact s → (crew.acts name).reply s cmd answer t →
      held t ∧ (∀ other, other ≠ name → rely other s t) ∧
        ∃ next, next t ∧ Stable held (rely name) next ∧ Outlined crew held rely name post (rest answer) next

theorem outlined_bind {A B : Type} (crew : Crew Q C R E S) (held : S → Prop) (rely : Q → S → S → Prop) (name : Q)
    (middle : Except E A → (S → Prop) → Prop) (post : Except E B → (S → Prop) → Prop) (program : Prog C R E A)
    (rest : A → Prog C R E B) (fact : S → Prop) (first : Outlined crew held rely name middle program fact)
    (onward : ∀ value last, middle (.ok value) last → Outlined crew held rely name post (rest value) last)
    (exits : ∀ code last, middle (.error code) last → post (.error code) last) :
    Outlined crew held rely name post (program >>= rest) fact := by
  induction program generalizing fact with
  | done value => exact onward value fact first
  | stop code => exact exits code fact first
  | call cmd next ih =>
      intro s answer t before now reply
      obtain ⟨after, relied, last, there, stable, outlined⟩ := first s answer t before now reply
      exact ⟨after, relied, last, there, stable, ih answer last outlined⟩

theorem outlined_mono {A : Type} (crew : Crew Q C R E S) (held : S → Prop) (rely : Q → S → S → Prop) (name : Q)
    (post looser : Except E A → (S → Prop) → Prop) (program : Prog C R E A) (fact stronger : S → Prop)
    (implies : ∀ s, stronger s → fact s)
    (posts : ∀ result f g, (∀ s, g s → f s) → post result f → looser result g)
    (outlined : Outlined crew held rely name post program fact) :
    Outlined crew held rely name looser program stronger := by
  induction program generalizing fact stronger with
  | done value => exact posts _ fact stronger implies outlined
  | stop code => exact posts _ fact stronger implies outlined
  | call cmd rest ih =>
      intro s answer t before now reply
      obtain ⟨after, relied, next, there, stable, onward⟩ := outlined s answer t before (implies s now) reply
      exact ⟨after, relied, next, there, stable, ih answer next next (fun _ => id) onward⟩

-- A program of allowed commands runs under one fact that none of them disturbs.
theorem outlined_only {A : Type} (crew : Crew Q C R E S) (held : S → Prop) (rely : Q → S → S → Prop) (name : Q)
    (post : Except E A → (S → Prop) → Prop) (allowed : C → Prop) (program : Prog C R E A) (fact : S → Prop)
    (only : Only allowed program) (stable : Stable held (rely name) fact)
    (acts : ∀ s cmd answer t, held s → fact s → allowed cmd → (crew.acts name).reply s cmd answer t →
      held t ∧ (∀ other, other ≠ name → rely other s t) ∧ fact t)
    (posts : ∀ result, post result fact) : Outlined crew held rely name post program fact := by
  induction program with
  | done value => exact posts (.ok value)
  | stop code => exact posts (.error code)
  | call cmd rest ih =>
      intro s answer t before now reply
      obtain ⟨after, relied, there⟩ := acts s cmd answer t before now only.1 reply
      exact ⟨after, relied, fact, there, stable, ih answer (only.2 answer)⟩

def Leaving (crew : Crew Q C R E S) (held : S → Prop) (rely : Q → S → S → Prop) (name : Q)
    (_ : Except E Unit) (fact : S → Prop) : Prop :=
  ∀ s t, held s → fact s → crew.leaves name s t → held t ∧ ∀ other, other ≠ name → rely other s t

def Ready (crew : Crew Q C R E S) (held : S → Prop) (rely : Q → S → S → Prop) (name : Q)
    (program : Prog C R E Unit) (s : S) : Prop :=
  ∃ fact, fact s ∧ Stable held (rely name) fact ∧ Outlined crew held rely name (Leaving crew held rely name) program fact

-- post says what every thread is to have reached at its end.
def ReadyFor (crew : Crew Q C R E S) (held : S → Prop) (rely : Q → S → S → Prop)
    (post : Q → Except E Unit → (S → Prop) → Prop) (name : Q) (program : Prog C R E Unit) (s : S) : Prop :=
  ∃ fact, fact s ∧ Stable held (rely name) fact ∧ Outlined crew held rely name (post name) program fact

structure KeptFor (crew : Crew Q C R E S) (held : S → Prop) (rely : Q → S → S → Prop)
    (post : Q → Except E Unit → (S → Prop) → Prop) (pool : Pool Q C R E S) : Prop where
  invariant : held pool.state
  ready : ∀ name program, pool.threads name = some program → ReadyFor crew held rely post name program pool.state

theorem ended_posted (crew : Crew Q C R E S) (held : S → Prop) (rely : Q → S → S → Prop)
    (post : Q → Except E Unit → (S → Prop) → Prop) (pool : Pool Q C R E S) (name : Q) (result : Except E Unit)
    (kept : KeptFor crew held rely post pool) (ended : pool.threads name = some (outcome result)) : ∃ fact, fact pool.state ∧ post name result fact := by
  obtain ⟨fact, now, _, outlined⟩ := kept.ready name _ ended
  cases result with
  | ok value => exact ⟨fact, now, outlined⟩
  | error code => exact ⟨fact, now, outlined⟩

section Interleavings

variable [DecidableEq Q]

def Pool.move (pool : Pool Q C R E S) (name : Q) (thread : Option (Prog C R E Unit)) (t : S) : Pool Q C R E S where
  state := t
  threads := Function.update pool.threads name thread

-- Every interleaving: a thread runs its next command, a new thread enters, one
-- that has come to its end leaves, or the state changes by itself.
inductive Interleaved (crew : Crew Q C R E S) (origin : S) : Pool Q C R E S → Prop where
  | start : Interleaved crew origin ⟨origin, fun _ => none⟩
  | act (pool : Pool Q C R E S) (name : Q) (cmd : C) (rest : R cmd → Prog C R E Unit) (answer : R cmd) (t : S)
      (before : Interleaved crew origin pool) (running : pool.threads name = some (.call cmd rest))
      (answered : (crew.acts name).reply pool.state cmd answer t) :
      Interleaved crew origin (pool.move name (some (rest answer)) t)
  | enter (pool : Pool Q C R E S) (name : Q) (program : Prog C R E Unit) (t : S)
      (before : Interleaved crew origin pool) (free : pool.threads name = none)
      (entered : crew.enters name program pool.state t) :
      Interleaved crew origin (pool.move name (some program) t)
  | leave (pool : Pool Q C R E S) (name : Q) (result : Except E Unit) (t : S)
      (before : Interleaved crew origin pool) (ended : pool.threads name = some (outcome result))
      (left : crew.leaves name pool.state t) : Interleaved crew origin (pool.move name none t)
  | drift (pool : Pool Q C R E S) (t : S) (before : Interleaved crew origin pool)
      (drifted : crew.drifts pool.state t) : Interleaved crew origin ⟨t, pool.threads⟩

theorem interleaved_reaches (crew : Crew Q C R E S) (origin t : S) (pool : Pool Q C R E S) (name : Q)
    (program last : Prog C R E Unit) (before : Interleaved crew origin pool) (running : pool.threads name = some program)
    (reached : Reaches (crew.acts name) program pool.state last t) :
    Interleaved crew origin (pool.move name (some last) t) := by
  obtain ⟨s, threads⟩ := pool
  change Reaches (crew.acts name) program s last t at reached
  induction reached generalizing threads with
  | here program s =>
      rw [Pool.move, ← running, Function.update_eq_self]
      exact before
  | next cmd rest s t u answer last answered _ ih =>
      have moved := Interleaved.act _ name cmd rest answer t before running answered
      have onward := ih _ moved (Function.update_self name _ threads)
      simpa [Pool.move] using onward

-- A concrete interleaving is made of such turns: the thread runs its next
-- commands, if the handler is able to answer all of them.
def Pool.turn (pool : Pool Q C R E S) (handler : S → (cmd : C) → R cmd × S) (able : S → C → Bool) (name : Q) (n : Nat) :
    Pool Q C R E S :=
  let reached := (pool.threads name).bind fun program => advance handler able n program pool.state
  (reached.map fun last => pool.move name (some last.1) last.2).getD pool

theorem interleaved_turn (crew : Crew Q C R E S) (origin : S) (pool : Pool Q C R E S)
    (handler : S → (cmd : C) → R cmd × S) (able : S → C → Bool) (name : Q) (n : Nat) (before : Interleaved crew origin pool)
    (obeys : ∀ s cmd, able s cmd = true → (crew.acts name).reply s cmd (handler s cmd).1 (handler s cmd).2) :
    Interleaved crew origin (pool.turn handler able name n) := by
  rw [Pool.turn]
  cases running : pool.threads name with
  | none => exact before
  | some program =>
      cases ran : advance handler able n program pool.state with
      | none => simpa [ran] using before
      | some last =>
          have reached := reaches_advance (crew.acts name) handler able n program last.1 pool.state last.2 obeys ran
          simpa [ran] using interleaved_reaches crew origin last.2 pool name program last.1 before running reached

-- While a thread of that name is inside, the state bears its mark.
theorem interleaved_marks (crew : Crew Q C R E S) (origin : S) (name : Q) (mark : S → Prop)
    (acts : ∀ other s cmd answer t, mark s → (crew.acts other).reply s cmd answer t → mark t)
    (enters : ∀ other program s t, other = name ∨ mark s → crew.enters other program s t → mark t)
    (leaves : ∀ other s t, other ≠ name → mark s → crew.leaves other s t → mark t)
    (drifts : ∀ s t, mark s → crew.drifts s t → mark t) (pool : Pool Q C R E S) (run : Interleaved crew origin pool)
    (program : Prog C R E Unit) (inside : pool.threads name = some program) : mark pool.state := by
  induction run generalizing program with
  | start => cases inside
  | act pool other cmd rest answer t _ running answered ih =>
      by_cases same : name = other
      · subst same
        exact acts name _ cmd answer t (ih _ running) answered
      · exact acts other _ cmd answer t (ih program (by simpa [Pool.move, same] using inside)) answered
  | enter pool other entering t _ free entered ih =>
      by_cases same : name = other
      · exact enters other entering _ t (.inl same.symm) entered
      · exact enters other entering _ t (.inr (ih program (by simpa [Pool.move, same] using inside))) entered
  | leave pool other result t _ ended left ih =>
      by_cases same : name = other
      · subst same
        simp [Pool.move] at inside
      · exact leaves other _ t (Ne.symm same) (ih program (by simpa [Pool.move, same] using inside)) left
  | drift pool t _ drifted ih => exact drifts _ t (ih program inside) drifted

structure Kept (crew : Crew Q C R E S) (held : S → Prop) (rely : Q → S → S → Prop) (pool : Pool Q C R E S) : Prop where
  invariant : held pool.state
  ready : ∀ name program, pool.threads name = some program → Ready crew held rely name program pool.state

section Posts

variable (crew : Crew Q C R E S) (held : S → Prop) (rely : Q → S → S → Prop)
  (post : Q → Except E Unit → (S → Prop) → Prop)

theorem move_kept (pool : Pool Q C R E S) (name : Q) (thread : Option (Prog C R E Unit)) (t : S)
    (kept : KeptFor crew held rely post pool) (after : held t) (relied : ∀ other, other ≠ name → rely other pool.state t)
    (own : ∀ program, thread = some program → ReadyFor crew held rely post name program t) :
    KeptFor crew held rely post (pool.move name thread t) := by
  refine ⟨after, fun other program running => ?_⟩
  by_cases same : other = name
  · subst same
    exact own program (by simpa [Pool.move] using running)
  · have still : pool.threads other = some program := by simpa [Pool.move, same] using running
    obtain ⟨fact, now, stable, outlined⟩ := kept.ready other program still
    exact ⟨fact, stable _ _ kept.invariant after now (relied other same), stable, outlined⟩

theorem interleaved_kept_for (origin : S) (begins : held origin)
    (posts : ∀ name result fact, post name result fact → Leaving crew held rely name result fact)
    (drifts : ∀ s t, held s → crew.drifts s t → held t ∧ ∀ other, rely other s t)
    (enters : ∀ name program s t, held s → crew.enters name program s t → held t ∧
      (∀ other, other ≠ name → rely other s t) ∧ ReadyFor crew held rely post name program t)
    (pool : Pool Q C R E S) (run : Interleaved crew origin pool) : KeptFor crew held rely post pool := by
  induction run with
  | start => exact ⟨begins, fun name program running => by cases running⟩
  | act pool name cmd rest answer t _ running answered ih =>
      obtain ⟨fact, now, _, outlined⟩ := ih.ready name _ running
      obtain ⟨after, relied, next⟩ := outlined pool.state answer t ih.invariant now answered
      apply move_kept crew held rely post pool name _ t ih after relied
      intro _ given
      obtain ⟨rfl⟩ := given
      exact next
  | enter pool name program t _ free entered ih =>
      obtain ⟨after, relied, next⟩ := enters name program pool.state t ih.invariant entered
      apply move_kept crew held rely post pool name _ t ih after relied
      intro _ given
      obtain ⟨rfl⟩ := given
      exact next
  | leave pool name result t _ ended left ih =>
      obtain ⟨fact, now, reached⟩ := ended_posted crew held rely post pool name result ih ended
      obtain ⟨after, relied⟩ := posts name result fact reached pool.state t ih.invariant now left
      exact move_kept crew held rely post pool name none t ih after relied fun program running => by cases running
  | drift pool t _ drifted ih =>
      obtain ⟨after, relied⟩ := drifts pool.state t ih.invariant drifted
      refine ⟨after, fun name program running => ?_⟩
      obtain ⟨fact, now, stable, outlined⟩ := ih.ready name program running
      exact ⟨fact, stable _ _ ih.invariant after now (relied name), stable, outlined⟩

end Posts

theorem interleaved_kept (crew : Crew Q C R E S) (held : S → Prop) (rely : Q → S → S → Prop) (origin : S)
    (begins : held origin)
    (drifts : ∀ s t, held s → crew.drifts s t → held t ∧ ∀ other, rely other s t)
    (enters : ∀ name program s t, held s → crew.enters name program s t → held t ∧
      (∀ other, other ≠ name → rely other s t) ∧ Ready crew held rely name program t)
    (pool : Pool Q C R E S) (run : Interleaved crew origin pool) : Kept crew held rely pool := by
  have kept := interleaved_kept_for crew held rely (Leaving crew held rely) origin begins (fun _ _ _ reached => reached)
    drifts enters pool run
  exact ⟨kept.invariant, kept.ready⟩

end Interleavings

end Threads

end Interact
