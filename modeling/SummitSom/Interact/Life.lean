import SummitSom.Interact.Program

set_option autoImplicit false

namespace Interact

variable {C : Type} {R : C → Type} {E A S : Type}

-- A machine that is asked to run programs again and again. A run ends by
-- itself, or power is lost at any moment of it; boot says in which state the
-- machine comes up again. The relation holds of the states between runs.
inductive Life (W : World C R S) (ask : S → Prog C R E A → Prop) (boot : S → S → Prop) (origin : S) : S → Prop where
  | start : Life W ask boot origin origin
  | finish (program : Prog C R E A) (s t : S) (result : Except E A) (before : Life W ask boot origin s)
      (asked : ask s program) (ended : Ends W program s result t) : Life W ask boot origin t
  | powerLoss (program : Prog C R E A) (s t u : S) (before : Life W ask boot origin s)
      (asked : ask s program) (seen : Seen W program s t) (booted : boot t u) : Life W ask boot origin u
  | reboot (s t : S) (before : Life W ask boot origin s) (booted : boot s t) : Life W ask boot origin t

inductive Moment (W : World C R S) (ask : S → Prog C R E A → Prop) (boot : S → S → Prop) (origin : S) : S → Prop where
  | rest (s : S) (life : Life W ask boot origin s) : Moment W ask boot origin s
  | inside (program : Prog C R E A) (s t : S) (life : Life W ask boot origin s)
      (asked : ask s program) (seen : Seen W program s t) : Moment W ask boot origin t

-- Run lemma for machines that may lose power.
theorem life_rests (W : World C R S) (ask : S → Prog C R E A → Prop) (boot : S → S → Prop) (origin : S)
    (rest held : S → Prop) (begins : rest origin) (fit : ∀ s, rest s → held s)
    (runs : ∀ s program, rest s → ask s program → Safe W held (fun _ => rest) program s)
    (boots : ∀ s t, held s → boot s t → rest t) (s : S) (life : Life W ask boot origin s) : rest s := by
  induction life with
  | start => exact begins
  | finish program s t result _ asked ended ih => exact safe_ends W held _ program s t result (runs s program ih asked) ended
  | powerLoss program s t u _ asked seen booted ih =>
      exact boots t u (safe_seen W held _ program s t (runs s program ih asked) seen) booted
  | reboot s t _ booted ih => exact boots s t (fit s ih) booted

theorem life_moments (W : World C R S) (ask : S → Prog C R E A → Prop) (boot : S → S → Prop) (origin : S)
    (rest held : S → Prop) (begins : rest origin) (fit : ∀ s, rest s → held s)
    (runs : ∀ s program, rest s → ask s program → Safe W held (fun _ => rest) program s)
    (boots : ∀ s t, held s → boot s t → rest t) (s : S) (moment : Moment W ask boot origin s) : held s := by
  cases moment with
  | rest s life => exact fit s (life_rests W ask boot origin rest held begins fit runs boots s life)
  | inside program s t life asked seen =>
      have rested := life_rests W ask boot origin rest held begins fit runs boots s life
      exact safe_seen W held _ program s _ (runs s program rested asked) seen

end Interact
