import Mathlib.Tactic.Common
import Mathlib.Logic.Relation

set_option autoImplicit false

namespace Interact

-- A program seen from outside: it returns a value, exits with a code, or
-- issues a command and goes on with the answer. Which answers can come back is
-- not part of the program; a World below says it.
inductive Prog (C : Type) (R : C → Type) (E A : Type) : Type where
  | done (value : A)
  | stop (code : E)
  | call (cmd : C) (next : R cmd → Prog C R E A)

section Monad

variable {C : Type} {R : C → Type} {E A B D : Type}

def Prog.bind : Prog C R E A → (A → Prog C R E B) → Prog C R E B
  | .done value, rest => rest value
  | .stop code, _ => .stop code
  | .call cmd next, rest => .call cmd (fun answer => (next answer).bind rest)

instance : Monad (Prog C R E) where
  pure := .done
  bind := .bind

def issue (cmd : C) : Prog C R E (R cmd) := .call cmd .done

@[simp] theorem done_bind (value : A) (rest : A → Prog C R E B) :
    ((Prog.done value : Prog C R E A) >>= rest) = rest value := rfl

@[simp] theorem call_bind (cmd : C) (next : R cmd → Prog C R E A) (rest : A → Prog C R E B) :
    (Prog.call cmd next >>= rest) = .call cmd (fun answer => next answer >>= rest) := rfl

@[simp] theorem issue_bind (cmd : C) (rest : R cmd → Prog C R E B) :
    ((issue cmd : Prog C R E (R cmd)) >>= rest) = .call cmd rest := rfl

end Monad

-- What surrounds a program. reply says how a command that runs to its end can
-- answer; midst says what may be seen while it is still running, which is where
-- a power cut can leave the state.
structure World (C : Type) (R : C → Type) (S : Type) where
  midst : S → C → S → Prop
  reply : S → (cmd : C) → R cmd → S → Prop

section Runs

variable {C : Type} {R : C → Type} {E A B S : Type}

def World.free : World C R Unit where
  midst _ _ _ := True
  reply _ _ _ _ := True

def World.admitting (W : World C R S) (admits : S → C → Prop) : World C R S where
  midst s cmd t := admits s cmd ∧ W.midst s cmd t
  reply s cmd answer t := admits s cmd ∧ W.reply s cmd answer t

def World.answering (W : World C R S) (answers : S → (cmd : C) → R cmd → Prop) : World C R S where
  midst := W.midst
  reply s cmd answer t := answers s cmd answer ∧ W.reply s cmd answer t

inductive Reaches (W : World C R S) : Prog C R E A → S → Prog C R E A → S → Prop where
  | here (program : Prog C R E A) (s : S) : Reaches W program s program s
  | next (cmd : C) (rest : R cmd → Prog C R E A) (s t u : S) (answer : R cmd) (last : Prog C R E A)
      (answered : W.reply s cmd answer t) (onward : Reaches W (rest answer) t last u) :
      Reaches W (.call cmd rest) s last u

def outcome : Except E A → Prog C R E A
  | .ok value => .done value
  | .error code => .stop code

def Ends (W : World C R S) (program : Prog C R E A) (s : S) (result : Except E A) (t : S) : Prop :=
  Reaches W program s (outcome result) t

def Issues (W : World C R S) (program : Prog C R E A) (s : S) (cmd : C) (t : S) : Prop :=
  ∃ rest, Reaches W program s (.call cmd rest) t

-- State t can be seen at some moment of the run, between or during commands.
def Seen (W : World C R S) (program : Prog C R E A) (s t : S) : Prop :=
  ∃ last u, Reaches W program s last u ∧ (t = u ∨ ∃ cmd rest, last = .call cmd rest ∧ W.midst u cmd t)

theorem seen_start (W : World C R S) (program : Prog C R E A) (s : S) : Seen W program s s :=
  ⟨program, s, .here program s, .inl rfl⟩

theorem ends_seen (W : World C R S) (program : Prog C R E A) (s : S) (result : Except E A) (t : S)
    (ended : Ends W program s result t) : Seen W program s t :=
  ⟨outcome result, t, ended, .inl rfl⟩

theorem reaches_bind (W : World C R S) (program last : Prog C R E A) (rest : A → Prog C R E B) (s t : S)
    (reached : Reaches W program s last t) : Reaches W (program >>= rest) s (last >>= rest) t := by
  induction reached with
  | here program s => exact .here _ _
  | next cmd next s t u answer last answered onward ih => exact .next cmd _ s t u answer _ answered ih

theorem issues_bind_first (W : World C R S) (program : Prog C R E A) (rest : A → Prog C R E B) (s t : S) (cmd : C)
    (issued : Issues W program s cmd t) : Issues W (program >>= rest) s cmd t := by
  obtain ⟨next, reached⟩ := issued
  exact ⟨_, reaches_bind W program _ rest s t reached⟩

theorem reaches_trans (W : World C R S) (first middle last : Prog C R E A) (s t u : S)
    (before : Reaches W first s middle t) (after : Reaches W middle t last u) : Reaches W first s last u := by
  induction before with
  | here program s => exact after
  | next cmd rest s v w answer program answered _ ih => exact .next cmd rest s v u answer last answered (ih after)

theorem issues_bind_rest (W : World C R S) (program : Prog C R E A) (rest : A → Prog C R E B) (value : A)
    (s t u : S) (cmd : C) (ended : Ends W program s (.ok value) t) (issued : Issues W (rest value) t cmd u) :
    Issues W (program >>= rest) s cmd u := by
  obtain ⟨next, reached⟩ := issued
  exact ⟨next, reaches_trans W _ _ _ s t u (reaches_bind W program _ rest s t ended) reached⟩

theorem issues_call (W : World C R S) (cmd later : C) (rest : R cmd → Prog C R E A) (answer : R cmd) (s t u : S)
    (answered : W.reply s cmd answer t) (issued : Issues W (rest answer) t later u) :
    Issues W (.call cmd rest) s later u := by
  obtain ⟨next, reached⟩ := issued
  exact ⟨next, .next cmd rest s t u answer _ answered reached⟩

theorem ends_call (W : World C R S) (cmd : C) (rest : R cmd → Prog C R E A) (answer : R cmd) (s t u : S)
    (result : Except E A) (answered : W.reply s cmd answer t) (ended : Ends W (rest answer) t result u) :
    Ends W (.call cmd rest) s result u :=
  .next cmd rest s t u answer _ answered ended

theorem ended_call (W : World C R S) (cmd : C) (rest : R cmd → Prog C R E A) (s u : S) (result : Except E A)
    (ended : Ends W (.call cmd rest) s result u) : ∃ answer t, W.reply s cmd answer t ∧ Ends W (rest answer) t result u := by
  rw [Ends] at ended
  generalize lastEq : outcome result = last at ended
  cases ended with
  | here => cases result <;> cases lastEq
  | next _ _ _ t _ answer _ answered onward =>
      subst lastEq
      exact ⟨answer, t, answered, onward⟩

theorem ended_done (W : World C R S) (value : A) (s t : S) (result : Except E A)
    (ended : Ends W (.done value) s result t) : result = .ok value ∧ t = s := by
  rw [Ends] at ended
  generalize lastEq : outcome result = last at ended
  cases ended
  cases result with
  | ok other =>
      cases lastEq
      exact ⟨rfl, rfl⟩
  | error code => cases lastEq

theorem ended_stop (W : World C R S) (code : E) (s t : S) (result : Except E A)
    (ended : Ends W (.stop code) s result t) : result = .error code ∧ t = s := by
  rw [Ends] at ended
  generalize lastEq : outcome result = last at ended
  cases ended
  cases result with
  | ok value => cases lastEq
  | error other =>
      cases lastEq
      exact ⟨rfl, rfl⟩

theorem ended_bind (W : World C R S) (program : Prog C R E A) (rest : A → Prog C R E B) (s u : S) (result : Except E B)
    (ended : Ends W (program >>= rest) s result u) :
    (∃ value t, Ends W program s (.ok value) t ∧ Ends W (rest value) t result u) ∨
      ∃ code, Ends W program s (.error code) u ∧ result = .error code := by
  induction program generalizing s with
  | done value => exact .inl ⟨value, s, .here _ s, ended⟩
  | stop code =>
      obtain ⟨rfl, rfl⟩ := ended_stop W code s u result ended
      exact .inr ⟨code, .here _ u, rfl⟩
  | call cmd next ih =>
      obtain ⟨answer, t, answered, onward⟩ := ended_call W cmd _ s u result ended
      cases ih answer t onward with
      | inl found =>
          obtain ⟨value, v, first, second⟩ := found
          exact .inl ⟨value, v, .next cmd next s t v answer _ answered first, second⟩
      | inr found =>
          obtain ⟨code, first, failed⟩ := found
          exact .inr ⟨code, .next cmd next s t u answer _ answered first, failed⟩

theorem issued_call (W : World C R S) (cmd later : C) (rest : R cmd → Prog C R E A) (s t : S)
    (issued : Issues W (.call cmd rest) s later t) :
    (later = cmd ∧ t = s) ∨ ∃ answer u, W.reply s cmd answer u ∧ Issues W (rest answer) u later t := by
  obtain ⟨next, reached⟩ := issued
  generalize lastEq : Prog.call later next = last at reached
  cases reached with
  | here =>
      cases lastEq
      exact .inl ⟨rfl, rfl⟩
  | next _ _ _ u _ answer _ answered onward =>
      subst lastEq
      exact .inr ⟨answer, u, answered, next, onward⟩

theorem issued_stop (W : World C R S) (code : E) (s t : S) (cmd : C)
    (issued : Issues W (.stop code : Prog C R E A) s cmd t) : False := by
  obtain ⟨next, reached⟩ := issued
  cases reached

theorem issued_bind (W : World C R S) (program : Prog C R E A) (rest : A → Prog C R E B) (s t : S) (cmd : C)
    (issued : Issues W (program >>= rest) s cmd t) :
    Issues W program s cmd t ∨ ∃ value u, Ends W program s (.ok value) u ∧ Issues W (rest value) u cmd t := by
  induction program generalizing s with
  | done value => exact .inr ⟨value, s, .here _ s, issued⟩
  | stop code => exact (issued_stop W code s t cmd issued).elim
  | call first next ih =>
      rcases issued_call W first cmd _ s t issued with ⟨rfl, rfl⟩ | ⟨answer, u, answered, onward⟩
      · exact .inl ⟨next, .here _ _⟩
      · rcases ih answer u onward with ⟨last, reached⟩ | ⟨value, v, ended, after⟩
        · exact .inl ⟨last, .next first next s u t answer _ answered reached⟩
        · exact .inr ⟨value, v, .next first next s u v answer _ answered ended, after⟩

theorem seen_call (W : World C R S) (cmd : C) (rest : R cmd → Prog C R E A) (answer : R cmd) (s t u : S)
    (answered : W.reply s cmd answer t) (seen : Seen W (rest answer) t u) : Seen W (.call cmd rest) s u := by
  obtain ⟨last, v, reached, found⟩ := seen
  exact ⟨last, v, .next cmd rest s t v answer last answered reached, found⟩

-- Crash Hoare triple: held is true at every moment of the run, and post
-- relates the outcome to the last state.
def Safe (W : World C R S) (held : S → Prop) (post : Except E A → S → Prop) : Prog C R E A → S → Prop
  | .done value, s => held s ∧ post (.ok value) s
  | .stop code, s => held s ∧ post (.error code) s
  | .call cmd rest, s => held s ∧ (∀ t, W.midst s cmd t → held t) ∧
      ∀ answer t, W.reply s cmd answer t → Safe W held post (rest answer) t

@[simp] theorem safe_stop (W : World C R S) (held : S → Prop) (post : Except E A → S → Prop) (code : E) (s : S) :
    Safe W held post (.stop code) s ↔ held s ∧ post (.error code) s := Iff.rfl

theorem safe_held (W : World C R S) (held : S → Prop) (post : Except E A → S → Prop) (program : Prog C R E A)
    (s : S) (safe : Safe W held post program s) : held s := by
  cases program <;> exact safe.1

theorem safe_reaches (W : World C R S) (held : S → Prop) (post : Except E A → S → Prop)
    (program last : Prog C R E A) (s t : S) (safe : Safe W held post program s)
    (reached : Reaches W program s last t) : Safe W held post last t := by
  induction reached with
  | here program s => exact safe
  | next cmd rest s t u answer last answered onward ih => exact ih (safe.2.2 answer t answered)

theorem safe_seen (W : World C R S) (held : S → Prop) (post : Except E A → S → Prop) (program : Prog C R E A)
    (s t : S) (safe : Safe W held post program s) (seen : Seen W program s t) : held t := by
  obtain ⟨last, u, reached, same | ⟨cmd, rest, lastEq, during⟩⟩ := seen
  · exact same ▸ safe_held W held post last u (safe_reaches W held post program last s u safe reached)
  · subst lastEq
    exact (safe_reaches W held post program _ s u safe reached).2.1 t during

theorem safe_ends (W : World C R S) (held : S → Prop) (post : Except E A → S → Prop) (program : Prog C R E A)
    (s t : S) (result : Except E A) (safe : Safe W held post program s)
    (ended : Ends W program s result t) : post result t := by
  have final := safe_reaches W held post program _ s t safe ended
  cases result with
  | ok value => exact final.2
  | error code => exact final.2

theorem safe_mono (W : World C R S) (held weaker : S → Prop) (post looser : Except E A → S → Prop)
    (program : Prog C R E A) (s : S) (safe : Safe W held post program s)
    (heldMono : ∀ t, held t → weaker t) (postMono : ∀ result t, held t → post result t → looser result t) :
    Safe W weaker looser program s := by
  induction program generalizing s with
  | done value => exact ⟨heldMono s safe.1, postMono _ s safe.1 safe.2⟩
  | stop code => exact ⟨heldMono s safe.1, postMono _ s safe.1 safe.2⟩
  | call cmd rest ih =>
      exact ⟨heldMono s safe.1, fun t during => heldMono t (safe.2.1 t during),
        fun answer t answered => ih answer t (safe.2.2 answer t answered)⟩

-- What is left to prove once the first part of a sequence has ended.
def andThen (W : World C R S) (held : S → Prop) (post : Except E B → S → Prop) (rest : A → Prog C R E B) :
    Except E A → S → Prop
  | .ok value, s => Safe W held post (rest value) s
  | .error code, s => post (.error code) s

theorem safe_bind (W : World C R S) (held : S → Prop) (post : Except E B → S → Prop) (program : Prog C R E A)
    (rest : A → Prog C R E B) (s : S) (safe : Safe W held (andThen W held post rest) program s) :
    Safe W held post (program >>= rest) s := by
  induction program generalizing s with
  | done value => exact safe.2
  | stop code => exact safe
  | call cmd next ih =>
      exact ⟨safe.1, safe.2.1, fun answer t answered => ih answer t (safe.2.2 answer t answered)⟩

theorem safe_then (W : World C R S) (held : S → Prop) (middle : Except E A → S → Prop) (post : Except E B → S → Prop)
    (program : Prog C R E A) (rest : A → Prog C R E B) (s : S) (first : Safe W held middle program s)
    (onward : ∀ value t, middle (.ok value) t → Safe W held post (rest value) t)
    (exits : ∀ code t, middle (.error code) t → post (.error code) t) : Safe W held post (program >>= rest) s := by
  refine safe_bind W held post program rest s (safe_mono W held held _ _ program s first (fun _ => id) ?_)
  intro result t _ reached
  cases result with
  | ok value => exact onward value t reached
  | error code => exact exits code t reached

def Returns (post : A → S → Prop) (result : Except E A) (s : S) : Prop := ∃ value, result = .ok value ∧ post value s

theorem safe_returns (W : World C R S) (held : S → Prop) (middle : A → S → Prop) (post : Except E B → S → Prop)
    (program : Prog C R E A) (rest : A → Prog C R E B) (s : S) (first : Safe W held (Returns middle) program s)
    (onward : ∀ value t, middle value t → Safe W held post (rest value) t) : Safe W held post (program >>= rest) s := by
  refine safe_then W held (Returns middle) post program rest s first ?_ ?_
  · intro value t given
    obtain ⟨_, ⟨rfl⟩, reached⟩ := given
    exact onward value t reached
  · intro code t given
    obtain ⟨_, ⟨⟩, _⟩ := given

-- A property that no command of the program disturbs holds throughout.
def Only (allowed : C → Prop) : Prog C R E A → Prop
  | .done _ => True
  | .stop _ => True
  | .call cmd rest => allowed cmd ∧ ∀ answer, Only allowed (rest answer)

def Yields (value : A) : Prog C R E A → Prop
  | .done result => result = value
  | .stop _ => False
  | .call _ rest => ∃ answer, Yields value (rest answer)

theorem yields_bind (program : Prog C R E A) (rest : A → Prog C R E B) (value : A) (result : B)
    (first : Yields value program) (second : Yields result (rest value)) : Yields result (program >>= rest) := by
  induction program with
  | done other =>
      obtain rfl : other = value := first
      exact second
  | stop code => exact first.elim
  | call cmd next ih =>
      obtain ⟨answer, onward⟩ := first
      exact ⟨answer, ih answer onward⟩

theorem yields_ends (program : Prog C R E A) (value : A) (yields : Yields value program) :
    Ends World.free program () (.ok value) () := by
  induction program with
  | done other =>
      obtain rfl : other = value := yields
      exact .here _ ()
  | stop code => exact yields.elim
  | call cmd rest ih =>
      obtain ⟨answer, onward⟩ := yields
      exact .next cmd rest () () () answer _ trivial (ih answer onward)

theorem only_bind_yields (allowed : C → Prop) (program : Prog C R E A) (rest : A → Prog C R E B)
    (first : Only allowed program) (second : ∀ value, Yields value program → Only allowed (rest value)) :
    Only allowed (program >>= rest) := by
  induction program with
  | done value => exact second value rfl
  | stop code => trivial
  | call cmd next ih =>
      exact ⟨first.1, fun answer => ih answer (first.2 answer) fun value yields => second value ⟨answer, yields⟩⟩

theorem only_bind (allowed : C → Prop) (program : Prog C R E A) (rest : A → Prog C R E B)
    (first : Only allowed program) (second : ∀ value, Only allowed (rest value)) :
    Only allowed (program >>= rest) :=
  only_bind_yields allowed program rest first fun value _ => second value

theorem only_issues (W : World C R S) (allowed : C → Prop) (program : Prog C R E A) (s t : S) (cmd : C)
    (only : Only allowed program) (issued : Issues W program s cmd t) : allowed cmd := by
  obtain ⟨rest, reached⟩ := issued
  generalize lastEq : Prog.call cmd rest = last at reached
  induction reached with
  | here program s =>
      subst lastEq
      exact only.1
  | next first next s t u answer last answered onward ih => exact ih (only.2 answer) lastEq

theorem only_safe (W : World C R S) (allowed : C → Prop) (held : S → Prop) (program : Prog C R E A) (s : S)
    (only : Only allowed program) (start : held s)
    (midst : ∀ s cmd t, allowed cmd → held s → W.midst s cmd t → held t)
    (reply : ∀ s cmd answer t, allowed cmd → held s → W.reply s cmd answer t → held t) :
    Safe W held (fun _ => held) program s := by
  induction program generalizing s with
  | done value => exact ⟨start, start⟩
  | stop code => exact ⟨start, start⟩
  | call cmd rest ih =>
      exact ⟨start, fun t => midst s cmd t only.1 start,
        fun answer t answered => ih answer t (only.2 answer) (reply s cmd answer t only.1 start answered)⟩

theorem only_mono (allowed looser : C → Prop) (program : Prog C R E A) (weaker : ∀ cmd, allowed cmd → looser cmd)
    (only : Only allowed program) : Only looser program := by
  induction program with
  | done value => trivial
  | stop code => trivial
  | call cmd rest ih => exact ⟨weaker cmd only.1, fun answer => ih answer (only.2 answer)⟩

theorem only_all (allowed : C → Prop) (program : Prog C R E A) (all : ∀ cmd, allowed cmd) : Only allowed program := by
  induction program with
  | done value => trivial
  | stop code => trivial
  | call cmd rest ih => exact ⟨all cmd, ih⟩

-- The same program among more commands.
def Prog.within {D : Type} {T : D → Type} (embed : C → D) : Prog C (fun cmd => T (embed cmd)) E A → Prog D T E A
  | .done value => .done value
  | .stop code => .stop code
  | .call cmd next => .call (embed cmd) fun answer => (next answer).within embed

theorem within_bind {D : Type} {T : D → Type} (embed : C → D) (program : Prog C (fun cmd => T (embed cmd)) E A)
    (rest : A → Prog C (fun cmd => T (embed cmd)) E B) :
    ((program >>= rest).within embed : Prog D T E B) = program.within embed >>= fun value => (rest value).within embed := by
  induction program with
  | done value => rfl
  | stop code => rfl
  | call cmd next ih => exact congrArg (Prog.call (embed cmd)) (funext ih)

theorem only_within {D : Type} {T : D → Type} (embed : C → D) (allowed : D → Prop)
    (program : Prog C (fun cmd => T (embed cmd)) E A) (only : Only (fun cmd => allowed (embed cmd)) program) :
    Only allowed (program.within embed) := by
  induction program with
  | done value => trivial
  | stop code => trivial
  | call cmd next ih => exact ⟨only.1, fun answer => ih answer (only.2 answer)⟩

-- A program that issues allowed commands only and never exits.
def Completes (allowed : C → Prop) : Prog C R E A → Prop
  | .done _ => True
  | .stop _ => False
  | .call cmd rest => allowed cmd ∧ ∀ answer, Completes allowed (rest answer)

theorem completes_bind (allowed : C → Prop) (program : Prog C R E A) (rest : A → Prog C R E B)
    (first : Completes allowed program) (second : ∀ value, Completes allowed (rest value)) :
    Completes allowed (program >>= rest) := by
  induction program with
  | done value => exact second value
  | stop code => exact first.elim
  | call cmd next ih => exact ⟨first.1, fun answer => ih answer (first.2 answer)⟩

theorem completes_mono (allowed looser : C → Prop) (program : Prog C R E A) (weaker : ∀ cmd, allowed cmd → looser cmd)
    (completes : Completes allowed program) : Completes looser program := by
  induction program with
  | done value => trivial
  | stop code => exact completes.elim
  | call cmd rest ih => exact ⟨weaker cmd completes.1, fun answer => ih answer (completes.2 answer)⟩

theorem completes_only (allowed : C → Prop) (program : Prog C R E A) (completes : Completes allowed program) :
    Only allowed program := by
  induction program with
  | done value => trivial
  | stop code => trivial
  | call cmd rest ih => exact ⟨completes.1, fun answer => ih answer (completes.2 answer)⟩

theorem completes_safe (W : World C R S) (allowed : C → Prop) (held : S → Prop) (program : Prog C R E A) (s : S)
    (completes : Completes allowed program) (start : held s)
    (midst : ∀ s cmd t, allowed cmd → held s → W.midst s cmd t → held t)
    (reply : ∀ s cmd answer t, allowed cmd → held s → W.reply s cmd answer t → held t) :
    Safe W held (Returns fun _ => held) program s := by
  induction program generalizing s with
  | done value => exact ⟨start, value, rfl, start⟩
  | stop code => exact completes.elim
  | call cmd rest ih =>
      exact ⟨start, fun t => midst s cmd t completes.1 start,
        fun answer t answered => ih answer t (completes.2 answer) (reply s cmd answer t completes.1 start answered)⟩

theorem seen_keeps (W : World C R S) (held : S → Prop) (program : Prog C R E A) (s t : S) (start : held s)
    (midst : ∀ s cmd t, held s → W.midst s cmd t → held t)
    (reply : ∀ s cmd answer t, held s → W.reply s cmd answer t → held t) (seen : Seen W program s t) : held t := by
  refine safe_seen W held (fun _ => held) program s t ?_ seen
  exact only_safe W (fun _ => True) held program s (only_all _ program fun _ => trivial) start
    (fun s cmd t _ => midst s cmd t) (fun s cmd answer t _ => reply s cmd answer t)

def eval (handler : S → (cmd : C) → R cmd × S) : Prog C R E A → S → Except E A × S
  | .done value, s => (.ok value, s)
  | .stop code, s => (.error code, s)
  | .call cmd rest, s => eval handler (rest (handler s cmd).1) (handler s cmd).2

-- Whether the handler is able to answer each command that the program comes to.
def manages (handler : S → (cmd : C) → R cmd × S) (able : S → C → Bool) : Prog C R E A → S → Bool
  | .done _, _ => true
  | .stop _, _ => true
  | .call cmd rest, s => able s cmd && manages handler able (rest (handler s cmd).1) (handler s cmd).2

theorem ends_managed (W : World C R S) (handler : S → (cmd : C) → R cmd × S) (able : S → C → Bool)
    (program : Prog C R E A) (s : S)
    (obeys : ∀ s cmd, able s cmd = true → W.reply s cmd (handler s cmd).1 (handler s cmd).2)
    (managed : manages handler able program s = true) :
    Ends W program s (eval handler program s).1 (eval handler program s).2 := by
  induction program generalizing s with
  | done value => exact .here _ s
  | stop code => exact .here _ s
  | call cmd rest ih =>
      obtain ⟨ready, onward⟩ := (Bool.and_eq_true _ _).mp managed
      exact .next cmd rest s _ _ _ _ (obeys s cmd ready) (ih (handler s cmd).1 (handler s cmd).2 onward)

theorem manages_always (handler : S → (cmd : C) → R cmd × S) (program : Prog C R E A) (s : S) :
    manages handler (fun _ _ => true) program s = true := by
  induction program generalizing s with
  | done value => rfl
  | stop code => rfl
  | call cmd rest ih => exact ih _ _

theorem ends_eval (W : World C R S) (handler : S → (cmd : C) → R cmd × S) (program : Prog C R E A) (s : S)
    (obeys : ∀ s cmd, W.reply s cmd (handler s cmd).1 (handler s cmd).2) :
    Ends W program s (eval handler program s).1 (eval handler program s).2 :=
  ends_managed W handler _ program s (fun s cmd _ => obeys s cmd) (manages_always handler program s)

-- Its first commands only, as long as the handler is able to answer.
def advance (handler : S → (cmd : C) → R cmd × S) (able : S → C → Bool) :
    Nat → Prog C R E A → S → Option (Prog C R E A × S)
  | n + 1, .call cmd rest, s =>
      if able s cmd then advance handler able n (rest (handler s cmd).1) (handler s cmd).2 else none
  | _, program, s => some (program, s)

theorem reaches_advance (W : World C R S) (handler : S → (cmd : C) → R cmd × S) (able : S → C → Bool) (n : Nat)
    (program last : Prog C R E A) (s t : S)
    (obeys : ∀ s cmd, able s cmd = true → W.reply s cmd (handler s cmd).1 (handler s cmd).2)
    (ran : advance handler able n program s = some (last, t)) : Reaches W program s last t := by
  induction n generalizing program s with
  | zero =>
      cases ran
      exact .here _ _
  | succ n ih =>
      cases program with
      | done value =>
          cases ran
          exact .here _ _
      | stop code =>
          cases ran
          exact .here _ _
      | call cmd rest =>
          by_cases ready : able s cmd = true
          · rw [advance, if_pos ready] at ran
            exact .next cmd rest s _ t _ _ (obeys s cmd ready) (ih _ _ ran)
          · rw [advance, if_neg ready] at ran
            cases ran

end Runs

end Interact
