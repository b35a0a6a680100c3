import Mathlib.Data.Finset.Card
import Mathlib.Data.Set.Finite.Basic
import Mathlib.Logic.Relation

set_option autoImplicit false

namespace Chase

section Walk

variable {S R : Type} (turn : S → S ⊕ R)

-- A loop that goes on to another state or comes to a result.
def chase : Nat → S → Option R
  | 0, _ => none
  | fuel + 1, s =>
      match turn s with
      | .inl t => chase fuel t
      | .inr result => some result

theorem chase_longer (fuel more : Nat) (s : S) (result : R) (ended : chase turn fuel s = some result) :
    chase turn (fuel + more) s = some result := by
  induction fuel generalizing s with
  | zero => cases ended
  | succ fuel ih =>
      rw [Nat.succ_add]
      rw [chase] at ended ⊢
      cases step : turn s with
      | inl t =>
          simp only [step] at ended ⊢
          exact ih t ended
      | inr last =>
          simp only [step] at ended ⊢
          exact ended

theorem chase_unique (fuel other : Nat) (s : S) (first second : R) (ended : chase turn fuel s = some first)
    (again : chase turn other s = some second) : first = second := by
  have long := chase_longer turn fuel other s first ended
  have same := chase_longer turn other fuel s second again
  rw [Nat.add_comm, long] at same
  exact Option.some.inj same

-- A loop that counts up to a number where it stops.
theorem chase_counts (turn : Nat → Nat ⊕ R) (first last : Nat) (result : R) (reached : first ≤ last)
    (climbs : ∀ i, first ≤ i → i < last → turn i = .inl (i + 1)) (stops : turn last = .inr result) :
    ∃ fuel, chase turn fuel first = some result := by
  induction reached using Nat.decreasingInduction with
  | self => exact ⟨1, by rw [chase, stops]⟩
  | of_succ i before ih =>
      obtain ⟨fuel, ended⟩ := ih fun j after => climbs j (Nat.le_of_succ_le after)
      exact ⟨fuel + 1, by rw [chase, climbs i (Nat.le_refl i) before]; exact ended⟩

def Goes (s t : S) : Prop := turn s = .inl t

def Cyclic (s : S) : Prop := ∃ t, Relation.ReflTransGen (Goes turn) s t ∧ Relation.TransGen (Goes turn) t t

theorem cyclic_next (s : S) (cyclic : Cyclic turn s) : ∃ t, Goes turn s t ∧ Cyclic turn t := by
  obtain ⟨u, path, cycle⟩ := cyclic
  cases Relation.ReflTransGen.cases_head path with
  | inl here =>
      subst here
      obtain ⟨t, step, back⟩ := Relation.TransGen.head'_iff.mp cycle
      exact ⟨t, step, s, back, cycle⟩
  | inr later =>
      obtain ⟨t, step, onward⟩ := later
      exact ⟨t, step, u, onward, cycle⟩

theorem cyclic_back (s t : S) (step : Goes turn s t) (cyclic : Cyclic turn t) : Cyclic turn s := by
  obtain ⟨u, path, cycle⟩ := cyclic
  exact ⟨u, .head step path, cycle⟩

theorem cyclic_never_ends (fuel : Nat) (s : S) (cyclic : Cyclic turn s) : chase turn fuel s = none := by
  induction fuel generalizing s with
  | zero => rfl
  | succ fuel ih =>
      obtain ⟨t, step, onward⟩ := cyclic_next turn s cyclic
      have next : turn s = .inl t := step
      rw [chase, next]
      exact ih t onward

-- Every step of a walk without a cycle leaves a state that it cannot come back to.
theorem acyclic_ends_within (bound : Finset S) (s : S) (inside : ∀ t, Relation.TransGen (Goes turn) s t → t ∈ bound)
    (acyclic : ¬ Cyclic turn s) : ∃ fuel result, chase turn fuel s = some result := by
  classical
  generalize size : bound.card = count
  induction count generalizing bound s with
  | zero =>
      cases step : turn s with
      | inl t =>
          rw [Finset.card_eq_zero.mp size] at inside
          exact absurd (inside t (.single step)) (Finset.notMem_empty t)
      | inr result => exact ⟨1, result, by rw [chase, step]⟩
  | succ count ih =>
      cases step : turn s with
      | inl t =>
          have reached : t ∈ bound := inside t (.single step)
          have onward : ¬ Cyclic turn t := fun cyclic => acyclic (cyclic_back turn s t step cyclic)
          have left : ∀ u, Relation.TransGen (Goes turn) t u → u ∈ bound.erase t := by
            intro u path
            refine Finset.mem_erase.mpr ⟨?_, inside u (.head step path)⟩
            intro same
            exact onward ⟨t, .refl, same ▸ path⟩
          obtain ⟨fuel, result, ended⟩ := ih (bound.erase t) t left onward (by rw [Finset.card_erase_of_mem reached, size]; rfl)
          exact ⟨fuel + 1, result, by rw [chase, step]; exact ended⟩
      | inr result => exact ⟨1, result, by rw [chase, step]⟩

theorem chase_ends_iff (s : S) (finite : {t | ∃ u, Goes turn u t}.Finite) :
    (∃ fuel result, chase turn fuel s = some result) ↔ ¬ Cyclic turn s := by
  constructor
  · intro ended cyclic
    obtain ⟨fuel, result, ended⟩ := ended
    rw [cyclic_never_ends turn fuel s cyclic] at ended
    cases ended
  · intro acyclic
    apply acyclic_ends_within turn finite.toFinset s _ acyclic
    intro t path
    obtain ⟨u, _, step⟩ := Relation.TransGen.tail'_iff.mp path
    exact finite.mem_toFinset.mpr ⟨u, step⟩

end Walk

end Chase
