import SummitSom.Interact.Program
import Mathlib.Data.List.Induction

set_option autoImplicit false

namespace SummitSom.Data

-- Paths are relative to /data; the empty path is /data itself.
abbrev Path := List String

inductive Kind where
  | file
  | dir
deriving DecidableEq, Repr

-- Where an entry comes from: it was there before the reset was asked for, it is
-- a complete copy of a default, or the script made it or is still copying it.
inductive Origin where
  | old
  | factory
  | script
deriving DecidableEq, Repr

structure Entry where
  kind : Kind
  origin : Origin
deriving DecidableEq, Repr

structure DataTree where
  entry : Path → Option Entry
  rooted : ∀ path name found, path ≠ [] → entry (path ++ [name]) = some found →
    ∃ parent, entry path = some parent ∧ parent.kind = .dir

def DataTree.isKind (tree : DataTree) (kind : Kind) (path : Path) : Bool :=
  (tree.entry path).map Entry.kind = some kind

theorem is_kind_iff (tree : DataTree) (kind : Kind) (path : Path) :
    tree.isKind kind path = true ↔ ∃ found, tree.entry path = some found ∧ found.kind = kind := by
  simp [DataTree.isKind]

theorem ancestor_present (tree : DataTree) (path rest : Path) (found : Entry) (nonempty : path ≠ [])
    (present : tree.entry (path ++ rest) = some found) : ∃ ancestor, tree.entry path = some ancestor := by
  induction rest using List.reverseRecOn generalizing found with
  | nil => exact ⟨found, by simpa using present⟩
  | append_singleton before name ih =>
      rw [← List.append_assoc] at present
      obtain ⟨parent, parentPresent, _⟩ := tree.rooted (path ++ before) name found (by simp [nonempty]) present
      exact ih parent parentPresent

-- The effects of the commands. Every relation says what each entry may have
-- become.
def Removing (path : Path) (s t : DataTree) : Prop :=
  ∀ place, t.entry place = s.entry place ∨ (path <+: place ∧ t.entry place = none)

def Removed (path : Path) (s t : DataTree) : Prop :=
  Removing path s t ∧ ∀ place, path <+: place → t.entry place = none

def Making (kind : Kind) (region : Path → Prop) (s t : DataTree) : Prop :=
  ∀ place, t.entry place = s.entry place ∨
    (region place ∧ s.entry place = none ∧ t.entry place = some ⟨kind, .script⟩)

def Replacing (region : Path → Prop) (s t : DataTree) : Prop :=
  ∀ place, t.entry place = s.entry place ∨
    (region place ∧ ∃ made, t.entry place = some made ∧ made.origin ≠ .old)

def Below (path place : Path) : Prop := ∃ rest, rest ≠ [] ∧ place = path ++ rest

-- A default counts as installed when its directory is there, or a file with its
-- contents.
def DataTree.Holds (tree : DataTree) (path : Path) (kind : Kind) : Prop :=
  ∃ found, tree.entry path = some found ∧ found.kind = kind ∧ (kind = .file → found.origin = .factory)

theorem making_holds (kind made : Kind) (region : Path → Prop) (s t : DataTree) (path : Path)
    (making : Making made region s t) (holds : s.Holds path kind) : t.Holds path kind := by
  obtain ⟨found, present, rest⟩ := holds
  cases making path with
  | inl same => exact ⟨found, same.trans present, rest⟩
  | inr found =>
      obtain ⟨_, absent, _⟩ := found
      rw [present] at absent
      cases absent

theorem replacing_holds (region : Path → Prop) (s t : DataTree) (path : Path) (kind : Kind)
    (replacing : Replacing region s t) (outside : ¬ region path) (holds : s.Holds path kind) : t.Holds path kind := by
  obtain ⟨found, present, rest⟩ := holds
  cases replacing path with
  | inl same => exact ⟨found, same.trans present, rest⟩
  | inr found =>
      obtain ⟨inside, _⟩ := found
      exact absurd inside outside

end SummitSom.Data
