import SummitSom.Cstr.Strings

set_option autoImplicit false

namespace SummitSom.Boot

open Cstr

-- The variable conf of the U-Boot environment, and how often the environment
-- has been saved.
structure UbootEnv where
  conf : Option CString
  saves : Nat
deriving DecidableEq

structure Variant where
  name : CString
  three : name.chars.length = 3

inductive Renaming where
  | nullRead
  | outside
  | done (env : UbootEnv)
deriving DecidableEq

def BUF_SIZE : Nat := 64

-- What env_get returns goes into strstr as it is.
def updateDts (oldn newn : Variant) (env : UbootEnv) : Renaming :=
  match env.conf with
  | none => .nullRead
  | some dtb =>
      match strstr oldn.name.chars dtb.chars with
      | none => .done env
      | some _ =>
          let buf := (strncpy dtb.chars BUF_SIZE).set (BUF_SIZE - 1) NUL
          match strstr oldn.name.chars (cellsUpToNul buf) with
          | none => .done env
          | some dvk =>
              if dvk + 3 ≤ BUF_SIZE then .done ⟨some (ofCells (memcpy buf dvk newn.name.chars)), env.saves + 1⟩ else .outside

-- The first occurrence of the old name, if there is one, becomes the new name.
def Renamed (oldn newn : Variant) (env : UbootEnv) (outcome : Renaming) : Prop :=
  match env.conf with
  | none => outcome = .done env
  | some dtb =>
      (¬ oldn.name.chars <:+: dtb.chars → outcome = .done env) ∧
      ∀ i, FirstAt oldn.name.chars dtb.chars i →
        ∃ text : CString, text.chars = memcpy dtb.chars i newn.name.chars ∧ outcome = .done ⟨some text, env.saves + 1⟩

theorem buffered (dtb : CString) :
    (strncpy dtb.chars BUF_SIZE).set (BUF_SIZE - 1) NUL =
      dtb.chars.take 63 ++ List.replicate (63 - (dtb.chars.take 63).length + 1) NUL := by
  have copied := bounded_copy dtb.chars 63
  have short : (dtb.chars.take 63).length ≤ 63 := List.length_take_le 63 _
  have room : 63 + 1 - (dtb.chars.take 63).length = 63 - (dtb.chars.take 63).length + 1 := by omega
  rw [room] at copied
  exact copied

theorem taken_plain (dtb : CString) : NUL ∉ dtb.chars.take 63 := fun inside => dtb.plain (List.mem_of_mem_take inside)

-- What the function does, with the buffer resolved.
theorem update_dts_eq (oldn newn : Variant) (dtb : CString) (saves : Nat) (i : Nat)
    (found : strstr oldn.name.chars dtb.chars = some i) :
    updateDts oldn newn ⟨some dtb, saves⟩ =
      match strstr oldn.name.chars (dtb.chars.take 63) with
      | none => .done ⟨some dtb, saves⟩
      | some dvk => .done ⟨some (ofCells (memcpy (dtb.chars.take 63) dvk newn.name.chars ++ [NUL])), saves + 1⟩ := by
  have text := cells_up_to_nul (dtb.chars.take 63) (63 - (dtb.chars.take 63).length) (taken_plain dtb)
  rw [updateDts]
  simp only [found, buffered, text]
  cases second : strstr oldn.name.chars (dtb.chars.take 63) with
  | none => rfl
  | some dvk =>
      have inside := (strstr_some _ _ dvk second).inside
      have short : (dtb.chars.take 63).length ≤ 63 := List.length_take_le 63 _
      have old := oldn.three
      have new := newn.three
      have clean := memcpy_plain _ newn.name.chars dvk (taken_plain dtb) newn.name.plain
      dsimp only
      rw [if_pos (show dvk + 3 ≤ BUF_SIZE by rw [BUF_SIZE]; omega), memcpy_front _ _ _ dvk (by omega)]
      congr 3
      apply c_string_ext
      exact (cells_up_to_nul _ _ clean).trans (cells_up_to_nul _ 0 clean).symm

theorem missing_kept (oldn newn : Variant) (dtb : CString) (saves : Nat) (missing : ¬ oldn.name.chars <:+: dtb.chars) :
    updateDts oldn newn ⟨some dtb, saves⟩ = .done ⟨some dtb, saves⟩ := by
  cases found : strstr oldn.name.chars dtb.chars with
  | none => simp only [updateDts, found]
  | some i => exact absurd (first_at_inside _ _ i (strstr_some _ _ i found)) missing

theorem short_renamed (oldn newn : Variant) (dtb : CString) (saves : Nat) (short : dtb.chars.length < BUF_SIZE) :
    Renamed oldn newn ⟨some dtb, saves⟩ (updateDts oldn newn ⟨some dtb, saves⟩) := by
  refine ⟨missing_kept oldn newn dtb saves, ?_⟩
  intro i first
  obtain ⟨j, found⟩ := inside_strstr _ _ (first_at_inside _ _ i first)
  have same := first_at_unique _ _ i j first (strstr_some _ _ j found)
  subst same
  have whole : dtb.chars.take 63 = dtb.chars := List.take_of_length_le (Nat.le_of_lt_succ short)
  have clean := memcpy_plain _ newn.name.chars i dtb.plain newn.name.plain
  refine ⟨ofCells (memcpy dtb.chars i newn.name.chars ++ [NUL]), cells_up_to_nul _ 0 clean, ?_⟩
  rw [update_dts_eq oldn newn dtb saves i found, whole, found]

theorem long_renamed (oldn newn : Variant) (dtb : CString) (saves : Nat) (long : BUF_SIZE ≤ dtb.chars.length)
    (present : oldn.name.chars <:+: dtb.chars) : ¬ Renamed oldn newn ⟨some dtb, saves⟩ (updateDts oldn newn ⟨some dtb, saves⟩) := by
  intro renamed
  obtain ⟨i, found⟩ := inside_strstr _ _ present
  have first := strstr_some _ _ i found
  obtain ⟨text, replaced, outcome⟩ := renamed.2 i first
  rw [update_dts_eq oldn newn dtb saves i found] at outcome
  cases second : strstr oldn.name.chars (dtb.chars.take 63) with
  | none =>
      rw [second] at outcome
      injection outcome with env
      injection env with _ saved
      exact absurd saved (Nat.ne_of_lt (Nat.lt_succ_self saves))
  | some dvk =>
      rw [second] at outcome
      injection outcome with env
      injection env with conf _
      have inside := (strstr_some _ _ dvk second).inside
      have old := oldn.three
      have new := newn.three
      have clean := memcpy_plain _ newn.name.chars dvk (taken_plain dtb) newn.name.plain
      have chars := congrArg CString.chars (Option.some.inj conf)
      have length := congrArg List.length ((cells_up_to_nul _ 0 clean).symm.trans (chars.trans replaced))
      rw [memcpy_length _ _ dvk (by omega), memcpy_length _ _ i (by have := first.inside; omega), List.length_take] at length
      simp only [BUF_SIZE] at long
      omega

-- The rename is right when conf is there and is too short to be cut, or does not
-- have the old name.
theorem update_dts_renames_iff (oldn newn : Variant) (env : UbootEnv) :
    Renamed oldn newn env (updateDts oldn newn env) ↔
      ∃ dtb, env.conf = some dtb ∧ (dtb.chars.length < BUF_SIZE ∨ ¬ oldn.name.chars <:+: dtb.chars) := by
  obtain ⟨conf, saves⟩ := env
  cases conf with
  | none =>
      constructor
      · intro renamed
        cases renamed
      · intro given
        obtain ⟨dtb, present, _⟩ := given
        cases present
  | some dtb =>
      constructor
      · intro renamed
        refine ⟨dtb, rfl, ?_⟩
        by_contra neither
        rw [not_or, Nat.not_lt, not_not] at neither
        exact long_renamed oldn newn dtb saves neither.1 neither.2 renamed
      · intro given
        obtain ⟨_, ⟨rfl⟩, short | missing⟩ := given
        · exact short_renamed oldn newn dtb saves short
        · exact ⟨missing_kept oldn newn dtb saves, fun i first => absurd (first_at_inside _ _ i first) missing⟩

def dvk : Variant := ⟨⟨['d', 'v', 'k'], by decide⟩, rfl⟩

def wbx : Variant := ⟨⟨['w', 'b', 'x'], by decide⟩, rfl⟩

def dvkConf : CString := ⟨"conf-imx8mp-summitsom-dvk.dtb".toList, by decide⟩

example : updateDts dvk wbx ⟨some dvkConf, 0⟩ = .done ⟨some ⟨"conf-imx8mp-summitsom-wbx.dtb".toList, by decide⟩, 1⟩ := by
  decide

-- conf is in no environment that a user has cleared.
theorem cleared_conf_crashes :
    ¬ ∀ (oldn newn : Variant) (env : UbootEnv), Renamed oldn newn env (updateDts oldn newn env) := by
  intro renamed
  cases renamed dvk wbx ⟨none, 0⟩

end SummitSom.Boot
