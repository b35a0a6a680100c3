import SummitSom.Interact.Program
import SummitSom.UbootEnv.Crc32
import Mathlib.Data.List.GetD
import Mathlib.Logic.Function.Basic
import Mathlib.Tactic.IntervalCases

set_option autoImplicit false

namespace SummitSom.UbootEnv

open Interact

abbrev Area := Nat → UInt8

-- Where the parts of a redundant environment are: the checksum, the flags, and
-- the data up to the end.
structure EnvFormat where
  offsetcrc : Nat
  offsetflags : Nat
  offsetdata : Nat
  size : Nat
  crc_apart : offsetflags < offsetcrc ∨ offsetcrc + 4 ≤ offsetflags
  data_apart : offsetflags < offsetdata

def EnvFormat.usable_envsize (fmt : EnvFormat) : Nat := fmt.size - fmt.offsetdata

def EnvFormat.data (fmt : EnvFormat) (area : Area) : List UInt8 :=
  (List.range fmt.usable_envsize).map fun k => area (fmt.offsetdata + k)

def EnvFormat.crc (fmt : EnvFormat) (area : Area) : BitVec 32 :=
  (area (fmt.offsetcrc + 3)).toBitVec ++ (area (fmt.offsetcrc + 2)).toBitVec ++ (area (fmt.offsetcrc + 1)).toBitVec ++
    (area fmt.offsetcrc).toBitVec

-- crcenv of libuboot_load for a copy that could be read.
def EnvFormat.crcenv (fmt : EnvFormat) (area : Area) : Bool := crc32 0 (fmt.data area) == fmt.crc area

inductive Flagstype where
  | FLAGS_BOOLEAN
  | other
deriving DecidableEq

structure UbootCtx where
  redundant : Bool
  current : Nat
  flagstype : Nat → Flagstype

inductive EnvCmd where
  | devwrite (copy : Nat) (image : Area)
  | setObsoleteFlag (copy : Nat)

abbrev EnvAct (A : Type) := Prog EnvCmd (fun _ => Int) Empty A

section Store

variable (fmt : EnvFormat)

def whole (ret : Int) : Int := if ret = fmt.size then 0 else ret

def UbootCtx.other (ctx : UbootCtx) : Nat := if ctx.redundant then (if ctx.current ≠ 0 then 0 else 1) else 0

def switchCopy (ctx : UbootCtx) : EnvAct (Int × UbootCtx) :=
  if ctx.flagstype ctx.current = .FLAGS_BOOLEAN then
    .call (.setObsoleteFlag ctx.current) fun ret => .done (ret, { ctx with current := ctx.other })
  else .done (0, { ctx with current := ctx.other })

def rewriteCurrent (ctx : UbootCtx) (image : Area) : EnvAct (Int × UbootCtx) :=
  .call (.devwrite ctx.current image) fun ret => .done (whole fmt ret, ctx)

-- The end of libuboot_env_store, from where the image is built.
def envStore (ctx : UbootCtx) (image : Area) : EnvAct (Int × UbootCtx) :=
  .call (.devwrite ctx.other image) fun ret =>
    if ctx.redundant then
      if whole fmt ret ≠ 0 then rewriteCurrent fmt ctx image else switchCopy ctx
    else .done (whole fmt ret, ctx)

-- The copies, the answers of the writes so far, and which copies a write has
-- left or is leaving unfinished.
structure Flash where
  copies : Nat → Area
  answers : List (Nat × Int)
  torn : List Nat

def Mixture (old new mixed : Area) : Prop := ∀ k, mixed k = old k ∨ mixed k = new k

def Flash.tear (s : Flash) (copy : Nat) (mixed : Area) : Flash :=
  { s with copies := Function.update s.copies copy mixed, torn := copy :: s.torn }

def Flash.answer (s : Flash) (copy : Nat) (ret : Int) : Flash := { s with answers := (copy, ret) :: s.answers }

def Flash.setFlags (s : Flash) (copy : Nat) (flags : UInt8) : Flash :=
  { s with copies := Function.update s.copies copy (Function.update (s.copies copy) fmt.offsetflags flags) }

-- A write that returns the full size has written everything, any other may have
-- stopped anywhere.
def flashWorld : World EnvCmd (fun _ => Int) Flash where
  midst s cmd t :=
    match cmd with
    | .devwrite copy image => ∃ mixed, Mixture (s.copies copy) image mixed ∧ t = s.tear copy mixed
    | .setObsoleteFlag copy => ∃ flags, t = s.setFlags fmt copy flags
  reply s cmd ret t :=
    match cmd with
    | .devwrite copy image =>
        if ret = fmt.size then t = { s with copies := Function.update s.copies copy image }.answer copy ret
        else ∃ mixed, Mixture (s.copies copy) image mixed ∧ t = (s.tear copy mixed).answer copy ret
    | .setObsoleteFlag copy => ∃ flags, t = s.setFlags fmt copy flags

def begun (copies : Nat → Area) : Flash := ⟨copies, [], []⟩

def SameEnv (old new : Area) : Prop := ∀ k, k ≠ fmt.offsetflags → new k = old k

theorem same_env_data (old new : Area) (same : SameEnv fmt old new) : fmt.data new = fmt.data old := by
  have apart := fmt.data_apart
  refine List.map_congr_left fun k _ => same (fmt.offsetdata + k) ?_
  omega

theorem same_env_crcenv (old new : Area) (same : SameEnv fmt old new) : fmt.crcenv new = fmt.crcenv old := by
  have apart := fmt.crc_apart
  have byte (k : Nat) (inside : k < 4) : new (fmt.offsetcrc + k) = old (fmt.offsetcrc + k) :=
    same (fmt.offsetcrc + k) (by omega)
  have first : new fmt.offsetcrc = old fmt.offsetcrc := byte 0 (by omega)
  have crc : fmt.crc new = fmt.crc old := by
    rw [EnvFormat.crc, EnvFormat.crc, byte 3 (by omega), byte 2 (by omega), byte 1 (by omega), first]
  rw [EnvFormat.crcenv, EnvFormat.crcenv, same_env_data fmt old new same, crc]

theorem whole_zero (ret : Int) : whole fmt ret = 0 ↔ ret = fmt.size ∨ ret = 0 := by
  unfold whole
  split
  · rename_i full
    exact ⟨fun _ => .inl full, fun _ => rfl⟩
  · rename_i partly
    exact ⟨.inr, fun either => either.resolve_left partly⟩

theorem other_apart (ctx : UbootCtx) (redundant : ctx.redundant = true) : ctx.other ≠ ctx.current := by
  rw [UbootCtx.other, if_pos redundant]
  split
  · rename_i current
    exact Ne.symm current
  · rename_i current
    omega

section Keeping

variable (ctx : UbootCtx) (image : Area) (copies : Nat → Area)

structure Kept (t : Flash) : Prop where
  failed : ctx.current ∈ t.torn → ∃ ret, (ctx.other, ret) ∈ t.answers ∧ whole fmt ret ≠ 0
  untorn : ∀ copy, copy ∉ t.torn → SameEnv fmt (copies copy) (t.copies copy) ∨ t.copies copy = image
  mixed : ∀ copy k, k ≠ fmt.offsetflags → t.copies copy k = copies copy k ∨ t.copies copy k = image k

theorem begun_kept : Kept fmt ctx image copies (begun copies) :=
  ⟨fun torn => absurd torn List.not_mem_nil, fun _ _ => .inl fun _ _ => rfl, fun _ _ _ => .inl rfl⟩

theorem written_mixed (s : Flash) (copy : Nat) (mixed : Area) (old : SameEnv fmt (copies copy) (s.copies copy))
    (kept : Kept fmt ctx image copies s) (mixture : Mixture (s.copies copy) image mixed) (other k : Nat)
    (apart : k ≠ fmt.offsetflags) :
    Function.update s.copies copy mixed other k = copies other k ∨ Function.update s.copies copy mixed other k = image k := by
  by_cases same : other = copy
  · subst same
    rw [Function.update_self]
    exact (mixture k).imp (fun stays => stays.trans (old k apart)) id
  · rw [Function.update_of_ne same]
    exact kept.mixed other k apart

theorem torn_kept (s : Flash) (copy : Nat) (mixed : Area) (old : SameEnv fmt (copies copy) (s.copies copy))
    (kept : Kept fmt ctx image copies s) (mixture : Mixture (s.copies copy) image mixed)
    (failed : copy = ctx.current → ∃ ret, (ctx.other, ret) ∈ s.answers ∧ whole fmt ret ≠ 0) :
    Kept fmt ctx image copies (s.tear copy mixed) := by
  refine ⟨fun torn => ?_, fun other whole => ?_, written_mixed fmt ctx image copies s copy mixed old kept mixture⟩
  · cases List.mem_cons.mp torn with
    | inl current => exact failed current.symm
    | inr before => exact kept.failed before
  · simp only [Flash.tear, List.mem_cons, not_or] at whole
    simp only [Flash.tear, Function.update_of_ne whole.1]
    exact kept.untorn other whole.2

theorem flags_kept (s : Flash) (copy : Nat) (flags : UInt8) (old : SameEnv fmt (copies copy) (s.copies copy))
    (kept : Kept fmt ctx image copies s) : Kept fmt ctx image copies (s.setFlags fmt copy flags) := by
  have changed : SameEnv fmt (copies copy) (Function.update (s.copies copy) fmt.offsetflags flags) := by
    intro k apart
    rw [Function.update_of_ne apart]
    exact old k apart
  have copy_same (other : Nat) (before : SameEnv fmt (copies other) (s.copies other)) :
      SameEnv fmt (copies other) ((s.setFlags fmt copy flags).copies other) := by
    by_cases same : other = copy
    · subst same
      simpa only [Flash.setFlags, Function.update_self] using changed
    · simpa only [Flash.setFlags, Function.update_of_ne same] using before
  refine ⟨kept.failed, fun other whole => ?_, fun other k apart => ?_⟩
  · by_cases same : other = copy
    · exact .inl (copy_same other (same ▸ old))
    · simpa only [Flash.setFlags, Function.update_of_ne same] using kept.untorn other whole
  · by_cases same : other = copy
    · exact .inl (copy_same other (same ▸ old) k apart)
    · simpa only [Flash.setFlags, Function.update_of_ne same] using kept.mixed other k apart

theorem written_kept (s : Flash) (copy : Nat) (old : SameEnv fmt (copies copy) (s.copies copy))
    (kept : Kept fmt ctx image copies s) :
    Kept fmt ctx image copies { s with copies := Function.update s.copies copy image } := by
  refine ⟨kept.failed, fun other whole => ?_, written_mixed fmt ctx image copies s copy image old kept fun k => .inr rfl⟩
  by_cases same : other = copy
  · subst same
    exact .inr (Function.update_self other image s.copies)
  · simp only [Function.update_of_ne same]
    exact kept.untorn other whole

theorem answer_kept (s : Flash) (copy : Nat) (ret : Int) (kept : Kept fmt ctx image copies s) :
    Kept fmt ctx image copies (s.answer copy ret) := by
  refine ⟨fun torn => ?_, kept.untorn, kept.mixed⟩
  obtain ⟨before, member, short⟩ := kept.failed torn
  exact ⟨before, List.mem_cons_of_mem _ member, short⟩

theorem devwrite_kept (s t : Flash) (copy : Nat) (ret : Int) (old : SameEnv fmt (copies copy) (s.copies copy))
    (kept : Kept fmt ctx image copies s)
    (failed : copy = ctx.current → ∃ ret, (ctx.other, ret) ∈ s.answers ∧ whole fmt ret ≠ 0)
    (reply : (flashWorld fmt).reply s (.devwrite copy image) ret t) :
    Kept fmt ctx image copies t ∧ t.answers = (copy, ret) :: s.answers ∧ (ret = fmt.size → t.copies copy = image) ∧
      ∀ other, other ≠ copy → t.copies other = s.copies other := by
  by_cases full : ret = fmt.size
  · simp only [flashWorld, if_pos full] at reply
    subst reply
    refine ⟨answer_kept fmt ctx image copies _ copy ret (written_kept fmt ctx image copies s copy old kept), rfl, ?_, ?_⟩
    · intro _
      simp only [Flash.answer, Function.update_self]
    · intro other apart
      simp only [Flash.answer, Function.update_of_ne apart]
  · simp only [flashWorld, if_neg full] at reply
    obtain ⟨mixed, mixture, rfl⟩ := reply
    have torn := torn_kept fmt ctx image copies s copy mixed old kept mixture failed
    refine ⟨answer_kept fmt ctx image copies _ copy ret torn, rfl, fun whole => absurd whole full, ?_⟩
    intro other apart
    simp only [Flash.answer, Flash.tear, Function.update_of_ne apart]

-- A store that returns 0, no write of it having returned 0, has put the image
-- where ctx->current points.
def Stored (result : Except Empty (Int × UbootCtx)) (t : Flash) : Prop :=
  ∀ after, result = .ok (0, after) → (∀ copy ret, (copy, ret) ∈ t.answers → ret ≠ 0) → t.copies after.current = image

theorem rewrite_current_safe (s : Flash) (old : SameEnv fmt (copies ctx.current) (s.copies ctx.current))
    (kept : Kept fmt ctx image copies s) (failed : ∃ ret, (ctx.other, ret) ∈ s.answers ∧ whole fmt ret ≠ 0) :
    Safe (flashWorld fmt) (Kept fmt ctx image copies) (Stored image) (rewriteCurrent fmt ctx image) s := by
  refine ⟨kept, ?_, fun ret t reply => ?_⟩
  · intro t given
    obtain ⟨mixed, mixture, rfl⟩ := given
    exact torn_kept fmt ctx image copies s ctx.current mixed old kept mixture fun _ => failed
  · obtain ⟨after, answers, written, _⟩ :=
      devwrite_kept fmt ctx image copies s t ctx.current ret old kept (fun _ => failed) reply
    refine ⟨after, fun next same sizes => ?_⟩
    obtain ⟨zero, rfl⟩ : whole fmt ret = 0 ∧ ctx = next := Prod.mk.inj (Except.ok.inj same)
    cases (whole_zero fmt ret).mp zero with
    | inl full => exact written full
    | inr none => exact absurd none (sizes ctx.current ret (by rw [answers]; exact List.mem_cons_self))

theorem switch_copy_safe (s : Flash) (redundant : ctx.redundant = true)
    (old : SameEnv fmt (copies ctx.current) (s.copies ctx.current)) (kept : Kept fmt ctx image copies s)
    (written : (∀ copy ret, (copy, ret) ∈ s.answers → ret ≠ 0) → s.copies ctx.other = image) :
    Safe (flashWorld fmt) (Kept fmt ctx image copies) (Stored image) (switchCopy ctx) s := by
  unfold switchCopy
  split
  · refine ⟨kept, ?_, fun ret t reply => ?_⟩
    · intro t given
      obtain ⟨flags, rfl⟩ := given
      exact flags_kept fmt ctx image copies s ctx.current flags old kept
    · obtain ⟨flags, rfl⟩ := reply
      refine ⟨flags_kept fmt ctx image copies s ctx.current flags old kept, fun next same sizes => ?_⟩
      obtain ⟨_, rfl⟩ := Prod.mk.inj (Except.ok.inj same)
      have untouched := Function.update_of_ne (other_apart ctx redundant)
        (Function.update (s.copies ctx.current) fmt.offsetflags flags) s.copies
      exact untouched.trans (written sizes)
  · refine ⟨kept, fun next same sizes => ?_⟩
    obtain ⟨_, rfl⟩ := Prod.mk.inj (Except.ok.inj same)
    exact written sizes

theorem env_store_safe (redundant : ctx.redundant = true) :
    Safe (flashWorld fmt) (Kept fmt ctx image copies) (Stored image) (envStore fmt ctx image) (begun copies) := by
  have start := begun_kept fmt ctx image copies
  have apart := other_apart ctx redundant
  refine ⟨start, ?_, fun ret t reply => ?_⟩
  · intro t given
    obtain ⟨mixed, mixture, rfl⟩ := given
    exact torn_kept fmt ctx image copies _ ctx.other mixed (fun _ _ => rfl) start mixture fun same => absurd same apart
  · obtain ⟨kept, answers, written, others⟩ := devwrite_kept fmt ctx image copies _ t ctx.other ret (fun _ _ => rfl) start
      (fun same => absurd same apart) reply
    have member : (ctx.other, ret) ∈ t.answers := by
      rw [answers]
      exact List.mem_cons_self
    have old : SameEnv fmt (copies ctx.current) (t.copies ctx.current) := by
      intro k _
      rw [others ctx.current apart.symm]
      rfl
    simp only [if_pos redundant]
    by_cases short : whole fmt ret = 0
    · rw [if_neg (not_not.mpr short)]
      refine switch_copy_safe fmt ctx image copies t redundant old kept fun sizes => ?_
      exact written (((whole_zero fmt ret).mp short).resolve_right (sizes ctx.other ret member))
    · rw [if_pos short]
      exact rewrite_current_safe fmt ctx image copies t old kept ⟨ret, member, short⟩

structure Remains (t : Flash) : Prop where
  valid : ctx.current ∉ t.torn → fmt.crcenv (t.copies ctx.current) = true
  failed : ctx.current ∈ t.torn → ∃ ret, (ctx.other, ret) ∈ t.answers ∧ ret ≠ fmt.size ∧ ret ≠ 0
  untorn : ∀ copy, copy ∉ t.torn →
    fmt.data (t.copies copy) = fmt.data (copies copy) ∨ fmt.data (t.copies copy) = fmt.data image
  mixed : ∀ copy k, k ≠ fmt.offsetflags → t.copies copy k = copies copy k ∨ t.copies copy k = image k

-- The current copy is valid until its own rewriting, which starts only after a
-- write of the other one has failed, every copy that no write was torn from
-- holds its old or the new environment, and a store that returns 0 leaves the
-- new one where ctx->current points.
theorem env_store_keeps_current (redundant : ctx.redundant = true) (valid : fmt.crcenv (copies ctx.current) = true)
    (built : fmt.crcenv image = true) :
    (∀ t, Seen (flashWorld fmt) (envStore fmt ctx image) (begun copies) t → Remains fmt ctx image copies t) ∧
      ∀ after t, Ends (flashWorld fmt) (envStore fmt ctx image) (begun copies) (.ok (0, after)) t →
        (∀ copy ret, (copy, ret) ∈ t.answers → ret ≠ 0) →
        fmt.crcenv (t.copies after.current) = true ∧ fmt.data (t.copies after.current) = fmt.data image := by
  have safe := env_store_safe fmt ctx image copies redundant
  refine ⟨fun t seen => ?_, fun after t ended sizes => ?_⟩
  · have kept := safe_seen _ _ _ _ _ t safe seen
    refine ⟨fun whole => ?_, fun torn => ?_, fun copy whole => ?_, kept.mixed⟩
    · cases kept.untorn ctx.current whole with
      | inl same => exact (same_env_crcenv fmt _ _ same).trans valid
      | inr written =>
          rw [written]
          exact built
    · obtain ⟨ret, member, short⟩ := kept.failed torn
      have neither := mt (whole_zero fmt ret).mpr short
      exact ⟨ret, member, not_or.mp neither⟩
    · exact (kept.untorn copy whole).imp (same_env_data fmt _ _) fun equal => by rw [equal]
  · have stored := safe_ends _ _ _ _ _ t _ safe ended after rfl sizes
    rw [stored]
    exact ⟨built, rfl⟩

end Keeping

end Store

def smallFormat : EnvFormat := ⟨0, 4, 5, 7, by decide, by decide⟩

def areaOf (bytes : List UInt8) : Area := fun k => bytes.getD k 0

def oldArea : Area := areaOf [0xbb, 0x6c, 0xbb, 0xa8, 1, 0x41, 0]

def newImage : Area := areaOf [0x78, 0x3f, 0x96, 0x83, 1, 0x42, 0]

def tornArea : Area := areaOf [0x78, 0x3f, 0x96, 0x83, 1, 0x41, 0]

theorem torn_mixture : Mixture oldArea newImage tornArea := by
  intro k
  by_cases front : k < 5
  · refine .inr ?_
    interval_cases k <;> rfl
  · refine .inl ?_
    have low := not_lt.mp front
    by_cases inside : k < 7
    · interval_cases k <;> rfl
    · rw [tornArea, oldArea, areaOf, areaOf, List.getD_eq_default _ _ (not_lt.mp inside),
        List.getD_eq_default _ _ (not_lt.mp inside)]

def smallCtx : UbootCtx := ⟨true, 0, fun _ => .FLAGS_BOOLEAN⟩

-- The write of the other copy stops short, and power is lost while the current
-- one is written over.
def stopped : Flash := ((begun fun _ => oldArea).tear 1 tornArea).answer 1 4

def cutShort : Flash := stopped.tear 0 tornArea

theorem cut_short_seen : Seen (flashWorld smallFormat) (envStore smallFormat smallCtx newImage) (begun fun _ => oldArea) cutShort := by
  have short : (flashWorld smallFormat).reply (begun fun _ => oldArea) (.devwrite 1 newImage) 4 stopped := by
    have unequal : ¬ (4 : Int) = (smallFormat.size : Nat) := by decide
    simp only [flashWorld, if_neg unequal]
    exact ⟨tornArea, torn_mixture, rfl⟩
  exact ⟨_, _, .next _ _ _ _ _ 4 _ short (.here _ _), .inr ⟨.devwrite 0 newImage, _, rfl, tornArea, torn_mixture, rfl⟩⟩

-- A store that goes through.
def written : Flash :=
  ({ begun (fun _ => oldArea) with copies := Function.update (fun _ => oldArea) 1 newImage }).answer 1 7

def switched : Flash := written.setFlags smallFormat 0 0

theorem switched_ends : Ends (flashWorld smallFormat) (envStore smallFormat smallCtx newImage) (begun fun _ => oldArea)
    (.ok (0, { smallCtx with current := 1 })) switched := by
  have full : (flashWorld smallFormat).reply (begun fun _ => oldArea) (.devwrite 1 newImage) 7 written := by
    have equal : (7 : Int) = (smallFormat.size : Nat) := by decide
    simp only [flashWorld, if_pos equal]
    rfl
  apply ends_call (flashWorld smallFormat) (.devwrite 1 newImage) _ 7 _ written _ _ full
  exact ends_call (flashWorld smallFormat) (.setObsoleteFlag 0) _ 0 written switched _ _ ⟨0, rfl⟩ (.here _ _)

theorem env_store_keeps_current_small :
    Remains smallFormat smallCtx newImage (fun _ => oldArea) cutShort ∧
      smallFormat.crcenv (switched.copies 1) = true ∧ smallFormat.data (switched.copies 1) = smallFormat.data newImage := by
  have keeps := env_store_keeps_current smallFormat smallCtx newImage (fun _ => oldArea) rfl (by decide +kernel)
    (by decide +kernel)
  have sizes (copy : Nat) (ret : Int) (member : (copy, ret) ∈ switched.answers) : ret ≠ 0 := by
    have only : (copy, ret) ∈ [(1, (7 : Int))] := member
    obtain ⟨_, rfl⟩ := Prod.mk.inj (List.mem_singleton.mp only)
    decide
  exact ⟨keeps.1 cutShort cut_short_seen, keeps.2 { smallCtx with current := 1 } switched switched_ends sizes⟩

theorem torn_rewrite_loses_both :
    ¬ ∀ (fmt : EnvFormat) (ctx : UbootCtx) (image : Area) (copies : Nat → Area) (t : Flash), ctx.redundant = true →
      ctx.current < 2 → fmt.crcenv (copies ctx.current) = true → fmt.crcenv image = true →
      Seen (flashWorld fmt) (envStore fmt ctx image) (begun copies) t →
      (∃ copy < 2, fmt.crcenv (t.copies copy) = true) ∧ ∀ copy < 2, fmt.crcenv (t.copies copy) = true →
        fmt.data (t.copies copy) = fmt.data (copies ctx.current) ∨ fmt.data (t.copies copy) = fmt.data image := by
  intro keeps
  obtain ⟨⟨copy, below, valid⟩, _⟩ := keeps smallFormat smallCtx newImage _ _ rfl (by decide) (by decide +kernel)
    (by decide +kernel) cut_short_seen
  interval_cases copy
  · exact absurd valid (by decide +kernel)
  · exact absurd valid (by decide +kernel)

end SummitSom.UbootEnv
