import SummitSom.Interact.Calls
import SummitSom.Update.FwCommands

set_option autoImplicit false

namespace SummitSom.Update

open Interact Shell

-- What an observer has seen of a run: the states handed to device_update.sh, the
-- status of swupdate-client, whether the data is migrated (also when there is no
-- script for it), and whether a flash helper has failed since updating.
structure Told where
  reports : List String
  client : Option Status
  migrated : Bool
  broken : Bool
deriving DecidableEq

def Told.helper (told : Told) (status : Status) : Told :=
  { told with broken := told.broken || (decide ("updating" ∈ told.reports) && status != 0) }

def Told.note (told : Told) : (cmd : Cmd) → Answer cmd → Told
  | .deviceUpdate state, _ => { told with reports := told.reports ++ [state] }
  | .swupdateClient _ _ _, status => { told with client := some status }
  | .migrateExecutable, executable => { told with migrated := !executable }
  | .migrateData, (status : Nat) => { told with migrated := status == 0 }
  | .flashCleanup, status => told.helper status
  | .flashFormat, status => told.helper status
  | .flashFactoryTest, .status status => told.helper status
  | _, _ => told

def HookWorks : (cmd : Cmd) → Answer cmd → Prop
  | .hookExecutable, executable => executable = true
  | .deviceUpdate _, status => status = 0
  | _, _ => True

def hookWorld : World Cmd Answer (Unit × Told) :=
  (World.free.answering fun _ => HookWorks).watched fun told cmd answer _ => told.note cmd answer

def blank : Told := ⟨[], none, false, false⟩

def exitStatus {A : Type} : Except Status A → Status
  | .ok _ => 0
  | .error status => status

def Succeeded (o_method : String) (told : Told) : Prop :=
  told.client = some 0 ∧ (startsWith "complete" o_method = false → told.migrated = true)

instance (o_method : String) (told : Told) : Decidable (Succeeded o_method told) :=
  inferInstanceAs (Decidable (_ ∧ _))

def report (o_method : String) (told : Told) : String := if Succeeded o_method told then "complete" else "failed"

-- After updating there is one more report, of the outcome, and failed comes with
-- a status other than zero.
structure ReportsOnce (o_method : String) (status : Status) (told : Told) : Prop where
  outcome : ∀ before after, told.reports = before ++ "updating" :: after → after = [report o_method told]
  failure : "failed" ∈ told.reports → status ≠ 0

section Leads

variable {A B : Type}

-- Whatever the commands answer, the program ends with a result and notes in post.
def Leads (post : Except Status A → Told → Prop) (program : Script A) (told : Told) : Prop :=
  Safe hookWorld (fun _ => True) (fun result s => post result s.2) program ((), told)

variable (post : Except Status A → Told → Prop)

theorem leads_done (value : A) (told : Told) (reached : post (.ok value) told) : Leads post (.done value) told :=
  ⟨trivial, reached⟩

theorem leads_stop (status : Status) (told : Told) (reached : post (.error status) told) :
    Leads post (.stop status) told :=
  ⟨trivial, reached⟩

theorem leads_call (cmd : Cmd) (rest : Answer cmd → Script A) (told : Told)
    (onward : ∀ answer, HookWorks cmd answer → Leads post (rest answer) (told.note cmd answer)) :
    Leads post (.call cmd rest) told := by
  refine ⟨trivial, fun _ _ => trivial, ?_⟩
  rintro answer ⟨_, after⟩ ⟨⟨works, _⟩, noted⟩
  obtain rfl : after = told.note cmd answer := noted
  exact onward answer works

-- A part of a sequence that goes on from the notes next, or ends the script.
def Passes (exits : Status → Told → Prop) (next : Told) (result : Except Status A) (told : Told) : Prop :=
  match result with
  | .ok _ => told = next
  | .error status => exits status told

theorem leads_bind (exits : Status → Told → Prop) (program : Script A) (rest : A → Script B)
    (last : Except Status B → Told → Prop) (told next : Told) (first : Leads (Passes exits next) program told)
    (ends : ∀ status told, exits status told → last (.error status) told) (onward : ∀ value, Leads last (rest value) next) :
    Leads last (program >>= rest) told := by
  refine safe_then hookWorld _ _ _ program rest ((), told) first ?_ ?_
  · rintro value ⟨_, after⟩ reached
    obtain rfl : after = next := reached
    exact onward value
  · intro status s exited
    exact ends status s.2 exited

end Leads

section Reports

variable (o_method : String)

def Exits (status : Status) (told : Told) : Prop := ReportsOnce o_method status told ↔ told.broken = false

theorem silent_exits (status : Status) (told : Told) (reports : told.reports = ["updating"]) (broken : told.broken = true) :
    Exits o_method status told := by
  constructor
  · intro once
    exact (List.cons_ne_nil _ [] (once.outcome [] [] reports).symm).elim
  · intro whole
    exact nomatch whole.symm.trans broken

theorem reported_exits (status : Status) (told : Told) (reports : told.reports = ["updating", report o_method told])
    (broken : told.broken = false) (failed : ¬Succeeded o_method told → status ≠ 0) : Exits o_method status told := by
  have last : report o_method told ≠ "updating" := by
    rw [report]
    split <;> decide
  refine ⟨fun _ => broken, fun _ => ⟨fun before after split => ?_, fun told => ?_⟩⟩
  · rw [reports] at split
    cases before with
    | nil => exact (List.cons.inj split).2.symm
    | cons first before =>
        cases before with
        | nil => exact absurd (List.cons.inj (List.cons.inj split).2).1 last
        | cons second before => simp at split
  · apply failed
    intro succeeded
    rw [reports, report, if_pos succeeded] at told
    exact absurd told (by decide)

def updating : Told := { blank with reports := ["updating"] }

def installed : Told := { updating with client := some 0 }

-- The notes of a run that goes on after updating.
structure Midway (told : Told) : Prop where
  reports : told.reports = ["updating"]
  whole : told.broken = false

theorem notify_leads (state : String) (told : Told) (exits : Status → Told → Prop) :
    Leads (Passes exits { told with reports := told.reports ++ [state] }) (notify state) told := by
  apply leads_call
  intro executable works
  obtain rfl : executable = true := works
  apply leads_call
  intro status works
  obtain rfl : status = 0 := works
  exact leads_done _ () _ rfl

theorem helper_fails (told : Told) (status : Status) (midway : Midway told) (fails : status ≠ 0) :
    (told.helper status).reports = ["updating"] ∧ (told.helper status).broken = true := by
  refine ⟨midway.reports, ?_⟩
  simp [Told.helper, midway.reports, fails]

theorem helper_works (told : Told) : told.helper 0 = told := by
  simp [Told.helper]

theorem errexit_through (told : Told) (status : Status) (fails : status ≠ 0 → Exits o_method status (told.helper status)) :
    Leads (Passes (Exits o_method) told) (errexit status) (told.helper status) := by
  by_cases works : status = 0
  · rw [works, helper_works]
    exact leads_done _ () _ rfl
  · rw [errexit, if_neg works]
    exact leads_stop _ status _ (fails works)

theorem helper_exits (told : Told) (status : Status) (midway : Midway told) (fails : status ≠ 0) :
    Exits o_method status (told.helper status) := by
  obtain ⟨reports, broken⟩ := helper_fails told status midway fails
  exact silent_exits o_method status _ reports broken

theorem errexit_leads (told : Told) (status : Status) (midway : Midway told) :
    Leads (Passes (Exits o_method) told) (errexit status) (told.helper status) :=
  errexit_through o_method told status (helper_exits o_method told status midway)

-- Through die a run ends in its cleanup or with the report.
theorem die_through {A : Type} (next told : Told)
    (cleanup : ∀ status, status ≠ 0 → Exits o_method status (told.helper status))
    (reported : Exits o_method 1 { told with reports := told.reports ++ ["failed"] }) :
    Leads (Passes (Exits o_method) next) (die o_method : Script A) told := by
  have cleaned : Leads (Passes (Exits o_method) told) (cleanupIfComplete o_method) told := by
    rw [cleanupIfComplete]
    split
    · apply leads_call
      intro status _
      exact errexit_through o_method told status (cleanup status)
    · exact leads_done _ () _ rfl
  apply leads_bind _ _ _ _ told told cleaned (fun _ _ => id)
  intro _
  apply leads_bind _ _ _ _ told _ (notify_leads "failed" told (Exits o_method)) (fun _ _ => id)
  intro _
  exact leads_stop _ 1 _ reported

theorem die_leads {A : Type} (next told : Told) (midway : Midway told) (failed : ¬Succeeded o_method told) :
    Leads (Passes (Exits o_method) next) (die o_method : Script A) told := by
  have same : report o_method { told with reports := told.reports ++ ["failed"] } = "failed" := if_neg failed
  apply die_through o_method next told fun status => helper_exits o_method told status midway
  apply reported_exits o_method 1
  · rw [same, midway.reports]
    rfl
  · exact midway.whole
  · exact fun _ => Nat.one_ne_zero

end Reports

theorem updating_midway : Midway updating := ⟨rfl, rfl⟩

theorem installed_midway : Midway installed := ⟨rfl, rfl⟩

section Parts

variable (boot : Boot) (vars : Vars) (url : String)

theorem updating_unfinished : ¬Succeeded vars.o_method updating := fun succeeded => nomatch succeeded.1

theorem settle_leads (next told : Told) (status : Status) (midway : Midway told)
    (failed : status ≠ 0 → ¬Succeeded vars.o_method told) (same : status = 0 → told = next) :
    Leads (Passes (Exits vars.o_method) next) (if status = 0 then .done () else die vars.o_method : Script Unit) told := by
  by_cases works : status = 0
  · rw [if_pos works]
    exact leads_done _ () told (same works)
  · rw [if_neg works]
    exact die_leads vars.o_method next told midway (failed works)

theorem require_readable_leads (path : String) :
    Leads (Passes (Exits vars.o_method) updating) (requireReadable vars path) updating := by
  apply leads_call
  intro readable _
  cases readable with
  | true => exact leads_done _ () _ rfl
  | false => exact die_leads vars.o_method updating updating updating_midway (updating_unfinished vars)

theorem probe_url_leads : Leads (Passes (Exits vars.o_method) updating) (probeUrl vars url) updating := by
  have probed (status : Status) := settle_leads vars updating updating status updating_midway
    (fun _ => updating_unfinished vars) fun _ => rfl
  rw [probeUrl]
  split
  · apply leads_call
    intro curl _
    cases curl with
    | true => exact leads_call _ _ _ updating fun status _ => probed status
    | false =>
        apply leads_call
        intro wget _
        cases wget with
        | true => exact leads_call _ _ _ updating fun status _ => probed status
        | false => exact leads_done _ () _ rfl
  · exact leads_done _ () _ rfl

theorem download_cmd_leads : Leads (Passes (Exits vars.o_method) updating) (downloadCmd vars url) updating := by
  apply leads_call
  intro curl _
  cases curl with
  | true => exact leads_done _ _ _ rfl
  | false =>
      apply leads_call
      intro wget _
      cases wget with
      | true => exact leads_done _ _ _ rfl
      | false => exact die_leads vars.o_method updating updating updating_midway (updating_unfinished vars)

theorem check_url_leads : Leads (Passes (Exits vars.o_method) updating) (checkUrl vars url) updating := by
  rw [checkUrl]
  split
  · exact leads_bind _ _ _ _ _ _ (require_readable_leads vars _) (fun _ _ => id) fun _ => leads_done _ _ _ rfl
  · split
    · apply leads_bind _ _ _ _ _ _ (probe_url_leads vars url) (fun _ _ => id)
      intro _
      exact leads_bind _ _ _ _ _ _ (download_cmd_leads vars url) (fun _ _ => id) fun _ => leads_done _ _ _ rfl
    · exact leads_bind _ _ _ _ _ _ (require_readable_leads vars url) (fun _ _ => id) fun _ => leads_done _ _ _ rfl

theorem factory_test_leads : Leads (Passes (Exits vars.o_method) updating) (factoryTest vars) updating := by
  rw [factoryTest]
  split
  · apply leads_call
    intro verdict _
    cases verdict with
    | status status => exact errexit_leads vars.o_method updating status updating_midway
    | died message => exact die_leads vars.o_method updating updating updating_midway (updating_unfinished vars)
  · exact leads_done _ () _ rfl

theorem prepare_flash_leads : Leads (Passes (Exits vars.o_method) updating) (prepareFlash vars) updating := by
  have helped (status : Status) := errexit_leads vars.o_method updating status updating_midway
  rw [prepareFlash]
  split
  · apply leads_call
    intro status _
    apply leads_bind _ _ _ _ _ _ (helped status) (fun _ _ => id)
    intro _
    apply leads_bind _ _ _ _ _ _ (factory_test_leads vars) (fun _ _ => id)
    intro _
    exact leads_call _ _ _ updating fun status _ => helped status
  · exact leads_done _ () _ rfl

theorem install_leads (p_method : String) (download : Option Download) :
    Leads (Passes (Exits vars.o_method) installed) (install vars p_method url download) updating := by
  apply leads_call
  intro status _
  apply settle_leads vars _ _ status ⟨rfl, rfl⟩
  · intro fails succeeded
    exact fails (Option.some.inj succeeded.1)
  · intro works
    rw [works]
    rfl

theorem finish_leads (last : Except Status Unit → Told → Prop) (rest : Script Unit)
    (onward : ∀ told, Midway told → Succeeded vars.o_method told → Leads last rest told)
    (ends : ∀ status told, Exits vars.o_method status told → last (.error status) told) :
    Leads last (finish vars >>= fun _ => rest) installed := by
  rw [finish]
  split
  · next complete =>
      have succeeded : Succeeded vars.o_method installed := by
        refine ⟨rfl, fun other => ?_⟩
        exact absurd (other.symm.trans complete) (by decide)
      have cleaned : Leads (Passes (Exits vars.o_method) installed) (.call .flashCleanup errexit) installed := by
        apply leads_call
        intro status _
        exact errexit_leads vars.o_method installed status installed_midway
      exact leads_bind _ _ _ _ installed installed cleaned ends fun _ => onward installed installed_midway succeeded
  · next other =>
      apply leads_call
      intro executable _
      cases executable with
      | false => exact onward _ ⟨rfl, rfl⟩ ⟨rfl, fun _ => rfl⟩
      | true =>
          apply leads_call
          intro status _
          apply leads_bind _ _ _ _ _ { installed with migrated := true } _ ends
          · intro _
            exact onward _ ⟨rfl, rfl⟩ ⟨rfl, fun _ => rfl⟩
          · apply settle_leads vars _ _ status ⟨rfl, rfl⟩
            · intro fails succeeded
              have migrated := succeeded.2 (Bool.eq_false_iff.mpr other)
              exact fails (beq_iff_eq.mp migrated)
            · intro works
              rw [works]
              rfl

theorem early_exits (status : Status) (told : Told) (early : "updating" ∉ told.reports) (whole : told.broken = false)
    (failure : "failed" ∈ told.reports → status ≠ 0) : Exits vars.o_method status told := by
  refine ⟨fun _ => whole, fun _ => ⟨fun before after split => ?_, failure⟩⟩
  rw [split] at early
  exact absurd (List.mem_append_right before (List.mem_cons_self)) early

theorem early_die_leads {A : Type} (next : Told) :
    Leads (Passes (Exits vars.o_method) next) (die vars.o_method : Script A) blank := by
  apply die_through
  · exact fun status _ => early_exits vars status _ List.not_mem_nil rfl fun failed => absurd failed List.not_mem_nil
  · exact early_exits vars 1 _ (by decide) rfl fun _ => Nat.one_ne_zero

theorem method_guard_leads : Leads (Passes (Exits vars.o_method) blank) (methodGuard boot vars) blank := by
  rw [methodGuard]
  split
  · split
    · exact leads_done _ _ _ rfl
    · exact early_die_leads vars blank
  · split
    · exact early_die_leads vars blank
    · exact leads_done _ _ _ rfl

theorem restart_leads (told : Told) (reports : told.reports = ["updating", report vars.o_method told])
    (whole : told.broken = false) (succeeded : Succeeded vars.o_method told) :
    Leads (fun result told => Exits vars.o_method (exitStatus result) told) (restart boot vars) told := by
  have exits (status : Status) :=
    reported_exits vars.o_method status told reports whole fun failed => absurd succeeded failed
  rw [restart]
  split
  · apply leads_call
    intro status _
    by_cases works : status = 0
    · rw [errexit, if_pos works]
      exact leads_done _ () _ (exits 0)
    · rw [errexit, if_neg works]
      exact leads_stop _ status _ (exits status)
  · exact leads_done _ () _ (exits 0)

theorem update_leads :
    Leads (fun result told => Exits vars.o_method (exitStatus result) told) (update boot vars url) blank := by
  apply leads_bind _ _ _ _ _ _ (method_guard_leads boot vars) (fun _ _ => id)
  intro p_method
  apply leads_bind _ _ _ _ _ updating (notify_leads "updating" blank (Exits vars.o_method)) (fun _ _ => id)
  intro _
  apply leads_bind _ _ _ _ _ _ (check_url_leads vars url) (fun _ _ => id)
  intro source
  apply leads_bind _ _ _ _ _ _ (prepare_flash_leads vars) (fun _ _ => id)
  intro _
  apply leads_bind _ _ _ _ _ _ (install_leads vars source.1 p_method source.2) (fun _ _ => id)
  intro _
  refine finish_leads vars _ _ (fun told midway succeeded => ?_) fun _ _ => id
  apply leads_bind _ _ _ _ _ _ (notify_leads "complete" told (Exits vars.o_method)) (fun _ _ => id)
  intro _
  have outcome : report vars.o_method { told with reports := told.reports ++ ["complete"] } = "complete" := if_pos succeeded
  refine restart_leads boot vars _ ?_ midway.whole succeeded
  rw [outcome, midway.reports]
  rfl

end Parts

theorem prologue_accepts (boot : Boot) (args : List String) (parsed : Vars × String)
    (taken : accepted boot args = some parsed) : prologue boot args = .call .grepUbi fun _ => .done parsed := by
  rw [accepted] at taken
  split at taken
  · cases taken
  · next usable =>
      push Not at usable
      obtain ⟨args_given, side, known, typed⟩ := usable
      obtain ⟨devType, found⟩ := Option.ne_none_iff_exists'.mp known
      rw [found] at typed
      have unset : ¬(boot.bootside = "" ∨ devType = "") := by
        rintro (empty | empty)
        · exact side empty
        · exact typed (congrArg some empty)
      rw [prologue, if_neg args_given, found, taken]
      exact if_neg unset

-- Every test says yes, and every command but flash_format succeeds.
def answered (format : Status) : (cmd : Cmd) → Answer cmd
  | .grepUbi | .hookExecutable | .readable _ | .curlExecutable | .wgetExecutable | .migrateExecutable => true
  | .flashFormat => format
  | .deviceUpdate _ | .curlProbe _ | .wgetProbe _ | .flashCleanup | .swupdateClient _ _ _ | .migrateData | .reboot =>
      (0 : Nat)
  | .flashFactoryTest => .status 0

def answerAll (format : Status) (s : Unit × Told) (cmd : Cmd) : Answer cmd × Unit × Told :=
  (answered format cmd, (), s.2.note cmd (answered format cmd))

theorem answer_all_obeys (format : Status) (s : Unit × Told) (cmd : Cmd) :
    hookWorld.reply s cmd (answerAll format s cmd).1 (answerAll format s cmd).2 := by
  refine ⟨⟨?_, trivial⟩, rfl⟩
  cases cmd <;> first | rfl | trivial

def sdBoot : Boot := ⟨"mmcblk0p2", "SD", "a"⟩

def sdVars : Vars := ⟨false, true, true, false, "b", "complete"⟩

theorem sd_taken : accepted sdBoot ["/tmp/som.swu"] = some (sdVars, "/tmp/som.swu") := by decide

end SummitSom.Update
