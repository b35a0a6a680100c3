import SummitSom.Update.FwCommands

set_option autoImplicit false

namespace SummitSom.Update

open Interact Shell

def Executes (boot : Boot) (args : List String) (cmd : Cmd) : Prop :=
  Issues World.free (fwUpdate boot args) () cmd ()

theorem die_executes {A : Type} (o_method : String) (partly : startsWith "complete" o_method = true) :
    Issues World.free (die o_method : Script A) () .flashCleanup () := by
  apply issues_bind_first
  rw [cleanupIfComplete, if_pos partly]
  exact ⟨errexit, .here _ ()⟩

theorem notify_yields (state : String) : Yields () (notify state) :=
  ⟨false, rfl⟩

theorem check_url_yields (vars : Vars) (url : String) : ∃ source, Yields source (checkUrl vars url) := by
  unfold checkUrl
  split
  · exact ⟨_, true, rfl⟩
  · split
    · refine ⟨(url, some (.curl vars.o_quiet url)), yields_bind _ _ () _ ?_ (yields_bind _ _ _ _ ⟨true, rfl⟩ rfl)⟩
      unfold probeUrl
      split
      · exact ⟨true, 0, rfl⟩
      · rfl
    · exact ⟨_, true, rfl⟩

theorem factory_test_yields (vars : Vars) : Yields () (factoryTest vars) := by
  unfold factoryTest
  split
  · exact ⟨.status 0, rfl⟩
  · rfl

theorem prepare_flash_executes (vars : Vars) (cmd : Cmd) (partly : startsWith "complete" vars.o_method = true)
    (erases : Erases cmd) : Issues World.free (prepareFlash vars) () cmd () := by
  rw [prepareFlash, if_pos partly]
  cases cmd with
  | flashCleanup => exact ⟨_, .here _ ()⟩
  | flashFormat =>
      apply issues_call _ _ _ _ 0 () () () trivial
      apply issues_bind_rest _ (errexit 0) _ () () () () _ (yields_ends _ _ rfl)
      exact issues_bind_rest _ _ _ () () () () _ (yields_ends _ _ (factory_test_yields vars)) ⟨_, .here _ ()⟩
  | _ => exact erases.elim

-- The word complete itself is refused away from SD, other words with that
-- prefix are not.
theorem update_executes_partly (boot : Boot) (vars : Vars) (url : String) (cmd : Cmd) (notSd : runOnSd boot = false)
    (partly : startsWith "complete" vars.o_method = true) (other : vars.o_method ≠ "complete") (erases : Erases cmd) :
    Issues World.free (update boot vars url) () cmd () := by
  obtain ⟨source, checked⟩ := check_url_yields vars url
  have guarded : Yields (vars.o_method ++ "-" ++ vars.o_side) (methodGuard boot vars) := by
    rw [methodGuard, if_neg other, notSd]
    rfl
  apply issues_bind_rest _ _ _ _ () () () _ (yields_ends _ _ guarded)
  apply issues_bind_rest _ _ _ _ () () () _ (yields_ends _ _ (notify_yields "updating"))
  apply issues_bind_rest _ _ _ _ () () () _ (yields_ends _ _ checked)
  exact issues_bind_first _ _ _ () () cmd (prepare_flash_executes vars cmd partly erases)

theorem update_executes (boot : Boot) (vars : Vars) (url : String) (notSd : runOnSd boot = false)
    (partly : startsWith "complete" vars.o_method = true) :
    Issues World.free (update boot vars url) () .flashCleanup () := by
  by_cases whole : vars.o_method = "complete"
  · apply issues_bind_first
    rw [methodGuard, if_pos whole, notSd]
    exact die_executes vars.o_method partly
  · exact update_executes_partly boot vars url .flashCleanup notSd partly whole trivial

theorem fw_update_executes (boot : Boot) (args : List String) (vars : Vars) (url : String) (cmd : Cmd)
    (parsed : accepted boot args = some (vars, url)) (executed : Issues World.free (update boot vars url) () cmd ()) :
    Executes boot args cmd :=
  issues_bind_rest _ _ _ _ () () () _ (yields_ends _ _ ((prologue_yields boot args (vars, url)).mpr parsed)) executed

-- The flash helpers are reached on the wrong device exactly through methods
-- that merely begin with complete, and through die when complete is refused.
theorem flash_guard_iff (boot : Boot) (args : List String) :
    (∀ cmd, Executes boot args cmd → Erases cmd → rootDevType boot = some "SD") ↔
      rootDevType boot = some "SD" ∨
        ∀ vars url, accepted boot args = some (vars, url) → startsWith "complete" vars.o_method = false := by
  constructor
  · intro guarded
    by_contra unsafeRun
    push Not at unsafeRun
    obtain ⟨notSd, vars, url, parsed, partly⟩ := unsafeRun
    have reached : Executes boot args .flashCleanup :=
      fw_update_executes boot args vars url _ parsed
        (update_executes boot vars url (by simpa [runOnSd] using notSd) (by simpa using partly))
    exact notSd (guarded .flashCleanup reached trivial)
  · rintro (onSd | harmless) cmd executed erases
    · exact onSd
    · have only : Only (fun cmd => ¬ Erases cmd) (fwUpdate boot args) := by
        refine fw_update_only _ boot args (fun cmd spares _ => spares) ?_ fun _ _ _ _ _ _ _ => id
        intro vars url parsed partly
        exact absurd partly (by simp [harmless vars url parsed])
      exact absurd erases (only_issues World.free _ _ () () cmd only executed)

theorem complete_prefix_formats_nand :
    ¬ ∀ boot args cmd, Executes boot args cmd → Erases cmd → rootDevType boot = some "SD" := by
  intro guarded
  have executed : Executes ⟨"ubi0_1", "", "a"⟩ ["-m", "complete-x", "/tmp/som.swu"] .flashFormat :=
    fw_update_executes _ _ ⟨false, true, true, false, "b", "complete-x"⟩ "/tmp/som.swu" _ (by decide)
      (update_executes_partly _ _ _ _ (by decide) (by decide) (by decide) trivial)
  exact absurd (guarded _ _ _ executed trivial) (by decide)

end SummitSom.Update
