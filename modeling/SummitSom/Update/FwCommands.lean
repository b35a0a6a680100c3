import SummitSom.Update.FwUpdate

set_option autoImplicit false

namespace SummitSom.Update

open Interact Shell

def Erases : Cmd → Prop
  | .flashCleanup | .flashFormat => True
  | _ => False

def Installs : Cmd → Prop
  | .swupdateClient _ _ _ => True
  | _ => False

-- The variables and the url with which fw_update goes on after its options;
-- none when it has ended by then.
def accepted (boot : Boot) (args : List String) : Option (Vars × String) :=
  if args = [] ∨ boot.bootside = "" ∨ rootDevType boot = none ∨ rootDevType boot = some "" then none
  else parseOptions boot args

theorem prologue_yields (boot : Boot) (args : List String) (parsed : Vars × String) :
    Yields parsed (prologue boot args) ↔ accepted boot args = some parsed := by
  unfold prologue accepted
  by_cases empty : args = []
  · simp [empty, usage, Yields]
  · cases devType : rootDevType boot with
    | none => simp [empty, dieSourcing, notifyStatus, Yields]
    | some kind =>
        by_cases unset : boot.bootside = "" ∨ kind = ""
        · simp [empty, unset, Yields]
        · rw [not_or] at unset
          cases parseOptions boot args <;> simp [empty, unset, usage, Yields]

theorem errexit_only (allowed : Cmd → Prop) (status : Status) : Only allowed (errexit status) := by
  unfold errexit
  split <;> trivial

section Allowed

-- Commands other than the flash helpers and the installation may run anywhere;
-- the flash helpers only under a method that begins with complete.
variable (allowed : Cmd → Prop) (plain : ∀ cmd, ¬ Erases cmd → ¬ Installs cmd → allowed cmd)

include plain

theorem notify_status_only (state : String) : Only allowed (notifyStatus state) := by
  refine ⟨plain _ id id, fun executable => ?_⟩
  cases executable with
  | false => trivial
  | true => exact ⟨plain _ id id, fun _ => trivial⟩

theorem notify_only (state : String) : Only allowed (notify state) :=
  only_bind allowed _ _ (notify_status_only allowed plain state) (errexit_only allowed)

theorem prologue_only (boot : Boot) (args : List String) : Only allowed (prologue boot args) := by
  by_cases empty : args = []
  · rw [prologue, if_pos empty]
    trivial
  · rw [prologue, if_neg empty]
    cases rootDevType boot with
    | none => exact only_bind allowed _ _ (notify_status_only allowed plain "failed") fun _ => trivial
    | some kind =>
        by_cases unset : boot.bootside = "" ∨ kind = ""
        · simp [unset, Only]
        · simp only [if_neg unset]
          refine ⟨plain _ id id, fun _ => ?_⟩
          cases parseOptions boot args <;> trivial

theorem restart_only (boot : Boot) (vars : Vars) : Only allowed (restart boot vars) := by
  unfold restart
  split
  · exact ⟨plain _ id id, errexit_only allowed⟩
  · trivial

variable (vars : Vars) (flash : startsWith "complete" vars.o_method = true → ∀ cmd, Erases cmd → allowed cmd)

include flash

theorem die_only {A : Type} : Only allowed (die vars.o_method : Script A) := by
  refine only_bind allowed _ _ ?_ fun _ => only_bind allowed _ _ (notify_only allowed plain "failed") fun _ => trivial
  unfold cleanupIfComplete
  split
  · next complete => exact ⟨flash complete _ trivial, errexit_only allowed⟩
  · trivial

theorem settle_only (status : Status) :
    Only allowed (if status = 0 then .done () else die vars.o_method : Script Unit) := by
  split
  · trivial
  · exact die_only allowed plain vars flash

theorem method_guard_only (boot : Boot) : Only allowed (methodGuard boot vars) := by
  unfold methodGuard
  split <;> split <;> first | trivial | exact die_only allowed plain vars flash

theorem probe_url_only (url : String) : Only allowed (probeUrl vars url) := by
  unfold probeUrl
  split
  · refine ⟨plain _ id id, fun curl => ?_⟩
    cases curl with
    | true => exact ⟨plain _ id id, settle_only allowed plain vars flash⟩
    | false =>
        refine ⟨plain _ id id, fun wget => ?_⟩
        cases wget with
        | true => exact ⟨plain _ id id, settle_only allowed plain vars flash⟩
        | false => trivial
  · trivial

theorem download_cmd_only (url : String) : Only allowed (downloadCmd vars url) := by
  refine ⟨plain _ id id, fun curl => ?_⟩
  cases curl with
  | true => trivial
  | false =>
      refine ⟨plain _ id id, fun wget => ?_⟩
      cases wget with
      | true => trivial
      | false => exact die_only allowed plain vars flash

theorem require_readable_only (path : String) : Only allowed (requireReadable vars path) := by
  refine ⟨plain _ id id, fun readable => ?_⟩
  cases readable with
  | true => trivial
  | false => exact die_only allowed plain vars flash

theorem check_url_only (url : String) : Only allowed (checkUrl vars url) := by
  unfold checkUrl
  split
  · exact only_bind allowed _ _ (require_readable_only allowed plain vars flash _) fun _ => trivial
  · split
    · exact only_bind allowed _ _ (probe_url_only allowed plain vars flash url) fun _ =>
        only_bind allowed _ _ (download_cmd_only allowed plain vars flash url) fun _ => trivial
    · exact only_bind allowed _ _ (require_readable_only allowed plain vars flash url) fun _ => trivial

theorem factory_test_only : Only allowed (factoryTest vars) := by
  unfold factoryTest
  split
  · refine ⟨plain _ id id, fun verdict => ?_⟩
    cases verdict with
    | status status => exact errexit_only allowed status
    | died message => exact die_only allowed plain vars flash
  · trivial

theorem prepare_flash_only : Only allowed (prepareFlash vars) := by
  unfold prepareFlash
  split
  · next complete =>
      have erases (cmd : Cmd) (erase : Erases cmd) : allowed cmd := flash complete cmd erase
      exact ⟨erases _ trivial, fun status => only_bind allowed _ _ (errexit_only allowed status) fun _ =>
        only_bind allowed _ _ (factory_test_only allowed plain vars flash) fun _ =>
          ⟨erases _ trivial, errexit_only allowed⟩⟩
  · trivial

theorem finish_only : Only allowed (finish vars) := by
  unfold finish
  split
  · next complete => exact ⟨flash complete _ trivial, errexit_only allowed⟩
  · refine ⟨plain _ id id, fun executable => ?_⟩
    cases executable with
    | false => trivial
    | true => exact ⟨plain _ id id, settle_only allowed plain vars flash⟩

theorem update_only (boot : Boot) (url : String)
    (client : ∀ p_method, Yields p_method (methodGuard boot vars) →
      ∀ verbose package, allowed (.swupdateClient ("stable," ++ p_method) verbose package)) :
    Only allowed (update boot vars url) := by
  refine only_bind_yields allowed _ _ (method_guard_only allowed plain vars flash boot) fun p_method chosen => ?_
  refine only_bind allowed _ _ (notify_only allowed plain "updating") fun _ => ?_
  refine only_bind allowed _ _ (check_url_only allowed plain vars flash url) fun source => ?_
  refine only_bind allowed _ _ (prepare_flash_only allowed plain vars flash) fun _ => ?_
  refine only_bind allowed _ _ ⟨client p_method chosen _ _, settle_only allowed plain vars flash⟩ fun _ => ?_
  refine only_bind allowed _ _ (finish_only allowed plain vars flash) fun _ => ?_
  exact only_bind allowed _ _ (notify_only allowed plain "complete") fun _ => restart_only allowed plain boot vars

end Allowed

theorem fw_update_only (allowed : Cmd → Prop) (boot : Boot) (args : List String)
    (plain : ∀ cmd, ¬ Erases cmd → ¬ Installs cmd → allowed cmd)
    (flash : ∀ vars url, accepted boot args = some (vars, url) → startsWith "complete" vars.o_method = true →
      ∀ cmd, Erases cmd → allowed cmd)
    (client : ∀ vars url p_method, accepted boot args = some (vars, url) → Yields p_method (methodGuard boot vars) →
      ∀ verbose package, allowed (.swupdateClient ("stable," ++ p_method) verbose package)) :
    Only allowed (fwUpdate boot args) := by
  refine only_bind_yields allowed _ _ (prologue_only allowed plain boot args) fun parsed yields => ?_
  have options := (prologue_yields boot args parsed).mp yields
  exact update_only allowed plain parsed.1 (flash parsed.1 parsed.2 options) boot parsed.2
    fun p_method chosen => client parsed.1 parsed.2 p_method options chosen

end SummitSom.Update
