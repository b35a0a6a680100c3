import SummitSom.UsbGadget.Script

set_option autoImplicit false

namespace SummitSom.UsbGadget

open Interact

structure Sound (gadget : Gadget) : Prop where
  known : ∀ func ∈ gadget.functions, func.known = true
  links : ∀ config, gadget.config = some config → ∀ func ∈ config.links, func ∈ gadget.functions
  osDesc : gadget.osDesc = true → gadget.config.isSome = true

def Keeps (s : Option Gadget) : Prop := ∀ gadget, s = some gadget → Sound gadget

theorem known_globbed (func : Func) (known : func.known = true) : globbed func.name = true := by
  obtain ⟨named, undotted⟩ := decide_eq_true_iff.mp known
  rw [globbed, decide_eq_true_iff]
  constructor
  · intro dotted
    apply undotted
    rw [Func.name, String.toList_append, String.toList_append] at dotted
    cases letters : func.kind.toList with
    | nil => exact absurd (String.toList_inj.mp letters) named
    | cons letter rest =>
        rw [letters] at dotted
        exact dotted
  · rw [Func.name, String.toList_append, String.toList_append]
    exact List.infix_append _ _ _

theorem unlinked_sound (gadget : Gadget) (gone : Func → Bool) (sound : Sound gadget) : Sound (gadget.unlinked gone) := by
  refine ⟨sound.known, ?_, ?_⟩
  · intro config found func member
    obtain ⟨old, there, rfl⟩ := Option.map_eq_some_iff.mp found
    exact sound.links old there func (List.mem_filter.mp member).1
  · intro linked
    rw [Gadget.unlinked, Option.isSome_map]
    exact sound.osDesc linked

theorem emptied_sound (gadget : Gadget) (gone : Func → Bool) (sound : Sound gadget) : Sound (gadget.emptied gone) := by
  refine ⟨fun func member => sound.known func (List.mem_filter.mp member).1, ?_, sound.osDesc⟩
  intro config found func member
  have there : gadget.config = some config := found
  have linked : gadget.linked func = true := by
    rw [Gadget.linked, there, Option.map_some, Option.getD_some, List.contains_iff_mem]
    exact member
  exact List.mem_filter.mpr ⟨sound.links config there func member, by rw [linked]; simp⟩

theorem effect_sound (cmd : Cmd) (gadget after : Gadget) (sound : Sound gadget) (acted : effect cmd gadget = some (some after)) :
    Sound after := by
  cases cmd with
  | mkdirGadget | cdGadget | write path value =>
      cases acted
      exact sound
  | mkdirStrings | rmdirStrings | unbindUdc =>
      cases acted
      exact ⟨sound.known, sound.links, sound.osDesc⟩
  | mkdirConfig =>
      cases acted
      refine ⟨sound.known, ?_, fun _ => rfl⟩
      intro config found func member
      cases found
      cases old : gadget.config with
      | none => simp [old] at member
      | some config => exact sound.links config old func (by simpa [old] using member)
  | mkdirFunction func =>
      rw [effect] at acted
      split at acted
      · cases acted
        exact sound
      · split at acted
        · rename_i known
          cases acted
          refine ⟨?_, ?_, sound.osDesc⟩
          · intro other member
            rcases List.mem_append.mp member with old | own
            · exact sound.known other old
            · rw [List.mem_singleton.mp own]
              exact known
          · exact fun config found other member => List.mem_append_left _ (sound.links config found other member)
        · cases acted
  | linkFunction func =>
      rw [effect] at acted
      cases there : gadget.config with
      | none =>
          rw [there] at acted
          cases acted
      | some config =>
          rw [there] at acted
          dsimp only at acted
          split at acted
          · rename_i fit
            cases acted
            refine ⟨sound.known, ?_, fun _ => rfl⟩
            intro config found other member
            cases found
            rcases List.mem_append.mp member with old | own
            · exact sound.links config there other old
            · rw [List.mem_singleton.mp own]
              exact fit.1
          · cases acted
  | linkOsDesc =>
      rw [effect] at acted
      split at acted
      · rename_i fit
        cases acted
        exact ⟨sound.known, sound.links, fun _ => fit.1⟩
      · cases acted
  | bindUdc name =>
      rw [effect] at acted
      cases there : gadget.config with
      | none =>
          rw [there] at acted
          cases acted
      | some config =>
          rw [there] at acted
          dsimp only at acted
          split at acted
          · cases acted
            exact ⟨sound.known, fun other found => sound.links other (there.trans found), fun _ => rfl⟩
          · cases acted
  | rmOsDesc =>
      cases acted
      exact ⟨sound.known, sound.links, Bool.noConfusion⟩
  | rmFunctionLinks =>
      cases acted
      exact unlinked_sound gadget _ sound
  | rmdirConfigStrings =>
      cases acted
      refine ⟨sound.known, ?_, fun linked => by rw [Option.isSome_map]; exact sound.osDesc linked⟩
      intro config found func member
      obtain ⟨old, there, rfl⟩ := Option.map_eq_some_iff.mp found
      exact sound.links old there func member
  | rmdirConfig =>
      rw [effect] at acted
      split at acted
      · rename_i fit
        cases acted
        exact ⟨sound.known, nofun, fun linked => absurd (linked.symm.trans fit.1) Bool.noConfusion⟩
      · cases acted
  | rmdirFunctions =>
      cases acted
      exact emptied_sound gadget _ sound
  | rmdirGadget =>
      rw [effect] at acted
      split at acted <;> cases acted
  | sourceDefaults | readFile path | pathExists path | isDir path | firstUdc | modprobe module | mountConfigfs | gadgetExists
  | readUdc => cases acted

theorem result_keeps (cmd : Cmd) (s t : Option Gadget) (keeps : Keeps s) (acted : result cmd s = some t) : Keeps t := by
  intro after same
  subst same
  cases s with
  | none =>
      rw [result] at acted
      split at acted
      · cases acted
        exact ⟨nofun, nofun, Bool.noConfusion⟩
      · cases acted
  | some gadget => exact effect_sound cmd gadget after (keeps gadget rfl) acted

theorem reply_keeps (s : Option Gadget) (cmd : Cmd) (answer : Reply cmd) (t : Option Gadget) (keeps : Keeps s)
    (reply : gadgetReply s cmd answer t) : Keeps t := by
  have acts : (if cmd.removes then t = (result cmd s).getD s else t = s ∨ result cmd s = some t) → Keeps t := by
    intro acts
    split at acts
    · cases acted : result cmd s with
      | none =>
          rw [acts, acted]
          exact keeps
      | some u =>
          rw [acts, acted]
          exact result_keeps cmd s u keeps acted
    · rcases acts with rfl | acted
      · exact keeps
      · exact result_keeps cmd s t keeps acted
  cases cmd with
  | gadgetExists | readUdc | cdGadget => exact reply.2 ▸ keeps
  | _ => exact acts reply

theorem during_keeps (s : Option Gadget) (cmd : Cmd) (t : Option Gadget) (keeps : Keeps s) (midst : during s cmd t) :
    Keeps t := by
  rcases midst with rfl | acted | ⟨gadget, rfl, inside⟩
  · exact keeps
  · exact result_keeps cmd s t keeps acted
  · have sound := keeps gadget rfl
    intro after same
    cases cmd with
    | mkdirConfig =>
        obtain ⟨none, rfl⟩ := inside
        cases same
        refine ⟨sound.known, ?_, fun _ => rfl⟩
        intro config found
        cases found
        exact nofun
    | rmFunctionLinks =>
        obtain ⟨gone, rfl⟩ := inside
        cases same
        exact unlinked_sound gadget gone sound
    | rmdirFunctions =>
        obtain ⟨gone, rfl⟩ := inside
        cases same
        exact emptied_sound gadget gone sound
    | _ => exact False.elim inside

-- A script is started again and again, is killed, or the system reboots.
abbrev Lives (s : Option Gadget) : Prop :=
  Life gadgetWorld (fun _ program => ∃ command UDC_NAME, program = usbGadget command UDC_NAME) (fun s t => t = s ∨ t = none)
    none s

theorem lives_keep (s : Option Gadget) (life : Lives s) : Keeps s := by
  refine life_rests gadgetWorld _ _ none Keeps Keeps nofun (fun _ => id) ?_ ?_ s life
  · intro s program keeps _
    exact only_safe gadgetWorld (fun _ => True) Keeps program s (only_all _ program fun _ => trivial) keeps
      (fun s cmd t _ => during_keeps s cmd t) fun s cmd answer t _ keeps => reply_keeps s cmd answer t keeps
  · rintro s t keeps (rfl | rfl)
    · exact keeps
    · exact nofun

-- A refused command leaves things as they are.
def perform (s : Option Gadget) (cmd : Cmd) : Option Gadget := (result cmd s).getD s

def teardown : List Cmd :=
  [.rmOsDesc, .rmFunctionLinks, .rmdirConfigStrings, .rmdirConfig, .rmdirFunctions, .rmdirStrings, .rmdirGadget]

theorem all_unlinked (gadget : Gadget) (sound : Sound gadget) (config : Config)
    (found : (gadget.unlinked fun _ => true).config = some config) : config.links = [] := by
  obtain ⟨old, there, rfl⟩ := Option.map_eq_some_iff.mp found
  apply List.filter_eq_nil_iff.mpr
  intro func member
  rw [known_globbed func (sound.known func (sound.links old there func member))]
  exact Bool.noConfusion

theorem all_emptied (gadget : Gadget) (known : ∀ func ∈ gadget.functions, func.known = true) (unused : gadget.config = none) :
    (gadget.emptied fun _ => true).functions = [] := by
  apply List.filter_eq_nil_iff.mpr
  intro func member
  rw [known_globbed func (known func member), Gadget.linked, unused]
  exact Bool.noConfusion

theorem teardown_clears (gadget : Gadget) (sound : Sound gadget) : teardown.foldl perform (some gadget) = none := by
  let unlinked := ({ gadget with osDesc := false } : Gadget).unlinked fun _ => true
  have clear : Sound { gadget with osDesc := false } := ⟨sound.known, sound.links, Bool.noConfusion⟩
  -- The configuration goes once its links and its strings have gone.
  have configless : perform (perform (some unlinked) .rmdirConfigStrings) .rmdirConfig = some { unlinked with config := none } := by
    cases found : unlinked.config with
    | none =>
        rw [perform, perform, result, effect, Option.getD_some, found, Option.map_none, result, effect,
          if_neg (by simp)]
        rfl
    | some config =>
        have empty := all_unlinked _ clear config found
        rw [perform, perform, result, effect, Option.getD_some, found, Option.map_some, empty, result, effect, if_pos ⟨rfl, rfl⟩]
        rfl
  have functionless := all_emptied { unlinked with config := none } sound.known rfl
  have empty : perform (some { unlinked with config := none }) .rmdirFunctions =
      some { unlinked with config := none, functions := [] } := by
    rw [← functionless]
    rfl
  have folded : teardown.foldl perform (some gadget) = perform (perform (perform (perform (perform (some unlinked)
    .rmdirConfigStrings) .rmdirConfig) .rmdirFunctions) .rmdirStrings) .rmdirGadget := rfl
  rw [folded, configless, empty]
  rfl

theorem safe_removal (cmd : Cmd) (removes : cmd.removes = true) (rest : Script Unit) (s : Option Gadget)
    (post : Except Nat Unit → Option Gadget → Prop)
    (onward : Safe gadgetWorld (fun _ => True) post rest (perform s cmd)) :
    Safe gadgetWorld (fun _ => True) post (ignoring cmd rest) s := by
  refine ⟨trivial, fun _ _ => trivial, ?_⟩
  intro answer t reply
  have acts : t = perform s cmd := by
    cases cmd with
    | unbindUdc | rmOsDesc | rmFunctionLinks | rmdirConfigStrings | rmdirConfig | rmdirFunctions | rmdirStrings
    | rmdirGadget => exact reply
    | _ => cases removes
  exact acts ▸ onward

def removals (cmds : List Cmd) : Script Unit := cmds.foldr ignoring (.done ())

theorem safe_removals (cmds : List Cmd) (removes : ∀ cmd ∈ cmds, cmd.removes = true) (s t : Option Gadget)
    (cleared : cmds.foldl perform s = t) :
    Safe gadgetWorld (fun _ => True) (fun _ u => u = t) (removals cmds) s := by
  induction cmds generalizing s with
  | nil => exact ⟨trivial, cleared⟩
  | cons cmd rest ih =>
      exact safe_removal cmd (removes cmd List.mem_cons_self) _ s _
        (ih (fun other member => removes other (List.mem_cons_of_mem _ member)) _ cleared)

theorem destroy_clears (s : Option Gadget) (keeps : Keeps s) :
    Safe gadgetWorld (fun _ => True) (fun _ t => t = none) destroyGadgets s := by
  refine ⟨trivial, fun _ _ => trivial, ?_⟩
  rintro there t ⟨exists_, same⟩
  subst same
  cases t with
  | none =>
      subst exists_
      exact ⟨trivial, rfl⟩
  | some gadget =>
      subst exists_
      refine ⟨trivial, fun _ _ => trivial, ?_⟩
      rintro udc u ⟨_, rfl⟩
      have sound := keeps gadget rfl
      have removing : ∀ cmd ∈ teardown, cmd.removes = true := by decide
      dsimp only
      split
      · exact safe_removals teardown removing _ none (teardown_clears gadget sound)
      · exact safe_removals (.unbindUdc :: teardown) (by decide) _ none
          (teardown_clears { gadget with udc := "" } ⟨sound.known, sound.links, sound.osDesc⟩)

end SummitSom.UsbGadget
