import SummitSom.UsbGadget.Lifecycle
import Mathlib.Data.List.Nodup

set_option autoImplicit false

namespace SummitSom.UsbGadget

open Interact

-- What the scripts find on a system where configfs is mounted and every command
-- works that configfs does not refuse.
structure Site where
  dflt : Defaults
  file : String → String
  present : String → Bool
  firstUdc : Option String

def tried (s : Option Gadget) (cmd : Cmd) : Int × Option Gadget := (if (result cmd s).isSome then 0 else 1, perform s cmd)

def promptly (site : Site) (s : Option Gadget) : (cmd : Cmd) → Reply cmd × Option Gadget
  | .sourceDefaults => (site.dflt, s)
  | .readFile path => (site.file path, s)
  | .pathExists path => (site.present path, s)
  | .isDir _ => (true, s)
  | .firstUdc => (site.firstUdc, s)
  | .gadgetExists => (s.isSome, s)
  | .readUdc => ((s.map Gadget.udc).getD "", s)
  | .cdGadget => (if s.isSome then 0 else 1, s)
  | .modprobe _ => (0, s)
  | .mountConfigfs => (0, s)
  | .mkdirGadget => tried s .mkdirGadget
  | .write path value => tried s (.write path value)
  | .mkdirStrings => tried s .mkdirStrings
  | .mkdirConfig => tried s .mkdirConfig
  | .mkdirFunction func => tried s (.mkdirFunction func)
  | .linkFunction func => tried s (.linkFunction func)
  | .linkOsDesc => tried s .linkOsDesc
  | .bindUdc name => tried s (.bindUdc name)
  | .unbindUdc => tried s .unbindUdc
  | .rmOsDesc => tried s .rmOsDesc
  | .rmFunctionLinks => tried s .rmFunctionLinks
  | .rmdirConfigStrings => tried s .rmdirConfigStrings
  | .rmdirConfig => tried s .rmdirConfig
  | .rmdirFunctions => tried s .rmdirFunctions
  | .rmdirStrings => tried s .rmdirStrings
  | .rmdirGadget => tried s .rmdirGadget

-- A gadget as the script builds it: every function is linked.
def built (functions : List Func) (osDesc : Bool) (udc : String) : Gadget :=
  ⟨functions, some ⟨true, functions⟩, true, osDesc, udc⟩

def added (functions : List Func) (func : Func) : List Func := if func ∈ functions then functions else functions ++ [func]

def ethers (dflt : Defaults) : List Func :=
  (List.range dflt.USB_GADGET_ETHER_PORTS.toNat).map fun port => ⟨dflt.USB_GADGET_ETHER, port⟩

def acms (dflt : Defaults) : List Func :=
  (List.range dflt.USB_GADGET_SERIAL_PORTS.toNat).map fun port => ⟨"acm", dflt.USB_GADGET_ETHER_PORTS.toNat + port⟩

-- The gadget that the defaults ask for.
def configured (dflt : Defaults) (udc_name : String) : Gadget := built (ethers dflt ++ acms dflt) true udc_name

theorem perform_taken (cmd : Cmd) (gadget : Gadget) (t : Option Gadget) (taken : effect cmd gadget = some t) :
    perform (some gadget) cmd = t := by
  rw [perform, result, taken, Option.getD_some]

theorem perform_refused (cmd : Cmd) (gadget : Gadget) (refused : effect cmd gadget = none) :
    perform (some gadget) cmd = some gadget := by
  rw [perform, result, refused, Option.getD_none]

section Evaluation

variable (site : Site)

theorem eval_ignoring (cmd : Cmd) (rest : Script Unit) (s : Option Gadget) :
    eval (promptly site) (ignoring cmd rest) s = eval (promptly site) rest (promptly site s cmd).2 := rfl

theorem eval_write_all (writes : List (String × String)) (rest : Script Unit) (gadget : Gadget) :
    eval (promptly site) (writeAll writes rest) (some gadget) = eval (promptly site) rest (some gadget) := by
  induction writes with
  | nil => rfl
  | cons write writes ih => exact ih

theorem eval_serial (rest : Script Unit) (gadget : Gadget) :
    eval (promptly site) (writeSerial rest) (some gadget) = eval (promptly site) rest (some gadget) := by
  have chosen : ∀ (test : Bool) (first second : Script Unit),
      eval (promptly site) first (some gadget) = eval (promptly site) rest (some gadget) →
      eval (promptly site) second (some gadget) = eval (promptly site) rest (some gadget) →
      eval (promptly site) (if test then first else second) (some gadget) = eval (promptly site) rest (some gadget) := by
    intro test first second yes no
    cases test with
    | true => exact yes
    | false => exact no
  exact chosen _ _ _ rfl (chosen _ _ _ rfl (chosen _ _ _ rfl rfl))

variable (functions : List Func) (osDesc : Bool) (udc : String)

theorem eval_add (func : Func) (known : func.known = true) (writes : List (String × String)) (rest : Script Unit) :
    eval (promptly site) (ignoring (.mkdirFunction func) (writeAll writes (ignoring (.linkFunction func) rest)))
        (some (built functions osDesc udc)) =
      eval (promptly site) rest (some (built (added functions func) osDesc udc)) := by
  have made : perform (some (built functions osDesc udc)) (.mkdirFunction func) =
      some { built functions osDesc udc with functions := added functions func } := by
    rw [added]
    split
    · rename_i there
      exact perform_taken _ _ _ (if_pos there)
    · rename_i absent
      exact perform_taken _ _ _ ((if_neg absent).trans (if_pos known))
  have linked : perform (some { built functions osDesc udc with functions := added functions func }) (.linkFunction func) =
      some (built (added functions func) osDesc udc) := by
    have inside : func ∈ added functions func := by
      rw [added]
      split
      · assumption
      · exact List.mem_append_right _ List.mem_cons_self
    by_cases there : func ∈ functions
    · have same : added functions func = functions := if_pos there
      rw [same]
      exact perform_refused _ _ (if_neg fun both => both.2 there)
    · have appended : added functions func = functions ++ [func] := if_neg there
      rw [appended] at inside ⊢
      exact perform_taken _ _ _ (if_pos ⟨inside, there⟩)
  rw [eval_ignoring, promptly, tried, made, eval_write_all, eval_ignoring, promptly, tried, linked]

theorem eval_ethers (dflt : Defaults) (known : ∀ number, Func.known ⟨dflt.USB_GADGET_ETHER, number⟩ = true)
    (ports counter : Nat) (rest : Script Unit) :
    eval (promptly site) (createEthers dflt ports counter rest) (some (built functions osDesc udc)) =
      eval (promptly site) rest (some (built
        (((List.range ports).map fun port => (⟨dflt.USB_GADGET_ETHER, counter + port⟩ : Func)).foldl added functions) osDesc
          udc)) := by
  induction ports generalizing counter functions with
  | zero => rfl
  | succ ports ih =>
      have next : ∀ port, counter + 1 + port = counter + (port + 1) := by omega
      rw [createEthers, createEther, eval_add site functions osDesc udc _ (known counter), ih, List.range_succ_eq_map,
        List.map_cons, List.foldl_cons, List.map_map, Nat.add_zero]
      simp only [next]
      rfl

theorem acm_known (number : Nat) : Func.known ⟨"acm", number⟩ = true := by
  have named : "acm" ≠ "" ∧ "acm".toList.head? ≠ some '.' := by decide
  exact decide_eq_true named

theorem eval_acms (ports counter : Nat) (rest : Script Unit) :
    eval (promptly site) (createAcms ports counter rest) (some (built functions osDesc udc)) =
      eval (promptly site) rest (some (built
        (((List.range ports).map fun port => (⟨"acm", counter + port⟩ : Func)).foldl added functions) osDesc udc)) := by
  induction ports generalizing counter functions with
  | zero => rfl
  | succ ports ih =>
      have next : ∀ port, counter + 1 + port = counter + (port + 1) := by omega
      have first := eval_add site functions osDesc udc ⟨"acm", counter⟩ (acm_known counter) []
        (createAcms ports (counter + 1) rest)
      rw [createAcms, createAcm]
      refine first.trans ?_
      rw [ih, List.range_succ_eq_map, List.map_cons, List.foldl_cons, List.map_map, Nat.add_zero]
      simp only [next]
      rfl

theorem added_fresh (more : List Func) (apart : (functions ++ more).Nodup) : more.foldl added functions = functions ++ more := by
  induction more generalizing functions with
  | nil => rw [List.foldl_nil, List.append_nil]
  | cons func more ih =>
      have absent : func ∉ functions := fun there =>
        (List.nodup_append.mp apart).2.2 func there func List.mem_cons_self rfl
      have appended : added functions func = functions ++ [func] := if_neg absent
      have split : functions ++ func :: more = functions ++ [func] ++ more := by rw [List.append_assoc]; rfl
      rw [split] at apart ⊢
      rw [List.foldl_cons, appended, ih _ apart]

theorem added_there (more : List Func) (there : ∀ func ∈ more, func ∈ functions) : more.foldl added functions = functions := by
  induction more with
  | nil => rfl
  | cons func more ih =>
      have kept : added functions func = functions := if_pos (there func List.mem_cons_self)
      rw [List.foldl_cons, kept]
      exact ih fun other member => there other (List.mem_cons_of_mem _ member)

end Evaluation

theorem configured_nodup (dflt : Defaults) : ((ethers dflt ++ acms dflt).map Func.number).Nodup := by
  have numbers : (ethers dflt ++ acms dflt).map Func.number =
      List.range (dflt.USB_GADGET_ETHER_PORTS.toNat + dflt.USB_GADGET_SERIAL_PORTS.toNat) := by
    rw [List.map_append, ethers, acms, List.map_map, List.map_map, List.range_add]
    exact congrArg (· ++ _) (List.map_id _)
  rw [numbers]
  exact List.nodup_range

section Start

variable (site : Site)

-- With no gadget there, or with one that is built, the loops begin with it.
theorem eval_create_gadget (udc_name : String) (functions : List Func) (osDesc : Bool) (udc : String) (s : Option Gadget)
    (begins : s = none ∧ functions = [] ∧ osDesc = false ∧ udc = "" ∨ s = some (built functions osDesc udc)) :
    eval (promptly site) (createGadget site.dflt udc_name) s =
      eval (promptly site) (addFunctions site.dflt udc_name) (some (built functions osDesc udc)) := by
  rcases begins with ⟨rfl, rfl, rfl, rfl⟩ | rfl
  · have described : eval (promptly site) (createGadget site.dflt udc_name) none = eval (promptly site)
        (writeSerial (describeGadget (addFunctions site.dflt udc_name))) (some ⟨[], none, true, false, ""⟩) := rfl
    rw [described, eval_serial]
    rfl
  · have described : eval (promptly site) (createGadget site.dflt udc_name) (some (built functions osDesc udc)) =
        eval (promptly site) (writeSerial (describeGadget (addFunctions site.dflt udc_name)))
          (some (built functions osDesc udc)) := rfl
    rw [described, eval_serial]
    rfl

theorem eval_add_functions (udc_name : String) (known : ∀ func ∈ ethers site.dflt, func.known = true)
    (functions : List Func) (osDesc : Bool) (udc : String) :
    eval (promptly site) (addFunctions site.dflt udc_name) (some (built functions osDesc udc)) =
      (.ok (), perform (perform (some (built ((ethers site.dflt ++ acms site.dflt).foldl added functions) osDesc udc))
        .linkOsDesc) (.bindUdc udc_name)) := by
  have ether : eval (promptly site) (addFunctions site.dflt udc_name) (some (built functions osDesc udc)) =
      eval (promptly site) (createAcms site.dflt.USB_GADGET_SERIAL_PORTS.toNat site.dflt.USB_GADGET_ETHER_PORTS.toNat <|
        ignoring .linkOsDesc <| ignoring (.bindUdc udc_name) <| .done ())
        (some (built ((ethers site.dflt).foldl added functions) osDesc udc)) := by
    rw [addFunctions, ethers]
    cases ports : site.dflt.USB_GADGET_ETHER_PORTS.toNat with
    | zero => rfl
    | succ more =>
        have kind : ∀ number, Func.known ⟨site.dflt.USB_GADGET_ETHER, number⟩ = true := by
          intro number
          have first := known ⟨site.dflt.USB_GADGET_ETHER, 0⟩ (List.mem_map.mpr ⟨0, by rw [ports]; simp, rfl⟩)
          exact first
        rw [eval_ethers site functions osDesc udc site.dflt kind]
        simp only [Nat.zero_add]
  rw [ether, eval_acms, List.foldl_append]
  rfl

theorem perform_os_desc (functions : List Func) (osDesc : Bool) (udc : String) :
    perform (some (built functions osDesc udc)) .linkOsDesc = some (built functions true udc) := by
  cases osDesc with
  | true => exact perform_refused _ _ (by simp [effect, built])
  | false => exact perform_taken _ _ _ (by simp [effect, built])

theorem perform_bind (functions : List Func) (udc name : String) (named : name ≠ "") (some_there : functions ≠ [])
    (free : udc = "" ∨ udc = name) :
    perform (some (built functions true udc)) (.bindUdc name) = some (built functions true name) := by
  rcases free with rfl | rfl
  · exact perform_taken _ _ _ (if_pos ⟨named, rfl, some_there⟩)
  · exact perform_refused _ _ (if_neg fun both => named both.2.1)

-- The controller that the gadget is bound to.
def Site.controller (UDC_NAME : String) : Option String := if UDC_NAME ≠ "" then some UDC_NAME else site.firstUdc

theorem eval_create_gadgets (UDC_NAME udc_name : String) (controller : site.controller UDC_NAME = some udc_name)
    (ports : site.dflt.USB_GADGET_ETHER_PORTS > 0 ∨ site.dflt.USB_GADGET_SERIAL_PORTS > 0) (s : Option Gadget) :
    eval (promptly site) (usbGadget "start" UDC_NAME) s =
      eval (promptly site) (createGadget site.dflt udc_name) s := by
  have begun : eval (promptly site) (usbGadget "start" UDC_NAME) s =
      eval (promptly site) (loadUdc (site.file "/sys/devices/soc0/soc_id") <| ignoring (.modprobe "usb_f_fs") <|
        haveConfigfs <| onUdc site.dflt UDC_NAME) s := by
    have asked : usbGadget "start" UDC_NAME = createGadgets UDC_NAME := if_pos rfl
    have first : eval (promptly site) (createGadgets UDC_NAME) s = eval (promptly site)
        (if ¬ (site.dflt.USB_GADGET_ETHER_PORTS > 0 ∨ site.dflt.USB_GADGET_SERIAL_PORTS > 0) then die
        else .call (.readFile "/sys/devices/soc0/soc_id") fun (soc_id : String) =>
          loadUdc soc_id <| ignoring (.modprobe "usb_f_fs") <| haveConfigfs <| onUdc site.dflt UDC_NAME) s := rfl
    rw [asked, first, if_neg (not_not_intro ports)]
    rfl
  have loaded : ∀ rest : Script Unit,
      eval (promptly site) (loadUdc (site.file "/sys/devices/soc0/soc_id") rest) s = eval (promptly site) rest s := by
    intro rest
    rw [loadUdc]
    split
    · rfl
    · split <;> rfl
  have rest : eval (promptly site) (ignoring (.modprobe "usb_f_fs") <| haveConfigfs <| onUdc site.dflt UDC_NAME) s =
      eval (promptly site) (onUdc site.dflt UDC_NAME) s := rfl
  rw [begun, loaded, rest, onUdc]
  rw [Site.controller] at controller
  split at controller
  · rename_i named
    cases controller
    rw [if_pos named]
  · rename_i unnamed
    rw [if_neg unnamed]
    have first : eval (promptly site) (.call .firstUdc (onFirst site.dflt)) s =
        eval (promptly site) (onFirst site.dflt site.firstUdc) s := rfl
    rw [first, controller]
    rfl

theorem ports_some (dflt : Defaults) (ports : dflt.USB_GADGET_ETHER_PORTS > 0 ∨ dflt.USB_GADGET_SERIAL_PORTS > 0) :
    ethers dflt ++ acms dflt ≠ [] := by
  intro empty
  have lengths := congrArg List.length empty
  simp only [ethers, acms, List.length_append, List.length_map, List.length_range, List.length_nil] at lengths
  omega

theorem eval_start (UDC_NAME udc_name : String) (controller : site.controller UDC_NAME = some udc_name)
    (named : udc_name ≠ "") (ports : site.dflt.USB_GADGET_ETHER_PORTS > 0 ∨ site.dflt.USB_GADGET_SERIAL_PORTS > 0)
    (known : ∀ func ∈ ethers site.dflt, func.known = true) :
    eval (promptly site) (usbGadget "start" UDC_NAME) none = (.ok (), some (configured site.dflt udc_name)) := by
  have fresh : (ethers site.dflt ++ acms site.dflt).foldl added [] = ethers site.dflt ++ acms site.dflt :=
    added_fresh [] _ (List.Nodup.of_map _ (configured_nodup site.dflt))
  rw [eval_create_gadgets site UDC_NAME udc_name controller ports,
    eval_create_gadget site udc_name [] false "" none (.inl ⟨rfl, rfl, rfl, rfl⟩),
    eval_add_functions site udc_name known, fresh, perform_os_desc,
    perform_bind _ _ _ named (ports_some site.dflt ports) (.inl rfl)]
  rfl

theorem eval_restart (UDC_NAME udc_name : String) (controller : site.controller UDC_NAME = some udc_name)
    (named : udc_name ≠ "") (ports : site.dflt.USB_GADGET_ETHER_PORTS > 0 ∨ site.dflt.USB_GADGET_SERIAL_PORTS > 0)
    (known : ∀ func ∈ ethers site.dflt, func.known = true) :
    eval (promptly site) (usbGadget "start" UDC_NAME) (some (configured site.dflt udc_name)) =
      (.ok (), some (configured site.dflt udc_name)) := by
  have there := added_there (ethers site.dflt ++ acms site.dflt) (ethers site.dflt ++ acms site.dflt) fun _ => id
  rw [eval_create_gadgets site UDC_NAME udc_name controller ports, configured,
    eval_create_gadget site udc_name _ true udc_name _ (.inr rfl), eval_add_functions site udc_name known, there,
    perform_os_desc, perform_bind _ _ _ named (ports_some site.dflt ports) (.inr rfl)]

end Start

-- One network port and two serial ports.
def threePorts : Site :=
  ⟨⟨"ncm", 1, 2, "", "", "0x0525", "0xa4a7"⟩, fun _ => "", fun _ => false, some "ci_hdrc.0"⟩

theorem three_ports_known : ∀ func ∈ ethers threePorts.dflt, func.known = true := by decide

theorem promptly_obeys (site : Site) (s : Option Gadget) (cmd : Cmd) :
    gadgetReply s cmd (promptly site s cmd).1 (promptly site s cmd).2 := by
  have makes : ∀ cmd : Cmd, perform s cmd = s ∨ result cmd s = some (perform s cmd) := by
    intro cmd
    rw [perform]
    cases result cmd s with
    | none => exact .inl rfl
    | some t => exact .inr rfl
  cases cmd with
  | readUdc =>
      refine ⟨?_, rfl⟩
      rintro gadget rfl
      rfl
  | cdGadget =>
      refine ⟨?_, rfl⟩
      cases s with
      | none => exact iff_of_false (by simp [promptly]) Bool.noConfusion
      | some gadget => exact iff_of_true rfl rfl
  | gadgetExists => exact ⟨rfl, rfl⟩
  | sourceDefaults | readFile path | pathExists path | isDir path | firstUdc | modprobe module | mountConfigfs => exact .inl rfl
  | mkdirGadget | write path value | mkdirStrings | mkdirConfig | mkdirFunction func | linkFunction func | linkOsDesc
  | bindUdc name => exact makes _
  | unbindUdc | rmOsDesc | rmFunctionLinks | rmdirConfigStrings | rmdirConfig | rmdirFunctions | rmdirStrings
  | rmdirGadget => rfl

-- Whatever starts and stops were made before, and wherever they were cut off, a
-- stop that comes to its end leaves no gadget.
theorem stop_clears (UDC_NAME : String) (s t : Option Gadget) (result : Except Nat Unit) (life : Lives s)
    (ended : Ends gadgetWorld (usbGadget "stop" UDC_NAME) s result t) : t = none :=
  safe_ends gadgetWorld (fun _ => True) _ destroyGadgets s t result (destroy_clears s (lives_keep s life)) ended

-- The same, but the second serial port cannot be made.
def oneShort (site : Site) (s : Option Gadget) : (cmd : Cmd) → Reply cmd × Option Gadget
  | .mkdirFunction func => if func = ⟨"acm", 2⟩ then (1, s) else promptly site s (.mkdirFunction func)
  | cmd => promptly site s cmd

theorem one_short_obeys (site : Site) (s : Option Gadget) (cmd : Cmd) :
    gadgetReply s cmd (oneShort site s cmd).1 (oneShort site s cmd).2 := by
  cases cmd with
  | mkdirFunction func =>
      rw [oneShort]
      split
      · exact .inl rfl
      · exact promptly_obeys site s _
  | _ => exact promptly_obeys site s _

def shortGadget : Gadget := built [⟨"ncm", 0⟩, ⟨"acm", 1⟩] true "ci_hdrc.0"

theorem one_short_start : eval (oneShort threePorts) (usbGadget "start" "") none = (.ok (), some shortGadget) := rfl

-- A stop that is killed while it takes the links away.
def halfUnlinked : Gadget :=
  ({ shortGadget with osDesc := false, udc := "" } : Gadget).unlinked fun func => func = ⟨"ncm", 0⟩

theorem half_unlinked_lives : Lives (some halfUnlinked) := by
  have started := ends_eval gadgetWorld (oneShort threePorts) (usbGadget "start" "") none fun s cmd =>
    one_short_obeys threePorts s cmd
  rw [one_short_start] at started
  have short : Lives (some shortGadget) := .finish _ none _ _ .start ⟨"start", "", rfl⟩ started
  have unlinking : Reaches gadgetWorld (usbGadget "stop" "") (some shortGadget) (removals (teardown.drop 1))
      (some { shortGadget with osDesc := false, udc := "" }) :=
    reaches_advance gadgetWorld (promptly threePorts) (fun _ _ => true) 4 _ _ _ _
      (fun s cmd _ => promptly_obeys threePorts s cmd) rfl
  have killed : Seen gadgetWorld (usbGadget "stop" "") (some shortGadget) (some halfUnlinked) :=
    ⟨_, _, unlinking, .inr ⟨.rmFunctionLinks, _, rfl, .inr (.inr ⟨_, rfl, _, rfl⟩)⟩⟩
  exact .powerLoss _ _ _ _ short ⟨"stop", "", rfl⟩ killed (.inl rfl)

theorem three_ports_stop :
    halfUnlinked.config = some ⟨true, [⟨"acm", 1⟩]⟩ ∧
      (eval (promptly threePorts) (usbGadget "stop" "") (some halfUnlinked)).2 = none :=
  ⟨by decide, stop_clears "" _ _ _ half_unlinked_lives (ends_eval gadgetWorld (promptly threePorts)
    (usbGadget "stop" "") _ fun s cmd => promptly_obeys threePorts s cmd)⟩

end SummitSom.UsbGadget
