import SummitSom.Interact.Life
import Mathlib.Data.List.Infix

set_option autoImplicit false

namespace SummitSom.UsbGadget

open Interact

-- A directory under functions/, as the script names it.
structure Func where
  kind : String
  number : Nat
deriving DecidableEq

def Func.name (func : Func) : String := func.kind ++ ".usb" ++ toString func.number

structure Defaults where
  USB_GADGET_ETHER : String
  USB_GADGET_ETHER_PORTS : Int
  USB_GADGET_SERIAL_PORTS : Int
  USB_GADGET_ETHER_LOCAL_MAC : String
  USB_GADGET_ETHER_REMOTE_MAC : String
  USB_GADGET_VENDOR_ID : String
  USB_GADGET_PRODUCT_ID : String

-- Paths without a leading slash are those below g0.
inductive Cmd where
  | sourceDefaults
  | readFile (path : String)
  | pathExists (path : String)
  | isDir (path : String)
  | firstUdc
  | modprobe (module : String)
  | mountConfigfs
  | gadgetExists
  | readUdc
  | mkdirGadget
  | cdGadget
  | write (path value : String)
  | mkdirStrings
  | mkdirConfig
  | mkdirFunction (func : Func)
  | linkFunction (func : Func)
  | linkOsDesc
  | bindUdc (name : String)
  | unbindUdc
  | rmOsDesc
  | rmFunctionLinks
  | rmdirConfigStrings
  | rmdirConfig
  | rmdirFunctions
  | rmdirStrings
  | rmdirGadget
deriving DecidableEq

@[reducible] def Reply : Cmd → Type
  | .sourceDefaults => Defaults
  | .readFile _ | .readUdc => String
  | .pathExists _ | .isDir _ | .gadgetExists => Bool
  | .firstUdc => Option String
  | _ => Int

abbrev Script (A : Type) := Prog Cmd Reply Nat A

-- Without set -e a command that fails is passed.
def ignoring (cmd : Cmd) (rest : Script Unit) : Script Unit := .call cmd fun _ => rest

def die : Script Unit := .stop 1

def writeAll : List (String × String) → Script Unit → Script Unit
  | [], rest => rest
  | (path, value) :: writes, rest => ignoring (.write path value) (writeAll writes rest)

def osDescWrites : List (String × String) :=
  [("os_desc/use", "1"), ("os_desc/b_vendor_code", "0xcd"), ("os_desc/qw_sign", "MSFT100")]

def kindWrites (func : Func) : List (String × String) :=
  let path := "functions/" ++ func.name
  if func.kind = "rndis" then
    osDescWrites ++ [(path ++ "/class", "ef"), (path ++ "/subclass", "04"), (path ++ "/protocol", "01"),
      (path ++ "/os_desc/interface.rndis/compatible_id", "RNDIS"),
      (path ++ "/os_desc/interface.rndis/sub_compatible_id", "5162001")]
  else if func.kind = "ncm" then osDescWrites ++ [(path ++ "/os_desc/interface.ncm/compatible_id", "WINNCM")]
  else []

def macWrites (dflt : Defaults) (func : Func) : List (String × String) :=
  let path := "functions/" ++ func.name
  (if dflt.USB_GADGET_ETHER_LOCAL_MAC = "" then [] else [(path ++ "/dev_addr", dflt.USB_GADGET_ETHER_LOCAL_MAC)]) ++
    if dflt.USB_GADGET_ETHER_REMOTE_MAC = "" then [] else [(path ++ "/host_addr", dflt.USB_GADGET_ETHER_REMOTE_MAC)]

def createEther (dflt : Defaults) (counter : Nat) (rest : Script Unit) : Script Unit :=
  let func : Func := ⟨dflt.USB_GADGET_ETHER, counter⟩
  ignoring (.mkdirFunction func) (writeAll (kindWrites func ++ macWrites dflt func) (ignoring (.linkFunction func) rest))

def createAcm (counter : Nat) (rest : Script Unit) : Script Unit :=
  ignoring (.mkdirFunction ⟨"acm", counter⟩) (ignoring (.linkFunction ⟨"acm", counter⟩) rest)

-- The two loops over the ports; the second goes on with the counter.
def createEthers (dflt : Defaults) : Nat → Nat → Script Unit → Script Unit
  | 0, _, rest => rest
  | ports + 1, counter, rest => createEther dflt counter (createEthers dflt ports (counter + 1) rest)

def createAcms : Nat → Nat → Script Unit → Script Unit
  | 0, _, rest => rest
  | ports + 1, counter, rest => createAcm counter (createAcms ports (counter + 1) rest)

def writeSerial (rest : Script Unit) : Script Unit :=
  .call (.pathExists "/sys/devices/soc0/soc_uid") fun (uid : Bool) =>
    if uid then copied "/sys/devices/soc0/soc_uid" id
    else .call (.pathExists "/sys/class/net/eth1/address") fun (eth1 : Bool) =>
      if eth1 then copied "/sys/class/net/eth1/address" withoutColons
      else .call (.pathExists "/sys/class/net/eth0/address") fun (eth0 : Bool) =>
        if eth0 then copied "/sys/class/net/eth0/address" withoutColons
        else ignoring (.write "strings/0x409/serialnumber" "deadbeefdeadbeef") rest
where
  withoutColons (text : String) : String := String.ofList (text.toList.filter (· ≠ ':'))
  copied (path : String) (change : String → String) : Script Unit :=
    .call (.readFile path) fun (text : String) => ignoring (.write "strings/0x409/serialnumber" (change text)) rest

def addFunctions (dflt : Defaults) (udc_name : String) : Script Unit :=
  createEthers dflt dflt.USB_GADGET_ETHER_PORTS.toNat 0 <|
  createAcms dflt.USB_GADGET_SERIAL_PORTS.toNat dflt.USB_GADGET_ETHER_PORTS.toNat <|
  ignoring .linkOsDesc <| ignoring (.bindUdc udc_name) <| .done ()

def describeGadget (rest : Script Unit) : Script Unit :=
  ignoring (.write "strings/0x409/manufacturer" "Ezurio") <|
  .call (.readFile "/sys/firmware/devicetree/base/model") fun (model : String) =>
    ignoring (.write "strings/0x409/product" model) <| ignoring .mkdirConfig <|
    ignoring (.write "configs/c.1/strings/0x409/configuration" "USB Composite Configuration") rest

def createGadget (dflt : Defaults) (udc_name : String) : Script Unit :=
  ignoring .mkdirGadget <| .call .cdGadget fun (status : Int) =>
    if status ≠ 0 then die
    else
      ignoring (.write "idVendor" dflt.USB_GADGET_VENDOR_ID) <| ignoring (.write "idProduct" dflt.USB_GADGET_PRODUCT_ID) <|
      ignoring .mkdirStrings <| writeSerial <| describeGadget <| addFunctions dflt udc_name

def loadUdc (soc_id : String) (rest : Script Unit) : Script Unit :=
  if soc_id = "at91sam9g20" then ignoring (.modprobe "at91_udc") rest
  else if "at91".toList <+: soc_id.toList ∨ "sam".toList <+: soc_id.toList then ignoring (.modprobe "atmel_usba_udc") rest
  else rest

def haveConfigfs (rest : Script Unit) : Script Unit :=
  .call (.isDir "/sys/kernel/config/usb_gadget") fun (there : Bool) =>
    if there then rest
    else ignoring .mountConfigfs <| .call (.isDir "/sys/kernel/config/usb_gadget") fun (mounted : Bool) =>
      if mounted then rest else die

def onFirst (dflt : Defaults) : Option String → Script Unit
  | none => .done ()
  | some udc_name => createGadget dflt udc_name

def onUdc (dflt : Defaults) (UDC_NAME : String) : Script Unit :=
  if UDC_NAME ≠ "" then createGadget dflt UDC_NAME else .call .firstUdc (onFirst dflt)

def createGadgets (UDC_NAME : String) : Script Unit :=
  .call .sourceDefaults fun (dflt : Defaults) =>
    if ¬ (dflt.USB_GADGET_ETHER_PORTS > 0 ∨ dflt.USB_GADGET_SERIAL_PORTS > 0) then die
    else .call (.readFile "/sys/devices/soc0/soc_id") fun (soc_id : String) =>
      loadUdc soc_id <| ignoring (.modprobe "usb_f_fs") <| haveConfigfs <| onUdc dflt UDC_NAME

def destroyGadgets : Script Unit :=
  .call .gadgetExists fun (there : Bool) =>
    if there then
      .call .readUdc fun (udc : String) =>
        (if udc = "" then id else ignoring .unbindUdc) <| ignoring .rmOsDesc <| ignoring .rmFunctionLinks <|
        ignoring .rmdirConfigStrings <| ignoring .rmdirConfig <| ignoring .rmdirFunctions <| ignoring .rmdirStrings <|
        ignoring .rmdirGadget <| .done ()
    else .done ()

def usbGadget (command UDC_NAME : String) : Script Unit :=
  if command = "start" then createGadgets UDC_NAME else if command = "stop" then destroyGadgets else die

-- configs/c.1 and the gadget itself, as configfs keeps them.
structure Config where
  strings : Bool
  links : List Func
deriving DecidableEq

structure Gadget where
  functions : List Func
  config : Option Config
  strings : Bool
  osDesc : Bool
  udc : String
deriving DecidableEq

-- The pattern *.usb*, which does not take names that begin with a dot.
def globbed (name : String) : Bool := name.toList.head? ≠ some '.' ∧ ".usb".toList <:+: name.toList

-- No function kind is without a name or named with a dot in front.
def Func.known (func : Func) : Bool := func.kind ≠ "" ∧ func.kind.toList.head? ≠ some '.'

def Gadget.unlinked (gadget : Gadget) (gone : Func → Bool) : Gadget :=
  { gadget with
    config := gadget.config.map fun config =>
      { config with links := config.links.filter fun func => !(globbed func.name && gone func) }
    udc := if (gadget.config.map fun config => config.links.any fun func => globbed func.name && gone func) = some true
      then "" else gadget.udc }

def Gadget.linked (gadget : Gadget) (func : Func) : Bool := (gadget.config.map fun config => config.links.contains func).getD false

def Gadget.emptied (gadget : Gadget) (gone : Func → Bool) : Gadget :=
  { gadget with functions := gadget.functions.filter fun func => !(globbed func.name && gone func && !gadget.linked func) }

-- What a command makes of the gadget; none where configfs refuses it.
def effect : Cmd → Gadget → Option (Option Gadget)
  | .mkdirGadget, gadget => some (some gadget)
  | .cdGadget, gadget => some (some gadget)
  | .write _ _, gadget => some (some gadget)
  | .mkdirStrings, gadget => some (some { gadget with strings := true })
  | .mkdirConfig, gadget => some (some { gadget with config := some ⟨true, (gadget.config.map Config.links).getD []⟩ })
  | .mkdirFunction func, gadget =>
      if func ∈ gadget.functions then some (some gadget)
      else if func.known then some (some { gadget with functions := gadget.functions ++ [func] }) else none
  | .linkFunction func, gadget =>
      match gadget.config with
      | none => none
      | some config =>
          if func ∈ gadget.functions ∧ func ∉ config.links then
            some (some { gadget with config := some { config with links := config.links ++ [func] } })
          else none
  | .linkOsDesc, gadget =>
      if gadget.config.isSome ∧ gadget.osDesc = false then some (some { gadget with osDesc := true }) else none
  | .bindUdc name, gadget =>
      match gadget.config with
      | none => none
      | some config =>
          if name ≠ "" ∧ gadget.udc = "" ∧ config.links ≠ [] then some (some { gadget with udc := name }) else none
  | .unbindUdc, gadget => some (some { gadget with udc := "" })
  | .rmOsDesc, gadget => some (some { gadget with osDesc := false })
  | .rmFunctionLinks, gadget => some (some (gadget.unlinked fun _ => true))
  | .rmdirConfigStrings, gadget =>
      some (some { gadget with config := gadget.config.map fun config => { config with strings := false } })
  | .rmdirConfig, gadget =>
      if gadget.osDesc = false ∧ gadget.config = some ⟨false, []⟩ then some (some { gadget with config := none }) else none
  | .rmdirFunctions, gadget => some (some (gadget.emptied fun _ => true))
  | .rmdirStrings, gadget => some (some { gadget with strings := false })
  | .rmdirGadget, gadget =>
      if gadget.functions = [] ∧ gadget.config = none ∧ gadget.strings = false then some none else none
  | _, _ => none

def newGadget : Gadget := ⟨[], none, false, false, ""⟩

def result (cmd : Cmd) : Option Gadget → Option (Option Gadget)
  | none => if cmd = .mkdirGadget then some (some newGadget) else none
  | some gadget => effect cmd gadget

def Cmd.removes : Cmd → Bool
  | .unbindUdc | .rmOsDesc | .rmFunctionLinks | .rmdirConfigStrings | .rmdirConfig | .rmdirFunctions | .rmdirStrings
  | .rmdirGadget => true
  | _ => false

-- What can be seen while a command runs: one with several arguments has dealt
-- with some of them.
def during (s : Option Gadget) (cmd : Cmd) (t : Option Gadget) : Prop :=
  t = s ∨ result cmd s = some t ∨ ∃ gadget, s = some gadget ∧
    match cmd with
    | .mkdirConfig => gadget.config = none ∧ t = some { gadget with config := some ⟨false, []⟩ }
    | .rmFunctionLinks => ∃ gone, t = some (gadget.unlinked gone)
    | .rmdirFunctions => ∃ gone, t = some (gadget.emptied gone)
    | _ => False

-- Making something may fail for any reason, removing it only where configfs
-- refuses to.
def gadgetReply (s : Option Gadget) : (cmd : Cmd) → Reply cmd → Option Gadget → Prop
  | .gadgetExists, there, t => there = s.isSome ∧ t = s
  | .readUdc, udc, t => (∀ gadget, s = some gadget → udc = gadget.udc) ∧ t = s
  | .cdGadget, status, t => (status = 0 ↔ s.isSome = true) ∧ t = s
  | cmd, _, t => if cmd.removes then t = (result cmd s).getD s else t = s ∨ result cmd s = some t

def gadgetWorld : World Cmd Reply (Option Gadget) where
  midst := during
  reply := gadgetReply

end SummitSom.UsbGadget
