import USBDevicePlugin.Core.Interaction
import USBDevicePlugin.Environment.Sysfs

/-!
# The calls the plugin makes

libusb and the file system are not part of the plugin.  They appear as an *environment*: for every
instant, the answers they would give if asked then (`Outcomes`).  Nothing is assumed about how the
answers change from one instant to the next, so every failure of every call, and every change of
the bus and of the file system in between, is covered.

The kernel's driver binding is the one thing the plugin changes and later observes; it is the store
of the programs, and changes exactly when an attach or detach reports success.

`account` says which calls take a resource and which give it back.
-/

namespace Usb

open Interaction

/-- The answers libusb and the file system would give at one instant.  For calls that report no
more than success, `none` is `LIBUSB_SUCCESS`. -/
structure Outcomes where
  getDeviceList : Except LibusbError (List Device)
  getDeviceDescriptor : Device → Except LibusbError DeviceDescriptor
  getConfigDescriptor : Device → Except LibusbError (Option ConfigDescriptor)
  getActiveConfigDescriptor : Device → Except LibusbError ConfigDescriptor
  openDevice : Device → Option LibusbError
  kernelDriverFailure : Device → Option LibusbError
  attachKernelDriver : Device → Option LibusbError
  detachKernelDriver : Device → Option LibusbError
  getStringDescriptor : Device → UInt8 → UInt16 → StringReply
  getStringDescriptorAscii : Device → UInt8 → StringReply
  sysfs : Sysfs

/-- An environment: the outcomes at every instant. -/
abbrev Env := ℕ → Outcomes

/-- An environment that does not change. -/
def Outcomes.steady (o : Outcomes) : Env := fun _ => o

/-- The calls, with what matters of their outcome.  A device list is recorded with the devices it
holds, an empty list standing for an error or a count of zero. -/
inductive Call
  | lock
  | unlock
  | getDeviceList (devices : List Device)
  | freeDeviceList
  | getDeviceDescriptor (d : Device) (ok : Bool)
  | getConfigDescriptor (d : Device) (obtained : Bool)
  | freeConfigDescriptor (d : Device)
  | getActiveConfigDescriptor (d : Device) (obtained : Bool)
  | openDevice (d : Device) (ok : Bool)
  | closeDevice (d : Device)
  | kernelDriverActive (d : Device) (interface : ℕ) (result : Int)
  | attachKernelDriver (d : Device) (interface : ℕ) (ok : Bool)
  | detachKernelDriver (d : Device) (interface : ℕ) (ok : Bool)
  | getStringDescriptor (d : Device) (index : UInt8) (languageId : UInt16)
  | getStringDescriptorAscii (d : Device) (index : UInt8)
  | readSysfs
  | openDirectory (ok : Bool)
  | closeDirectory
  | sleep
  deriving DecidableEq, Repr

/-- The device a call is about, if it is about one. -/
def Call.device : Call → Option Device
  | .getDeviceDescriptor d _ => some d
  | .getConfigDescriptor d _ => some d
  | .freeConfigDescriptor d => some d
  | .getActiveConfigDescriptor d _ => some d
  | .openDevice d _ => some d
  | .closeDevice d => some d
  | .kernelDriverActive d _ _ => some d
  | .attachKernelDriver d _ _ => some d
  | .detachKernelDriver d _ _ => some d
  | .getStringDescriptor d _ _ => some d
  | .getStringDescriptorAscii d _ => some d
  | _ => none

/-- The call is not about any other device. -/
def Call.OnlyOn (d : Device) (c : Call) : Prop := ∀ d' ∈ c.device, d' = d

/-- For every device, by bus number and address, and every interface: does it have an active kernel
driver? -/
abbrev DriverState := UInt8 × UInt8 → ℕ → Bool

/-- The binding after the driver of one interface was attached or detached. -/
def DriverState.set (s : DriverState) (key : UInt8 × UInt8) (interface : ℕ) (bound : Bool) :
    DriverState :=
  fun key' interface' => if key' = key ∧ interface' = interface then bound else s key' interface'

/-- The plugin's code: programs that make these calls. -/
abbrev Plugin (α : Type) := Prog Call DriverState α

/-! ## The calls as programs -/

section Calls

variable (env : Env)

/-- `libusb_get_device_list`. -/
def libusbGetDeviceList : Plugin (Except LibusbError (List Device)) :=
  Prog.ask (fun t => (env t).getDeviceList) fun r => .getDeviceList (r.toOption.getD [])

/-- `libusb_get_device_descriptor`. -/
def libusbGetDeviceDescriptor (d : Device) : Plugin (Except LibusbError DeviceDescriptor) :=
  Prog.ask (fun t => (env t).getDeviceDescriptor d) fun r => .getDeviceDescriptor d r.toOption.isSome

/-- `libusb_get_config_descriptor` for configuration 0.  The pointer it stores may be null. -/
def libusbGetConfigDescriptor (d : Device) :
    Plugin (Except LibusbError (Option ConfigDescriptor)) :=
  Prog.ask (fun t => (env t).getConfigDescriptor d) fun r =>
    .getConfigDescriptor d (r.toOption.bind id).isSome

/-- `libusb_get_active_config_descriptor`. -/
def libusbGetActiveConfigDescriptor (d : Device) : Plugin (Except LibusbError ConfigDescriptor) :=
  Prog.ask (fun t => (env t).getActiveConfigDescriptor d) fun r =>
    .getActiveConfigDescriptor d r.toOption.isSome

/-- `libusb_open`. -/
def libusbOpen (d : Device) : Plugin (Option LibusbError) :=
  Prog.ask (fun t => (env t).openDevice d) fun r => .openDevice d r.isNone

/-- `libusb_close`. -/
def libusbClose (d : Device) : Plugin PUnit := Prog.tell (.closeDevice d)

/-- `libusb_kernel_driver_active`: negative on failure, otherwise the binding, 0 or 1. -/
def libusbKernelDriverActive (d : Device) (interface : ℕ) : Plugin Int := do
  let s ← Prog.getStore
  Prog.ask
    (fun t => match (env t).kernelDriverFailure d with
      | some e => e.val
      | none => if s d.key interface then 1 else 0)
    (.kernelDriverActive d interface)

/-- `libusb_attach_kernel_driver`. -/
def libusbAttachKernelDriver (d : Device) (interface : ℕ) : Plugin (Option LibusbError) := do
  let r ← Prog.ask (fun t => (env t).attachKernelDriver d) fun r =>
    .attachKernelDriver d interface r.isNone
  if r.isNone then Prog.modifyStore (·.set d.key interface true)
  pure r

/-- `libusb_detach_kernel_driver`. -/
def libusbDetachKernelDriver (d : Device) (interface : ℕ) : Plugin (Option LibusbError) := do
  let r ← Prog.ask (fun t => (env t).detachKernelDriver d) fun r =>
    .detachKernelDriver d interface r.isNone
  if r.isNone then Prog.modifyStore (·.set d.key interface false)
  pure r

/-- `libusb_get_string_descriptor`. -/
def libusbGetStringDescriptor (d : Device) (index : UInt8) (languageId : UInt16) :
    Plugin StringReply :=
  Prog.ask (fun t => (env t).getStringDescriptor d index languageId) fun _ =>
    .getStringDescriptor d index languageId

/-- `libusb_get_string_descriptor_ascii`. -/
def libusbGetStringDescriptorAscii (d : Device) (index : UInt8) : Plugin StringReply :=
  Prog.ask (fun t => (env t).getStringDescriptorAscii d index) fun _ =>
    .getStringDescriptorAscii d index

/-- Look at the file system: everything one scan reads, it reads from this snapshot. -/
def readSysfs : Plugin Sysfs := Prog.ask (fun t => (env t).sysfs) fun _ => .readSysfs

end Calls

/-! ## Resources -/

/-- What a call of the plugin may be holding.  Handles and configuration descriptors are kept by
device. -/
structure Held where
  locks : ℕ := 0
  lists : ℕ := 0
  handles : List Device := []
  configs : List Device := []
  directories : ℕ := 0
  deriving DecidableEq, Repr

/-- The effect of a call on what is held.  A device list is held when the count is positive;
nothing can be given back that is not held. -/
def account : Call → Held → Option Held
  | .lock, r => some { r with locks := r.locks + 1 }
  | .unlock, r => if r.locks = 0 then none else some { r with locks := r.locks - 1 }
  | .getDeviceList devices, r => some (if devices = [] then r else { r with lists := r.lists + 1 })
  | .freeDeviceList, r => if r.lists = 0 then none else some { r with lists := r.lists - 1 }
  | .openDevice d true, r => some { r with handles := d :: r.handles }
  | .closeDevice d, r =>
      if d ∈ r.handles then some { r with handles := r.handles.erase d } else none
  | .getConfigDescriptor d true, r => some { r with configs := d :: r.configs }
  | .getActiveConfigDescriptor d true, r => some { r with configs := d :: r.configs }
  | .freeConfigDescriptor d, r =>
      if d ∈ r.configs then some { r with configs := r.configs.erase d } else none
  | .openDirectory true, r => some { r with directories := r.directories + 1 }
  | .closeDirectory, r =>
      if r.directories = 0 then none else some { r with directories := r.directories - 1 }
  | _, r => some r

end Usb
