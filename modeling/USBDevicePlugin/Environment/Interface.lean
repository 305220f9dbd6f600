import Mathlib.Data.UInt

/-!
# The data exchanged with libusb and with clients

The types of the values that cross the implementation's two borders: `libusb_device` and the
descriptors on one side, the structures of `Exchange::IUSBDevice` on the other.

A `libusb_device` carries what libusb keeps for as long as the device object exists — bus number,
address, position in the tree.  Everything else has to be asked for, and is part of the environment
(`Environment/Calls.lean`).  Fields the plugin neither reads nor writes are left out.
-/

namespace Usb

/-- `std::string`, one character below 256 for each byte. -/
abbrev CxxString := List Char

/-- The two result codes the implementation returns, `Core::ERROR_NONE` and
`Core::ERROR_GENERAL`. -/
inductive Status
  | errorNone
  | errorGeneral
  deriving DecidableEq, Repr

/-- There is only one error. -/
theorem Status.eq_iff {status₁ status₂ : Status} :
    status₁ = status₂ ↔ (status₁ = .errorNone ↔ status₂ = .errorNone) := by
  cases status₁ <;> cases status₂ <;> simp

/-! ## libusb -/

/-- A libusb error code; every libusb function reports failure by a negative number. -/
abbrev LibusbError := { code : Int // code < 0 }

/-- `LIBUSB_ERROR_OVERFLOW`. -/
def libusbErrorOverflow : LibusbError := ⟨-8, by decide⟩

/-- `LIBUSB_CLASS_PER_INTERFACE`. -/
def classPerInterface : UInt8 := 0x00

/-- `LIBUSB_CLASS_MASS_STORAGE`. -/
def classMassStorage : UInt8 := 0x08

/-- `LIBUSB_DT_STRING`. -/
def dtString : UInt8 := 0x03

/-- `LIBUSB_CONFIG_ATT_SELF_POWERED`. -/
def configAttSelfPowered : UInt8 := 0x40

/-- `libusb_device`: the object a pointer of the device list points to, with the attributes
libusb caches in it. -/
structure Device where
  pointer : ℕ
  busNumber : UInt8
  deviceAddress : UInt8
  portChain : List UInt8
  portNumber : UInt8
  speed : ℕ
  deriving DecidableEq, Repr

/-- The bus number and address a device is known by. -/
def Device.key (d : Device) : UInt8 × UInt8 := (d.busNumber, d.deviceAddress)

/-- `libusb_device_descriptor`, as far as the plugin reads it. -/
structure DeviceDescriptor where
  bDeviceClass : UInt8
  bDeviceSubClass : UInt8
  bDeviceProtocol : UInt8
  idVendor : UInt16
  idProduct : UInt16
  iManufacturer : UInt8
  iProduct : UInt8
  iSerialNumber : UInt8
  deriving DecidableEq, Repr

/-- `libusb_interface_descriptor`: one alternate setting. -/
structure InterfaceDescriptor where
  bInterfaceClass : UInt8
  bInterfaceSubClass : UInt8
  deriving DecidableEq, Repr

/-- `libusb_config_descriptor`: the interfaces, each a list of alternate settings, and the
attributes. -/
structure ConfigDescriptor where
  interface : List (List InterfaceDescriptor)
  bmAttributes : UInt8
  deriving DecidableEq, Repr

/-- What a string descriptor request leaves: the return value of the call, and the bytes it wrote
at the start of the caller's buffer. -/
structure StringReply where
  retValue : Int
  data : List UInt8
  deriving DecidableEq, Repr

/-- `libusb_get_port_numbers(dev, port_numbers, cap)`: the port chain, or an overflow if the
caller's array is too short for it. -/
def libusbGetPortNumbers (d : Device) (cap : ℕ) : Int × List UInt8 :=
  if cap < d.portChain.length then (libusbErrorOverflow, [])
  else (d.portChain.length, d.portChain)

/-! ## The client interface -/

/-- `Exchange::IUSBDevice::USBDevice`.  The defaults are the `= {0}` the implementation starts
from. -/
structure USBDevice where
  deviceClass : UInt8 := 0
  deviceSubclass : UInt8 := 0
  deviceName : CxxString := []
  devicePath : CxxString := []
  deriving DecidableEq, Repr

/-- `Exchange::IUSBDevice::USBProductInfo`. -/
structure USBProductInfo where
  languageId : UInt16 := 0
  serialNumber : CxxString := []
  manufacturer : CxxString := []
  product : CxxString := []
  deriving DecidableEq, Repr

/-- `Exchange::IUSBDevice::USBDeviceStatus`, in the three combinations the plugin stores. -/
inductive USBDeviceStatus
  | noDeviceConnected
  | active
  | selfPoweredActive
  deriving DecidableEq, Repr

/-- `Exchange::IUSBDevice::USBDeviceFlags`; the plugin knows one flag. -/
inductive USBDeviceFlags
  | none
  | driverAvailable
  deriving DecidableEq, Repr

/-- `Exchange::IUSBDevice::USBDeviceInfo`. -/
structure USBDeviceInfo where
  parentId : UInt8 := 0
  deviceStatus : USBDeviceStatus := .noDeviceConnected
  deviceLevel : UInt8 := 0
  portNumber : UInt8 := 0
  vendorId : UInt16 := 0
  productId : UInt16 := 0
  protocol : UInt8 := 0
  serialNumber : CxxString := []
  device : USBDevice := {}
  flags : USBDeviceFlags := .none
  busSpeed : ℕ := 0
  numLanguageIds : UInt8 := 0
  productInfo1 : USBProductInfo := {}
  productInfo2 : USBProductInfo := {}
  productInfo3 : USBProductInfo := {}
  productInfo4 : USBProductInfo := {}
  deriving DecidableEq, Repr

end Usb
