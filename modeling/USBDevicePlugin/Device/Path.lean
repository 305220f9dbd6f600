import USBDevicePlugin.Environment.Calls

/-!
# From a USB device to its block device

A mass-storage device is announced with the path of the disk the kernel made of it.  The kernel
keeps no pointer from the one to the other that the plugin could follow, so it searches: every
entry `sd…` of the block directory is resolved to its place in the device tree, the ancestors are
walked up to the first directory with a `busnum` and a `devnum` file, and their contents are
compared with the bus number and address libusb reports.

The functions of one scan read one snapshot of the file system and are pure.  `getDevicePathFromDevice`
takes the snapshot and is the only one here that makes calls.

* `blockDevicePath` — what a scan finds, as a function of the snapshot and the device.
* `getDevicePathFromDevice_value` — the connection between the two.
-/

namespace Usb

open Interaction

/-- `PLUGIN_USBDEVICE_PATH`. -/
def pluginUsbDevicePath : CxxString := "/sys/bus/usb/devices".toList

/-- `PLUGIN_USBDEVICE_BLOCKPATH`. -/
def pluginUsbDeviceBlockPath : CxxString := "/sys/block".toList

/-- `PLUGIN_USBDEVICE_BUS_NUM`. -/
def pluginUsbDeviceBusNum : CxxString := "busnum".toList

/-- `PLUGIN_USBDEVICE_DEV_ADDR`. -/
def pluginUsbDeviceDevAddr : CxxString := "devnum".toList

/-- `PLUGIN_USBDEVICE_MAX_TRAVERSAL_DEPTH`. -/
def pluginUsbDeviceMaxTraversalDepth : ℕ := 10

/-- `std::to_string` of a byte. -/
def toDecimal (b : UInt8) : CxxString := Nat.toDigits 10 b.toNat

/-! ## The ancestor walk -/

/-- The loop of `findUsbAddressFiles`.  `none` is a walk that ends without the two files: the depth
is used up, the root has been looked at, or a check throws.  An absolute path is never empty, so
the loop's other condition always holds. -/
def findUsbAddressFilesLoop (fs : Sysfs) : ℕ → CanonicalPath → Option (CxxString × CxxString)
  | 0, _ => none
  | maxTraversalDepth + 1, currentPath =>
      let candidateBusnumPath := CanonicalPath.string (currentPath ++ [pluginUsbDeviceBusNum])
      let candidateDevnumPath := CanonicalPath.string (currentPath ++ [pluginUsbDeviceDevAddr])
      let next :=
        if currentPath = [] then none
        else findUsbAddressFilesLoop fs maxTraversalDepth currentPath.dropLast
      match fs.isRegularFile candidateBusnumPath with
      | none => none
      | some false => next
      | some true =>
          match fs.isRegularFile candidateDevnumPath with
          | none => none
          | some false => next
          | some true => some (candidateBusnumPath, candidateDevnumPath)

/-- Locate the `busnum` and `devnum` files of a block device. -/
def findUsbAddressFiles (fs : Sysfs) (dirPath deviceName busnumPath devnumPath : CxxString) :
    Bool × CxxString × CxxString :=
  let devicePath := dirPath ++ "/".toList ++ deviceName ++ "/device".toList
  match fs.canonical devicePath with
  | none => (false, busnumPath, devnumPath)
  | some currentPath =>
      match findUsbAddressFilesLoop fs pluginUsbDeviceMaxTraversalDepth currentPath with
      | none => (false, busnumPath, devnumPath)
      | some (busnum, devnum) => (true, busnum, devnum)

/-! ## One entry of the block directory -/

/-- A number file read into an `int` and narrowed to a byte; `none` if it cannot be opened or
holds no number. -/
def readByteFile (fs : Sysfs) (path : CxxString) : Option UInt8 :=
  ((fs.contents path).bind readInt).map UInt8.ofInt

/-- Does a block device belong to the USB device with this bus number and address? -/
def findBlockDevicePathByUsbAddress (fs : Sysfs) (dirPath deviceName : CxxString)
    (busNumber devAddress : UInt8) (devPath : CxxString) : Bool × CxxString :=
  match findUsbAddressFiles fs dirPath deviceName [] [] with
  | (false, _, _) => (false, devPath)
  | (true, busnumPath, devnumPath) =>
      if readByteFile fs busnumPath ≠ some busNumber then (false, devPath)
      else if readByteFile fs devnumPath ≠ some devAddress then (false, devPath)
      else (true, "/dev/".toList ++ deviceName)

/-! ## The scan -/

/-- The name sysfs gives a device: `<bus>-<port>[.<port>...]`, or nothing if libusb reports no
port. -/
def getUSBDeviceSysfsPath (d : Device) : Option CxxString :=
  match libusbGetPortNumbers d 8 with
  | (numbOfElements, devPath) =>
      if numbOfElements ≤ 0 then none
      else some (toDecimal d.busNumber ++ "-".toList ++ toDecimal (devPath.getD 0 0) ++
        devPath.tail.flatMap fun port => ".".toList ++ toDecimal port)

/-- The device's serial number from sysfs; unchanged if the file cannot be opened.  The path goes
through a buffer of 256 bytes. -/
def getDeviceSerialNumber (fs : Sysfs) (sysfsPath serialNumber : CxxString) : CxxString :=
  let path := (pluginUsbDevicePath ++ "/".toList ++ sysfsPath ++ "/serial".toList).take 255
  match fs.contents path with
  | none => serialNumber
  | some text => getline text

/-- The `readdir` loop: the first matching entry ends it. -/
def scanBlockDirectory (fs : Sysfs) (d : Device) (devPath : CxxString) :
    List CxxString → CxxString
  | [] => devPath
  | deviceName :: entries =>
      if deviceName ≠ ".".toList ∧ deviceName ≠ "..".toList ∧ "sd".toList.isPrefixOf deviceName then
        match findBlockDevicePathByUsbAddress fs pluginUsbDeviceBlockPath deviceName d.busNumber
            d.deviceAddress devPath with
        | (true, devPath) => devPath
        | (false, devPath) => scanBlockDirectory fs d devPath entries
      else scanBlockDirectory fs d devPath entries

/-- Resolve the block device path and the serial number of a device. -/
def getDevicePathFromDevice (env : Env) (d : Device) (devPath deviceSerialNumber : CxxString) :
    Plugin (CxxString × CxxString) :=
  match getUSBDeviceSysfsPath d with
  | none => pure (devPath, deviceSerialNumber)
  | some sysfsPath => do
      let fs ← readSysfs env
      let serialNumber := getDeviceSerialNumber fs sysfsPath deviceSerialNumber
      match fs.directory pluginUsbDeviceBlockPath with
      | none => do
          Prog.tell (.openDirectory false)
          pure (devPath, serialNumber)
      | some entries => do
          Prog.tell (.openDirectory true)
          let found := scanBlockDirectory fs d devPath entries
          Prog.tell .closeDirectory
          pure (found, serialNumber)

/-! ## What a scan finds -/

/-- The entry belongs to the device. -/
def Matches (fs : Sysfs) (d : Device) (deviceName : CxxString) : Bool :=
  "sd".toList.isPrefixOf deviceName &&
    (findBlockDevicePathByUsbAddress fs pluginUsbDeviceBlockPath deviceName d.busNumber
      d.deviceAddress []).1

/-- The disk of a device: the path of the first entry of the block directory that belongs to it. -/
def blockDevicePath (fs : Sysfs) (d : Device) : Option CxxString :=
  match getUSBDeviceSysfsPath d, fs.directory pluginUsbDeviceBlockPath with
  | some _, some entries => (entries.find? (Matches fs d)).map ("/dev/".toList ++ ·)
  | _, _ => none

/-- The outputs of one entry's check: the path is replaced exactly when the entry matches. -/
lemma findBlockDevicePathByUsbAddress_eq (fs : Sysfs) (dirPath deviceName : CxxString)
    (bus addr : UInt8) (devPath : CxxString) :
    findBlockDevicePathByUsbAddress fs dirPath deviceName bus addr devPath =
      if (findBlockDevicePathByUsbAddress fs dirPath deviceName bus addr []).1
      then (true, "/dev/".toList ++ deviceName) else (false, devPath) := by
  unfold findBlockDevicePathByUsbAddress
  split
  · simp
  · split_ifs <;> simp_all

/-- An entry `sd…` is neither `.` nor `..`, so the test for these two is redundant. -/
lemma ne_dots_of_isPrefixOf {deviceName : CxxString}
    (h : "sd".toList.isPrefixOf deviceName = true) :
    deviceName ≠ ".".toList ∧ deviceName ≠ "..".toList := by
  constructor <;> rintro rfl <;> exact absurd h (by decide)

lemma scanBlockDirectory_eq (fs : Sysfs) (d : Device) (devPath : CxxString) :
    ∀ entries : List CxxString, scanBlockDirectory fs d devPath entries =
      ((entries.find? (Matches fs d)).map ("/dev/".toList ++ ·)).getD devPath
  | [] => rfl
  | deviceName :: entries => by
      have ih := scanBlockDirectory_eq fs d devPath entries
      rw [scanBlockDirectory, List.find?_cons, findBlockDevicePathByUsbAddress_eq]
      by_cases hsd : "sd".toList.isPrefixOf deviceName = true
      · rw [if_pos ⟨(ne_dots_of_isPrefixOf hsd).1, (ne_dots_of_isPrefixOf hsd).2, hsd⟩]
        by_cases hm : (findBlockDevicePathByUsbAddress fs pluginUsbDeviceBlockPath deviceName
            d.busNumber d.deviceAddress []).1 = true
        · simp only [hm, if_true, Matches, hsd, Bool.and_self, Option.map_some, Option.getD_some]
        · simp only [hm, Bool.false_eq_true, if_false, Matches, hsd, Bool.and_false, ih]
      · rw [if_neg fun h => hsd h.2.2, ih]
        simp only [Matches, hsd, Bool.false_and]

/-- **What a scan yields.**  Run at time `t`, the path it returns is the one the snapshot of that
instant assigns to the device, or the caller's if there is none. -/
lemma getDevicePathFromDevice_value (env : Env) (d : Device) (devPath serial : CxxString) (t : ℕ)
    (s : DriverState) :
    ((getDevicePathFromDevice env d devPath serial).run t s).value.1 =
      (blockDevicePath (env t).sysfs d).getD devPath := by
  unfold getDevicePathFromDevice blockDevicePath
  cases hpath : getUSBDeviceSysfsPath d with
  | none => simp
  | some sysfsPath =>
      cases hdir : (env t).sysfs.directory pluginUsbDeviceBlockPath with
      | none => simp [readSysfs, hdir]
      | some entries => simp [readSysfs, hdir, scanBlockDirectory_eq]

/-- A scan only looks at the file system. -/
lemma getDevicePathFromDevice_emits (env : Env) (d : Device) (devPath serial : CxxString) :
    Prog.Emits (· ∈ [Call.readSysfs, .openDirectory false, .openDirectory true, .closeDirectory])
      (getDevicePathFromDevice env d devPath serial) := by
  unfold getDevicePathFromDevice
  split
  · exact Prog.Emits.pure _
  · refine Prog.Emits.bind (Prog.Emits.ask fun _ => by simp) fun fs => ?_
    dsimp only
    split
    · exact Prog.Emits.bind (Prog.Emits.tell (by simp)) fun _ => Prog.Emits.pure _
    · exact Prog.Emits.bind (Prog.Emits.tell (by simp)) fun _ =>
        Prog.Emits.bind (Prog.Emits.tell (by simp)) fun _ => Prog.Emits.pure _

/-- It is about no USB device. -/
lemma getDevicePathFromDevice_onlyOn (env : Env) (d d' : Device) (devPath serial : CxxString) :
    Prog.Emits (Call.OnlyOn d') (getDevicePathFromDevice env d devPath serial) := by
  refine (getDevicePathFromDevice_emits env d devPath serial).mono fun c hc => ?_
  simp only [List.mem_cons, List.not_mem_nil, or_false] at hc
  rcases hc with rfl | rfl | rfl | rfl <;> simp [Call.OnlyOn, Call.device]

/-- The directory is closed again. -/
lemma getDevicePathFromDevice_balanced (env : Env) (d : Device) (devPath serial : CxxString) :
    Prog.Balanced account (getDevicePathFromDevice env d devPath serial) := by
  unfold getDevicePathFromDevice
  split
  · exact Prog.Balanced.pure _
  · refine Prog.Balanced.bind (Prog.Balanced.ask fun _ _ => rfl) fun fs => ?_
    dsimp only
    split
    · exact Prog.Balanced.bind (Prog.Balanced.tell fun _ => rfl) fun _ => Prog.Balanced.pure _
    · exact Prog.Balanced.acquire fun _ held => ⟨_, rfl, Prog.Leads.release
        (Prog.Balanced.pure PUnit.unit) rfl fun _ => Prog.Balanced.pure _⟩

/-- A path that was found is not empty. -/
lemma blockDevicePath_ne_nil {fs : Sysfs} {d : Device} {path : CxxString}
    (h : blockDevicePath fs d = some path) : path ≠ [] := by
  unfold blockDevicePath at h
  split at h
  · obtain ⟨name, -, rfl⟩ := Option.map_eq_some_iff.mp h
    simp
  · exact absurd h (by simp)

end Usb
