import USBDevicePlugin.Core.Decimal
import USBDevicePlugin.Device.Path

/-!
# The sysfs name of a device

sysfs names a USB device after the place it is plugged in: the bus, a dash, and the ports on the way
to it with dots in between.  `getUSBDeviceSysfsPath` puts this name together from what libusb reports,
and `getDeviceSerialNumber` makes it part of the path of a file.

* `decodeSysfsPath` — reading the name: split at the first dash, then at each dot.
* `serialFile` — the file with the serial number of a device.
* **`sysfsPath_exact`** — the name is read back exactly, so no two places share a name or a file.
-/

namespace Usb

/-! ## The code -/

/-- The part of `getUSBDeviceSysfsPath` behind the two libusb calls, with its out-parameter: the
answer, and the path argument afterwards. -/
def buildSysfsPath (busNumber : UInt8) (numbOfElements : Int) (devPath : List UInt8)
    (sysfsPath : CxxString) : Bool × CxxString :=
  if numbOfElements ≤ 0 then (false, sysfsPath)
  else
    (true, (List.range' 1 (numbOfElements.toNat - 1)).foldl
      (fun sysfsPath indexPath =>
        sysfsPath ++ (".".toList ++ toDecimal (devPath.getD indexPath 0)))
      (toDecimal busNumber ++ "-".toList ++ toDecimal (devPath.getD 0 0)))

/-- `getUSBDeviceSysfsPath`, with its out-parameter. -/
def getUSBDeviceSysfsPathInto (d : Device) (sysfsPath : CxxString) : Bool × CxxString :=
  let (numbOfElements, devPath) := libusbGetPortNumbers d 8
  buildSysfsPath d.busNumber numbOfElements devPath sysfsPath

/-- The file `getDeviceSerialNumber` is after. -/
def serialFile (sysfsPath : CxxString) : CxxString :=
  pluginUsbDevicePath ++ "/".toList ++ sysfsPath ++ "/serial".toList

/-- The file it opens: what `snprintf` gets into the buffer. -/
def serialPath (sysfsPath : CxxString) : CxxString := (serialFile sysfsPath).take 255

lemma getDeviceSerialNumber_eq (fs : Sysfs) (sysfsPath serialNumber : CxxString) :
    getDeviceSerialNumber fs sysfsPath serialNumber =
      ((fs.contents (serialPath sysfsPath)).map getline).getD serialNumber := by
  simp only [getDeviceSerialNumber, serialPath, serialFile]
  split <;> simp_all

/-! ## The loop over the ports -/

/-- An indexed loop over all but the first element of a list, appending something for each. -/
lemma foldl_append_getD (f : UInt8 → CxxString) (port : UInt8) :
    ∀ (done ports : List UInt8) (text : CxxString),
      (List.range' (done.length + 1) ports.length).foldl
        (fun text i => text ++ f ((port :: (done ++ ports)).getD i 0)) text =
      text ++ ports.flatMap f
  | _, [], text => by simp
  | done, p :: ports, text => by
      have ih := foldl_append_getD f port (done ++ [p]) ports (text ++ f p)
      have hget : (port :: (done ++ p :: ports)).getD (done.length + 1) 0 = p := by simp
      rw [List.length_cons, List.range'_succ, List.foldl_cons, hget]
      simpa [List.append_assoc] using ih

/-- The out-parameter is set when there is a path. -/
lemma getUSBDeviceSysfsPathInto_eq (d : Device) (sysfsPath : CxxString) :
    getUSBDeviceSysfsPathInto d sysfsPath =
      match getUSBDeviceSysfsPath d with
      | none => (false, sysfsPath)
      | some path => (true, path) := by
  unfold getUSBDeviceSysfsPathInto getUSBDeviceSysfsPath buildSysfsPath libusbGetPortNumbers
  by_cases hlong : 8 < d.portChain.length
  · simp [hlong, libusbErrorOverflow]
  · rw [if_neg hlong]
    cases d.portChain with
    | nil => simp
    | cons port ports =>
        have hloop := foldl_append_getD (fun p => ".".toList ++ toDecimal p) port [] ports
          (toDecimal d.busNumber ++ "-".toList ++ toDecimal port)
        have hpos : ¬ (((port :: ports).length : Int) ≤ 0) := by
          rw [List.length_cons]
          omega
        dsimp only
        rw [if_neg hpos, if_neg hpos]
        simpa using hloop

/-! ## Reading the name -/

/-- The bus number and the ports of a name. -/
def decodeSysfsPath (path : CxxString) : ℕ × List ℕ :=
  let (bus, ports) := Decimal.splitFirst '-' path
  (Nat.ofDigitChars 10 bus 0, Decimal.readJoined '.' ports)

/-- The place of a device: its bus, and the ports on the way to it. -/
def Device.place (d : Device) : UInt8 × List UInt8 := (d.busNumber, d.portChain)

/-- A device with a port chain that fits the plugin's array. -/
def HasPlace (d : Device) : Prop := 1 ≤ d.portChain.length ∧ d.portChain.length ≤ 8

instance (d : Device) : Decidable (HasPlace d) :=
  inferInstanceAs (Decidable (1 ≤ d.portChain.length ∧ d.portChain.length ≤ 8))

lemma HasPlace.ports_ne_nil {d : Device} (h : HasPlace d) : d.portChain.map UInt8.toNat ≠ [] := by
  intro hnil
  have hpos := h.1
  simp [List.map_eq_nil_iff.mp hnil] at hpos

/-- The name as the numbers it is made of. -/
lemma getUSBDeviceSysfsPath_eq {d : Device} (h : HasPlace d) :
    getUSBDeviceSysfsPath d = some (Nat.toDigits 10 d.busNumber.toNat ++
      '-' :: Decimal.joined '.' (d.portChain.map UInt8.toNat)) := by
  obtain ⟨hpos, hfits⟩ := h
  obtain ⟨port, ports, hchain⟩ := List.exists_cons_of_length_pos hpos
  have hfits' : ¬ 8 < ports.length + 1 := by simpa [hchain] using hfits
  have hpos' : ¬ ((ports.length : Int) + 1 ≤ 0) := by omega
  rw [hchain, List.map_cons, Decimal.joined_cons]
  simp [getUSBDeviceSysfsPath, libusbGetPortNumbers, hchain, hfits', hpos', toDecimal,
    List.flatMap_map]

lemma decodeSysfsPath_eq (bus : ℕ) {ports : List ℕ} (hne : ports ≠ []) :
    decodeSysfsPath (Nat.toDigits 10 bus ++ '-' :: Decimal.joined '.' ports) = (bus, ports) := by
  have hdash : '-' ∉ Nat.toDigits 10 bus := Decimal.not_mem_toDigits (by decide) bus
  rw [decodeSysfsPath, Decimal.splitFirst_append hdash]
  simp only [Nat.ofDigitChars_ten_toDigits, Decimal.readJoined_joined (by decide : '.'.isDigit = false)
    hne]

/-- **Reading the name gives the place.** -/
lemma decodeSysfsPath_place {d : Device} (h : HasPlace d) {path : CxxString}
    (hpath : getUSBDeviceSysfsPath d = some path) :
    decodeSysfsPath path = (d.busNumber.toNat, d.portChain.map UInt8.toNat) := by
  rw [getUSBDeviceSysfsPath_eq h, Option.some.injEq] at hpath
  rw [← hpath, decodeSysfsPath_eq _ h.ports_ne_nil]

lemma place_eq_of_decode_eq {d d' : Device}
    (h : (d.busNumber.toNat, d.portChain.map UInt8.toNat) =
      (d'.busNumber.toNat, d'.portChain.map UInt8.toNat)) : d.place = d'.place := by
  obtain ⟨hbus, hports⟩ := Prod.mk.inj h
  have hinj : Function.Injective UInt8.toNat := fun a b hab => UInt8.toNat_inj.mp hab
  exact Prod.ext (UInt8.toNat_inj.mp hbus) (hinj.list_map hports)

/-! ## The serial file -/

/-- A name has at most 35 characters. -/
lemma length_sysfsPath_le {d : Device} (h : HasPlace d) {path : CxxString}
    (hpath : getUSBDeviceSysfsPath d = some path) : path.length ≤ 35 := by
  have hbyte : ∀ b : UInt8, b.toNat < 10 ^ 3 := fun b => by have := b.toNat_lt; omega
  have hbus : (Nat.toDigits 10 d.busNumber.toNat).length ≤ 3 :=
    Nat.toDigits_length 10 _ 3 (by decide) (hbyte _)
  have hports := Decimal.length_joined_lt (k := 3) (by decide) '.' h.ports_ne_nil (by
    intro n hn
    obtain ⟨b, -, rfl⟩ := List.mem_map.mp hn
    exact hbyte b)
  have hfits := h.2
  rw [getUSBDeviceSysfsPath_eq h, Option.some.injEq] at hpath
  rw [← hpath, List.length_append, List.length_cons]
  rw [List.length_map] at hports
  omega

/-- So the path of the file fits the buffer. -/
lemma serialPath_eq_serialFile {d : Device} (h : HasPlace d) {path : CxxString}
    (hpath : getUSBDeviceSysfsPath d = some path) : serialPath path = serialFile path := by
  have hlength := length_sysfsPath_le h hpath
  have hroot : pluginUsbDevicePath.length = 20 := by decide
  refine List.take_of_length_le ?_
  simp only [serialFile, List.length_append, hroot]
  simp
  omega

lemma serialFile_injective : Function.Injective serialFile := by
  intro path path' h
  simp only [serialFile, List.append_assoc] at h
  exact List.append_cancel_right (List.append_cancel_left (List.append_cancel_left h))

/-- **The name is an exact encoding of the place.**  Every device with a chain of one to eight ports
gets a name, the name is read back as its bus and ports, and the file with its serial number is opened
under its whole path; devices in different places get different names and open different files; and
without a chain, or on an error, there is no name and the argument is left alone. -/
theorem sysfsPath_exact :
    (∀ (d : Device) (sysfsPath : CxxString), HasPlace d →
      ∃ path, getUSBDeviceSysfsPathInto d sysfsPath = (true, path) ∧
        decodeSysfsPath path = (d.busNumber.toNat, d.portChain.map UInt8.toNat) ∧
        ∀ (fs : Sysfs) (serialNumber : CxxString), getDeviceSerialNumber fs path serialNumber =
          ((fs.contents (serialFile path)).map getline).getD serialNumber) ∧
    (∀ (d d' : Device) (sysfsPath sysfsPath' : CxxString), HasPlace d → HasPlace d' →
      d.place ≠ d'.place →
        let path := (getUSBDeviceSysfsPathInto d sysfsPath).2
        let path' := (getUSBDeviceSysfsPathInto d' sysfsPath').2
        path ≠ path' ∧ serialPath path ≠ serialPath path') ∧
    (∀ (d : Device) (sysfsPath : CxxString), d.portChain = [] →
      getUSBDeviceSysfsPathInto d sysfsPath = (false, sysfsPath)) ∧
    ∀ (busNumber : UInt8) (e : LibusbError) (devPath : List UInt8) (sysfsPath : CxxString),
      buildSysfsPath busNumber e devPath sysfsPath = (false, sysfsPath) := by
  refine ⟨fun d sysfsPath h => ?_, fun d d' sysfsPath sysfsPath' h h' hplace => ?_,
    fun d sysfsPath hnil => ?_, fun busNumber e devPath sysfsPath => ?_⟩
  · have hpath := getUSBDeviceSysfsPath_eq h
    refine ⟨_, by rw [getUSBDeviceSysfsPathInto_eq, hpath], decodeSysfsPath_place h hpath, ?_⟩
    intro fs serialNumber
    rw [getDeviceSerialNumber_eq, serialPath_eq_serialFile h hpath]
  · have hpath := getUSBDeviceSysfsPath_eq h
    have hpath' := getUSBDeviceSysfsPath_eq h'
    simp only [getUSBDeviceSysfsPathInto_eq, hpath, hpath', serialPath_eq_serialFile h hpath,
      serialPath_eq_serialFile h' hpath', ne_eq, serialFile_injective.eq_iff, and_self]
    intro heq
    refine hplace (place_eq_of_decode_eq ?_)
    rw [← decodeSysfsPath_place h hpath, heq, decodeSysfsPath_place h' hpath']
  · simp [getUSBDeviceSysfsPathInto, libusbGetPortNumbers, buildSysfsPath, hnil]
  · exact if_pos e.property.le

/-- A device behind two hubs. -/
def sampleNested : Device :=
  { pointer := 2, busNumber := 2, deviceAddress := 7, portChain := [1, 4, 2], portNumber := 2,
    speed := 3 }

example : getUSBDeviceSysfsPath sampleNested = some "2-1.4.2".toList := by decide

end Usb
