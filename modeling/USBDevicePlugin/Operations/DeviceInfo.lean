import USBDevicePlugin.Device.Info
import USBDevicePlugin.Operations.DeviceList
import USBDevicePlugin.Operations.DeviceScan

/-!
# GetDeviceInfo

The operation goes through the whole device list and describes every device with the given name.
Where the device sits in the tree is worked out only when its description fails.

* **`getDeviceInfo_run`** — the call on a device of the list comes down to describing that device.
* **`deviceInfo_eq_entry_iff`** — when the description agrees with the device's entry in
  `GetDeviceList`.
-/

namespace Usb

open Interaction

/-! ## The code -/

/-- The parent's index: the last device of the list that sits on the port one level up. -/
def findParent (devs : List Device) (portNo parentId : UInt8) : UInt8 :=
  devs.zipIdx.foldl
    (fun parentId (device, j) =>
      if portNo = device.portNumber then UInt8.ofNat j else parentId)
    parentId

/-- Level and parent of a device.  The level is the length of the port chain, or the error code,
as a byte. -/
def locateDevice (devs : List Device) (d : Device) (info : USBDeviceInfo) : USBDeviceInfo :=
  let (numbOfElements, portPath) := libusbGetPortNumbers d 8
  let deviceLevel := UInt8.ofInt numbOfElements
  { info with
    deviceLevel
    parentId :=
      -- an error code is a level beyond the array; no USB tree is deep enough for one
      if 1 < deviceLevel then
        findParent devs (portPath.getD (deviceLevel.toNat - 2) 0) info.parentId
      else 0 }

/-- The loop body: pass over devices with another name. -/
def readNamedDevice (env : Env) (deviceName : CxxString) (devs : List Device)
    (acc : Status × USBDeviceInfo) (d : Device) : Plugin (Status × USBDeviceInfo) :=
  if deviceName ≠ usbDeviceName d then pure acc
  else do
    let (status, deviceInfo) ← getUSBDeviceInfoStructFromDeviceDescriptor env d acc.2
    pure (status, if status ≠ .errorNone then locateDevice devs d deviceInfo else deviceInfo)

/-- `GetDeviceInfo`. -/
def getDeviceInfo (env : Env) (deviceName : CxxString) (deviceInfo : USBDeviceInfo) :
    Plugin (Status × USBDeviceInfo) :=
  withDeviceList env (.errorGeneral, deviceInfo) fun devs =>
    devs.foldlM (readNamedDevice env deviceName devs) (.errorGeneral, deviceInfo)

/-! ## The loop -/

lemma readNamedDevice_of_ne (env : Env) {deviceName : CxxString} (devs : List Device) {d : Device}
    (hname : deviceName ≠ usbDeviceName d) (acc : Status × USBDeviceInfo) :
    readNamedDevice env deviceName devs acc d = pure acc := by
  rw [readNamedDevice, if_pos hname]

/-- **One device is described**: the one whose name is given. -/
theorem getDeviceInfo_run {env : Env} {t : ℕ} (hdistinct : Distinct (env (t + 1)).devices)
    {d : Device} (hd : d ∈ (env (t + 1)).devices) (deviceInfo : USBDeviceInfo) (s : DriverState) :
    (getDeviceInfo env (usbDeviceName d) deviceInfo).run t s =
      let r := (getUSBDeviceInfoStructFromDeviceDescriptor env d deviceInfo).run (t + 2) s
      ⟨(r.value.1, if r.value.1 ≠ .errorNone then locateDevice (env (t + 1)).devices d r.value.2
          else r.value.2),
        .lock :: .getDeviceList (env (t + 1)).devices :: (r.calls ++ [.freeDeviceList, .unlock]),
        r.store⟩ := by
  obtain ⟨pre, post, hsplit, hskip⟩ := hdistinct.exists_split hd
  have hloop := Prog.foldlM_run_of_single d post pre
    (fun x hx => readNamedDevice_of_ne env (env (t + 1)).devices (hskip x hx))
    (.errorGeneral, deviceInfo) (t + 2) s
  rw [← hsplit] at hloop
  rw [getDeviceInfo, withDeviceList_run_cons (List.ne_nil_of_mem hd), hloop]
  simp [readNamedDevice]

/-- **Nothing is described** if no device has the name. -/
theorem getDeviceInfo_run_of_not_named {env : Env} {t : ℕ} {deviceName : CxxString}
    (hname : ∀ d ∈ (env (t + 1)).devices, deviceName ≠ usbDeviceName d)
    (deviceInfo : USBDeviceInfo) (s : DriverState) :
    ((getDeviceInfo env deviceName deviceInfo).run t s).value = (.errorGeneral, deviceInfo) ∧
      ((getDeviceInfo env deviceName deviceInfo).run t s).calls ⊆
        [.lock, .getDeviceList (env (t + 1)).devices, .freeDeviceList, .unlock] ∧
      ((getDeviceInfo env deviceName deviceInfo).run t s).store = s := by
  by_cases hdevs : (env (t + 1)).devices = []
  · rw [getDeviceInfo, withDeviceList_run_nil hdevs, hdevs]
    exact ⟨rfl, by simp, rfl⟩
  · have hskip := Prog.foldlM_run_of_skip (l := (env (t + 1)).devices)
      (fun x hx => readNamedDevice_of_ne env (env (t + 1)).devices (hname x hx))
      (.errorGeneral, deviceInfo) (t + 2) s
    rw [getDeviceInfo, withDeviceList_run_cons hdevs, hskip]
    exact ⟨rfl, by simp, rfl⟩

/-! ## Success -/

/-- The call succeeds when the description does. -/
lemma getDeviceInfo_status {env : Env} {t : ℕ} (hdistinct : Distinct (env (t + 1)).devices)
    {d : Device} (hd : d ∈ (env (t + 1)).devices) (deviceInfo : USBDeviceInfo) (s : DriverState) :
    ((getDeviceInfo env (usbDeviceName d) deviceInfo).run t s).value.1 = .errorNone ↔
      InfoRead env d deviceInfo.device (t + 2) := by
  rw [getDeviceInfo_run hdistinct hd]
  exact getUSBDeviceInfoStructFromDeviceDescriptor_status env d deviceInfo (t + 2) s

/-- After a success the structure is as the description left it. -/
lemma getDeviceInfo_info_of_success {env : Env} {t : ℕ}
    (hdistinct : Distinct (env (t + 1)).devices) {d : Device} (hd : d ∈ (env (t + 1)).devices)
    {deviceInfo : USBDeviceInfo} (hread : InfoRead env d deviceInfo.device (t + 2))
    (s : DriverState) :
    ((getDeviceInfo env (usbDeviceName d) deviceInfo).run t s).value.2 =
      ((getUSBDeviceInfoStructFromDeviceDescriptor env d deviceInfo).run (t + 2) s).value.2 := by
  have hstatus := (getUSBDeviceInfoStructFromDeviceDescriptor_status env d deviceInfo (t + 2) s).mpr
    hread
  rw [getDeviceInfo_run hdistinct hd]
  simp only [hstatus, ne_eq, not_true, if_false]

/-- A call that succeeds says nothing about the tree: level and parent are the caller's. -/
lemma getDeviceInfo_place_of_success {env : Env} {t : ℕ}
    (hdistinct : Distinct (env (t + 1)).devices) {d : Device} (hd : d ∈ (env (t + 1)).devices)
    {deviceInfo : USBDeviceInfo} {s : DriverState}
    (hread : InfoRead env d deviceInfo.device (t + 2)) :
    let r := (getDeviceInfo env (usbDeviceName d) deviceInfo).run t s
    r.value.2.deviceLevel = deviceInfo.deviceLevel ∧ r.value.2.parentId = deviceInfo.parentId := by
  intro r
  rw [getDeviceInfo_info_of_success hdistinct hd hread s]
  exact getUSBDeviceInfoStructFromDeviceDescriptor_place env d deviceInfo (t + 2) s

/-! ## Agreement with the list -/

/-- The entries of a successful listing are descriptions of listed devices. -/
lemma describe_of_mem_entries {o : Outcomes} {devs : List Device}
    (hlist : o.getDeviceList = .ok devs) {devices : Option (List USBDevice)} {t : ℕ}
    {s : DriverState} {entries : List USBDevice} (hne : devs ≠ [])
    (hentries : ((getDeviceList o.steady devices).run t s).value = (.errorNone, some entries))
    {entry : USBDevice} (hentry : entry ∈ entries) :
    ∃ d ∈ devs, describe o d = some entry := by
  have ho : o.enumerating devs = o := by rw [Outcomes.enumerating, ← hlist]
  have hvalue := getDeviceList_value o hne devices t s
  rw [ho, hentries, Prod.mk.injEq] at hvalue
  obtain ⟨hstatus, hsome⟩ := hvalue
  rw [if_pos hstatus.symm, Option.some.injEq] at hsome
  exact List.mem_filterMap.mp (hsome ▸ hentry)

/-- The entry with a device's name is the description of this device. -/
lemma describe_of_entry_named {o : Outcomes} {devs : List Device} (hlist : o.getDeviceList = .ok devs)
    (hdistinct : Distinct devs) {d : Device} (hd : d ∈ devs) {devices : Option (List USBDevice)}
    {t : ℕ} {s : DriverState} {entries : List USBDevice}
    (hentries : ((getDeviceList o.steady devices).run t s).value = (.errorNone, some entries))
    {entry : USBDevice} (hentry : entry ∈ entries) (hname : entry.deviceName = usbDeviceName d) :
    describe o d = some entry := by
  obtain ⟨d', hd', hdescribe⟩ :=
    describe_of_mem_entries hlist (List.ne_nil_of_mem hd) hentries hentry
  obtain rfl : d = d' :=
    hdistinct.eq_of_name hd hd' (hname.symm.trans (describe_deviceName hdescribe))
  exact hdescribe

/-- The `device` part of a successful `GetDeviceInfo` on a fresh structure. -/
lemma getDeviceInfo_device {o : Outcomes} {devs : List Device}
    (hlist : o.getDeviceList = .ok devs) (hdistinct : Distinct devs) {d : Device} (hd : d ∈ devs)
    {desc : DeviceDescriptor} (hdesc : o.getDeviceDescriptor d = .ok desc) {t : ℕ} {s : DriverState}
    {info : USBDeviceInfo}
    (hinfo : ((getDeviceInfo o.steady (usbDeviceName d) {}).run t s).value = (.errorNone, info)) :
    info.device = infoDevice o d desc := by
  have hdevs : (o.steady (t + 1)).devices = devs := by
    simp only [Outcomes.steady, Outcomes.devices, hlist]
    rfl
  have hvalue := getUSBDeviceInfoStructFromDeviceDescriptor_device_steady o d hdesc (t + 2) s
  rw [getDeviceInfo_run (hdevs ▸ hdistinct) (hdevs ▸ hd)] at hinfo
  obtain ⟨hstatus, hdevice⟩ := Prod.mk.inj hinfo
  rw [if_neg (by rw [hstatus]; simp)] at hdevice
  rw [← hdevice, hvalue]

/-- **`GetDeviceInfo` describes a device as `GetDeviceList` does exactly when the descriptors and
the file system meet the condition.** -/
theorem deviceInfo_eq_entry_iff {o : Outcomes} {devs : List Device}
    (hlist : o.getDeviceList = .ok devs) (hdistinct : Distinct devs) {d : Device} (hd : d ∈ devs)
    {devices : Option (List USBDevice)} {t : ℕ} {s : DriverState} {entries : List USBDevice}
    (hentries : ((getDeviceList o.steady devices).run t s).value = (.errorNone, some entries))
    {entry : USBDevice} (hentry : entry ∈ entries) (hname : entry.deviceName = usbDeviceName d)
    {t' : ℕ} {s' : DriverState} {info : USBDeviceInfo}
    (hinfo : ((getDeviceInfo o.steady entry.deviceName {}).run t' s').value = (.errorNone, info)) :
    info.device = entry ↔ DescriptionsAgree o d := by
  have hdescribe := describe_of_entry_named hlist hdistinct hd hentries hentry hname
  obtain ⟨desc, hdesc⟩ := exists_descriptor_of_describe hdescribe
  rw [hname] at hinfo
  rw [getDeviceInfo_device hlist hdistinct hd hdesc hinfo, ← infoDevice_eq_describe_iff hdesc,
    hdescribe, Option.some.injEq, eq_comm]

/-- The sample bus with the stick as sticks are made: the class is left to the one interface. -/
def sampleInterfaceStick : Outcomes :=
  { sampleOutcomes with
    getDeviceDescriptor := fun _ =>
      .ok { sampleDescriptor with bDeviceClass := classPerInterface, bDeviceSubClass := 0 }
    getConfigDescriptor := fun _ =>
      .ok (some { interface := [[⟨classMassStorage, 6⟩]], bmAttributes := 0x80 }) }

/-- The condition met: the class comes from the interface, and the disk is found. -/
theorem deviceInfo_eq_entry_interfaceStick :
    ((getDeviceInfo sampleInterfaceStick.steady "001/005".toList {}).run 0
        (fun _ _ => false)).value.2.device =
      ⟨classMassStorage, 6, "001/005".toList, "/dev/sda".toList⟩ := by
  have hentries : ((getDeviceList sampleInterfaceStick.steady none).run 0
      (fun _ _ => false)).value =
      (.errorNone, some [⟨classMassStorage, 6, "001/005".toList, "/dev/sda".toList⟩]) := by decide
  have hstatus : ((getDeviceInfo sampleInterfaceStick.steady "001/005".toList {}).run 0
      (fun _ _ => false)).value.1 = .errorNone := by decide
  have hlist : sampleInterfaceStick.getDeviceList = .ok [sampleDisk] := rfl
  refine (deviceInfo_eq_entry_iff hlist (by decide) (List.mem_singleton.mpr rfl) hentries
    (List.mem_singleton.mpr rfl) (by decide) (Prod.ext hstatus rfl)).mpr fun desc hdesc => ?_
  obtain rfl := Except.ok.inj hdesc
  refine ⟨fun _ => Or.inl ⟨_, rfl, by decide⟩, fun hclass => absurd hclass (by decide)⟩

/-- **The disk is there in the list and gone in the info.**  On the sample bus the list entry of
the stick has the path `/dev/sda`; `GetDeviceInfo` on its name succeeds and reports no path. -/
theorem deviceInfo_ne_entry_sampleDisk :
    ∃ (entry : USBDevice) (info : USBDeviceInfo),
      ((getDeviceList sampleOutcomes.steady none).run 0 (fun _ _ => false)).value =
        (.errorNone, some [entry]) ∧
      ((getDeviceInfo sampleOutcomes.steady entry.deviceName {}).run 0 (fun _ _ => false)).value =
        (.errorNone, info) ∧
      entry.devicePath = "/dev/sda".toList ∧ info.device.devicePath = [] ∧ info.device ≠ entry := by
  refine ⟨⟨classMassStorage, 6, "001/005".toList, "/dev/sda".toList⟩,
    ((getDeviceInfo sampleOutcomes.steady "001/005".toList {}).run 0 (fun _ _ => false)).value.2,
    by decide, Prod.ext ?_ rfl, rfl, by decide, by decide⟩
  decide

end Usb
