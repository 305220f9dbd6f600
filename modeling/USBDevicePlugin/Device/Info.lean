import USBDevicePlugin.Device.ExtInfo

/-!
# The full description of a device

`getUSBDeviceInfoStructFromDeviceDescriptor` fills in a whole `USBDeviceInfo`; the four fields of
the short description are among them, in `device`.  It is called from `GetDeviceInfo`.

The class of the device is determined here by other code than in the short description, and not in
the same way: unless the interfaces say mass storage, class and subclass are the device's own, and
only then is there no path.

* `infoDevice` — the `device` part as a function of one instant's outcomes.
* **`infoDevice_eq_describe_iff`** — when it agrees with the short description.
-/

namespace Usb

open Interaction

/-! ## The code -/

/-- The class branch: the interfaces are asked about the class, the device's own is left for
later. -/
def searchInterfaceClass (env : Env) (d : Device) (desc : DeviceDescriptor) (device : USBDevice) :
    Plugin (UInt8 × UInt8) :=
  if desc.bDeviceClass = classPerInterface then
    getUSBDevicClassFromInterfaceDescriptor env d device.deviceClass device.deviceSubclass
  else pure (device.deviceClass, device.deviceSubclass)

/-- The class and path branches together: the part of the structure that is also in a `USBDevice`,
and the serial number, which the path lookup finds on the way.  The class is tested before it is
assigned: for a device with a class of its own, the test sees the class the caller's structure came
with. -/
def searchInfoDevice (env : Env) (d : Device) (desc : DeviceDescriptor) (device : USBDevice)
    (serialNumber : CxxString) : Plugin (USBDevice × CxxString) := do
  let bDevice ← searchInterfaceClass env d desc device
  if bDevice.1 ≠ classMassStorage then
    pure
      ({ deviceClass := desc.bDeviceClass
         deviceSubclass := desc.bDeviceSubClass
         deviceName := usbDeviceName d
         devicePath := device.devicePath }, serialNumber)
  else do
    let found ← getDevicePathFromDevice env d device.devicePath serialNumber
    pure
      ({ deviceClass := bDevice.1
         deviceSubclass := bDevice.2
         deviceName := usbDeviceName d
         devicePath := found.1 }, found.2)

/-- The status of the device, from its active configuration.  The descriptor is not freed. -/
def readDeviceStatus (env : Env) (d : Device) : Plugin USBDeviceStatus := do
  match ← libusbGetActiveConfigDescriptor env d with
  | .ok config =>
      if config.bmAttributes &&& configAttSelfPowered ≠ 0 then pure .selfPoweredActive
      else pure .active
  | .error _ => pure .noDeviceConnected

/-- Fill in everything known about a device. -/
def getUSBDeviceInfoStructFromDeviceDescriptor (env : Env) (d : Device) (info : USBDeviceInfo) :
    Plugin (Status × USBDeviceInfo) := do
  match ← libusbGetDeviceDescriptor env d with
  | .error _ => pure (.errorGeneral, info)
  | .ok desc => do
      let found ← searchInfoDevice env d desc info.device info.serialNumber
      let deviceStatus ← readDeviceStatus env d
      getUSBExtInfoStructFromDeviceDescriptor env d desc
        { info with
          vendorId := desc.idVendor
          productId := desc.idProduct
          device := found.1
          serialNumber := found.2
          flags := .driverAvailable
          portNumber := d.portNumber
          protocol := desc.bDeviceProtocol
          busSpeed := d.speed
          deviceStatus }

/-! ## The strings do not touch the rest -/

/-- The structure without languages and strings. -/
def USBDeviceInfo.withoutStrings (info : USBDeviceInfo) : USBDeviceInfo :=
  { info with
    numLanguageIds := 0, productInfo1 := {}, productInfo2 := {}, productInfo3 := {},
    productInfo4 := {} }

lemma languageStep_withoutStrings (env : Env) (d : Device) (desc : DeviceDescriptor)
    (langBuff : List UInt8) (languageCount : ℕ) (info : USBDeviceInfo) (t : ℕ) (s : DriverState) :
    ((languageStep env d desc langBuff languageCount info).run t s).value.withoutStrings =
      info.withoutStrings := by
  match languageCount with
  | 0 | 1 | 2 | 3 | _ + 4 => rfl

lemma languageLoop_withoutStrings (env : Env) (d : Device) (desc : DeviceDescriptor)
    (langBuff : List UInt8) :
    ∀ (languages : List ℕ) (info : USBDeviceInfo) (t : ℕ) (s : DriverState),
      ((languages.foldlM (fun info languageCount =>
        languageStep env d desc langBuff languageCount info) info).run t s).value.withoutStrings =
          info.withoutStrings
  | [], _, _, _ => rfl
  | languageCount :: languages, info, t, s => by
      rw [List.foldlM_cons, Prog.bind_run]
      exact (languageLoop_withoutStrings env d desc langBuff languages _ _ _).trans
        (languageStep_withoutStrings env d desc langBuff languageCount info t s)

lemma getUSBExtInfoStructFromDeviceDescriptor_withoutStrings (env : Env) (d : Device)
    (desc : DeviceDescriptor) (info : USBDeviceInfo) (t : ℕ) (s : DriverState) :
    ((getUSBExtInfoStructFromDeviceDescriptor env d desc info).run t s).value.2.withoutStrings =
      info.withoutStrings :=
  getUSBExtInfoStructFromDeviceDescriptor_induct
    (P := fun info' => info'.withoutStrings = info.withoutStrings) rfl (fun _ _ => rfl)
    (fun langBuff t s => languageLoop_withoutStrings env d desc langBuff _ _ t s) t s

lemma getUSBExtInfoStructFromDeviceDescriptor_device (env : Env) (d : Device)
    (desc : DeviceDescriptor) (info : USBDeviceInfo) (t : ℕ) (s : DriverState) :
    ((getUSBExtInfoStructFromDeviceDescriptor env d desc info).run t s).value.2.device =
      info.device := by
  have hrest := getUSBExtInfoStructFromDeviceDescriptor_withoutStrings env d desc info t s
  have hdevice := congrArg USBDeviceInfo.device hrest
  exact hdevice

lemma getUSBExtInfoStructFromDeviceDescriptor_place (env : Env) (d : Device)
    (desc : DeviceDescriptor) (info : USBDeviceInfo) (t : ℕ) (s : DriverState) :
    let r := (getUSBExtInfoStructFromDeviceDescriptor env d desc info).run t s
    r.value.2.deviceLevel = info.deviceLevel ∧ r.value.2.parentId = info.parentId := by
  have hrest := getUSBExtInfoStructFromDeviceDescriptor_withoutStrings env d desc info t s
  have hlevel := congrArg USBDeviceInfo.deviceLevel hrest
  have hparent := congrArg USBDeviceInfo.parentId hrest
  exact ⟨hlevel, hparent⟩

/-- Nothing here says where the device is in the tree: level and parent stay as they are. -/
lemma getUSBDeviceInfoStructFromDeviceDescriptor_place (env : Env) (d : Device)
    (info : USBDeviceInfo) (t : ℕ) (s : DriverState) :
    let r := (getUSBDeviceInfoStructFromDeviceDescriptor env d info).run t s
    r.value.2.deviceLevel = info.deviceLevel ∧ r.value.2.parentId = info.parentId := by
  simp only [getUSBDeviceInfoStructFromDeviceDescriptor, Prog.bind_run]
  split
  · exact ⟨rfl, rfl⟩
  · exact getUSBExtInfoStructFromDeviceDescriptor_place env d _ _ _ _

/-! ## Call by call -/

/-- Class and subclass as they are when they are tested: what the interfaces say, or the caller's. -/
def classTested (o : Outcomes) (d : Device) (desc : DeviceDescriptor) (device : USBDevice) :
    UInt8 × UInt8 :=
  if desc.bDeviceClass = classPerInterface then
    match o.getConfigDescriptor d with
    | .ok (some config) => classFromInterfaces config (device.deviceClass, device.deviceSubclass)
    | _ => (device.deviceClass, device.deviceSubclass)
  else (device.deviceClass, device.deviceSubclass)

/-- The number of calls class and path take from `t` on. -/
def infoDeviceCalls (env : Env) (d : Device) (desc : DeviceDescriptor) (device : USBDevice)
    (t : ℕ) : ℕ :=
  let search := classCalls (env t) d desc
  if (classTested (env t) d desc device).1 ≠ classMassStorage then search
  else search + pathCalls (env (t + search)).sysfs d

lemma searchInterfaceClass_value (env : Env) (d : Device) (desc : DeviceDescriptor)
    (device : USBDevice) (t : ℕ) (s : DriverState) :
    ((searchInterfaceClass env d desc device).run t s).value = classTested (env t) d desc device := by
  unfold searchInterfaceClass classTested
  split_ifs
  · exact getUSBDevicClassFromInterfaceDescriptor_value env d _ _ t s
  · rfl

lemma searchInterfaceClass_calls_length (env : Env) (d : Device) (desc : DeviceDescriptor)
    (device : USBDevice) (t : ℕ) (s : DriverState) :
    ((searchInterfaceClass env d desc device).run t s).calls.length = classCalls (env t) d desc := by
  unfold searchInterfaceClass
  split_ifs with hper
  · exact getUSBDevicClassFromInterfaceDescriptor_calls_length hper env d _ _ t s
  · simp [classCalls, hper]

lemma searchInfoDevice_calls_length (env : Env) (d : Device) (desc : DeviceDescriptor)
    (device : USBDevice) (serialNumber : CxxString) (t : ℕ) (s : DriverState) :
    ((searchInfoDevice env d desc device serialNumber).run t s).calls.length =
      infoDeviceCalls env d desc device t := by
  have hvalue := searchInterfaceClass_value env d desc device t s
  have hlength := searchInterfaceClass_calls_length env d desc device t s
  simp only [searchInfoDevice, Prog.bind_run, hvalue, hlength, infoDeviceCalls, List.length_append]
  split_ifs with hclass
  · rfl
  · simp only [Prog.bind_run, Prog.pure_run, List.append_nil, getDevicePathFromDevice_calls_length]

lemma searchInfoDevice_balanced (env : Env) (d : Device) (desc : DeviceDescriptor)
    (device : USBDevice) (serialNumber : CxxString) :
    Prog.Balanced account (searchInfoDevice env d desc device serialNumber) := by
  have hclass : Prog.Balanced account (searchInterfaceClass env d desc device) := by
    unfold searchInterfaceClass
    split_ifs
    · exact getUSBDevicClassFromInterfaceDescriptor_balanced env d _ _
    · exact Prog.Balanced.pure _
  refine Prog.Balanced.bind hclass fun bDevice => ?_
  split_ifs
  · exact Prog.Balanced.pure _
  · exact Prog.Balanced.bind (getDevicePathFromDevice_balanced env d _ _) fun _ =>
      Prog.Balanced.pure _

/-- The status of a device, as one instant's outcomes determine it. -/
def deviceStatusOf (o : Outcomes) (d : Device) : USBDeviceStatus :=
  match o.getActiveConfigDescriptor d with
  | .ok config =>
      if config.bmAttributes &&& configAttSelfPowered ≠ 0 then .selfPoweredActive else .active
  | .error _ => .noDeviceConnected

/-- It takes one call. -/
lemma readDeviceStatus_run (env : Env) (d : Device) (t : ℕ) (s : DriverState) :
    (readDeviceStatus env d).run t s = ⟨deviceStatusOf (env t) d,
      [.getActiveConfigDescriptor d ((env t).getActiveConfigDescriptor d).toOption.isSome], s⟩ := by
  simp only [readDeviceStatus, libusbGetActiveConfigDescriptor, Prog.bind_run, Prog.ask_run,
    deviceStatusOf]
  cases (env t).getActiveConfigDescriptor d with
  | error e => rfl
  | ok config =>
      dsimp only
      split_ifs <;> rfl

/-- The structure when the strings are about to be read: all the rest is there. -/
def USBDeviceInfo.filled (info : USBDeviceInfo) (d : Device) (desc : DeviceDescriptor)
    (found : USBDevice × CxxString) (deviceStatus : USBDeviceStatus) : USBDeviceInfo :=
  { info with
    vendorId := desc.idVendor
    productId := desc.idProduct
    device := found.1
    serialNumber := found.2
    flags := .driverAvailable
    portNumber := d.portNumber
    protocol := desc.bDeviceProtocol
    busSpeed := d.speed
    deviceStatus }

/-- The instant at which the active configuration is asked for, in a description that begins at
`t`. -/
def activeConfigAt (env : Env) (d : Device) (desc : DeviceDescriptor) (device : USBDevice)
    (t : ℕ) : ℕ := t + 1 + infoDeviceCalls env d desc device (t + 1)

/-- **A description, call by call**: the descriptor, class and path, the active configuration,
languages and strings. -/
lemma getUSBDeviceInfoStructFromDeviceDescriptor_calls {env : Env} {d : Device} {t : ℕ}
    {desc : DeviceDescriptor} (hdesc : (env t).getDeviceDescriptor d = .ok desc)
    (info : USBDeviceInfo) (s : DriverState) :
    let found := (searchInfoDevice env d desc info.device info.serialNumber).run (t + 1) s
    let config := activeConfigAt env d desc info.device t
    (getUSBDeviceInfoStructFromDeviceDescriptor env d info).run t s =
      let r := (getUSBExtInfoStructFromDeviceDescriptor env d desc
        (info.filled d desc found.value (deviceStatusOf (env config) d))).run (config + 1) found.store
      ⟨r.value, .getDeviceDescriptor d true :: (found.calls ++ .getActiveConfigDescriptor d
        ((env config).getActiveConfigDescriptor d).toOption.isSome :: r.calls), r.store⟩ := by
  have hlength := searchInfoDevice_calls_length env d desc info.device info.serialNumber (t + 1) s
  intro found config
  have hstatus := readDeviceStatus_run env d config found.store
  simp only [getUSBDeviceInfoStructFromDeviceDescriptor, libusbGetDeviceDescriptor, Prog.bind_run,
    Prog.ask_run, hdesc, List.length_singleton, hlength]
  rw [show t + 1 + infoDeviceCalls env d desc info.device (t + 1) = config from rfl, hstatus]
  rfl

/-- Everything is read that the status depends on: the descriptor, and at the end the strings. -/
def InfoRead (env : Env) (d : Device) (device : USBDevice) (t : ℕ) : Prop :=
  ∃ desc, (env t).getDeviceDescriptor d = .ok desc ∧
    StringsRead env d desc (activeConfigAt env d desc device t + 1)

lemma not_infoRead_of_error {env : Env} {d : Device} {t : ℕ} {e : LibusbError}
    (hdesc : (env t).getDeviceDescriptor d = .error e) (device : USBDevice) :
    ¬ InfoRead env d device t := by
  rintro ⟨desc, hok, -⟩
  rw [hdesc] at hok
  exact absurd hok (by simp)

lemma infoRead_iff {env : Env} {d : Device} {t : ℕ} {desc : DeviceDescriptor}
    (hdesc : (env t).getDeviceDescriptor d = .ok desc) (device : USBDevice) :
    InfoRead env d device t ↔ StringsRead env d desc (activeConfigAt env d desc device t + 1) := by
  simp only [InfoRead, hdesc, Except.ok.injEq, exists_eq_left']

/-- **The status of a description.** -/
theorem getUSBDeviceInfoStructFromDeviceDescriptor_status (env : Env) (d : Device)
    (info : USBDeviceInfo) (t : ℕ) (s : DriverState) :
    ((getUSBDeviceInfoStructFromDeviceDescriptor env d info).run t s).value.1 = .errorNone ↔
      InfoRead env d info.device t := by
  cases hdesc : (env t).getDeviceDescriptor d with
  | error e =>
      have hunread := not_infoRead_of_error hdesc info.device
      simp [getUSBDeviceInfoStructFromDeviceDescriptor, libusbGetDeviceDescriptor, hdesc, hunread]
  | ok desc =>
      rw [getUSBDeviceInfoStructFromDeviceDescriptor_calls hdesc, infoRead_iff hdesc]
      exact getUSBExtInfoStructFromDeviceDescriptor_status env d desc _ _ _

/-- The active configuration is obtained. -/
def ActiveConfigKept (env : Env) (d : Device) (device : USBDevice) (t : ℕ) : Prop :=
  ∃ desc, (env t).getDeviceDescriptor d = .ok desc ∧
    ∃ config, (env (activeConfigAt env d desc device t)).getActiveConfigDescriptor d = .ok config

/-- **What a description keeps**: the active configuration, if it is obtained. -/
theorem getUSBDeviceInfoStructFromDeviceDescriptor_replay (env : Env) (d : Device)
    (info : USBDeviceInfo) (t : ℕ) (s : DriverState) :
    ∃ kept : List Device, (kept = [] ↔ ¬ ActiveConfigKept env d info.device t) ∧ ∀ held,
      Prog.replay account held ((getUSBDeviceInfoStructFromDeviceDescriptor env d info).run t
        s).calls = some { held with configs := kept ++ held.configs } := by
  unfold ActiveConfigKept
  cases hdesc : (env t).getDeviceDescriptor d with
  | error e =>
      refine ⟨[], by simp, fun held => ?_⟩
      simp [getUSBDeviceInfoStructFromDeviceDescriptor, libusbGetDeviceDescriptor, hdesc, account]
  | ok desc =>
      have hrun := getUSBDeviceInfoStructFromDeviceDescriptor_calls hdesc info s
      have hfound := (searchInfoDevice_balanced env d desc info.device info.serialNumber).replay_eq
      have hstrings := fun info' =>
        (getUSBExtInfoStructFromDeviceDescriptor_balanced env d desc info').replay_eq
      rw [hrun]
      cases hconfig : (env (activeConfigAt env d desc info.device t)).getActiveConfigDescriptor d with
      | error e =>
          refine ⟨[], by simp [hconfig], fun held => ?_⟩
          simp [Prog.replay_append, account, hfound, hstrings, Except.toOption]
      | ok config =>
          refine ⟨[d], by simp [hconfig], fun held => ?_⟩
          simp [Prog.replay_append, account, hfound, hstrings, Except.toOption]

/-! ## The device part -/

/-- The `device` part of a freshly filled in structure, as one instant's outcomes determine it. -/
def infoDevice (o : Outcomes) (d : Device) (desc : DeviceDescriptor) : USBDevice :=
  let bDevice := if desc.bDeviceClass = classPerInterface then interfaceClass o d else (0, 0)
  if bDevice.1 ≠ classMassStorage then
    { deviceClass := desc.bDeviceClass
      deviceSubclass := desc.bDeviceSubClass
      deviceName := usbDeviceName d }
  else
    { deviceClass := bDevice.1
      deviceSubclass := bDevice.2
      deviceName := usbDeviceName d
      devicePath := (blockDevicePath o.sysfs d).getD [] }

lemma searchInterfaceClass_steady (o : Outcomes) (d : Device) (desc : DeviceDescriptor) :
    (searchInterfaceClass o.steady d desc {}).Returns
      (if desc.bDeviceClass = classPerInterface then interfaceClass o d else (0, 0)) :=
  searchInterfaceClass_value o.steady d desc {}

lemma searchInfoDevice_steady (o : Outcomes) (d : Device) (desc : DeviceDescriptor)
    (serialNumber : CxxString) (t : ℕ) (s : DriverState) :
    ((searchInfoDevice o.steady d desc {} serialNumber).run t s).value.1 = infoDevice o d desc := by
  simp only [searchInfoDevice, Prog.bind_run, searchInterfaceClass_steady o d desc t s, infoDevice]
  split_ifs
  all_goals simp [getDevicePathFromDevice_value, Outcomes.steady]

/-- The `device` part the code returns, in an unchanging environment and from a fresh structure. -/
lemma getUSBDeviceInfoStructFromDeviceDescriptor_device_steady (o : Outcomes) (d : Device)
    {desc : DeviceDescriptor} (hdesc : o.getDeviceDescriptor d = .ok desc) (t : ℕ)
    (s : DriverState) :
    ((getUSBDeviceInfoStructFromDeviceDescriptor o.steady d {}).run t s).value.2.device =
      infoDevice o d desc := by
  have hdesc' : (o.steady t).getDeviceDescriptor d = .ok desc := hdesc
  simp only [getUSBDeviceInfoStructFromDeviceDescriptor, libusbGetDeviceDescriptor, Prog.bind_run,
    Prog.ask_run, hdesc', getUSBExtInfoStructFromDeviceDescriptor_device, searchInfoDevice_steady]

/-- Without a device descriptor nothing is filled in. -/
lemma getUSBDeviceInfoStructFromDeviceDescriptor_of_error {env : Env} {d : Device} {t : ℕ}
    {e : LibusbError} (hdesc : (env t).getDeviceDescriptor d = .error e) (info : USBDeviceInfo)
    (s : DriverState) :
    ((getUSBDeviceInfoStructFromDeviceDescriptor env d info).run t s).value =
      (.errorGeneral, info) := by
  simp [getUSBDeviceInfoStructFromDeviceDescriptor, libusbGetDeviceDescriptor, hdesc]

/-- With one, the name is. -/
lemma getUSBDeviceInfoStructFromDeviceDescriptor_deviceName {env : Env} {d : Device} {t : ℕ}
    {desc : DeviceDescriptor} (hdesc : (env t).getDeviceDescriptor d = .ok desc)
    (info : USBDeviceInfo) (s : DriverState) :
    ((getUSBDeviceInfoStructFromDeviceDescriptor env d info).run t s).value.2.device.deviceName =
      usbDeviceName d := by
  simp only [getUSBDeviceInfoStructFromDeviceDescriptor, libusbGetDeviceDescriptor, Prog.bind_run,
    Prog.ask_run, hdesc, getUSBExtInfoStructFromDeviceDescriptor_device, searchInfoDevice]
  split_ifs <;> rfl

/-- Everything is asked of the one device. -/
lemma getUSBDeviceInfoStructFromDeviceDescriptor_onlyOn (env : Env) (d : Device)
    (info : USBDeviceInfo) :
    Prog.Emits (Call.OnlyOn d) (getUSBDeviceInfoStructFromDeviceDescriptor env d info) := by
  have hclass : ∀ desc : DeviceDescriptor, Prog.Emits (Call.OnlyOn d)
      (searchInterfaceClass env d desc info.device) := by
    intro desc
    unfold searchInterfaceClass
    split_ifs
    · exact getUSBDevicClassFromInterfaceDescriptor_onlyOn env d _ _
    · exact Prog.Emits.pure _
  have hdevice : ∀ desc : DeviceDescriptor, Prog.Emits (Call.OnlyOn d)
      (searchInfoDevice env d desc info.device info.serialNumber) := by
    refine fun desc => Prog.Emits.bind (hclass desc) fun bDevice => ?_
    split_ifs
    · exact Prog.Emits.pure _
    · exact Prog.Emits.bind (getDevicePathFromDevice_onlyOn env d d _ _) fun _ => Prog.Emits.pure _
  have hstatus : Prog.Emits (Call.OnlyOn d) (readDeviceStatus env d) := by
    refine Prog.Emits.bind (Prog.Emits.ask fun _ => by simp [Call.OnlyOn, Call.device]) fun r => ?_
    split
    · split_ifs <;> exact Prog.Emits.pure _
    · exact Prog.Emits.pure _
  refine Prog.Emits.bind (Prog.Emits.ask fun _ => by simp [Call.OnlyOn, Call.device]) fun r => ?_
  split
  · exact Prog.Emits.pure _
  · exact Prog.Emits.bind (hdevice _) fun _ => Prog.Emits.bind hstatus fun _ =>
      getUSBExtInfoStructFromDeviceDescriptor_onlyOn env d _ _

/-! ## The two descriptions compared -/

/-- The condition on the descriptors and the file system under which the two descriptions agree.
A device that leaves its class to its interfaces needs a mass-storage setting, or the subclass 0;
one that is mass storage itself must not have a disk. -/
def DescriptionsAgree (o : Outcomes) (d : Device) : Prop :=
  ∀ desc, o.getDeviceDescriptor d = .ok desc →
    (desc.bDeviceClass = classPerInterface →
      HasMassStorageSetting o d ∨ desc.bDeviceSubClass = 0) ∧
    (desc.bDeviceClass = classMassStorage → blockDevicePath o.sysfs d = none)

/-- A description needs a device descriptor. -/
lemma exists_descriptor_of_describe {o : Outcomes} {d : Device} {u : USBDevice}
    (h : describe o d = some u) : ∃ desc, o.getDeviceDescriptor d = .ok desc := by
  unfold describe at h
  split at h
  · exact absurd h (by simp)
  · next desc hdesc => exact ⟨desc, hdesc⟩

/-- **When the full description agrees with the short one.** -/
theorem infoDevice_eq_describe_iff {o : Outcomes} {d : Device} {desc : DeviceDescriptor}
    (hdesc : o.getDeviceDescriptor d = .ok desc) :
    describe o d = some (infoDevice o d desc) ↔ DescriptionsAgree o d := by
  have hne : classPerInterface ≠ classMassStorage := by decide
  have hzero : (0 : UInt8) ≠ classMassStorage := by decide
  have hpath : (blockDevicePath o.sysfs d).getD [] = [] ↔ blockDevicePath o.sysfs d = none := by
    cases hb : blockDevicePath o.sysfs d with
    | none => simp
    | some path => simpa using blockDevicePath_ne_nil hb
  simp only [describe, announcedClass, infoDevice, DescriptionsAgree, hdesc, Option.some.injEq,
    Except.ok.injEq, forall_eq']
  by_cases hper : desc.bDeviceClass = classPerInterface
  · by_cases hms : HasMassStorageSetting o d
    · simp [hper, hne, hms, interfaceClass_of_hasMassStorageSetting hms]
    · -- the interfaces say nothing: the short description has subclass 0, the full one the device's
      simp only [hper, hne, hzero, hms, interfaceClass_of_not_hasMassStorageSetting hms, if_true,
        if_false, ne_eq, not_false_eq_true, USBDevice.mk.injEq, false_or, true_implies,
        false_implies, and_true]
      exact ⟨fun h => h.2.symm, fun h => ⟨rfl, h.symm⟩⟩
  · -- the device's own class: the full description never looks for the path
    simp only [hper, hzero, if_false, ne_eq, not_false_eq_true, if_true, USBDevice.mk.injEq,
      true_and, false_implies]
    by_cases hms : desc.bDeviceClass = classMassStorage
    · simp only [hms, if_true, hpath, true_implies]
    · simp only [hms, if_false, false_implies]

end Usb
