import USBDevicePlugin.Core.Decimal
import USBDevicePlugin.Device.Path

/-!
# The description of a device

`getUSBDeviceStructFromDeviceDescriptor` produces the four fields by which a device is announced
and listed: class, subclass, name and path.  It is called from the hotplug callbacks and from
`GetDeviceList`.

Its class is the device's own, unless the device leaves it to its interfaces; its path is looked
for only if that class is mass storage, up to five times, a second apart.

* `describe` — the description as a function of one instant's outcomes.
* **`getUSBDeviceStructFromDeviceDescriptor_steady`** — in an environment that does not change this
  is what the code returns.
* **`getUSBDeviceStructFromDeviceDescriptor_value`** — in one that does, the path is the first one
  that a file system met on the way leads to (`pathFrom`).
-/

namespace Usb

open Interaction

/-- The device name, `%03d/%03d` of bus number and address.  `GetDeviceInfo`, `BindDriver` and
`UnbindDriver` write it with `sprintf`, the description with `boost::format`; the two agree. -/
def usbDeviceName (d : Device) : CxxString :=
  Decimal.padded 3 d.busNumber.toNat ++ "/".toList ++ Decimal.padded 3 d.deviceAddress.toNat

/-- The loop over the interfaces of a configuration and their alternate settings. -/
def classFromInterfaces (config : ConfigDescriptor) (bDevice : UInt8 × UInt8) : UInt8 × UInt8 :=
  config.interface.foldl
    (fun bDevice interface => interface.foldl
      (fun bDevice interfaceDesc =>
        if interfaceDesc.bInterfaceClass = classMassStorage then
          (interfaceDesc.bInterfaceClass, interfaceDesc.bInterfaceSubClass)
        else bDevice)
      bDevice)
    bDevice

/-- Class and subclass from the interface descriptors.  Both stay as they are if the configuration
cannot be read. -/
def getUSBDevicClassFromInterfaceDescriptor (env : Env) (d : Device)
    (bDeviceClass bDeviceSubClass : UInt8) : Plugin (UInt8 × UInt8) := do
  match ← libusbGetConfigDescriptor env d with
  | .ok (some config) => do
      let bDevice := classFromInterfaces config (bDeviceClass, bDeviceSubClass)
      Prog.tell (.freeConfigDescriptor d)
      pure bDevice
  | _ => pure (bDeviceClass, bDeviceSubClass)

/-- The retry loop: look for the path until it is found or the retries are used up, sleeping a
second after each failure. -/
def retryDevicePath (env : Env) (d : Device) :
    ℕ → CxxString → CxxString → Plugin CxxString
  | 0, devicePath, _ => pure devicePath
  | retryCount + 1, devicePath, serialNumber => do
      let (devicePath, serialNumber) ← getDevicePathFromDevice env d devicePath serialNumber
      if devicePath = [] then do
        Prog.tell .sleep
        retryDevicePath env d retryCount devicePath serialNumber
      else pure devicePath

/-- The class branch of `getUSBDeviceStructFromDeviceDescriptor`. -/
def searchDeviceClass (env : Env) (d : Device) (desc : DeviceDescriptor) (usbDevice : USBDevice) :
    Plugin (UInt8 × UInt8) :=
  if desc.bDeviceClass = classPerInterface then
    getUSBDevicClassFromInterfaceDescriptor env d usbDevice.deviceClass usbDevice.deviceSubclass
  else pure (desc.bDeviceClass, desc.bDeviceSubClass)

/-- The path branch of `getUSBDeviceStructFromDeviceDescriptor`. -/
def searchDevicePath (env : Env) (d : Device) (deviceClass : UInt8) (devicePath : CxxString) :
    Plugin CxxString :=
  if deviceClass = classMassStorage then retryDevicePath env d 5 devicePath []
  else pure devicePath

/-- Fill in the description of a device. -/
def getUSBDeviceStructFromDeviceDescriptor (env : Env) (d : Device) (usbDevice : USBDevice) :
    Plugin (Status × USBDevice) := do
  match ← libusbGetDeviceDescriptor env d with
  | .error _ => pure (.errorGeneral, usbDevice)
  | .ok desc => do
      let bDevice ← searchDeviceClass env d desc usbDevice
      let devicePath ← searchDevicePath env d bDevice.1 usbDevice.devicePath
      pure (.errorNone,
        { deviceClass := bDevice.1
          deviceSubclass := bDevice.2
          deviceName := usbDeviceName d
          devicePath })

/-! ## The class the interfaces give -/

/-- A fold that overwrites its result keeps the last value written. -/
lemma foldl_overwrite {α β : Type*} (p : α → Prop) [DecidablePred p] (f : α → β) (l : List α)
    (b : β) :
    l.foldl (fun acc a => if p a then f a else acc) b =
      ((l.filter p).getLast?.map f).getD b := by
  induction l generalizing b with
  | nil => rfl
  | cons a l ih =>
      rw [List.foldl_cons, ih]
      by_cases ha : p a
      · cases hl : l.filter p <;> simp [ha, hl, List.getLast?_cons]
      · simp [ha]

/-- The alternate settings of a configuration whose class is mass storage, in order. -/
def massStorageSettings (config : ConfigDescriptor) : List InterfaceDescriptor :=
  config.interface.flatten.filter fun i => i.bInterfaceClass = classMassStorage

/-- The interfaces make a device mass storage if one of their settings is, with the subclass of the
last such setting. -/
lemma classFromInterfaces_eq (config : ConfigDescriptor) (bDevice : UInt8 × UInt8) :
    classFromInterfaces config bDevice =
      ((massStorageSettings config).getLast?.map
        fun i => (classMassStorage, i.bInterfaceSubClass)).getD bDevice := by
  have hmap : ∀ o : Option InterfaceDescriptor, (∀ i ∈ o, i.bInterfaceClass = classMassStorage) →
      (o.map fun i => (i.bInterfaceClass, i.bInterfaceSubClass)) =
        o.map fun i => (classMassStorage, i.bInterfaceSubClass) := by
    intro o ho
    cases o with
    | none => rfl
    | some i => simp [ho i rfl]
  rw [classFromInterfaces, ← List.foldl_flatten,
    foldl_overwrite fun i : InterfaceDescriptor => i.bInterfaceClass = classMassStorage]
  congr 1
  refine hmap _ fun i hi => ?_
  simpa using (List.mem_filter.mp (List.mem_of_getLast? hi)).2

/-- Class and subclass of a per-interface device, as one instant's outcomes determine them. -/
def interfaceClass (o : Outcomes) (d : Device) : UInt8 × UInt8 :=
  match o.getConfigDescriptor d with
  | .ok (some config) => classFromInterfaces config (0, 0)
  | _ => (0, 0)

/-- The device has a configuration with a mass-storage setting. -/
def HasMassStorageSetting (o : Outcomes) (d : Device) : Prop :=
  ∃ config, o.getConfigDescriptor d = .ok (some config) ∧ massStorageSettings config ≠ []

/-- The interfaces say mass storage, or nothing at all. -/
lemma interfaceClass_of_not_hasMassStorageSetting {o : Outcomes} {d : Device}
    (h : ¬ HasMassStorageSetting o d) : interfaceClass o d = (0, 0) := by
  unfold interfaceClass
  split
  · next config hconfig =>
      have hnil : massStorageSettings config = [] := by
        by_contra hne
        exact h ⟨config, hconfig, hne⟩
      simp [classFromInterfaces_eq, hnil]
  · rfl

lemma interfaceClass_of_hasMassStorageSetting {o : Outcomes} {d : Device}
    (h : HasMassStorageSetting o d) : (interfaceClass o d).1 = classMassStorage := by
  obtain ⟨config, hconfig, hne⟩ := h
  obtain ⟨i, hi⟩ := Option.isSome_iff_exists.mp (List.getLast?_isSome.mpr hne)
  simp [interfaceClass, hconfig, classFromInterfaces_eq, hi]

/-! ## The description as a function of the outcomes -/

/-- Class and subclass under which a device is announced. -/
def announcedClass (o : Outcomes) (d : Device) (desc : DeviceDescriptor) : UInt8 × UInt8 :=
  if desc.bDeviceClass = classPerInterface then interfaceClass o d
  else (desc.bDeviceClass, desc.bDeviceSubClass)

/-- The description of a device at one instant; nothing if its descriptor cannot be read. -/
def describe (o : Outcomes) (d : Device) : Option USBDevice :=
  match o.getDeviceDescriptor d with
  | .error _ => none
  | .ok desc =>
      let bDevice := announcedClass o d desc
      some
        { deviceClass := bDevice.1
          deviceSubclass := bDevice.2
          deviceName := usbDeviceName d
          devicePath :=
            if bDevice.1 = classMassStorage then (blockDevicePath o.sysfs d).getD [] else [] }

/-- Every description carries the device's name. -/
lemma describe_deviceName {o : Outcomes} {d : Device} {u : USBDevice} (h : describe o d = some u) :
    u.deviceName = usbDeviceName d := by
  unfold describe at h
  split at h
  · exact absurd h (by simp)
  · obtain rfl := Option.some.inj h
    rfl

/-- The class search reads one configuration and yields the class it gives. -/
lemma getUSBDevicClassFromInterfaceDescriptor_emits (env : Env) (d : Device)
    (bDeviceClass bDeviceSubClass : UInt8) :
    Prog.Emits (· ∈ [Call.getConfigDescriptor d true, .getConfigDescriptor d false,
        .freeConfigDescriptor d])
      (getUSBDevicClassFromInterfaceDescriptor env d bDeviceClass bDeviceSubClass) := by
  refine Prog.Emits.bind (Prog.Emits.ask fun r => ?_) fun r => ?_
  · cases (r.toOption.bind id).isSome <;> simp
  · split
    · exact Prog.Emits.bind (Prog.Emits.tell (by simp)) fun _ => Prog.Emits.pure _
    · exact Prog.Emits.pure _

lemma getUSBDevicClassFromInterfaceDescriptor_onlyOn (env : Env) (d : Device)
    (bDeviceClass bDeviceSubClass : UInt8) :
    Prog.Emits (Call.OnlyOn d)
      (getUSBDevicClassFromInterfaceDescriptor env d bDeviceClass bDeviceSubClass) := by
  refine (getUSBDevicClassFromInterfaceDescriptor_emits env d _ _).mono fun c hc => ?_
  simp only [List.mem_cons, List.not_mem_nil, or_false] at hc
  rcases hc with rfl | rfl | rfl <;> simp [Call.OnlyOn, Call.device]

/-- What the class search yields, whatever class it starts from. -/
lemma getUSBDevicClassFromInterfaceDescriptor_value (env : Env) (d : Device)
    (bDeviceClass bDeviceSubClass : UInt8) (t : ℕ) (s : DriverState) :
    ((getUSBDevicClassFromInterfaceDescriptor env d bDeviceClass bDeviceSubClass).run t s).value =
      match (env t).getConfigDescriptor d with
      | .ok (some config) => classFromInterfaces config (bDeviceClass, bDeviceSubClass)
      | _ => (bDeviceClass, bDeviceSubClass) := by
  unfold getUSBDevicClassFromInterfaceDescriptor
  cases hc : (env t).getConfigDescriptor d with
  | error e => simp [libusbGetConfigDescriptor, hc]
  | ok config => cases config <;> simp [libusbGetConfigDescriptor, hc]

/-- A configuration that is obtained is freed. -/
lemma getUSBDevicClassFromInterfaceDescriptor_balanced (env : Env) (d : Device)
    (bDeviceClass bDeviceSubClass : UInt8) :
    Prog.Balanced account
      (getUSBDevicClassFromInterfaceDescriptor env d bDeviceClass bDeviceSubClass) := by
  refine Prog.Balanced.acquire fun r held => ?_
  match r with
  | .error _ => exact ⟨held, rfl, Prog.Leads.pure rfl⟩
  | .ok none => exact ⟨held, rfl, Prog.Leads.pure rfl⟩
  | .ok (some config) =>
      exact ⟨{ held with configs := d :: held.configs }, rfl,
        Prog.Leads.release (Prog.Balanced.pure PUnit.unit) (by simp [account])
          fun _ => Prog.Balanced.pure _⟩

/-! ## Looking for the path -/

/-- The number of calls a scan makes when it meets this file system. -/
def scanCalls (fs : Sysfs) : ℕ :=
  if (fs.directory pluginUsbDeviceBlockPath).isSome then 3 else 2

/-- The same for the search as a whole, which for a device without a port chain makes none. -/
def pathCalls (fs : Sysfs) (d : Device) : ℕ :=
  if getUSBDeviceSysfsPath d = none then 0 else scanCalls fs

/-- The path of a device in a changing file system, looked at up to so many times from instant `t`
on, each time a scan and a sleep after the last. -/
def pathFrom (env : Env) (d : Device) : ℕ → ℕ → CxxString
  | 0, _ => []
  | looks + 1, t =>
      match blockDevicePath (env t).sysfs d with
      | some path => path
      | none => pathFrom env d looks (t + scanCalls (env t).sysfs + 1)

/-- A device without a port chain has no path in any file system. -/
lemma blockDevicePath_of_no_sysfsPath {d : Device} (h : getUSBDeviceSysfsPath d = none) (fs : Sysfs) :
    blockDevicePath fs d = none := by
  simp [blockDevicePath, h]

lemma pathFrom_of_no_sysfsPath {d : Device} (h : getUSBDeviceSysfsPath d = none) (env : Env) :
    ∀ looks t, pathFrom env d looks t = []
  | 0, _ => rfl
  | looks + 1, t => by
      rw [pathFrom, blockDevicePath_of_no_sysfsPath h]
      exact pathFrom_of_no_sysfsPath h env looks _

lemma getDevicePathFromDevice_calls_length (env : Env) (d : Device) (devPath serial : CxxString)
    (t : ℕ) (s : DriverState) :
    ((getDevicePathFromDevice env d devPath serial).run t s).calls.length =
      pathCalls (env t).sysfs d := by
  cases hsysfs : getUSBDeviceSysfsPath d with
  | none => simp [getDevicePathFromDevice, pathCalls, hsysfs]
  | some sysfsPath =>
      cases hdir : (env t).sysfs.directory pluginUsbDeviceBlockPath <;>
        simp [getDevicePathFromDevice, pathCalls, hsysfs, readSysfs, hdir, scanCalls]

/-- The retries look at one file system after the other until one of them leads to a path.  The
induction is on the retries left; all of them start without a path. -/
lemma retryDevicePath_value (env : Env) (d : Device) :
    ∀ (retryCount : ℕ) (serial : CxxString) (t : ℕ) (s : DriverState),
      ((retryDevicePath env d retryCount [] serial).run t s).value = pathFrom env d retryCount t
  | 0, _, _, _ => rfl
  | retryCount + 1, serial, t, s => by
      have hscan := getDevicePathFromDevice_value env d [] serial t s
      have hlength := getDevicePathFromDevice_calls_length env d [] serial t s
      rw [retryDevicePath, Prog.bind_run]
      generalize (getDevicePathFromDevice env d [] serial).run t s = r at hscan hlength ⊢
      obtain ⟨⟨path, serial'⟩, calls, s'⟩ := r
      simp only at hscan hlength ⊢
      rw [pathFrom]
      cases hpath : blockDevicePath (env t).sysfs d with
      | some found =>
          obtain rfl : path = found := by simpa [hpath] using hscan
          simp [blockDevicePath_ne_nil hpath]
      | none =>
          obtain rfl : path = [] := by simpa [hpath] using hscan
          have ih := retryDevicePath_value env d retryCount serial' (t + calls.length + 1) s'
          cases hsysfs : getUSBDeviceSysfsPath d with
          | none =>
              rw [pathFrom_of_no_sysfsPath hsysfs] at ih ⊢
              simpa using ih
          | some sysfsPath =>
              rw [pathCalls, if_neg (by simp [hsysfs])] at hlength
              rw [← hlength]
              simpa using ih

/-- The number of calls the choice of the class makes. -/
def classCalls (o : Outcomes) (d : Device) (desc : DeviceDescriptor) : ℕ :=
  if desc.bDeviceClass = classPerInterface then
    match o.getConfigDescriptor d with
    | .ok (some _) => 2
    | _ => 1
  else 0

lemma getUSBDevicClassFromInterfaceDescriptor_calls_length {desc : DeviceDescriptor}
    (hper : desc.bDeviceClass = classPerInterface) (env : Env) (d : Device)
    (bDeviceClass bDeviceSubClass : UInt8) (t : ℕ) (s : DriverState) :
    ((getUSBDevicClassFromInterfaceDescriptor env d bDeviceClass bDeviceSubClass).run t
      s).calls.length = classCalls (env t) d desc := by
  rw [classCalls, if_pos hper]
  cases hc : (env t).getConfigDescriptor d with
  | error e => simp [getUSBDevicClassFromInterfaceDescriptor, libusbGetConfigDescriptor, hc]
  | ok config =>
      cases config <;>
        simp [getUSBDevicClassFromInterfaceDescriptor, libusbGetConfigDescriptor, hc]

/-- The choice between the device's own class and its interfaces'. -/
lemma searchDeviceClass_value (env : Env) (d : Device) (desc : DeviceDescriptor) (t : ℕ)
    (s : DriverState) :
    ((searchDeviceClass env d desc {}).run t s).value = announcedClass (env t) d desc := by
  unfold searchDeviceClass announcedClass
  split_ifs
  · exact getUSBDevicClassFromInterfaceDescriptor_value env d 0 0 t s
  · rfl

lemma searchDeviceClass_calls_length (env : Env) (d : Device) (desc : DeviceDescriptor) (t : ℕ)
    (s : DriverState) :
    ((searchDeviceClass env d desc {}).run t s).calls.length = classCalls (env t) d desc := by
  unfold searchDeviceClass
  split_ifs with hper
  · exact getUSBDevicClassFromInterfaceDescriptor_calls_length hper env d _ _ t s
  · simp [classCalls, hper]

/-- **The description over time.**  Started from an empty structure, the code returns the class and
name of the device, and for a mass-storage device the path that the file systems from the end of
the class search on lead to. -/
theorem getUSBDeviceStructFromDeviceDescriptor_value (env : Env) (d : Device) (t : ℕ)
    (s : DriverState) {desc : DeviceDescriptor}
    (hdesc : (env t).getDeviceDescriptor d = .ok desc) :
    ((getUSBDeviceStructFromDeviceDescriptor env d {}).run t s).value =
      (.errorNone,
        { deviceClass := (announcedClass (env (t + 1)) d desc).1
          deviceSubclass := (announcedClass (env (t + 1)) d desc).2
          deviceName := usbDeviceName d
          devicePath :=
            if (announcedClass (env (t + 1)) d desc).1 = classMassStorage then
              pathFrom env d 5 (t + 1 + classCalls (env (t + 1)) d desc)
            else [] }) := by
  have hclass := searchDeviceClass_value env d desc (t + 1) s
  have hlength := searchDeviceClass_calls_length env d desc (t + 1) s
  simp only [getUSBDeviceStructFromDeviceDescriptor, libusbGetDeviceDescriptor, Prog.bind_run,
    Prog.ask_run, hdesc, List.length_singleton, hclass, hlength, Prog.pure_run]
  by_cases hms : (announcedClass (env (t + 1)) d desc).1 = classMassStorage
  · simp only [searchDevicePath, hms, if_true, retryDevicePath_value]
  · simp only [searchDevicePath, hms, if_false, Prog.pure_run]

/-- The description succeeds if the device descriptor can be read. -/
lemma getUSBDeviceStructFromDeviceDescriptor_status (env : Env) (d : Device) (t : ℕ)
    (s : DriverState) :
    ((getUSBDeviceStructFromDeviceDescriptor env d {}).run t s).value.1 = .errorNone ↔
      ∃ desc, (env t).getDeviceDescriptor d = .ok desc := by
  cases hdesc : (env t).getDeviceDescriptor d with
  | error e => simp [getUSBDeviceStructFromDeviceDescriptor, libusbGetDeviceDescriptor, hdesc]
  | ok desc => simp [getUSBDeviceStructFromDeviceDescriptor_value env d t s hdesc]

/-- One that succeeds carries the name of the device. -/
lemma getUSBDeviceStructFromDeviceDescriptor_deviceName {env : Env} {d : Device} {t : ℕ}
    {s : DriverState}
    (h : ((getUSBDeviceStructFromDeviceDescriptor env d {}).run t s).value.1 = .errorNone) :
    ((getUSBDeviceStructFromDeviceDescriptor env d {}).run t s).value.2.deviceName =
      usbDeviceName d := by
  obtain ⟨desc, hdesc⟩ := (getUSBDeviceStructFromDeviceDescriptor_status env d t s).mp h
  rw [getUSBDeviceStructFromDeviceDescriptor_value env d t s hdesc]

/-! ## What is given back -/

lemma retryDevicePath_balanced (env : Env) (d : Device) :
    ∀ (retryCount : ℕ) (devicePath serialNumber : CxxString),
      Prog.Balanced account (retryDevicePath env d retryCount devicePath serialNumber)
  | 0, devicePath, _ => Prog.Balanced.pure devicePath
  | retryCount + 1, devicePath, serialNumber => by
      refine Prog.Balanced.bind (getDevicePathFromDevice_balanced env d _ _) fun found => ?_
      dsimp only
      split_ifs
      · exact Prog.Balanced.bind (Prog.Balanced.tell fun _ => rfl) fun _ =>
          retryDevicePath_balanced env d retryCount _ _
      · exact Prog.Balanced.pure _

/-- The description keeps nothing. -/
lemma getUSBDeviceStructFromDeviceDescriptor_balanced (env : Env) (d : Device)
    (usbDevice : USBDevice) :
    Prog.Balanced account (getUSBDeviceStructFromDeviceDescriptor env d usbDevice) := by
  have hclass : ∀ desc, Prog.Balanced account (searchDeviceClass env d desc usbDevice) := by
    intro desc
    unfold searchDeviceClass
    split_ifs
    · exact getUSBDevicClassFromInterfaceDescriptor_balanced env d _ _
    · exact Prog.Balanced.pure _
  have hpath : ∀ deviceClass,
      Prog.Balanced account (searchDevicePath env d deviceClass usbDevice.devicePath) := by
    intro deviceClass
    unfold searchDevicePath
    split_ifs
    · exact retryDevicePath_balanced env d _ _ _
    · exact Prog.Balanced.pure _
  refine Prog.Balanced.bind (Prog.Balanced.ask fun _ _ => rfl) fun r => ?_
  split
  · exact Prog.Balanced.pure _
  · exact Prog.Balanced.bind (hclass _) fun _ => Prog.Balanced.bind (hpath _) fun _ =>
      Prog.Balanced.pure _

/-! ## What is not locked -/

lemma retryDevicePath_lockless (env : Env) (d : Device) :
    ∀ (retryCount : ℕ) (devicePath serialNumber : CxxString),
      Prog.Emits (· ≠ .lock) (retryDevicePath env d retryCount devicePath serialNumber)
  | 0, devicePath, _ => Prog.Emits.pure devicePath
  | retryCount + 1, devicePath, serialNumber => by
      have hscan : Prog.Emits (· ≠ Call.lock)
          (getDevicePathFromDevice env d devicePath serialNumber) :=
        (getDevicePathFromDevice_emits env d _ _).mono fun c hc heq => by simp [heq] at hc
      refine Prog.Emits.bind hscan fun found => ?_
      dsimp only
      split_ifs
      · exact Prog.Emits.bind (Prog.Emits.tell (by simp)) fun _ =>
          retryDevicePath_lockless env d retryCount _ _
      · exact Prog.Emits.pure _

/-- The description itself takes no lock. -/
lemma getUSBDeviceStructFromDeviceDescriptor_lockless (env : Env) (d : Device)
    (usbDevice : USBDevice) :
    Prog.Emits (· ≠ .lock) (getUSBDeviceStructFromDeviceDescriptor env d usbDevice) := by
  have hclass : ∀ desc, Prog.Emits (· ≠ Call.lock) (searchDeviceClass env d desc usbDevice) := by
    intro desc
    unfold searchDeviceClass
    split_ifs
    · exact (getUSBDevicClassFromInterfaceDescriptor_emits env d _ _).mono fun c hc heq => by
        simp [heq] at hc
    · exact Prog.Emits.pure _
  have hpath : ∀ deviceClass,
      Prog.Emits (· ≠ Call.lock) (searchDevicePath env d deviceClass usbDevice.devicePath) := by
    intro deviceClass
    unfold searchDevicePath
    split_ifs
    · exact retryDevicePath_lockless env d _ _ _
    · exact Prog.Emits.pure _
  refine Prog.Emits.bind (Prog.Emits.ask fun _ => by simp) fun r => ?_
  split
  · exact Prog.Emits.pure _
  · exact Prog.Emits.bind (hclass _) fun _ => Prog.Emits.bind (hpath _) fun _ => Prog.Emits.pure _

/-! ## Steady environments -/

/-- Against an unchanging file system the retries find what the first scan finds. -/
lemma retryDevicePath_steady (o : Outcomes) (d : Device) :
    ∀ (retryCount : ℕ) (serial : CxxString),
      (retryDevicePath o.steady d (retryCount + 1) [] serial).Returns
        ((blockDevicePath o.sysfs d).getD [])
  | retryCount, serial => by
      intro t s
      have hscan := getDevicePathFromDevice_value o.steady d [] serial t s
      simp only [Outcomes.steady] at hscan
      rw [retryDevicePath]
      simp only [Prog.bind_run]
      split_ifs with hnil
      · simp only [Prog.bind_run, Prog.tell_run]
        rw [hnil] at hscan ⊢
        cases retryCount with
        | zero => simp [retryDevicePath, hscan.symm]
        | succ n => exact retryDevicePath_steady o d n _ _ _
      · simpa using hscan

/-- **The description at rest.**  In an unchanging environment the code returns the description of
the device, and fails exactly when there is none. -/
theorem getUSBDeviceStructFromDeviceDescriptor_steady (o : Outcomes) (d : Device) :
    (getUSBDeviceStructFromDeviceDescriptor o.steady d {}).Returns
      (match describe o d with
        | none => (.errorGeneral, {})
        | some u => (.errorNone, u)) := by
  intro t s
  cases hdesc : o.getDeviceDescriptor d with
  | error e =>
      simp [getUSBDeviceStructFromDeviceDescriptor, libusbGetDeviceDescriptor, describe, hdesc,
        Outcomes.steady]
  | ok desc =>
      have hclass := searchDeviceClass_value o.steady d desc (t + 1) s
      have hdesc' : (o.steady t).getDeviceDescriptor d = .ok desc := hdesc
      simp only [getUSBDeviceStructFromDeviceDescriptor, libusbGetDeviceDescriptor, Prog.bind_run,
        Prog.ask_run, hdesc', List.length_singleton, hclass, Prog.pure_run, describe, hdesc]
      simp only [Outcomes.steady]
      by_cases hms : (announcedClass o d desc).1 = classMassStorage
      · simp only [searchDevicePath, hms, if_true, retryDevicePath_steady o d 4 [] _ _]
      · simp only [searchDevicePath, hms, if_false, Prog.pure_run]

/-! ## A disk

A stick on port 1 of bus 1 with address 5, which the kernel made `sda` of.  The witnesses below
evaluate the code on it, and on two other devices.
-/

/-- The device. -/
def sampleDisk : Device :=
  { pointer := 0, busNumber := 1, deviceAddress := 5, portChain := [1], portNumber := 1, speed := 3 }

/-- A hub next to it. -/
def sampleHub : Device :=
  { pointer := 1, busNumber := 1, deviceAddress := 2, portChain := [2], portNumber := 2, speed := 3 }

/-- A device on port 1 of this hub. -/
def samplePortOne : Device :=
  { pointer := 2, busNumber := 1, deviceAddress := 6, portChain := [2, 1], portNumber := 1,
    speed := 3 }

/-- A file system in which `sda` belongs to the device. -/
def sampleSysfs : Sysfs where
  directory p := if p = pluginUsbDeviceBlockPath then some ["sda".toList] else none
  canonical p :=
    if p = "/sys/block/sda/device".toList then some ["sys".toList, "1-1".toList] else none
  isRegularFile p := some (p ∈ ["/sys/1-1/busnum".toList, "/sys/1-1/devnum".toList])
  contents p :=
    if p = "/sys/1-1/busnum".toList then some "1\n".toList
    else if p = "/sys/1-1/devnum".toList then some "5\n".toList
    else none

/-- The same file system after the kernel has removed the disk. -/
def sampleSysfsRemoved : Sysfs := { sampleSysfs with directory := fun _ => some [] }

/-- A device descriptor with mass storage as the device class. -/
def sampleDescriptor : DeviceDescriptor :=
  { bDeviceClass := classMassStorage, bDeviceSubClass := 6, bDeviceProtocol := 0x50,
    idVendor := 0x1234, idProduct := 0x5678, iManufacturer := 1, iProduct := 2, iSerialNumber := 3 }

/-- A bus with this one device on it, on which every call succeeds.  Every string is `A`. -/
def sampleOutcomes : Outcomes where
  getDeviceList := .ok [sampleDisk]
  getDeviceDescriptor _ := .ok sampleDescriptor
  getConfigDescriptor _ := .ok none
  getActiveConfigDescriptor _ := .ok { interface := [], bmAttributes := 0x80 }
  openDevice _ := none
  kernelDriverFailure _ := none
  attachKernelDriver _ := none
  detachKernelDriver _ := none
  getStringDescriptor _ index _ :=
    if index = 0 then ⟨4, [4, dtString, 0x09, 0x04]⟩ else ⟨4, [4, dtString, 65, 0]⟩
  getStringDescriptorAscii _ _ := ⟨1, [65, 0]⟩
  sysfs := sampleSysfs

example : describe sampleOutcomes sampleDisk =
    some ⟨classMassStorage, 6, "001/005".toList, "/dev/sda".toList⟩ := by decide

end Usb
