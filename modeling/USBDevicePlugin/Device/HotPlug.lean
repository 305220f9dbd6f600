import USBDevicePlugin.Device.BlockDevice

/-!
# The hotplug callbacks

libusb calls back on every arrival and every departure.  Both callbacks describe the device afresh
and submit a job with the description; nothing of an arrival is kept for the departure.

What libusb knows about a device — descriptors and configuration — it keeps with the device object,
and the callbacks get the same answers from it before and after the device is unplugged.  The file
system gives no such guarantee, and by the time of the departure the kernel may have removed the
block device.

* `Sees` — the disk a callback finds, in terms of the file systems at the instants at which it looks.
* **`departure_eq_arrival_iff`** — the departure carries the arrival's description exactly when both
  callbacks see the same disk.
-/

namespace Usb

open Interaction

/-- `USBDeviceImplementation::Event`. -/
inductive Event
  | deviceArrived
  | deviceLeft
  deriving DecidableEq, Repr

/-- `USBDeviceImplementation::Job`: what a worker is to announce. -/
structure Job where
  event : Event
  usbDevice : USBDevice
  deriving DecidableEq, Repr

/-- The body the two callbacks share: describe the device, and submit a job if that succeeds. -/
def libUSBHotPlugCallback (event : Event) (env : Env) (d : Device) : Plugin (Option Job) := do
  match ← getUSBDeviceStructFromDeviceDescriptor env d {} with
  | (.errorNone, usbDevice) => pure (some { event, usbDevice })
  | (.errorGeneral, _) => pure none

/-- `libUSBHotPlugCallbackDeviceAttached`. -/
def libUSBHotPlugCallbackDeviceAttached : Env → Device → Plugin (Option Job) :=
  libUSBHotPlugCallback .deviceArrived

/-- `libUSBHotPlugCallbackDeviceDetached`. -/
def libUSBHotPlugCallbackDeviceDetached : Env → Device → Plugin (Option Job) :=
  libUSBHotPlugCallback .deviceLeft

/-- A job is submitted exactly when the description succeeds, and carries it. -/
lemma libUSBHotPlugCallback_eq_some_iff (event : Event) (env : Env) (d : Device) (t : ℕ)
    (s : DriverState) (job : Job) :
    ((libUSBHotPlugCallback event env d).run t s).value = some job ↔
      ((getUSBDeviceStructFromDeviceDescriptor env d {}).run t s).value =
        (.errorNone, job.usbDevice) ∧ job.event = event := by
  simp only [libUSBHotPlugCallback, Prog.bind_run]
  split
  · next usbDevice hvalue =>
      rw [hvalue]
      constructor
      · intro h
        obtain rfl := Option.some.inj h
        exact ⟨rfl, rfl⟩
      · rintro ⟨h, rfl⟩
        rw [(Prod.mk.inj h).2]
        rfl
  · next usbDevice hvalue =>
      rw [hvalue]
      simp

/-- Every announced description carries the name of the device. -/
lemma libUSBHotPlugCallback_deviceName {event : Event} {env : Env} {d : Device} {t : ℕ}
    {s : DriverState} {job : Job}
    (h : ((libUSBHotPlugCallback event env d).run t s).value = some job) :
    job.usbDevice.deviceName = usbDeviceName d := by
  obtain ⟨hvalue, -⟩ := (libUSBHotPlugCallback_eq_some_iff event env d t s job).mp h
  have hname := getUSBDeviceStructFromDeviceDescriptor_deviceName (congrArg Prod.fst hvalue)
  rwa [hvalue] at hname

/-- A callback keeps nothing. -/
lemma libUSBHotPlugCallback_balanced (event : Event) (env : Env) (d : Device) :
    Prog.Balanced account (libUSBHotPlugCallback event env d) := by
  refine Prog.Balanced.bind (getUSBDeviceStructFromDeviceDescriptor_balanced env d {}) fun r => ?_
  split <;> exact Prog.Balanced.pure _

/-! ## Arrival and departure -/

/-- What libusb keeps of a device does not change: its device descriptor and its configuration 0
are the same at every instant. -/
def DescriptorsFixed (env : Env) (d : Device) : Prop :=
  ∀ t t', (env t).getDeviceDescriptor d = (env t').getDeviceDescriptor d ∧
    (env t).getConfigDescriptor d = (env t').getConfigDescriptor d

lemma DescriptorsFixed.announcedClass_eq {env : Env} {d : Device} (h : DescriptorsFixed env d)
    (desc : DeviceDescriptor) (t t' : ℕ) :
    announcedClass (env t) d desc = announcedClass (env t') d desc := by
  unfold announcedClass interfaceClass
  rw [(h t t').2]

/-- The path a callback started at `t` comes upon: the first one that the file systems of the up to
five instants at which it looks lead to. -/
def pathSeen (env : Env) (d : Device) (t : ℕ) : CxxString :=
  match (env t).getDeviceDescriptor d with
  | .error _ => []
  | .ok desc => pathFrom env d 5 (t + 1 + classCalls (env (t + 1)) d desc)

/-- The description a callback announces, from the descriptors and the path it sees. -/
lemma usbDevice_eq {event : Event} {env : Env} {d : Device} {t : ℕ} {s : DriverState} {job : Job}
    (h : ((libUSBHotPlugCallback event env d).run t s).value = some job) :
    ∃ desc, (env t).getDeviceDescriptor d = .ok desc ∧
      job.usbDevice =
        { deviceClass := (announcedClass (env (t + 1)) d desc).1
          deviceSubclass := (announcedClass (env (t + 1)) d desc).2
          deviceName := usbDeviceName d
          devicePath :=
            if (announcedClass (env (t + 1)) d desc).1 = classMassStorage then pathSeen env d t
            else [] } := by
  obtain ⟨hvalue, -⟩ := (libUSBHotPlugCallback_eq_some_iff event env d t s job).mp h
  cases hdesc : (env t).getDeviceDescriptor d with
  | error e =>
      simp [getUSBDeviceStructFromDeviceDescriptor, libusbGetDeviceDescriptor, hdesc] at hvalue
  | ok desc =>
      refine ⟨desc, rfl, ?_⟩
      rw [getUSBDeviceStructFromDeviceDescriptor_value env d t s hdesc] at hvalue
      rw [pathSeen, hdesc, ← (Prod.mk.inj hvalue).2]

/-! ## The disk a callback sees -/

/-- The entry is the first of the block directory that leads to the device. -/
def IsDisk (fs : Sysfs) (d : Device) (deviceName : CxxString) : Prop :=
  ∃ earlier later,
    (fs.directory pluginUsbDeviceBlockPath).getD [] = earlier ++ deviceName :: later ∧
      LeadsTo fs d deviceName ∧ ∀ other ∈ earlier, ¬ LeadsTo fs d other

/-- No entry leads to the device, or the directory cannot be opened. -/
def NoDisk (fs : Sysfs) (d : Device) : Prop :=
  ∀ deviceName ∈ (fs.directory pluginUsbDeviceBlockPath).getD [], ¬ LeadsTo fs d deviceName

lemma isDisk_iff {fs : Sysfs} {d : Device} {deviceName : CxxString} :
    IsDisk fs d deviceName ↔
      ((fs.directory pluginUsbDeviceBlockPath).getD []).find? (Matches fs d) = some deviceName := by
  simp only [List.find?_eq_some_iff_append, IsDisk, matches_iff_leadsTo, Bool.not_eq_true',
    ← Bool.not_eq_true]
  constructor
  · rintro ⟨earlier, later, hsplit, hleads, hnone⟩
    exact ⟨hleads, earlier, later, hsplit, hnone⟩
  · rintro ⟨hleads, earlier, later, hsplit, hnone⟩
    exact ⟨earlier, later, hsplit, hleads, hnone⟩

lemma noDisk_iff {fs : Sysfs} {d : Device} :
    NoDisk fs d ↔
      ((fs.directory pluginUsbDeviceBlockPath).getD []).find? (Matches fs d) = none := by
  simp only [List.find?_eq_none, NoDisk, matches_iff_leadsTo]

/-- The instants of looks at the file system that lead to nothing, from the first one on: after each
comes a second of sleep. -/
def lookFrom (env : Env) (first : ℕ) : ℕ → ℕ
  | 0 => first
  | k + 1 => lookFrom env first k + scanCalls (env (lookFrom env first k)).sysfs + 1

/-- A callback started at `t` looks for the first time when it has the class of the device. -/
def firstLook (env : Env) (d : Device) (t : ℕ) : ℕ :=
  match (env t).getDeviceDescriptor d with
  | .error _ => t + 1
  | .ok desc => t + 1 + classCalls (env (t + 1)) d desc

/-- Among the up to five looks from this instant on, the first at a file system with a disk of the
device finds this one. -/
def SeesFrom (env : Env) (d : Device) (looks first : ℕ) (deviceName : CxxString) : Prop :=
  ∃ k < looks, IsDisk (env (lookFrom env first k)).sysfs d deviceName ∧
    ∀ j < k, NoDisk (env (lookFrom env first j)).sysfs d

/-- The disk that a callback started at `t` sees, in up to five looks. -/
def Sees (env : Env) (d : Device) (t : ℕ) (deviceName : CxxString) : Prop :=
  SeesFrom env d 5 (firstLook env d t) deviceName

lemma lookFrom_succ (env : Env) (first : ℕ) : ∀ k,
    lookFrom env first (k + 1) = lookFrom env (first + scanCalls (env first).sysfs + 1) k
  | 0 => rfl
  | k + 1 => by rw [lookFrom, lookFrom_succ env first k, ← lookFrom]

/-- One look more: it finds the disk, or the others do. -/
lemma seesFrom_succ {env : Env} {d : Device} {looks first : ℕ} {deviceName : CxxString} :
    SeesFrom env d (looks + 1) first deviceName ↔
      IsDisk (env first).sysfs d deviceName ∨
        NoDisk (env first).sysfs d ∧
          SeesFrom env d looks (first + scanCalls (env first).sysfs + 1) deviceName := by
  constructor
  · rintro ⟨k, hk, hdisk, hnone⟩
    cases k with
    | zero => exact Or.inl hdisk
    | succ k =>
        refine Or.inr ⟨hnone 0 (Nat.succ_pos k), k, Nat.lt_of_succ_lt_succ hk, ?_, fun j hj => ?_⟩
        · rwa [← lookFrom_succ]
        · rw [← lookFrom_succ]
          exact hnone (j + 1) (Nat.succ_lt_succ hj)
  · rintro (hdisk | ⟨hnone, k, hk, hdisk, hrest⟩)
    · exact ⟨0, Nat.succ_pos looks, hdisk, fun j hj => absurd hj (Nat.not_lt_zero j)⟩
    · refine ⟨k + 1, Nat.succ_lt_succ hk, ?_, fun j hj => ?_⟩
      · rwa [lookFrom_succ]
      · cases j with
        | zero => exact hnone
        | succ j =>
            rw [lookFrom_succ]
            exact hrest j (Nat.lt_of_succ_lt_succ hj)

/-- What the retries come to, said of the file systems they look at.  The induction is on the looks
left. -/
lemma pathFrom_eq_iff {env : Env} {d : Device} {sysfsPath : CxxString}
    (hplace : getUSBDeviceSysfsPath d = some sysfsPath) {deviceName : CxxString} :
    ∀ {looks first : ℕ}, pathFrom env d looks first = "/dev/".toList ++ deviceName ↔
      SeesFrom env d looks first deviceName
  | 0, first => by simp [pathFrom, SeesFrom]
  | looks + 1, first => by
      have ih : pathFrom env d looks (first + scanCalls (env first).sysfs + 1) =
          "/dev/".toList ++ deviceName ↔ _ := pathFrom_eq_iff hplace
      rw [seesFrom_succ, pathFrom, blockDevicePath_eq hplace, isDisk_iff, noDisk_iff]
      cases hfind : (((env first).sysfs.directory pluginUsbDeviceBlockPath).getD []).find?
          (Matches (env first).sysfs d) with
      | none => simpa using ih
      | some found => simp

lemma exists_of_pathFrom_ne_nil {env : Env} {d : Device} :
    ∀ {looks first : ℕ}, pathFrom env d looks first ≠ [] →
      ∃ deviceName, pathFrom env d looks first = "/dev/".toList ++ deviceName
  | 0, _, hne => absurd rfl hne
  | looks + 1, first, hne => by
      rw [pathFrom] at hne ⊢
      cases hpath : blockDevicePath (env first).sysfs d with
      | none =>
          rw [hpath] at hne
          exact exists_of_pathFrom_ne_nil hne
      | some path =>
          unfold blockDevicePath at hpath
          split at hpath
          · obtain ⟨deviceName, -, heq⟩ := Option.map_eq_some_iff.mp hpath
            exact ⟨deviceName, heq.symm⟩
          · exact absurd hpath (by simp)

/-- **The departure identifies the arrival's device exactly when both callbacks see the same disk.**
Class, subclass and name never differ. -/
theorem departure_eq_arrival_iff {env : Env} {d : Device} (hfixed : DescriptorsFixed env d)
    {t₁ t₂ : ℕ} {s₁ s₂ : DriverState} {arrival departure : Job}
    (harr : ((libUSBHotPlugCallbackDeviceAttached env d).run t₁ s₁).value = some arrival)
    (hdep : ((libUSBHotPlugCallbackDeviceDetached env d).run t₂ s₂).value = some departure)
    (hpath : arrival.usbDevice.devicePath ≠ []) :
    departure.usbDevice = arrival.usbDevice ↔
      ∃ deviceName, Sees env d t₁ deviceName ∧ Sees env d t₂ deviceName := by
  obtain ⟨desc, hdesc, harrival⟩ := usbDevice_eq harr
  obtain ⟨desc', hdesc', hdeparture⟩ := usbDevice_eq hdep
  obtain rfl : desc = desc' := by
    rw [(hfixed t₁ t₂).1, hdesc'] at hdesc
    exact (Except.ok.inj hdesc).symm
  rw [hfixed.announcedClass_eq desc (t₂ + 1) (t₁ + 1)] at hdeparture
  rw [harrival] at hpath ⊢
  rw [hdeparture]
  have hms : (announcedClass (env (t₁ + 1)) d desc).1 = classMassStorage := by
    by_contra hne
    simp [hne] at hpath
  have hfirst : ∀ t, (env t).getDeviceDescriptor d = .ok desc →
      pathSeen env d t = pathFrom env d 5 (firstLook env d t) := by
    intro t h
    simp only [pathSeen, firstLook, h]
  simp only [hms, if_true, hfirst t₁ hdesc, hfirst t₂ hdesc', USBDevice.mk.injEq, true_and]
    at hpath ⊢
  obtain ⟨deviceName, hseen⟩ := exists_of_pathFrom_ne_nil hpath
  obtain ⟨sysfsPath, hplace⟩ : ∃ sysfsPath, getUSBDeviceSysfsPath d = some sysfsPath := by
    refine Option.ne_none_iff_exists'.mp fun hnone => hpath ?_
    exact pathFrom_of_no_sysfsPath hnone env 5 _
  simp only [Sees, ← pathFrom_eq_iff hplace, hseen, List.append_cancel_left_eq, exists_eq_left']

/-- An environment in which the kernel makes the disk while the arrival callback looks for it, among
three other block devices, which are gone when the device leaves. -/
def sampleChanging : Env := fun t =>
  if t < 3 then { sampleOutcomes with sysfs := sampleSysfsRemoved }
  else if t < 15 then sampleCrowded
  else sampleOutcomes

/-- The condition met: the arrival callback finds the disk in its second look, in last place, and the
departure callback in its first. -/
theorem departure_eq_arrival_sampleChanging :
    ∃ arrival departure : Job,
      ((libUSBHotPlugCallbackDeviceAttached sampleChanging sampleDisk).run 0
        (fun _ _ => false)).value = some arrival ∧
      ((libUSBHotPlugCallbackDeviceDetached sampleChanging sampleDisk).run 20
        (fun _ _ => false)).value = some departure ∧
      departure.usbDevice = arrival.usbDevice := by
  have hfixed : DescriptorsFixed sampleChanging sampleDisk := by
    intro t t'
    unfold sampleChanging
    split_ifs <;> exact ⟨rfl, rfl⟩
  have harr : ((libUSBHotPlugCallbackDeviceAttached sampleChanging sampleDisk).run 0
      fun _ _ => false).value =
        some ⟨.deviceArrived, ⟨classMassStorage, 6, "001/005".toList, "/dev/sda".toList⟩⟩ := by
    decide
  have hdep : ((libUSBHotPlugCallbackDeviceDetached sampleChanging sampleDisk).run 20
      fun _ _ => false).value =
        some ⟨.deviceLeft, ⟨classMassStorage, 6, "001/005".toList, "/dev/sda".toList⟩⟩ := by
    decide
  refine ⟨_, _, harr, hdep, (departure_eq_arrival_iff hfixed harr hdep (by decide)).mpr
    ⟨"sda".toList, ⟨1, by decide, isDisk_iff.mpr (by decide), fun j hj => ?_⟩,
      ⟨0, by decide, isDisk_iff.mpr (by decide), fun j hj => absurd hj (Nat.not_lt_zero j)⟩⟩⟩
  obtain rfl : j = 0 := Nat.lt_one_iff.mp hj
  exact noDisk_iff.mpr (by decide)

/-- An environment in which the disk is there until instant 10 and removed afterwards. -/
def sampleUnplug : Env := fun t =>
  if t < 10 then sampleOutcomes else { sampleOutcomes with sysfs := sampleSysfsRemoved }

/-- **The kernel removes the disk first.**  The descriptors never change, the arrival announces
`/dev/sda`, and the departure of the same device announces no path. -/
theorem departure_ne_arrival_of_disk_removed :
    DescriptorsFixed sampleUnplug sampleDisk ∧
      ∃ arrival departure : Job,
        ((libUSBHotPlugCallbackDeviceAttached sampleUnplug sampleDisk).run 0
          (fun _ _ => false)).value = some arrival ∧
        ((libUSBHotPlugCallbackDeviceDetached sampleUnplug sampleDisk).run 20
          (fun _ _ => false)).value = some departure ∧
        arrival.usbDevice.devicePath = "/dev/sda".toList ∧
        departure.usbDevice.devicePath = [] ∧
        departure.usbDevice ≠ arrival.usbDevice := by
  refine ⟨fun t t' => ?_,
    ⟨.deviceArrived, ⟨classMassStorage, 6, "001/005".toList, "/dev/sda".toList⟩⟩,
    ⟨.deviceLeft, ⟨classMassStorage, 6, "001/005".toList, []⟩⟩,
    by decide, by decide, by decide, by decide, by decide⟩
  unfold sampleUnplug
  split_ifs <;> exact ⟨rfl, rfl⟩

end Usb
