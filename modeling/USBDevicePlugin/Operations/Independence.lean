import USBDevicePlugin.Device.BlockDevice
import USBDevicePlugin.Device.StringEdits
import USBDevicePlugin.Operations.DeviceInfo

/-!
# What the caller's structure held before

`GetDeviceInfo` fills in a structure that the caller supplies, and does not clear it first.  What it held
shows in the answer where nothing is assigned or something appended, and it decides whether the path is
looked for.

* `LooksForPath` — the part that the structure plays in the course of the call.
* `DeviceAlike`, `AnswersAlike` — when two structures lead to the same answer, said of the structures, the
  descriptors, the replies and the files.
* **`getDeviceInfo_independent_iff`** — the answers for two structures are the same exactly then.
-/

namespace Usb

open Interaction

section Described

variable (env : Env) (d : Device) (desc : DeviceDescriptor)

/-! ## Class, path and serial number -/

/-- The file system that a description meets whose class search begins at `t`. -/
def sysfsMet (t : ℕ) : Sysfs := (env (t + classCalls (env t) d desc)).sysfs

/-- The serial number in sysfs, if there is one. -/
def serialInSysfs (fs : Sysfs) : Option CxxString :=
  (getUSBDeviceSysfsPath d).bind fun sysfsPath => (fs.contents (serialPath sysfsPath)).map getline

/-- The path is looked for: the interfaces say mass storage, or they say nothing and the structure came
with that class. -/
def LooksForPath (device : USBDevice) (t : ℕ) : Prop :=
  (classTested (env t) d desc device).1 = classMassStorage

instance (device : USBDevice) (t : ℕ) : Decidable (LooksForPath env d desc device t) :=
  inferInstanceAs (Decidable (_ = _))

/-- The structure for which the path is looked for comes out as the one for which it is not. -/
structure CrossedAlike (t : ℕ) (looking other : USBDeviceInfo) : Prop where
  deviceClass : desc.bDeviceClass = classMassStorage
  deviceSubclass : (classTested (env t) d desc looking.device).2 = desc.bDeviceSubClass
  devicePath : (blockDevicePath (sysfsMet env d desc t) d).getD looking.device.devicePath =
    other.device.devicePath
  serialNumber : (serialInSysfs d (sysfsMet env d desc t)).getD looking.serialNumber =
    other.serialNumber

/-- Class, path and serial number come out alike.  If the path is looked for in both calls, the
subclasses have to agree unless the interfaces give one, and path and serial number unless the file
system has them; if it is in none, path and serial number have to agree. -/
def DeviceAlike (t : ℕ) (info₁ info₂ : USBDeviceInfo) : Prop :=
  if LooksForPath env d desc info₁.device t then
    if LooksForPath env d desc info₂.device t then
      (classTested (env t) d desc info₁.device).2 = (classTested (env t) d desc info₂.device).2 ∧
        ((blockDevicePath (sysfsMet env d desc t) d).isSome ∨
          info₁.device.devicePath = info₂.device.devicePath) ∧
        ((serialInSysfs d (sysfsMet env d desc t)).isSome ∨ info₁.serialNumber = info₂.serialNumber)
    else CrossedAlike env d desc t info₁ info₂
  else if LooksForPath env d desc info₂.device t then CrossedAlike env d desc t info₂ info₁
  else info₁.device.devicePath = info₂.device.devicePath ∧ info₁.serialNumber = info₂.serialNumber

/-- What the search for class, path and serial number comes to. -/
lemma searchInfoDevice_value (info : USBDeviceInfo) (t : ℕ) (s : DriverState) :
    ((searchInfoDevice env d desc info.device info.serialNumber).run t s).value =
      if LooksForPath env d desc info.device t then
        (⟨classMassStorage, (classTested (env t) d desc info.device).2, usbDeviceName d,
            (blockDevicePath (sysfsMet env d desc t) d).getD info.device.devicePath⟩,
          (serialInSysfs d (sysfsMet env d desc t)).getD info.serialNumber)
      else
        (⟨desc.bDeviceClass, desc.bDeviceSubClass, usbDeviceName d, info.device.devicePath⟩,
          info.serialNumber) := by
  have hvalue := searchInterfaceClass_value env d desc info.device t s
  have hlength := searchInterfaceClass_calls_length env d desc info.device t s
  have hserial : ∀ t' s', ((getDevicePathFromDevice env d info.device.devicePath
      info.serialNumber).run t' s').value.2 =
        (serialInSysfs d (env t').sysfs).getD info.serialNumber := by
    intro t' s'
    cases hpath : getUSBDeviceSysfsPath d with
    | none => simp [getDevicePathFromDevice, serialInSysfs, hpath]
    | some sysfsPath =>
        rw [getDevicePathFromDevice_serial hpath, getDeviceSerialNumber_eq, serialInSysfs, hpath,
          Option.bind_some]
  simp only [searchInfoDevice, Prog.bind_run, hvalue, hlength]
  by_cases hms : LooksForPath env d desc info.device t
  · have hclass : (classTested (env t) d desc info.device).1 = classMassStorage := hms
    rw [if_pos hms, if_neg (not_not.mpr hclass)]
    simp only [Prog.bind_run, Prog.pure_run, getDevicePathFromDevice_value, hserial, hclass,
      sysfsMet]
  · have hclass : (classTested (env t) d desc info.device).1 ≠ classMassStorage := hms
    rw [if_neg hms, if_pos hclass]
    rfl

lemma searchInfoDevice_eq_iff (info₁ info₂ : USBDeviceInfo) (t : ℕ) (s : DriverState) :
    ((searchInfoDevice env d desc info₁.device info₁.serialNumber).run t s).value =
        ((searchInfoDevice env d desc info₂.device info₂.serialNumber).run t s).value ↔
      DeviceAlike env d desc t info₁ info₂ := by
  have hgetD : ∀ (found : Option CxxString) (text₁ text₂ : CxxString),
      found.getD text₁ = found.getD text₂ ↔ found.isSome ∨ text₁ = text₂ := by
    intro found text₁ text₂
    cases found <;> simp
  have hcrossed : ∀ looking other : USBDeviceInfo,
      ((⟨classMassStorage, (classTested (env t) d desc looking.device).2, usbDeviceName d,
          (blockDevicePath (sysfsMet env d desc t) d).getD looking.device.devicePath⟩,
        (serialInSysfs d (sysfsMet env d desc t)).getD looking.serialNumber) :
          USBDevice × CxxString) =
        (⟨desc.bDeviceClass, desc.bDeviceSubClass, usbDeviceName d, other.device.devicePath⟩,
          other.serialNumber) ↔
        CrossedAlike env d desc t looking other := by
    intro looking other
    rw [Prod.mk.injEq, USBDevice.mk.injEq]
    exact ⟨fun ⟨⟨hclass, hsub, _, hpath⟩, hserial⟩ => ⟨hclass.symm, hsub, hpath, hserial⟩,
      fun h => ⟨⟨h.deviceClass.symm, h.deviceSubclass, rfl, h.devicePath⟩, h.serialNumber⟩⟩
  rw [searchInfoDevice_value, searchInfoDevice_value, DeviceAlike]
  split_ifs
  · rw [Prod.mk.injEq, USBDevice.mk.injEq, hgetD, hgetD]
    tauto
  · exact hcrossed info₁ info₂
  · rw [eq_comm]
    exact hcrossed info₂ info₁
  · simp only [Prod.mk.injEq, USBDevice.mk.injEq, true_and]

/-! ## The whole structure -/

/-- The instant at which the device is opened, in a description of it that begins at `t`. -/
def openedAt (device : USBDevice) (t : ℕ) : ℕ := activeConfigAt env d desc device t + 1

/-- The answers are alike, if the calls succeed.  Level and parent have to agree, since success leaves
them alone, and all that the device and the file system do not settle. -/
structure AnswersAlike (t : ℕ) (info₁ info₂ : USBDeviceInfo) : Prop where
  deviceLevel : info₁.deviceLevel = info₂.deviceLevel
  parentId : info₁.parentId = info₂.parentId
  device : DeviceAlike env d desc (t + 1) info₁ info₂
  deviceStatus : deviceStatusOf (env (activeConfigAt env d desc info₁.device t)) d =
    deviceStatusOf (env (activeConfigAt env d desc info₂.device t)) d
  strings : (stringsEdit env d desc (openedAt env d desc info₁.device t)).Alike
    (stringsEdit env d desc (openedAt env d desc info₂.device t)) info₁ info₂

variable {env d desc}

/-- Two descriptions that get as far as the strings. -/
lemma getUSBDeviceInfoStructFromDeviceDescriptor_eq_iff {t : ℕ}
    (hdesc : (env t).getDeviceDescriptor d = .ok desc) {info₁ info₂ : USBDeviceInfo}
    (hopen₁ : (env (openedAt env d desc info₁.device t)).openDevice d = none)
    (hopen₂ : (env (openedAt env d desc info₂.device t)).openDevice d = none) (s : DriverState) :
    ((getUSBDeviceInfoStructFromDeviceDescriptor env d info₁).run t s).value.2 =
        ((getUSBDeviceInfoStructFromDeviceDescriptor env d info₂).run t s).value.2 ↔
      AnswersAlike env d desc t info₁ info₂ := by
  have hedit₁ := fun info s' => getUSBExtInfoStructFromDeviceDescriptor_edit env d desc hopen₁ info s'
  have hedit₂ := fun info s' => getUSBExtInfoStructFromDeviceDescriptor_edit env d desc hopen₂ info s'
  unfold openedAt at hedit₁ hedit₂
  rw [getUSBDeviceInfoStructFromDeviceDescriptor_calls hdesc,
    getUSBDeviceInfoStructFromDeviceDescriptor_calls hdesc]
  dsimp only
  rw [hedit₁, hedit₂, StringsEdit.apply_eq_apply_iff]
  have hfound := searchInfoDevice_eq_iff env d desc info₁ info₂ (t + 1) s
  rw [Prod.ext_iff] at hfound
  simp only [USBDeviceInfo.withoutStrings, USBDeviceInfo.filled, USBDeviceInfo.mk.injEq, true_and,
    and_true]
  constructor
  · rintro ⟨⟨hparent, hstatus, hlevel, hserial, hdevice⟩, hstrings⟩
    exact ⟨hlevel, hparent, hfound.mp ⟨hdevice, hserial⟩, hstatus, hstrings⟩
  · intro h
    obtain ⟨hdevice, hserial⟩ := hfound.mpr h.device
    exact ⟨⟨h.parentId, h.deviceStatus, h.deviceLevel, hserial, hdevice⟩, h.strings⟩

end Described

/-! ## Two calls -/

/-- The answers are the same: same status, and after a success the same structure. -/
def SameAnswer (answer₁ answer₂ : Status × USBDeviceInfo) : Prop :=
  answer₁.1 = answer₂.1 ∧ (answer₁.1 = .errorNone → answer₁.2 = answer₂.2)

/-- On a device of the list. -/
lemma getDeviceInfo_sameAnswer_iff {env : Env} {t : ℕ} (hdistinct : Distinct (env (t + 1)).devices)
    {d : Device} (hd : d ∈ (env (t + 1)).devices) (info₁ info₂ : USBDeviceInfo) (s : DriverState) :
    SameAnswer ((getDeviceInfo env (usbDeviceName d) info₁).run t s).value
        ((getDeviceInfo env (usbDeviceName d) info₂).run t s).value ↔
      ∀ desc, (env (t + 2)).getDeviceDescriptor d = .ok desc →
        (StringsRead env d desc (openedAt env d desc info₁.device (t + 2)) ↔
          StringsRead env d desc (openedAt env d desc info₂.device (t + 2))) ∧
        (StringsRead env d desc (openedAt env d desc info₁.device (t + 2)) →
          AnswersAlike env d desc (t + 2) info₁ info₂) := by
  have hstatus := fun info => getDeviceInfo_status hdistinct hd info s
  rw [SameAnswer, Status.eq_iff, hstatus, hstatus]
  cases hdesc : (env (t + 2)).getDeviceDescriptor d with
  | error e =>
      have hunread := not_infoRead_of_error hdesc
      simp [hunread]
  | ok desc =>
      simp only [infoRead_iff hdesc, Except.ok.injEq, forall_eq']
      refine and_congr_right fun hboth => imp_congr_right fun hread₁ => ?_
      have hread₂ := hboth.mp hread₁
      rw [getDeviceInfo_info_of_success hdistinct hd ((infoRead_iff hdesc _).mpr hread₁),
        getDeviceInfo_info_of_success hdistinct hd ((infoRead_iff hdesc _).mpr hread₂)]
      exact getUSBDeviceInfoStructFromDeviceDescriptor_eq_iff hdesc hread₁.1 hread₂.1 s

/-- **When the answer is the same for two structures.**  Exactly when both or neither can be filled in to
the end, and if they can, the structures agree wherever descriptors, replies and files do not decide.
Where the name is no device's, or its descriptor cannot be read, there is nothing to compare. -/
theorem getDeviceInfo_independent_iff {env : Env} {t : ℕ}
    (hdistinct : Distinct (env (t + 1)).devices) (deviceName : CxxString)
    (info₁ info₂ : USBDeviceInfo) (s : DriverState) :
    SameAnswer ((getDeviceInfo env deviceName info₁).run t s).value
        ((getDeviceInfo env deviceName info₂).run t s).value ↔
      ∀ d ∈ (env (t + 1)).devices, usbDeviceName d = deviceName →
        ∀ desc, (env (t + 2)).getDeviceDescriptor d = .ok desc →
          (StringsRead env d desc (openedAt env d desc info₁.device (t + 2)) ↔
            StringsRead env d desc (openedAt env d desc info₂.device (t + 2))) ∧
          (StringsRead env d desc (openedAt env d desc info₁.device (t + 2)) →
            AnswersAlike env d desc (t + 2) info₁ info₂) := by
  by_cases hnamed : ∃ d ∈ (env (t + 1)).devices, usbDeviceName d = deviceName
  · obtain ⟨d, hd, rfl⟩ := hnamed
    rw [getDeviceInfo_sameAnswer_iff hdistinct hd]
    refine ⟨fun h x hx hname => ?_, fun h => h d hd rfl⟩
    rwa [hdistinct.eq_of_name hx hd hname]
  · have hnone : ∀ d ∈ (env (t + 1)).devices, deviceName ≠ usbDeviceName d :=
      fun d hd hname => hnamed ⟨d, hd, hname.symm⟩
    rw [(getDeviceInfo_run_of_not_named hnone info₁ s).1,
      (getDeviceInfo_run_of_not_named hnone info₂ s).1]
    exact iff_of_true ⟨rfl, fun hstatus => absurd hstatus (by simp)⟩
      fun d hd hname => absurd ⟨d, hd, hname⟩ hnamed

/-- A structure that has been used before: each of its values is overwritten in a call that succeeds. -/
def sampleStale : USBDeviceInfo :=
  { vendorId := 7, portNumber := 9, deviceStatus := .selfPoweredActive, numLanguageIds := 3
    device := { deviceClass := 3, deviceSubclass := 1, deviceName := "009/009".toList }
    productInfo1 := { languageId := 7 } }

/-- The condition met: the stick is described alike, the used structure notwithstanding. -/
theorem getDeviceInfo_independent_sampleStale :
    let answer := fun info =>
      ((getDeviceInfo sampleOutcomes.steady "001/005".toList info).run 0 fun _ _ => false).value
    (answer {}).1 = .errorNone ∧ (answer sampleStale).1 = .errorNone ∧
      (answer sampleStale).2 = (answer {}).2 := by
  intro answer
  have hok : (answer {}).1 = .errorNone := by decide
  have hdistinct : Distinct (sampleOutcomes.steady 1).devices := by decide
  obtain ⟨hstatus, hinfo⟩ := (@getDeviceInfo_independent_iff sampleOutcomes.steady 0 hdistinct
    "001/005".toList {} sampleStale fun _ _ => false).mpr fun d hd _ desc hdesc => by
      obtain rfl := List.mem_singleton.mp hd
      obtain rfl := Except.ok.inj hdesc
      exact ⟨Iff.rfl, fun _ =>
        { deviceLevel := rfl
          parentId := rfl
          device := by
            rw [DeviceAlike, if_neg (by decide), if_neg (by decide)]
            exact ⟨rfl, rfl⟩
          deviceStatus := by decide
          strings := by decide }⟩
  exact ⟨hok, hstatus.symm.trans hok, (hinfo hok).symm⟩

/-- **Calling twice is not calling once.**  On the sample bus the product of the stick is `A`, and
it has no path the first time.  Called again on the structure the first call filled in, the
operation appends to the product and comes upon the path. -/
theorem getDeviceInfo_twice_sampleDisk :
    let once := (getDeviceInfo sampleOutcomes.steady "001/005".toList {}).run 0 fun _ _ => false
    let twice := (getDeviceInfo sampleOutcomes.steady "001/005".toList once.value.2).run 0
      fun _ _ => false
    once.value.1 = .errorNone ∧ twice.value.1 = .errorNone ∧
      once.value.2.productInfo1.product = "A".toList ∧
      twice.value.2.productInfo1.product = "AA".toList ∧
      once.value.2.device.devicePath = [] ∧
      twice.value.2.device.devicePath = "/dev/sda".toList ∧
      once.value.2 ≠ twice.value.2 := by
  have honce : ((getDeviceInfo sampleOutcomes.steady "001/005".toList {}).run 0
      fun _ _ => false).value.2.productInfo1.product = "A".toList := by decide
  have htwice : ((getDeviceInfo sampleOutcomes.steady "001/005".toList
      ((getDeviceInfo sampleOutcomes.steady "001/005".toList {}).run 0
        fun _ _ => false).value.2).run 0 fun _ _ => false).value.2.productInfo1.product =
          "AA".toList := by decide
  refine ⟨by decide, by decide, honce, htwice, by decide, by decide, fun heq => ?_⟩
  have hproduct := congrArg (fun info : USBDeviceInfo => info.productInfo1.product) heq
  simp only [honce, htwice] at hproduct
  exact absurd hproduct (by decide)

end Usb
