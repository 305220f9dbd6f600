import USBDevicePlugin.Operations.DeviceInfo
import USBDevicePlugin.Operations.Driver

/-!
# The mass-storage interface

A device that leaves its class to its interfaces is mass storage if one of them is.  The code goes
through all interfaces to find that out, and to interface 0 to bind or unbind a driver.

* **`classFromFirst_iff`** — when the first mass-storage setting determines the subclass.
* **`storageInterface_driver_iff`** — when binding and unbinding reach the interface a device is mass
  storage for.
-/

namespace Usb

open Interaction

/-! ## The first and the last -/

/-- The first mass-storage setting of a configuration, interface by interface. -/
def firstMassStorageSetting (config : ConfigDescriptor) : Option InterfaceDescriptor :=
  config.interface.flatten.find? fun i => i.bInterfaceClass = classMassStorage

/-- Class and subclass as the first mass-storage setting determines them. -/
def classFromFirst (o : Outcomes) (d : Device) (bDevice : UInt8 × UInt8) : UInt8 × UInt8 :=
  match o.getConfigDescriptor d with
  | .ok (some config) =>
      ((firstMassStorageSetting config).map fun i => (classMassStorage, i.bInterfaceSubClass)).getD
        bDevice
  | _ => bDevice

/-- The first and the last mass-storage setting, if there are any, agree in the subclass. -/
def SubclassAgrees (o : Outcomes) (d : Device) : Prop :=
  ∀ config, o.getConfigDescriptor d = .ok (some config) →
    ∀ first ∈ firstMassStorageSetting config, ∀ last ∈ (massStorageSettings config).getLast?,
      first.bInterfaceSubClass = last.bInterfaceSubClass

lemma firstMassStorageSetting_eq (config : ConfigDescriptor) :
    firstMassStorageSetting config = (massStorageSettings config).head? :=
  (List.head?_filter ..).symm

/-- **The first mass-storage setting determines the class exactly when the last one agrees with it.**
The class is the same for all of them; the subclass the code returns is that of the last. -/
theorem classFromFirst_iff (env : Env) (d : Device) (bDeviceClass bDeviceSubClass : UInt8) (t : ℕ)
    (s : DriverState) :
    ((getUSBDevicClassFromInterfaceDescriptor env d bDeviceClass bDeviceSubClass).run t s).value =
        classFromFirst (env t) d (bDeviceClass, bDeviceSubClass) ↔
      SubclassAgrees (env t) d := by
  rw [getUSBDevicClassFromInterfaceDescriptor_value, classFromFirst, SubclassAgrees]
  cases hconfig : (env t).getConfigDescriptor d with
  | error e => simp
  | ok config =>
      cases config with
      | none => simp
      | some config =>
          simp only [Except.ok.injEq, Option.some.injEq, forall_eq', firstMassStorageSetting_eq,
            classFromInterfaces_eq]
          cases hsettings : massStorageSettings config with
          | nil => simp
          | cons first rest =>
              rw [List.getLast?_cons]
              simp [eq_comm]

/-- A disk with two alternate settings of different subclasses. -/
def sampleTwoSettings : Outcomes :=
  { sampleOutcomes with
    getConfigDescriptor := fun _ =>
      .ok (some { interface := [[⟨classMassStorage, 6⟩, ⟨classMassStorage, 2⟩]], bmAttributes := 0x80 }) }

/-- **The second setting wins.** -/
theorem classFromFirst_sampleTwoSettings :
    ((getUSBDevicClassFromInterfaceDescriptor sampleTwoSettings.steady sampleDisk 0 0).run 0
        (fun _ _ => false)).value = (classMassStorage, 2) ∧
      classFromFirst sampleTwoSettings sampleDisk (0, 0) = (classMassStorage, 6) ∧
      ((getUSBDevicClassFromInterfaceDescriptor sampleTwoSettings.steady sampleDisk 0 0).run 0
        (fun _ _ => false)).value ≠ classFromFirst sampleTwoSettings sampleDisk (0, 0) := by
  decide

/-! ## The interface with the driver -/

/-- A device of per-interface class, each of whose interfaces has one setting, and one of them,
interface `j`, is mass storage. -/
structure StorageInterface (o : Outcomes) (d : Device) (j : ℕ) : Prop where
  perInterface : ∃ desc, o.getDeviceDescriptor d = .ok desc ∧ desc.bDeviceClass = classPerInterface
  setting : ∃ config setting, o.getConfigDescriptor d = .ok (some config) ∧
    (∀ settings ∈ config.interface, settings.length = 1) ∧
    config.interface[j]? = some [setting] ∧ setting.bInterfaceClass = classMassStorage

/-- Such a device is mass storage. -/
lemma StorageInterface.hasMassStorageSetting {o : Outcomes} {d : Device} {j : ℕ}
    (h : StorageInterface o d j) : HasMassStorageSetting o d := by
  obtain ⟨config, setting, hconfig, -, hj, hclass⟩ := h.setting
  refine ⟨config, hconfig, List.ne_nil_of_mem (a := setting) ?_⟩
  have hflat : setting ∈ config.interface.flatten :=
    List.mem_flatten.mpr ⟨[setting], List.mem_of_getElem? hj, by simp⟩
  exact List.mem_filter.mpr ⟨hflat, by simpa using hclass⟩

/-- And described as such. -/
lemma StorageInterface.describe_deviceClass {o : Outcomes} {d : Device} {j : ℕ}
    (h : StorageInterface o d j) {u : USBDevice} (hu : describe o d = some u) :
    u.deviceClass = classMassStorage := by
  obtain ⟨desc, hdesc, hper⟩ := h.perInterface
  simp only [describe, hdesc, announcedClass, hper, if_true, Option.some.injEq] at hu
  rw [← hu]
  exact interfaceClass_of_hasMassStorageSetting h.hasMassStorageSetting

/-- A successful call leaves the driver of an interface as requested if it is interface 0, or if it
was so before. -/
lemma OperationResult.driver_iff {env : Env} {bound : Bool} {deviceName : CxxString} {t : ℕ}
    {s : DriverState} {r : Result Call DriverState Status}
    (h : OperationResult env bound deviceName t s r) (hvalue : r.value = .errorNone) {d : Device}
    (hd : usbDeviceName d = deviceName) (j : ℕ) :
    r.store d.key j = bound ↔ j = 0 ∨ s d.key j = bound := by
  by_cases hj : j = 0
  · subst hj
    simp [h.success hvalue hd]
  · simp [h.frame (Or.inr hj), hj]

/-- **Binding and unbinding reach the mass-storage interface exactly when it is interface 0, or was as
requested before.**  A device with a mass-storage interface `j` is listed as mass storage; a call of
`UnbindDriver` or `BindDriver` with the name it is listed under may succeed and leave the driver of
this interface as it was. -/
theorem storageInterface_driver_iff {o : Outcomes} {devs : List Device}
    (hlist : o.getDeviceList = .ok devs) (hdistinct : Distinct devs) {d : Device} (hd : d ∈ devs)
    {j : ℕ} (hj : StorageInterface o d j) {devices : Option (List USBDevice)} {t : ℕ}
    {s : DriverState} {entries : List USBDevice}
    (hentries : ((getDeviceList o.steady devices).run t s).value = (.errorNone, some entries))
    {entry : USBDevice} (hentry : entry ∈ entries) (hname : entry.deviceName = usbDeviceName d)
    (env : Env) (t' : ℕ) (s' : DriverState) :
    entry.deviceClass = classMassStorage ∧
    (let r := (unbindDriver env entry.deviceName).run t' s'
     r.value = .errorNone → (r.store d.key j = false ↔ j = 0 ∨ s' d.key j = false)) ∧
    (let r := (bindDriver env entry.deviceName).run t' s'
     r.value = .errorNone → (r.store d.key j = true ↔ j = 0 ∨ s' d.key j = true)) := by
  have hdescribe := describe_of_entry_named hlist hdistinct hd hentries hentry hname
  refine ⟨hj.describe_deviceClass hdescribe, fun hvalue => ?_, fun hvalue => ?_⟩
  · have hresult := (⟨false, entry.deviceName⟩ : DriverCall).operation_result env t' s'
    exact hresult.driver_iff hvalue hname.symm j
  · have hresult := (⟨true, entry.deviceName⟩ : DriverCall).operation_result env t' s'
    exact hresult.driver_iff hvalue hname.symm j

/-- A keyboard with a disk in it: interface 0 takes the keys, interface 1 is mass storage. -/
def sampleComposite : Outcomes :=
  { sampleOutcomes with
    getDeviceDescriptor := fun _ =>
      .ok { sampleDescriptor with bDeviceClass := classPerInterface, bDeviceSubClass := 0 }
    getConfigDescriptor := fun _ =>
      .ok (some { interface := [[⟨3, 1⟩], [⟨classMassStorage, 6⟩]], bmAttributes := 0x80 }) }

lemma storageInterface_sampleComposite : StorageInterface sampleComposite sampleDisk 1 where
  perInterface := ⟨_, rfl, rfl⟩
  setting := ⟨_, ⟨classMassStorage, 6⟩, rfl, by decide, rfl, rfl⟩

/-- The condition met: the composite device without a driver on interface 1. -/
theorem storageInterface_driver_sampleComposite :
    ((unbindDriver sampleComposite.steady "001/005".toList).run 0 (fun _ j => j = 0)).store
      sampleDisk.key 1 = false := by
  have hlist : sampleComposite.getDeviceList = .ok [sampleDisk] := rfl
  have hentries : ((getDeviceList sampleComposite.steady none).run 0 (fun _ _ => false)).value =
      (.errorNone, some [⟨classMassStorage, 6, "001/005".toList, "/dev/sda".toList⟩]) := by decide
  have hiff := storageInterface_driver_iff hlist (by decide) (List.mem_singleton.mpr rfl)
    storageInterface_sampleComposite hentries (List.mem_singleton.mpr rfl) (by decide)
    sampleComposite.steady 0 (fun _ j => j = 0)
  exact (hiff.2.1 (by decide)).mpr (Or.inr (by decide))

/-- **The disk keeps its driver.**  The device is listed as mass storage because of interface 1.
`UnbindDriver` succeeds, having taken the driver of the keyboard. -/
theorem storageInterface_keeps_driver :
    StorageInterface sampleComposite sampleDisk 1 ∧
      ((getDeviceList sampleComposite.steady none).run 0 (fun _ _ => false)).value =
        (.errorNone, some [⟨classMassStorage, 6, "001/005".toList, "/dev/sda".toList⟩]) ∧
      let r := (unbindDriver sampleComposite.steady "001/005".toList).run 0 (fun _ _ => true)
      r.value = .errorNone ∧ r.store sampleDisk.key 0 = false ∧ r.store sampleDisk.key 1 ≠ false := by
  exact ⟨storageInterface_sampleComposite, by decide, by decide, by decide, by decide⟩

end Usb
