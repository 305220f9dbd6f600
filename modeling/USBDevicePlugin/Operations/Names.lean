import USBDevicePlugin.Device.HotPlug
import USBDevicePlugin.Operations.DeviceInfo
import USBDevicePlugin.Operations.Driver

/-!
# The device name as a key

Clients learn the names of devices from `GetDeviceList` and from the notifications, and pass them
to the other operations.  Every name is made from bus number and address, in four places of the
code, and matched as text.

* **`nameIsKey`** — on an enumeration without two devices of the same bus number and
  address, the names published are distinct, each leads every operation to its device and to no
  other, and any other text leads nowhere.
-/

namespace Usb

open Interaction

/-- Every device list libusb hands out is this one, and no two devices in it share bus number and
address.  Nothing is said about its other answers. -/
structure Enumerates (env : Env) (devs : List Device) : Prop where
  list : ∀ t, (env t).getDeviceList = .ok devs
  distinct : Distinct devs

lemma Enumerates.devices_eq {env : Env} {devs : List Device} (h : Enumerates env devs) (t : ℕ) :
    (env t).devices = devs := by
  rw [Outcomes.devices, h.list t]
  rfl

/-- The calls are about the device, some of them, and about no other. -/
def ActsOn (d : Device) (calls : List Call) : Prop :=
  (∀ c ∈ calls, c.OnlyOn d) ∧ ∃ c ∈ calls, c.device = some d

/-! ## The names `GetDeviceList` publishes -/

/-- One turn of the loop adds the name of the device, if its descriptor can be read. -/
lemma listDevice_names (env : Env) (acc : Status × List USBDevice) (d : Device) (t : ℕ)
    (s : DriverState) :
    (∃ desc, (env t).getDeviceDescriptor d = .ok desc) ∧
        (((listDevice env acc d).run t s).value.2).map USBDevice.deviceName =
          acc.2.map USBDevice.deviceName ++ [usbDeviceName d] ∨
      (¬ ∃ desc, (env t).getDeviceDescriptor d = .ok desc) ∧
        ((listDevice env acc d).run t s).value.2 = acc.2 := by
  have hstatus := getUSBDeviceStructFromDeviceDescriptor_status env d t s
  by_cases hvalue :
      ((getUSBDeviceStructFromDeviceDescriptor env d {}).run t s).value.1 = .errorNone
  · have hname := getUSBDeviceStructFromDeviceDescriptor_deviceName hvalue
    refine Or.inl ⟨hstatus.mp hvalue, ?_⟩
    simp [listDevice, hvalue, hname]
  · refine Or.inr ⟨fun h => hvalue (hstatus.mpr h), ?_⟩
    simp [listDevice, hvalue]

/-- The loop adds the names of the devices it could describe, in order. -/
lemma foldlM_listDevice_names (env : Env) :
    ∀ (devs : List Device) (acc : Status × List USBDevice) (t : ℕ) (s : DriverState),
      ∃ listed, listed.Sublist devs ∧
        (((devs.foldlM (listDevice env) acc).run t s).value.2).map USBDevice.deviceName =
          acc.2.map USBDevice.deviceName ++ listed.map usbDeviceName ∧
        ((∀ d ∈ devs, ∀ t', ∃ desc, (env t').getDeviceDescriptor d = .ok desc) → listed = devs)
  | [], acc, _, _ => ⟨[], List.Sublist.refl _, by simp, fun _ => rfl⟩
  | d :: devs, acc, t, s => by
      rw [List.foldlM_cons, Prog.bind_run]
      obtain ⟨listed, hsub, hnames, hall⟩ := foldlM_listDevice_names env devs
        ((listDevice env acc d).run t s).value (t + ((listDevice env acc d).run t s).calls.length)
        ((listDevice env acc d).run t s).store
      rcases listDevice_names env acc d t s with ⟨-, hstep⟩ | ⟨hunreadable, hstep⟩
      · refine ⟨d :: listed, hsub.cons_cons d, ?_, fun h => ?_⟩
        · simp only [hnames, hstep, List.append_assoc, List.map_cons, List.singleton_append]
        · rw [hall fun d' hd' => h d' (List.mem_cons_of_mem d hd')]
      · refine ⟨listed, hsub.cons d, ?_, fun h => ?_⟩
        · simp only [hnames, hstep]
        · exact absurd (h d (List.mem_cons_self ..) t) hunreadable

/-- What is known about the names a successful listing publishes. -/
lemma getDeviceList_names {env : Env} {devs : List Device} (h : Enumerates env devs) {t : ℕ}
    {s : DriverState} {entries : List USBDevice}
    (hentries : ((getDeviceList env none).run t s).value = (.errorNone, some entries)) :
    ∃ listed, listed.Sublist devs ∧
      entries.map USBDevice.deviceName = listed.map usbDeviceName ∧
      ((∀ d ∈ devs, ∀ t', ∃ desc, (env t').getDeviceDescriptor d = .ok desc) → listed = devs) := by
  cases devs with
  | nil => simp [getDeviceList, libusbGetDeviceList, h.list, Except.toOption] at hentries
  | cons d ds =>
      obtain ⟨listed, hsub, hnames, hall⟩ :=
        foldlM_listDevice_names env (d :: ds) (.errorGeneral, []) (t + 1) s
      simp only [getDeviceList, libusbGetDeviceList, h.list, Except.toOption, Option.getD_some,
        Prog.bind_run, Prog.ask_run, Prog.tell_run, Prog.pure_run, List.length_singleton,
        Prod.mk.injEq] at hentries
      rw [if_pos hentries.1, Option.some.injEq] at hentries
      rw [hentries.2] at hnames
      exact ⟨listed, hsub, by simpa using hnames, hall⟩

/-! ## The named device -/

lemma locateDevice_device (devs : List Device) (d : Device) (info : USBDeviceInfo) :
    (locateDevice devs d info).device = info.device := rfl

/-- The result of `GetDeviceInfo` names the device: its name has been written, or the call failed
before writing any. -/
def NamesDevice (d : Device) (info : USBDeviceInfo) (result : Status × USBDeviceInfo) : Prop :=
  result.2.device.deviceName = usbDeviceName d ∨
    result.1 = .errorGeneral ∧ result.2.device = info.device

lemma getDeviceInfo_namesDevice {env : Env} {devs : List Device} (h : Enumerates env devs)
    {d : Device} (hd : d ∈ devs) (info : USBDeviceInfo) (t : ℕ) (s : DriverState) :
    NamesDevice d info ((getDeviceInfo env (usbDeviceName d) info).run t s).value := by
  have hdevs := h.devices_eq (t + 1)
  rw [getDeviceInfo_run (hdevs ▸ h.distinct) (hdevs ▸ hd), NamesDevice]
  dsimp only
  rw [apply_ite USBDeviceInfo.device, locateDevice_device, ite_self]
  cases hdesc : (env (t + 2)).getDeviceDescriptor d with
  | error e =>
      rw [getUSBDeviceInfoStructFromDeviceDescriptor_of_error hdesc]
      exact Or.inr ⟨rfl, rfl⟩
  | ok desc =>
      exact Or.inl (getUSBDeviceInfoStructFromDeviceDescriptor_deviceName hdesc info s)

/-- The calls of the frame are about no device. -/
lemma actsOn_of_frame {d : Device} {devs : List Device} {calls : List Call} (h : ActsOn d calls) :
    ActsOn d (.lock :: .getDeviceList devs :: (calls ++ [.freeDeviceList, .unlock])) := by
  obtain ⟨honly, c, hc, hdevice⟩ := h
  refine ⟨fun c' hc' => ?_, c, by simp [hc], hdevice⟩
  simp only [List.mem_cons, List.mem_append, List.not_mem_nil, or_false] at hc'
  rcases hc' with rfl | rfl | hc' | rfl | rfl
  · simp [Call.OnlyOn, Call.device]
  · simp [Call.OnlyOn, Call.device]
  · exact honly c' hc'
  · simp [Call.OnlyOn, Call.device]
  · simp [Call.OnlyOn, Call.device]

lemma getDeviceInfo_actsOn {env : Env} {devs : List Device} (h : Enumerates env devs) {d : Device}
    (hd : d ∈ devs) (info : USBDeviceInfo) (t : ℕ) (s : DriverState) :
    ActsOn d ((getDeviceInfo env (usbDeviceName d) info).run t s).calls := by
  have hdevs := h.devices_eq (t + 1)
  rw [getDeviceInfo_run (hdevs ▸ h.distinct) (hdevs ▸ hd)]
  refine actsOn_of_frame ⟨getUSBDeviceInfoStructFromDeviceDescriptor_onlyOn env d info _ s,
    .getDeviceDescriptor d ((env (t + 2)).getDeviceDescriptor d).toOption.isSome, ?_, rfl⟩
  simp [getUSBDeviceInfoStructFromDeviceDescriptor, libusbGetDeviceDescriptor]

lemma DriverResult.actsOn {env : Env} {bound : Bool} {d : Device} {t : ℕ} {s : DriverState}
    {r : Result Call DriverState Status} (h : DriverResult env bound d t s r) :
    ActsOn d r.calls := by
  cases h <;> cases bound <;> simp [ActsOn, Call.OnlyOn, Call.device, driverRequest]

lemma DriverCall.operation_actsOn {env : Env} {devs : List Device} (h : Enumerates env devs)
    {d : Device} (hd : d ∈ devs) (bound : Bool) (t : ℕ) (s : DriverState) :
    ActsOn d (((⟨bound, usbDeviceName d⟩ : DriverCall).operation env).run t s).calls := by
  have hdevs := h.devices_eq (t + 1)
  have hresult := (⟨bound, usbDeviceName d⟩ : DriverCall).operation_result env t s
  generalize ((⟨bound, usbDeviceName d⟩ : DriverCall).operation env).run t s = r at hresult ⊢
  cases hresult with
  | noDevices hnil =>
      rw [hdevs] at hnil
      exact absurd hd (by simp [hnil])
  | notFound hne hall => exact absurd rfl (hall d (hdevs ▸ hd))
  | found d' hd' hname r hr =>
      obtain rfl := h.distinct.eq_of_name hd (hdevs ▸ hd') hname
      exact actsOn_of_frame hr.actsOn

/-! ## Any other name -/

/-- A call that came to nothing: it returned this value, touched no device and changed nothing. -/
def Refused {α : Type} (value : α) (s : DriverState) (r : Result Call DriverState α) : Prop :=
  r.value = value ∧ (∀ c ∈ r.calls, c.device = none) ∧ r.store = s

lemma DriverCall.operation_of_not_named {env : Env} {devs : List Device} (h : Enumerates env devs)
    {deviceName : CxxString} (hname : ∀ d ∈ devs, deviceName ≠ usbDeviceName d) (bound : Bool)
    (t : ℕ) (s : DriverState) :
    Refused .errorGeneral s (((⟨bound, deviceName⟩ : DriverCall).operation env).run t s) := by
  have hdevs := h.devices_eq (t + 1)
  have hresult := (⟨bound, deviceName⟩ : DriverCall).operation_result env t s
  generalize ((⟨bound, deviceName⟩ : DriverCall).operation env).run t s = r at hresult ⊢
  cases hresult with
  | noDevices hnil => exact ⟨rfl, by simp [Call.device], rfl⟩
  | notFound hne hall => exact ⟨rfl, by simp [Call.device], rfl⟩
  | found d hd hname' r hr => exact absurd hname' (hname d (hdevs ▸ hd))

lemma getDeviceInfo_of_not_named {env : Env} {devs : List Device} (h : Enumerates env devs)
    {deviceName : CxxString} (hname : ∀ d ∈ devs, deviceName ≠ usbDeviceName d)
    (info : USBDeviceInfo) (t : ℕ) (s : DriverState) :
    Refused (.errorGeneral, info) s ((getDeviceInfo env deviceName info).run t s) := by
  obtain ⟨hvalue, hcalls, hstore⟩ :=
    getDeviceInfo_run_of_not_named (t := t) ((h.devices_eq (t + 1)).symm ▸ hname) info s
  refine ⟨hvalue, fun c hc => ?_, hstore⟩
  have hmem := hcalls hc
  simp only [List.mem_cons, List.not_mem_nil, or_false] at hmem
  rcases hmem with rfl | rfl | rfl | rfl <;> rfl

/-! ## The key -/

/-- What it means for the device names of an enumeration to be a key. -/
structure NameIsKey (env : Env) (devs : List Device) : Prop where
  /-- The names `GetDeviceList` publishes are distinct names of enumerated devices, of all of them
  if all can be read. -/
  published : ∀ t s entries,
    ((getDeviceList env none).run t s).value = (.errorNone, some entries) →
      (entries.map USBDevice.deviceName).Nodup ∧
      (entries.map USBDevice.deviceName).Sublist (devs.map usbDeviceName) ∧
      ((∀ d ∈ devs, ∀ t', ∃ desc, (env t').getDeviceDescriptor d = .ok desc) →
        entries.map USBDevice.deviceName = devs.map usbDeviceName)
  /-- On the name of a device the operations act on this device and on no other. -/
  accepted : ∀ d ∈ devs, ∀ t s,
    (∀ info, ActsOn d ((getDeviceInfo env (usbDeviceName d) info).run t s).calls) ∧
    ActsOn d ((bindDriver env (usbDeviceName d)).run t s).calls ∧
    ActsOn d ((unbindDriver env (usbDeviceName d)).run t s).calls
  /-- The results of `GetDeviceInfo` carry the name. -/
  returned : ∀ d ∈ devs, ∀ t s info,
    NamesDevice d info ((getDeviceInfo env (usbDeviceName d) info).run t s).value
  /-- The notifications carry the name. -/
  announced : ∀ event d t s job, ((libUSBHotPlugCallback event env d).run t s).value = some job →
    job.usbDevice.deviceName = usbDeviceName d
  /-- On any other text the operations fail without touching a device. -/
  refused : ∀ deviceName, (∀ d ∈ devs, deviceName ≠ usbDeviceName d) → ∀ t s,
    (∀ info, Refused (.errorGeneral, info) s ((getDeviceInfo env deviceName info).run t s)) ∧
    Refused .errorGeneral s ((bindDriver env deviceName).run t s) ∧
    Refused .errorGeneral s ((unbindDriver env deviceName).run t s)

/-- **The device name is a faithful key shared by all operations**, on every enumeration without two
devices of the same bus number and address, and whatever else libusb answers. -/
theorem nameIsKey {env : Env} {devs : List Device} (h : Enumerates env devs) :
    NameIsKey env devs where
  published t s entries hentries := by
    obtain ⟨listed, hsub, hnames, hall⟩ := getDeviceList_names h hentries
    rw [hnames]
    exact ⟨h.distinct.nodup_names.sublist (hsub.map _), hsub.map _,
      fun hreadable => by rw [hall hreadable]⟩
  accepted d hd t s :=
    ⟨fun info => getDeviceInfo_actsOn h hd info t s, DriverCall.operation_actsOn h hd true t s,
      DriverCall.operation_actsOn h hd false t s⟩
  returned d hd t s info := getDeviceInfo_namesDevice h hd info t s
  announced _ _ _ _ _ hjob := libUSBHotPlugCallback_deviceName hjob
  refused _ hname t s :=
    ⟨fun info => getDeviceInfo_of_not_named h hname info t s,
      DriverCall.operation_of_not_named h hname true t s,
      DriverCall.operation_of_not_named h hname false t s⟩

/-- A bus with three devices, one of them unreadable. -/
theorem nameIsKey_sampleHub :
    NameIsKey (sampleUnreadableHub.enumerating [sampleDisk, sampleHub, samplePortOne]).steady
      [sampleDisk, sampleHub, samplePortOne] :=
  nameIsKey ⟨fun _ => rfl, by decide⟩

end Usb
