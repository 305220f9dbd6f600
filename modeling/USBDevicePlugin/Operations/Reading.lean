import USBDevicePlugin.Device.StringDescriptors
import USBDevicePlugin.Operations.Clients

/-!
# What a device info says

`GetDeviceInfo` puts its answer together from dozens of calls, while the device may be unplugged,
its disk come and go, and its strings be refused.  Whatever happens, each field of the answer is the
caller's, or what the named device was found to be at some instant in between.

* `DeviceFrom`, `StatusFrom`, `StringsFrom` — how the parts of the structure come about.
* `InfoObserved` — the whole of it, in an environment that may be `confined` to the call.
* **`getDeviceInfo_observed`** — every answer comes about in this way.
-/

namespace Usb

open Interaction LittleEndian

/-! ## Where the fields come from -/

/-- The part that is also in a `USBDevice`, and the serial number from sysfs: for a device that is
not found to be mass storage the class is its own and the rest the caller's; otherwise the class is
as tested, path and serial number as the file system has them, or the caller's if it has none. -/
inductive DeviceFrom (env : Env) (d : Device) (desc : DeviceDescriptor) (before : USBDeviceInfo) :
    USBDevice → CxxString → Prop
  | own : DeviceFrom env d desc before
      ⟨desc.bDeviceClass, desc.bDeviceSubClass, usbDeviceName d, before.device.devicePath⟩
      before.serialNumber
  | massStorage (t t' : ℕ) (deviceSubclass : UInt8)
      (hclass : classTested (env t) d desc before.device = (classMassStorage, deviceSubclass)) :
      DeviceFrom env d desc before
        ⟨classMassStorage, deviceSubclass, usbDeviceName d,
          (blockDevicePath (env t').sysfs d).getD before.device.devicePath⟩
        (match getUSBDeviceSysfsPath d with
          | none => before.serialNumber
          | some sysfsPath => getDeviceSerialNumber (env t').sysfs sysfsPath before.serialNumber)

/-- The status, from the active configuration. -/
inductive StatusFrom (env : Env) (d : Device) : USBDeviceStatus → Prop
  | configured (t : ℕ) (config : ConfigDescriptor)
      (hconfig : (env t).getActiveConfigDescriptor d = .ok config) :
      StatusFrom env d
        (if config.bmAttributes &&& configAttSelfPowered ≠ 0 then .selfPoweredActive else .active)
  | failed (t : ℕ) (e : LibusbError) (hconfig : (env t).getActiveConfigDescriptor d = .error e) :
      StatusFrom env d .noDeviceConnected

/-- Languages and strings: the device did not open, or its table was too long, or it was decoded. -/
inductive StringsFrom (env : Env) (d : Device) (desc : DeviceDescriptor) (calls : List Call)
    (before after : USBDeviceInfo) : Prop
  | unopened (t : ℕ) (e : LibusbError) (hopen : (env t).openDevice d = some e)
      (hcount : after.numLanguageIds = before.numLanguageIds)
      (hsame : ∀ k, after.productInfo k = before.productInfo k)
  | withoutLanguage (t : ℕ) (hlong : 4 < ((env t).getStringDescriptor d 0 0).retValue)
      (hcount : after.numLanguageIds = before.numLanguageIds)
      (hlanguage : after.productInfo1.languageId = before.productInfo1.languageId)
      (hserial : StoredFrom env d 0 desc.iSerialNumber before.productInfo1.serialNumber
        after.productInfo1.serialNumber calls)
      (hmanufacturer : StoredFrom env d 0 desc.iManufacturer before.productInfo1.manufacturer
        after.productInfo1.manufacturer calls)
      (hproduct : StoredFrom env d 0 desc.iProduct before.productInfo1.product
        after.productInfo1.product calls)
      (hsame : ∀ k, k ≠ 0 → after.productInfo k = before.productInfo k)
  | decoded (t : ℕ) (hshort : ((env t).getStringDescriptor d 0 0).retValue ≤ 4)
      (hcount : after.numLanguageIds = countFrom ((env t).getStringDescriptor d 0 0).bLength)
      (hfilled : ∀ k : Fin 4, k < after.numLanguageIds.toNat →
        FilledIn env d desc
          (word (writeBuffer zeroBuffer ((env t).getStringDescriptor d 0 0).data) (2 + 2 * k))
          (before.productInfo k) (after.productInfo k) calls)
      (hsame : ∀ k : Fin 4, after.numLanguageIds.toNat ≤ k →
        after.productInfo k = before.productInfo k)

/-- The whole structure after a description that read the device descriptor. -/
structure InfoObserved (env : Env) (d : Device) (calls : List Call) (before after : USBDeviceInfo) :
    Prop where
  described : ∃ t desc, (env t).getDeviceDescriptor d = .ok desc ∧
    after.vendorId = desc.idVendor ∧ after.productId = desc.idProduct ∧
    after.protocol = desc.bDeviceProtocol ∧
    DeviceFrom env d desc before after.device after.serialNumber ∧
    StringsFrom env d desc calls before after
  status : StatusFrom env d after.deviceStatus
  device : after.flags = .driverAvailable ∧ after.portNumber = d.portNumber ∧
    after.busSpeed = d.speed
  place : after.deviceLevel = before.deviceLevel ∧ after.parentId = before.parentId

/-! ## The parts -/

section Parts

variable (env : Env) (d : Device) (desc : DeviceDescriptor)

lemma getDevicePathFromDevice_serialNumber (devPath serialNumber : CxxString) (t : ℕ)
    (s : DriverState) :
    ((getDevicePathFromDevice env d devPath serialNumber).run t s).value.2 =
      match getUSBDeviceSysfsPath d with
      | none => serialNumber
      | some sysfsPath => getDeviceSerialNumber (env t).sysfs sysfsPath serialNumber := by
  unfold getDevicePathFromDevice
  cases getUSBDeviceSysfsPath d with
  | none => rfl
  | some sysfsPath =>
      cases hdir : (env t).sysfs.directory pluginUsbDeviceBlockPath <;> simp [readSysfs, hdir]

lemma searchInfoDevice_from (before : USBDeviceInfo) (t : ℕ) (s : DriverState) :
    let r := (searchInfoDevice env d desc before.device before.serialNumber).run t s
    DeviceFrom env d desc before r.value.1 r.value.2 := by
  have hclass := searchInterfaceClass_value env d desc before.device t s
  simp only [searchInfoDevice, Prog.bind_run]
  generalize (searchInterfaceClass env d desc before.device).run t s = c at hclass ⊢
  split_ifs with hms
  · exact .own
  · have hms' : c.value.1 = classMassStorage := not_not.mp hms
    simp only [Prog.bind_run, Prog.pure_run, getDevicePathFromDevice_value,
      getDevicePathFromDevice_serialNumber, hms']
    exact .massStorage t _ c.value.2 (by rw [← hclass, ← hms'])

lemma deviceStatusOf_from (t : ℕ) : StatusFrom env d (deviceStatusOf (env t) d) := by
  unfold deviceStatusOf
  cases hconfig : (env t).getActiveConfigDescriptor d with
  | error e => exact .failed t e hconfig
  | ok config => exact .configured t config hconfig

/-- The three strings that are asked for without a language. -/
lemma readWithoutLanguage_stored (info : USBDeviceInfo) (t : ℕ) (s : DriverState) :
    let r := (readWithoutLanguage env d desc info).run t s
    let before := info.productInfo1
    let after := r.value.2.productInfo1
    StoredFrom env d 0 desc.iSerialNumber before.serialNumber after.serialNumber r.calls ∧
      StoredFrom env d 0 desc.iManufacturer before.manufacturer after.manufacturer r.calls ∧
      StoredFrom env d 0 desc.iProduct before.product after.product r.calls := by
  simp only [readWithoutLanguage, Prog.bind_run, Prog.pure_run, List.append_nil]
  exact ⟨(storedFrom_run _ _ _ _ _ _ _).mono (by simp),
    (storedFrom_run _ _ _ _ _ _ _).mono (by simp), (storedFrom_run _ _ _ _ _ _ _).mono (by simp)⟩

lemma getUSBExtInfoStructFromDeviceDescriptor_from (info : USBDeviceInfo) (t : ℕ)
    (s : DriverState) :
    let r := (getUSBExtInfoStructFromDeviceDescriptor env d desc info).run t s
    StringsFrom env d desc r.calls info r.value.2 := by
  cases hopen : (env t).openDevice d with
  | some e =>
      rw [getUSBExtInfoStructFromDeviceDescriptor_run_of_error hopen]
      exact .unopened t e hopen rfl fun _ => rfl
  | none =>
      rw [getUSBExtInfoStructFromDeviceDescriptor_run hopen]
      have hsub : ∀ calls : List Call, calls ⊆ .openDevice d true :: .getStringDescriptor d 0 0 ::
          (calls ++ [.closeDevice d]) := fun calls c hc => by simp [hc]
      by_cases hlong : 4 < ((env (t + 1)).getStringDescriptor d 0 0).retValue
      · dsimp only
        rw [if_pos hlong]
        obtain ⟨hserial, hmanufacturer, hproduct⟩ :=
          readWithoutLanguage_stored env d desc info (t + 2) s
        refine .withoutLanguage (t + 1) hlong rfl rfl (hserial.mono (hsub _))
          (hmanufacturer.mono (hsub _)) (hproduct.mono (hsub _)) fun k hk => ?_
        match k with
        | 0 => exact absurd rfl hk
        | 1 | 2 | 3 => rfl
      · dsimp only
        rw [if_neg hlong]
        generalize hreply : (env (t + 1)).getStringDescriptor d 0 0 = reply at hlong
        have hloop := languageLoop_languagesRead env d desc (writeBuffer zeroBuffer reply.data)
          (countFrom reply.bLength).toNat 0 { info with numLanguageIds := countFrom reply.bLength }
          (t + 2) s
        rw [Nat.zero_add, ← List.range_eq_range'] at hloop
        have hcount : ((decodeLanguages env d desc (writeBuffer zeroBuffer reply.data) info).run
            (t + 2) s).value.2.numLanguageIds = countFrom reply.bLength := hloop.numLanguageIds
        have hcalls : ((decodeLanguages env d desc (writeBuffer zeroBuffer reply.data) info).run
            (t + 2) s).calls = _ := List.append_nil _
        refine .decoded (t + 1) (by rw [hreply]; exact not_lt.mp hlong) (by rw [hreply, hcount]) ?_ ?_
        · intro k hk
          rw [hcount] at hk
          rw [hreply, hcalls]
          exact (hloop.filledIn k (Nat.zero_le _) hk).mono (hsub _)
        · intro k hk
          rw [hcount] at hk
          exact hloop.unchanged k (Or.inr hk)

end Parts

/-! ## The whole -/

lemma StringsFrom.mono {env : Env} {d : Device} {desc : DeviceDescriptor} {calls calls' : List Call}
    {before after : USBDeviceInfo} (hsub : calls ⊆ calls')
    (h : StringsFrom env d desc calls before after) :
    StringsFrom env d desc calls' before after := by
  cases h with
  | unopened t e hopen hcount hsame => exact .unopened t e hopen hcount hsame
  | withoutLanguage t hlong hcount hlanguage hserial hmanufacturer hproduct hsame =>
      exact .withoutLanguage t hlong hcount hlanguage (hserial.mono hsub) (hmanufacturer.mono hsub)
        (hproduct.mono hsub) hsame
  | decoded t hshort hcount hfilled hsame =>
      exact .decoded t hshort hcount (fun k hk => (hfilled k hk).mono hsub) hsame

/-- The strings do not care about the rest of the structure. -/
lemma StringsFrom.congr {env : Env} {d : Device} {desc : DeviceDescriptor} {calls : List Call}
    {before before' after : USBDeviceInfo} (h : StringsFrom env d desc calls before' after)
    (hcount' : before'.numLanguageIds = before.numLanguageIds)
    (hsame' : before'.productInfo = before.productInfo) :
    StringsFrom env d desc calls before after := by
  have hfirst : before'.productInfo1 = before.productInfo1 := congrFun hsame' 0
  cases h with
  | unopened t e hopen hcount hsame =>
      exact .unopened t e hopen (hcount.trans hcount') fun k => hsame' ▸ hsame k
  | withoutLanguage t hlong hcount hlanguage hserial hmanufacturer hproduct hsame =>
      exact .withoutLanguage t hlong (hcount.trans hcount') (hfirst ▸ hlanguage) (hfirst ▸ hserial)
        (hfirst ▸ hmanufacturer) (hfirst ▸ hproduct) fun k hk => hsame' ▸ hsame k hk
  | decoded t hshort hcount hfilled hsame =>
      exact .decoded t hshort hcount (fun k hk => hsame' ▸ hfilled k hk) fun k hk =>
        hsame' ▸ hsame k hk

lemma InfoObserved.mono {env : Env} {d : Device} {calls calls' : List Call}
    {before after : USBDeviceInfo} (hsub : calls ⊆ calls')
    (h : InfoObserved env d calls before after) : InfoObserved env d calls' before after := by
  obtain ⟨⟨t, desc, hdesc, hvendor, hproduct, hprotocol, hdevice, hstrings⟩, hstatus, hfixed, hplace⟩ := h
  exact ⟨⟨t, desc, hdesc, hvendor, hproduct, hprotocol, hdevice, hstrings.mono hsub⟩, hstatus,
    hfixed, hplace⟩

/-- It finds everything out while it is made. -/
lemma getUSBDeviceInfoStructFromDeviceDescriptor_observed {env : Env} {d : Device} {t : ℕ}
    {desc : DeviceDescriptor} (hdesc : (env t).getDeviceDescriptor d = .ok desc)
    (info : USBDeviceInfo) (s : DriverState) :
    let r := (getUSBDeviceInfoStructFromDeviceDescriptor env d info).run t s
    InfoObserved env d r.calls info r.value.2 := by
  rw [getUSBDeviceInfoStructFromDeviceDescriptor_calls hdesc]
  dsimp only
  generalize activeConfigAt env d desc info.device t = config
  have hfound := searchInfoDevice_from env d desc info (t + 1) s
  generalize (searchInfoDevice env d desc info.device info.serialNumber).run (t + 1) s = found
    at hfound ⊢
  have hstatus := deviceStatusOf_from env d config
  generalize deviceStatusOf (env config) d = status at hstatus ⊢
  have hstrings := getUSBExtInfoStructFromDeviceDescriptor_from env d desc
    (info.filled d desc found.value status) (config + 1) found.store
  have hrest := getUSBExtInfoStructFromDeviceDescriptor_withoutStrings env d desc
    (info.filled d desc found.value status) (config + 1) found.store
  generalize (getUSBExtInfoStructFromDeviceDescriptor env d desc _).run _ found.store = r
    at hstrings hrest ⊢
  obtain ⟨⟨st, after⟩, calls, s'⟩ := r
  dsimp only at hstrings hrest ⊢
  have hfield : ∀ {β : Type} (f : USBDeviceInfo → β),
      f after.withoutStrings = f (info.filled d desc found.value status).withoutStrings :=
    fun f => congrArg f hrest
  refine ⟨⟨t, desc, hdesc, hfield (·.vendorId), hfield (·.productId), hfield (·.protocol), ?_, ?_⟩,
    ?_, ⟨hfield (·.flags), hfield (·.portNumber), hfield (·.busSpeed)⟩,
    ⟨hfield (·.deviceLevel), hfield (·.parentId)⟩⟩
  · have hdevice : after.device = found.value.1 := hfield (·.device)
    have hserial : after.serialNumber = found.value.2 := hfield (·.serialNumber)
    rw [hdevice, hserial]
    exact hfound
  · have hcaller : StringsFrom env d desc calls info after := hstrings.congr rfl rfl
    exact hcaller.mono fun c hc => by simp [hc]
  · have hsame : after.deviceStatus = status := hfield (·.deviceStatus)
    rw [hsame]
    exact hstatus

/-- **Every answer of `GetDeviceInfo` comes about in this way**, whatever happens meanwhile.  There is
a stretch of the call in which the named device is looked at.  If its descriptor cannot be read at the
first instant of it, the answer is an error and the structure the caller's; otherwise each field is
the caller's, or what was found in this stretch.  Level and parent are put in on top of that, if the
answer is an error. -/
theorem getDeviceInfo_observed {env : Env} {t : ℕ} (hdistinct : Distinct (env (t + 1)).devices)
    {d : Device} (hd : d ∈ (env (t + 1)).devices) (deviceInfo : USBDeviceInfo) (s : DriverState) :
    let r := (getDeviceInfo env (usbDeviceName d) deviceInfo).run t s
    ∃ start length info, t < start ∧ start + length < t + r.calls.length ∧
      r.value.2 = (if r.value.1 ≠ .errorNone then locateDevice (env (t + 1)).devices d info
        else info) ∧
      ((∃ e, (env start).getDeviceDescriptor d = .error e) ∧ r.value.1 = .errorGeneral ∧
          info = deviceInfo ∨
        InfoObserved (confined env start length) d r.calls deviceInfo info) := by
  rw [getDeviceInfo_run hdistinct hd]
  have hconfined := (deviceInfoStructScript d deviceInfo).script.prog_confined env (t + 2) s
  rw [← (deviceInfoStructScript d deviceInfo).prog_eq, ← (deviceInfoStructScript d
    deviceInfo).prog_eq] at hconfined
  refine ⟨t + 2, ((getUSBDeviceInfoStructFromDeviceDescriptor env d deviceInfo).run (t + 2)
    s).calls.length, _, by omega, ?_, rfl, ?_⟩
  · simp only [List.length_cons, List.length_append]
    omega
  · cases hdesc : (env (t + 2)).getDeviceDescriptor d with
    | error e =>
        have hvalue := getUSBDeviceInfoStructFromDeviceDescriptor_of_error hdesc deviceInfo s
        exact Or.inl ⟨⟨e, rfl⟩, congrArg Prod.fst hvalue, congrArg Prod.snd hvalue⟩
    | ok desc =>
        dsimp only
        generalize (getUSBDeviceInfoStructFromDeviceDescriptor env d deviceInfo).run (t + 2) s = r
          at hconfined ⊢
        have hstart : (confined env (t + 2) r.calls.length (t + 2)).getDeviceDescriptor d =
            .ok desc := by rw [confined_start, hdesc]
        have hobserved := getUSBDeviceInfoStructFromDeviceDescriptor_observed hstart deviceInfo s
        rw [hconfined] at hobserved
        exact Or.inr (hobserved.mono fun c hc => by simp [hc])

/-- A bus with a hub and the disk, which is unplugged once the list has been obtained. -/
def sampleUnplugReading : Env := fun t =>
  if t < 2 then sampleOutcomes.enumerating [sampleHub, sampleDisk] else
    { sampleOutcomes with sysfs := sampleSysfsRemoved }

/-- The disk is described nevertheless. -/
theorem getDeviceInfo_observed_sampleUnplugReading :
    let r := (getDeviceInfo sampleUnplugReading (usbDeviceName sampleDisk) {}).run 0
      fun _ _ => false
    ∃ start length info, 0 < start ∧ start + length < 0 + r.calls.length ∧
      r.value.2 = (if r.value.1 ≠ .errorNone then
        locateDevice (sampleUnplugReading 1).devices sampleDisk info else info) ∧
      ((∃ e, (sampleUnplugReading start).getDeviceDescriptor sampleDisk = .error e) ∧
          r.value.1 = .errorGeneral ∧ info = {} ∨
        InfoObserved (confined sampleUnplugReading start length) sampleDisk r.calls {} info) :=
  getDeviceInfo_observed (by decide) (by decide) {} fun _ _ => false

end Usb
