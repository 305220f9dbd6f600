import USBDevicePlugin.Operations.Clients

/-!
# Sleeping

The kernel needs time to make a disk of a device, so the description of a mass storage device is
retried, with a second of sleep after each failure.  The thread that sleeps may be that of a client
in `GetDeviceList` or the one on which libusb calls back.

* `Paced` — a program that earns its sleep: a device descriptor is good for five seconds.
* **`clients_sleep`** — whatever the interleaving, nobody sleeps with `_adminLock` or on the way to
  it, and nobody sleeps more than five seconds for each device.
-/

namespace Usb

open Interaction Threads TransitionSystem

/-- The call asks for a device descriptor. -/
def Call.describes : Call → Bool
  | .getDeviceDescriptor _ _ => true
  | _ => false

/-- At no point of the program has it slept more seconds than it had to begin with, plus five for
each device descriptor it has asked for. -/
def Paced {α : Type} (credit : ℕ) (m : Plugin α) : Prop :=
  ∀ t s calls, calls <+: (m.run t s).calls →
    calls.count .sleep ≤ credit + 5 * calls.countP Call.describes

section Paced

variable {α β : Type} {credit credit' : ℕ} {m : Plugin α} {env : Env}

lemma Paced.of_emits (hm : Prog.Emits (· ≠ .sleep) m) : Paced credit m := by
  intro t s calls hcalls
  have hnone : calls.count .sleep = 0 :=
    List.count_eq_zero_of_not_mem fun hmem => hm t s _ (hcalls.subset hmem) rfl
  omega

lemma Paced.pure (a : α) : Paced credit (Pure.pure a : Plugin α) :=
  .of_emits (Prog.Emits.pure a)

/-- The second program begins when the first one is over. -/
lemma Paced.bind {f : α → Plugin β} (hm : Paced credit m) (hf : ∀ a, Paced credit' (f a)) :
    Paced (credit + credit') (m >>= f) := by
  intro t s calls hcalls
  rw [Prog.bind_run] at hcalls
  rcases List.prefix_or_prefix_of_prefix hcalls (List.prefix_append _ _) with hfirst | hwhole
  · have hle := hm t s calls hfirst
    omega
  · obtain ⟨rest, rfl⟩ := hwhole
    have hle := hm t s _ (List.prefix_refl _)
    have hle' := hf _ _ _ rest ((List.prefix_append_right_inj _).mp hcalls)
    rw [List.count_append, List.countP_append]
    omega

lemma Paced.map {g : α → β} (hm : Paced credit m) : Paced credit (m >>= fun a => Pure.pure (g a)) :=
  hm.bind fun a => (.pure (g a) : Paced 0 _)

/-- A first program that earns its sleep leaves the whole credit to the second one. -/
lemma Paced.seq {f : α → Plugin β} (hm : Paced 0 m) (hf : ∀ a, Paced credit (f a)) :
    Paced credit (m >>= f) := by
  simpa using hm.bind hf

/-- A second of sleep is paid for. -/
lemma Paced.sleep : Paced 1 (Prog.tell .sleep : Plugin PUnit) := by
  intro t s calls hcalls
  have hle : calls.count .sleep ≤ 1 := (hcalls.sublist.count_le _).trans (by simp)
  omega

/-- What comes after the descriptor of a device may sleep five seconds more. -/
lemma Paced.describing {d : Device} {f : Except LibusbError DeviceDescriptor → Plugin α}
    (hf : ∀ r, Paced 5 (f r)) : Paced 0 (libusbGetDeviceDescriptor env d >>= f) := by
  intro t s calls hcalls
  rw [Prog.bind_run] at hcalls
  cases calls with
  | nil => simp
  | cons c rest =>
      obtain ⟨rfl, hrest⟩ := List.cons_prefix_cons.mp hcalls
      have hle := hf _ _ _ rest hrest
      rw [List.count_cons_of_ne (by simp), List.countP_cons_of_pos (by simp [Call.describes])]
      omega

/-- A loop whose rounds earn their sleep themselves. -/
lemma Paced.foldlM {γ : Type} {f : β → γ → Plugin β} (hf : ∀ b a, Paced 0 (f b a)) :
    ∀ (l : List γ) (b : β), Paced 0 (l.foldlM f b)
  | [], b => .pure b
  | a :: l, b => (hf b a).bind fun b' => Paced.foldlM hf l b'

end Paced

/-! ## Who sleeps -/

section Sleepers

variable (env : Env) (d : Device)

lemma getDevicePathFromDevice_sleepless (devPath serialNumber : CxxString) :
    Prog.Emits (· ≠ .sleep) (getDevicePathFromDevice env d devPath serialNumber) :=
  (getDevicePathFromDevice_emits env d _ _).mono fun c hc heq => by simp [heq] at hc

lemma getUSBDevicClassFromInterfaceDescriptor_sleepless (bDeviceClass bDeviceSubClass : UInt8) :
    Prog.Emits (· ≠ .sleep)
      (getUSBDevicClassFromInterfaceDescriptor env d bDeviceClass bDeviceSubClass) :=
  (getUSBDevicClassFromInterfaceDescriptor_emits env d _ _).mono fun c hc heq => by
    simp [heq] at hc

/-- One second for each retry. -/
lemma retryDevicePath_paced : ∀ (retryCount : ℕ) (devicePath serialNumber : CxxString),
    Paced retryCount (retryDevicePath env d retryCount devicePath serialNumber)
  | 0, devicePath, _ => .pure devicePath
  | retryCount + 1, devicePath, serialNumber => by
      have hscan : Paced 0 (getDevicePathFromDevice env d devicePath serialNumber) :=
        .of_emits (getDevicePathFromDevice_sleepless env d _ _)
      have hrest : ∀ found : CxxString × CxxString, Paced (retryCount + 1)
          (if found.1 = [] then do
            Prog.tell .sleep
            retryDevicePath env d retryCount found.1 found.2
          else pure found.1) := by
        intro found
        split_ifs
        · rw [Nat.add_comm]
          exact Paced.sleep.bind fun _ => retryDevicePath_paced retryCount _ _
        · exact .pure _
      exact hscan.seq hrest

lemma getUSBDeviceStructFromDeviceDescriptor_paced (usbDevice : USBDevice) :
    Paced 0 (getUSBDeviceStructFromDeviceDescriptor env d usbDevice) := by
  have hclass : ∀ desc, Paced 0 (searchDeviceClass env d desc usbDevice) := by
    intro desc
    unfold searchDeviceClass
    split_ifs
    · exact .of_emits (getUSBDevicClassFromInterfaceDescriptor_sleepless env d _ _)
    · exact .pure _
  have hpath : ∀ deviceClass, Paced 5 (searchDevicePath env d deviceClass usbDevice.devicePath) := by
    intro deviceClass
    unfold searchDevicePath
    split_ifs
    · exact retryDevicePath_paced env d 5 _ _
    · exact .pure _
  refine Paced.describing fun r => ?_
  split
  · exact .pure _
  · exact (hclass _).seq fun _ => (hpath _).map

lemma getDeviceList_paced (devices : Option (List USBDevice)) :
    Paced 0 (getDeviceList env devices) := by
  have hround : ∀ acc d, Paced 0 (listDevice env acc d) := fun acc d =>
    (getUSBDeviceStructFromDeviceDescriptor_paced env d {}).map
  have hlist : Paced 0 (libusbGetDeviceList env) := .of_emits (Prog.Emits.ask fun _ => by simp)
  refine hlist.seq fun devs => ?_
  split
  · exact .pure _
  · refine (Paced.foldlM hround _ _).seq fun _ => ?_
    exact Paced.of_emits (Prog.Emits.bind (Prog.Emits.tell (by simp)) fun _ => Prog.Emits.pure _)

lemma libUSBHotPlugCallback_paced (event : Event) :
    Paced 0 (libUSBHotPlugCallback event env d) := by
  refine (getUSBDeviceStructFromDeviceDescriptor_paced env d {}).seq fun r => ?_
  split <;> exact .pure _

/-! ## Who does not -/

lemma getUSBDescriptorValue_sleepless (languageId : UInt16) (index : UInt8) (text : CxxString) :
    Prog.Emits (· ≠ .sleep) (getUSBDescriptorValue env d languageId index text) := by
  intro t s
  have hresult := getUSBDescriptorValue_result env d languageId index text t s
  generalize (getUSBDescriptorValue env d languageId index text).run t s = r at hresult
  cases hresult <;> simp

/-- Languages and strings are read without a rest. -/
lemma getUSBExtInfoStructFromDeviceDescriptor_sleepless (desc : DeviceDescriptor)
    (info : USBDeviceInfo) :
    Prog.Emits (· ≠ .sleep) (getUSBExtInfoStructFromDeviceDescriptor env d desc info) := by
  have hproduct : ∀ langBuff devIndex productInfo, Prog.Emits (· ≠ Call.sleep)
      (getUSBProductInfo env d desc langBuff devIndex productInfo) := fun _ _ _ =>
    .bind (getUSBDescriptorValue_sleepless env d _ _ _) fun _ =>
      .bind (getUSBDescriptorValue_sleepless env d _ _ _) fun _ =>
        .bind (getUSBDescriptorValue_sleepless env d _ _ _) fun _ => .pure _
  have hlanguage : ∀ langBuff info languageCount, Prog.Emits (· ≠ Call.sleep)
      (languageStep env d desc langBuff languageCount info) := by
    intro langBuff info languageCount
    match languageCount with
    | 0 | 1 | 2 | 3 => exact .bind (hproduct _ _ _) fun _ => .pure _
    | _ + 4 => exact .pure _
  have hstrings : Prog.Emits (· ≠ Call.sleep) (readWithoutLanguage env d desc info) :=
    .bind (getUSBDescriptorValue_sleepless env d _ _ _) fun _ =>
      .bind (getUSBDescriptorValue_sleepless env d _ _ _) fun _ =>
        .bind (getUSBDescriptorValue_sleepless env d _ _ _) fun _ => .pure _
  have hclose : ∀ r : Status × USBDeviceInfo,
      Prog.Emits (· ≠ Call.sleep) (libusbClose d >>= fun _ => pure r) := fun r =>
    .bind (.tell (by simp)) fun _ => .pure r
  refine .bind (.ask fun _ => by simp) fun r => ?_
  split
  · exact .pure _
  · refine .bind (.ask fun _ => by simp) fun reply => ?_
    split_ifs
    · exact .bind hstrings hclose
    · exact .bind (.bind (.foldlM (fun _ _ => hlanguage _ _ _) _ _) fun _ => .pure _) hclose

lemma getUSBDeviceInfoStructFromDeviceDescriptor_sleepless (info : USBDeviceInfo) :
    Prog.Emits (· ≠ .sleep) (getUSBDeviceInfoStructFromDeviceDescriptor env d info) := by
  have hclass : ∀ desc, Prog.Emits (· ≠ Call.sleep)
      (searchInterfaceClass env d desc info.device) := by
    intro desc
    unfold searchInterfaceClass
    split_ifs
    · exact getUSBDevicClassFromInterfaceDescriptor_sleepless env d _ _
    · exact .pure _
  have hdevice : ∀ desc, Prog.Emits (· ≠ Call.sleep)
      (searchInfoDevice env d desc info.device info.serialNumber) := by
    refine fun desc => .bind (hclass desc) fun bDevice => ?_
    split_ifs
    · exact .pure _
    · exact .bind (getDevicePathFromDevice_sleepless env d _ _) fun _ => .pure _
  have hstatus : Prog.Emits (· ≠ Call.sleep) (readDeviceStatus env d) := by
    refine .bind (.ask fun _ => by simp) fun r => ?_
    split
    · split_ifs <;> exact .pure _
    · exact .pure _
  refine .bind (.ask fun _ => by simp) fun r => ?_
  split
  · exact .pure _
  · exact .bind (hdevice _) fun _ => .bind hstatus fun _ =>
      getUSBExtInfoStructFromDeviceDescriptor_sleepless env d _ _

/-- What is done under the lock is done without sleep, if the scan is. -/
lemma withDeviceList_sleepless {α : Type} {failed : α} {scan : List Device → Plugin α}
    (hscan : ∀ devs, Prog.Emits (· ≠ .sleep) (scan devs)) :
    Prog.Emits (· ≠ .sleep) (withDeviceList env failed scan) := by
  have hdevices : ∀ devs, Prog.Emits (· ≠ Call.sleep) (scanDevices failed scan devs) := by
    intro devs
    cases devs with
    | nil => exact .pure _
    | cons d devs => exact .bind (hscan _) fun _ => .bind (.tell (by simp)) fun _ => .pure _
  exact .bind (.tell (by simp)) fun _ => .bind (.ask fun _ => by simp) fun devs =>
    .bind (hdevices _) fun _ => .bind (.tell (by simp)) fun _ => .pure _

lemma getDeviceInfo_sleepless (deviceName : CxxString) (deviceInfo : USBDeviceInfo) :
    Prog.Emits (· ≠ .sleep) (getDeviceInfo env deviceName deviceInfo) := by
  refine withDeviceList_sleepless env fun devs => .foldlM (fun acc d => ?_) _ _
  unfold readNamedDevice
  split_ifs
  · exact .pure _
  · exact .bind (getUSBDeviceInfoStructFromDeviceDescriptor_sleepless env d _) fun _ => .pure _

lemma driver_sleepless (call : DriverCall) : Prog.Emits (· ≠ .sleep) (call.operation env) := by
  rw [call.operation_eq]
  refine withDeviceList_sleepless env fun devs => ?_
  rcases atNamedDevice_cases call.deviceName (changeDriver env call.bound) devs with
    ⟨heq, -⟩ | ⟨d, -, -, heq⟩
  · rw [heq]
    exact .pure _
  · intro t s
    rw [heq]
    have hresult := changeDriver_result env call.bound d t s
    generalize (changeDriver env call.bound d).run t s = r at hresult
    cases hresult <;> cases call.bound <;> simp [driverRequest]

/-! ## Operations side by side -/

lemma Operation.answer_paced : ∀ op : Operation, Paced 0 (op.answer env)
  | .getDeviceList devices => (getDeviceList_paced env devices).map
  | .getDeviceInfo deviceName deviceInfo =>
      Paced.map (.of_emits (getDeviceInfo_sleepless env deviceName deviceInfo))
  | .driver call => Paced.map (.of_emits (driver_sleepless env call))
  | .hotPlug event d => (libUSBHotPlugCallback_paced env d event).map

lemma libUSBHotPlugCallback_lockless (event : Event) :
    Prog.Emits (· ≠ .lock) (libUSBHotPlugCallback event env d) := by
  refine .bind (getUSBDeviceStructFromDeviceDescriptor_lockless env d {}) fun r => ?_
  split <;> exact .pure _

/-- An operation that takes the lock does not sleep. -/
lemma Operation.answer_sleepless {op : Operation} {t : ℕ} {s : DriverState}
    (hlock : .lock ∈ ((op.answer env).run t s).calls) :
    .sleep ∉ ((op.answer env).run t s).calls := by
  intro hsleep
  cases op with
  | getDeviceList devices =>
      exact Prog.Emits.bind (getDeviceList_lockless env devices) (fun _ => .pure _) t s _ hlock rfl
  | getDeviceInfo deviceName deviceInfo =>
      exact Prog.Emits.bind (getDeviceInfo_sleepless env deviceName deviceInfo)
        (fun _ => .pure _) t s _ hsleep rfl
  | driver call =>
      exact Prog.Emits.bind (driver_sleepless env call) (fun _ => .pure _) t s _ hsleep rfl
  | hotPlug event d =>
      exact Prog.Emits.bind (libUSBHotPlugCallback_lockless env d event) (fun _ => .pure _)
        t s _ hlock rfl

end Sleepers

/-- **Nobody sleeps with the lock.**  In every run, with any number of threads and whatever libusb
and the file system answer to each of them, a thread that takes `_adminLock` does not sleep at all,
and no thread has slept more than five seconds for each device descriptor it has asked for. -/
theorem clients_sleep {s₀ : DriverState} {h : List (Action Operation Outcomes Call Answer)}
    (hl : (clients s₀).Legal h) (i : ℕ) :
    (i ∈ lockOrder adminLock h → .sleep ∉ callsOf i h) ∧
      (callsOf i h).count .sleep ≤ 5 * (callsOf i h).countP Call.describes := by
  by_cases hnone : callsOf i h = []
  · simp [hnone]
  obtain ⟨op, env, s, -, hcalls⟩ :=
    callsOf_prefix (fun op : Operation => op.sheltered.guarded) sampleOutcomes hl hnone
  rw [← op.sheltered.prog_eq env] at hcalls
  constructor
  · intro hi hsleep
    have hlock : .lock ∈ callsOf i h := mem_callsOf_of_mem_lockOrder hi
    exact op.answer_sleepless env (hcalls.subset hlock) (hcalls.subset hsleep)
  · simpa using op.answer_paced env 0 s _ hcalls

/-- On the sample bus: the callback finds no disk at first and sleeps, while a client binds the driver
under the lock. -/
def sampleRetry : List (Action Operation Outcomes Call Answer) :=
  let o := sampleOutcomes
  let early := { sampleOutcomes with sysfs := sampleSysfsRemoved }
  [.start 1 (.hotPlug .deviceArrived sampleDisk),
    .call 1 early (.getDeviceDescriptor sampleDisk true), .start 0 (.driver ⟨true, "001/005".toList⟩),
    .call 1 early .readSysfs, .call 0 o .lock, .call 1 early (.openDirectory true),
    .call 0 o (.getDeviceList [sampleDisk]), .call 1 early .closeDirectory,
    .call 0 o (.openDevice sampleDisk true), .call 1 early .sleep,
    .call 0 o (.kernelDriverActive sampleDisk 0 0), .call 1 o .readSysfs,
    .call 0 o (.attachKernelDriver sampleDisk 0 true), .call 1 o (.openDirectory true),
    .call 0 o (.closeDevice sampleDisk), .call 1 o .closeDirectory, .call 0 o .freeDeviceList,
    .finish 1 (.job (some
      ⟨.deviceArrived, ⟨classMassStorage, 6, "001/005".toList, "/dev/sda".toList⟩⟩)),
    .call 0 o .unlock, .finish 0 (.driver .errorNone)]

set_option maxRecDepth 4000 in
lemma legal_sampleRetry : (clients fun _ _ => false).Legal sampleRetry := by decide

/-- The client does not sleep; the callback does, and is not among those who take the lock. -/
theorem clients_sleep_sampleRetry :
    .sleep ∉ callsOf 0 sampleRetry ∧ 1 ∉ lockOrder adminLock sampleRetry ∧
      (callsOf 1 sampleRetry).count .sleep ≤ 5 * (callsOf 1 sampleRetry).countP Call.describes :=
  ⟨(clients_sleep legal_sampleRetry 0).1 (by decide),
    fun hlock => (clients_sleep legal_sampleRetry 1).1 hlock (by decide),
    (clients_sleep legal_sampleRetry 1).2⟩

end Usb
