import USBDevicePlugin.Core.ThreadProgress
import USBDevicePlugin.Operations.Resources

/-!
# Clients at the same time

Calls reach the implementation on threads of their own: one for each client that calls, and the one
on which libusb calls back.  Between any two libusb calls of one operation, others may make theirs.
`GetDeviceInfo`, `BindDriver` and `UnbindDriver` do their work under `_adminLock`; `GetDeviceList`
and the hotplug callbacks take no lock, and touch nothing the others change.

* `Operation.answer` — what a call returns to its caller.
* `Operation.sheltered` — every operation, call by call.
* **`clients_serializable`** — whatever the interleaving, every operation does what it does alone,
  and those that take the lock do so one after the other, in the order in which they take it.
* **`clients_drivers`** — the kernel drivers are as the last successful requests in this order say.
* **`clients_progress`** — every operation returns.
-/

namespace Usb

open Interaction Threads TransitionSystem

/-- `_adminLock`. -/
def adminLock : Mutex Call := ⟨.lock, .unlock, by decide⟩

/-! ## What a call returns -/

/-- The output of an operation. -/
inductive Answer
  | devices (status : Status) (devices : Option (List USBDevice))
  | info (status : Status) (deviceInfo : USBDeviceInfo)
  | driver (status : Status)
  | job (job : Option Job)
  deriving DecidableEq

/-- The call, with its result. -/
def Operation.answer (env : Env) : Operation → Plugin Answer
  | .getDeviceList devices => do
      let r ← Usb.getDeviceList env devices
      pure (.devices r.1 r.2)
  | .getDeviceInfo deviceName deviceInfo => do
      let r ← Usb.getDeviceInfo env deviceName deviceInfo
      pure (.info r.1 r.2)
  | .driver call => do
      let status ← call.operation env
      pure (.driver status)
  | .hotPlug event d => do
      let job ← libUSBHotPlugCallback event env d
      pure (.job job)

/-! ## The calls, one by one -/

section Scripts

variable {α : Type}

/-- A question to libusb or the file system, in a program with no use for the lock. -/
def askOutside (answer : Outcomes → α) (record : α → Call)
    (h : ∀ a, record a ≠ .lock ∧ record a ≠ .unlock) :
    Scripted adminLock.Outside fun env => (Prog.ask (fun t => answer (env t)) record : Plugin α) :=
  .ask answer record ⟨h, fun _ _ _ => rfl, fun _ _ => rfl⟩

def tellOutside (c : Call) (h : c ≠ .lock ∧ c ≠ .unlock) :
    Scripted adminLock.Outside fun _ : Env => (Prog.tell c : Plugin PUnit) :=
  .tell c ⟨fun _ => h, fun _ _ _ => rfl, fun _ _ => rfl⟩

variable (d : Device)

def getDevicePathFromDeviceScript (devPath deviceSerialNumber : CxxString) :
    Scripted adminLock.Outside fun env =>
      getDevicePathFromDevice env d devPath deviceSerialNumber := by
  unfold getDevicePathFromDevice
  exact match getUSBDeviceSysfsPath d with
    | none => .pure (devPath, deviceSerialNumber)
    | some sysfsPath => .bind (askOutside (·.sysfs) _ (by simp)) fun fs =>
        match fs.directory pluginUsbDeviceBlockPath with
        | none => (tellOutside (.openDirectory false) (by simp)).bind fun _ => .pure _
        | some _ => (tellOutside (.openDirectory true) (by simp)).bind fun _ =>
            (tellOutside .closeDirectory (by simp)).bind fun _ => .pure _

def retryDevicePathScript : ∀ (retryCount : ℕ) (devicePath serialNumber : CxxString),
    Scripted adminLock.Outside fun env => retryDevicePath env d retryCount devicePath serialNumber
  | 0, devicePath, _ => .pure devicePath
  | retryCount + 1, devicePath, serialNumber =>
      (getDevicePathFromDeviceScript d devicePath serialNumber).bind fun found =>
        .ite (fun _ => (tellOutside .sleep (by simp)).bind fun _ =>
          retryDevicePathScript retryCount found.1 found.2) fun _ => .pure found.1

def classFromInterfacesScript (bDeviceClass bDeviceSubClass : UInt8) :
    Scripted adminLock.Outside fun env =>
      getUSBDevicClassFromInterfaceDescriptor env d bDeviceClass bDeviceSubClass :=
  .bind (askOutside (·.getConfigDescriptor d) _ (by simp)) fun
    | .ok (some config) => (tellOutside (.freeConfigDescriptor d) (by simp)).bind fun _ =>
        .pure (classFromInterfaces config (bDeviceClass, bDeviceSubClass))
    | .ok none => .pure (bDeviceClass, bDeviceSubClass)
    | .error _ => .pure (bDeviceClass, bDeviceSubClass)

def deviceStructScript (usbDevice : USBDevice) : Scripted adminLock.Outside fun env =>
    getUSBDeviceStructFromDeviceDescriptor env d usbDevice :=
  .bind (askOutside (·.getDeviceDescriptor d) _ (by simp)) fun
    | .error _ => .pure _
    | .ok _ =>
        .bind (.ite (fun _ => classFromInterfacesScript d _ _) fun _ => .pure _) fun _ =>
          .bind (.ite (fun _ => retryDevicePathScript d 5 _ []) fun _ => .pure _) fun _ =>
            .pure _

def descriptorValueScript (languageId : UInt16) (descriptorIndex : UInt8)
    (stringDescriptor : CxxString) : Scripted adminLock.Outside fun env =>
      getUSBDescriptorValue env d languageId descriptorIndex stringDescriptor :=
  .ite (fun _ => .pure _) fun _ =>
    .bind (askOutside (·.getStringDescriptor d descriptorIndex languageId) _ (by simp)) fun _ =>
      .ite
        (fun _ =>
          .bind (askOutside (·.getStringDescriptorAscii d descriptorIndex) _ (by simp)) fun _ =>
            .ite (fun _ => .pure _) fun _ => .pure _)
        fun _ => .ite (fun _ => .pure _) fun _ => .ite (fun _ => .pure _) fun _ => .pure _

variable (desc : DeviceDescriptor)

def productInfoScript (langBuff : List UInt8) (devIndex : ℕ) (productInfo : USBProductInfo) :
    Scripted adminLock.Outside fun env =>
      getUSBProductInfo env d desc langBuff devIndex productInfo :=
  .bind (descriptorValueScript d _ _ _) fun _ =>
    .bind (descriptorValueScript d _ _ _) fun _ =>
      .bind (descriptorValueScript d _ _ _) fun _ => .pure _

def languageStepScript (langBuff : List UInt8) : ∀ (languageCount : ℕ) (info : USBDeviceInfo),
    Scripted adminLock.Outside fun env =>
      languageStep env d desc langBuff languageCount info
  | 0, _ => .bind (productInfoScript d desc _ _ _) fun _ => .pure _
  | 1, _ => .bind (productInfoScript d desc _ _ _) fun _ => .pure _
  | 2, _ => .bind (productInfoScript d desc _ _ _) fun _ => .pure _
  | 3, _ => .bind (productInfoScript d desc _ _ _) fun _ => .pure _
  | _ + 4, _ => .pure _

def decodeLanguagesScript (langBuff : List UInt8) (info : USBDeviceInfo) :
    Scripted adminLock.Outside fun env => decodeLanguages env d desc langBuff info :=
  .bind (.foldlM (fun info languageCount => languageStepScript d desc langBuff languageCount info)
    _ _) fun _ => .pure _

def readWithoutLanguageScript (info : USBDeviceInfo) :
    Scripted adminLock.Outside fun env => readWithoutLanguage env d desc info :=
  .bind (descriptorValueScript d _ _ _) fun _ =>
    .bind (descriptorValueScript d _ _ _) fun _ =>
      .bind (descriptorValueScript d _ _ _) fun _ => .pure _

def extInfoScript (info : USBDeviceInfo) : Scripted adminLock.Outside fun env =>
    getUSBExtInfoStructFromDeviceDescriptor env d desc info :=
  .bind (askOutside (·.openDevice d) _ (by simp)) fun
    | some _ => .pure _
    | none =>
        .bind (askOutside (·.getStringDescriptor d 0 0) _ (by simp)) fun _ =>
          .ite (fun _ => .bind (readWithoutLanguageScript d desc info) closing)
            fun _ => .bind (decodeLanguagesScript d desc _ info) closing
where
  closing (r : Status × USBDeviceInfo) : Scripted adminLock.Outside fun _ : Env =>
      (libusbClose d >>= fun _ => pure r : Plugin (Status × USBDeviceInfo)) :=
    .bind (tellOutside (.closeDevice d) (by simp)) fun _ => .pure r

def searchInfoDeviceScript (device : USBDevice) (serialNumber : CxxString) :
    Scripted adminLock.Outside fun env => searchInfoDevice env d desc device serialNumber :=
  .bind (.ite (fun _ => classFromInterfacesScript d _ _) fun _ => .pure _) fun _ =>
    .ite (fun _ => .pure _) fun _ =>
      .bind (getDevicePathFromDeviceScript d _ _) fun _ => .pure _

def deviceStatusScript : Scripted adminLock.Outside fun env => readDeviceStatus env d :=
  .bind (askOutside (·.getActiveConfigDescriptor d) _ (by simp)) fun
    | .ok _ => .ite (fun _ => .pure _) fun _ => .pure _
    | .error _ => .pure _

def deviceInfoStructScript (info : USBDeviceInfo) : Scripted adminLock.Outside fun env =>
    getUSBDeviceInfoStructFromDeviceDescriptor env d info :=
  .bind (askOutside (·.getDeviceDescriptor d) _ (by simp)) fun
    | .error _ => .pure _
    | .ok desc =>
        .bind (searchInfoDeviceScript d desc _ _) fun _ =>
          .bind (deviceStatusScript d) fun _ => extInfoScript d desc _

def hotPlugScript (event : Event) :
    Scripted adminLock.Outside fun env => libUSBHotPlugCallback event env d :=
  .bind (deviceStructScript d {}) fun
    | (.errorNone, _) => .pure _
    | (.errorGeneral, _) => .pure _

def deviceListScript (devices : Option (List USBDevice)) :
    Scripted adminLock.Outside fun env => Usb.getDeviceList env devices :=
  .bind (askOutside (·.getDeviceList) _ (by simp)) fun devs => by
    dsimp only
    exact match devs.toOption.getD [] with
      | [] => .pure _
      | d :: ds =>
          .bind (.foldlM (fun _ d => .bind (deviceStructScript d {}) fun _ => .pure _) (d :: ds) _)
            fun _ => .bind (tellOutside .freeDeviceList (by simp)) fun _ => .pure _

/-! ## Under the lock -/

lemma inside_of_ne {β : Type} {answer : DriverState → Outcomes → β} {record : β → Call}
    {effect : β → DriverState → DriverState} (h : ∀ b, record b ≠ .lock ∧ record b ≠ .unlock) :
    adminLock.Inside β answer record effect := h

def kernelDriverActiveScript : Scripted adminLock.Inside fun env =>
    libusbKernelDriverActive env d 0 :=
  .congr (fun _ => rfl) (.call
    (fun s o => match o.kernelDriverFailure d with
      | some e => e.val
      | none => if s d.key 0 then 1 else 0)
    (.kernelDriverActive d 0) (fun _ s => s) (inside_of_ne (by simp)))

/-- Attaching or detaching changes the drivers exactly when it succeeds. -/
def driverRequestScript (bound : Bool) : Scripted adminLock.Inside fun env =>
    if bound then libusbAttachKernelDriver env d 0 else libusbDetachKernelDriver env d 0 :=
  .congr
    (fun env => by
      cases bound
      · refine congrArg Prog.mk (funext fun t => funext fun s => ?_)
        cases hr : (env t).detachKernelDriver d <;> simp [hr, driverRequest]
      · refine congrArg Prog.mk (funext fun t => funext fun s => ?_)
        cases hr : (env t).attachKernelDriver d <;> simp [hr, driverRequest])
    (.call (fun _ o => if bound then o.attachKernelDriver d else o.detachKernelDriver d)
      (fun r => driverRequest bound d r.isNone)
      (fun r s => if r.isNone then s.set d.key 0 bound else s)
      (inside_of_ne fun _ => by cases bound <;> simp [driverRequest]))

def requestDriverScript (bound : Bool) :
    Scripted adminLock.Inside fun env => requestDriver env bound d :=
  .congr
    (fun env => by
      refine congrArg Prog.mk (funext fun t => funext fun s => ?_)
      cases bound <;> rfl)
    (.bind (driverRequestScript d bound) fun r =>
      .pure (if r.isNone then Status.errorNone else .errorGeneral))

def withKernelDriverScript {inactive active : Env → Plugin Status}
    (hinactive : Scripted adminLock.Inside inactive) (hactive : Scripted adminLock.Inside active) :
    Scripted adminLock.Inside fun env => withKernelDriver env d (inactive env) (active env) :=
  .bind ((askOutside (·.openDevice d) _ (by simp)).mono Mutex.Outside.inside) fun
    | some _ => .pure _
    | none => .bind (kernelDriverActiveScript d) fun _ =>
        .bind (.ite (fun _ => .pure _) fun _ => .ite (fun _ => hinactive) fun _ => hactive) fun _ =>
          .bind ((tellOutside (.closeDevice d) (by simp)).mono Mutex.Outside.inside) fun _ =>
            .pure _

def changeDriverScript (bound : Bool) :
    Scripted adminLock.Inside fun env => changeDriver env bound d :=
  .ite (fun _ => withKernelDriverScript d (requestDriverScript d true) (.pure _))
    fun _ => withKernelDriverScript d (.pure _) (requestDriverScript d false)

def atNamedDeviceScript (deviceName : CxxString) {body : Env → Device → Plugin Status}
    (hbody : ∀ d, Scripted adminLock.Inside fun env => body env d) : ∀ devs : List Device,
      Scripted adminLock.Inside fun env => atNamedDevice deviceName (body env) devs
  | [] => .pure _
  | d :: devs => .ite (fun _ => atNamedDeviceScript deviceName hbody devs) fun _ => hbody d

/-- What is done between taking and releasing the lock. -/
def scanDeviceList (env : Env) (failed : α) (scan : List Device → Plugin α) : Plugin α := do
  let devs ← libusbGetDeviceList env
  scanDevices failed scan (devs.toOption.getD [])

def scanDeviceListScript {P : Script.CallSpec Outcomes Call DriverState}
    (hP : ∀ β answer record effect, adminLock.Outside β answer record effect →
      P β answer record effect)
    (failed : α) {scan : Env → List Device → Plugin α}
    (hscan : ∀ devs, Scripted P fun env => scan env devs) :
    Scripted P fun env => scanDeviceList env failed (scan env) :=
  .bind ((askOutside (·.getDeviceList) _ (by simp)).mono hP) fun devs =>
    match devs.toOption.getD [] with
    | [] => .pure _
    | _ :: _ => .bind (hscan _) fun _ =>
        .bind ((tellOutside .freeDeviceList (by simp)).mono hP) fun _ => .pure _

lemma withDeviceList_eq {β : Type} (env : Env) (failed : α) (scan : List Device → Plugin α)
    (f : α → β) :
    (withDeviceList env failed scan >>= fun a => pure (f a)) = (do
      Prog.tell adminLock.acquire
      let a ← scanDeviceList env failed scan
      Prog.tell adminLock.release
      pure (f a)) := by
  refine congrArg Prog.mk (funext fun t => funext fun s => ?_)
  simp only [withDeviceList, scanDeviceList, Prog.bind_run, Prog.tell_run, Prog.pure_run,
    List.length_append, List.length_singleton, List.append_assoc, List.append_nil,
    Nat.add_assoc]
  rfl

def readNamedDevicesScript (deviceName : CxxString) (deviceInfo : USBDeviceInfo)
    (devs : List Device) : Scripted adminLock.Outside fun env =>
      devs.foldlM (readNamedDevice env deviceName devs) (.errorGeneral, deviceInfo) :=
  .foldlM (fun acc d => .ite (fun _ => .pure _) fun _ =>
    .bind (deviceInfoStructScript d acc.2) fun _ => .pure _) _ _

end Scripts

lemma getDeviceInfo_answer (env : Env) (deviceName : CxxString) (deviceInfo : USBDeviceInfo) :
    (Operation.getDeviceInfo deviceName deviceInfo).answer env = (do
      Prog.tell adminLock.acquire
      let r ← scanDeviceList env (.errorGeneral, deviceInfo) fun devs =>
        devs.foldlM (readNamedDevice env deviceName devs) (.errorGeneral, deviceInfo)
      Prog.tell adminLock.release
      pure (.info r.1 r.2)) := by
  rw [← withDeviceList_eq env _ _ fun r : Status × USBDeviceInfo => Answer.info r.1 r.2]
  rfl

lemma driver_answer (env : Env) (call : DriverCall) :
    (Operation.driver call).answer env = (do
      Prog.tell adminLock.acquire
      let status ← scanDeviceList env .errorGeneral
        (atNamedDevice call.deviceName (changeDriver env call.bound))
      Prog.tell adminLock.release
      pure (.driver status)) := by
  rw [← withDeviceList_eq, ← call.operation_eq]
  rfl

/-- Every operation, call by call: it has no use for the lock, or does its work under it. -/
def Operation.sheltered : ∀ op : Operation, Sheltered adminLock fun env => op.answer env
  | .getDeviceList devices => .outside (.bind (deviceListScript devices) fun _ => .pure _)
  | .getDeviceInfo deviceName deviceInfo =>
      .congr (fun env => getDeviceInfo_answer env deviceName deviceInfo)
        (.critical ((scanDeviceListScript (fun _ _ _ _ => id) _
          (readNamedDevicesScript deviceName deviceInfo)).mono Mutex.Outside.inside) _)
  | .driver call =>
      .congr (fun env => driver_answer env call)
        (.critical (scanDeviceListScript Mutex.Outside.inside _
          (atNamedDeviceScript call.deviceName fun d => changeDriverScript d call.bound)) _)
  | .hotPlug event d => .outside (.bind (hotPlugScript d event) fun _ => .pure _)

/-- Only the two driver operations change the drivers. -/
lemma Operation.answer_store (env : Env) :
    ∀ (op : Operation) (_ : ∀ call, op ≠ .driver call) (t : ℕ) (s : DriverState),
      ((op.answer env).run t s).store = s
  | .getDeviceList devices, _, t, s =>
      (deviceListScript devices).store_eq Mutex.Outside.keeps env t s
  | .getDeviceInfo deviceName deviceInfo, _, t, s => by
      rw [getDeviceInfo_answer]
      exact (scanDeviceListScript (fun _ _ _ _ => id) _
        (readNamedDevicesScript deviceName deviceInfo)).store_eq
          Mutex.Outside.keeps env (t + 1) s
  | .driver call, hop, _, _ => absurd rfl (hop call)
  | .hotPlug event d, _, t, s =>
      (hotPlugScript d event).store_eq Mutex.Outside.keeps env t s

/-! ## Operations side by side -/

/-- Threads, each of which performs one operation. -/
abbrev clients (s : DriverState) :
    System (State Outcomes Call DriverState Answer) (Action Operation Outcomes Call Answer) :=
  Threads.system adminLock (fun op : Operation => op.sheltered.script) s

section Clients

variable {s₀ : DriverState} {h : List (Action Operation Outcomes Call Answer)}

/-- Alone on the drivers `s`, and against what the thread met, the thread's operation returns `a`,
makes the calls the thread made and leaves the drivers as in `s'`. -/
def RunsAlone (h : List (Action Operation Outcomes Call Answer)) (i : ℕ) (a : Answer)
    (s s' : DriverState) : Prop :=
  ∃ op, StartedAs h i op ∧ ∀ env : Env, Meets env 0 (outcomesOf i h) →
    (op.answer env).run 0 s = ⟨a, callsOf i h, s'⟩

lemma runsAlone_of_ran {threads : ℕ → Thread Outcomes Call DriverState Answer} {i : ℕ}
    {s s' : DriverState}
    (hi : Ran (fun op : Operation => op.sheltered.script) h threads i s s') :
    ∃ a, RunsAlone h i a s s' ∧ (threads i).result = some a := by
  obtain ⟨op, a, hop, hresult, hrun⟩ := hi.run
  refine ⟨a, ⟨op, hop, fun env hmeets => ?_⟩, hresult⟩
  rw [op.sheltered.prog_eq env]
  exact hrun env hmeets

/-- **Concurrent calls do not notice each other.**  In every run, with any number of threads and
whatever libusb and the file system answer to each of them:

* the threads that took `_adminLock`, except for one that still holds it, run one after the other in
  the order in which they took it, and make of the drivers what they make of them alone;
* what a thread returned, its operation returns alone, in the environment the thread met;
* a thread that did not take the lock makes the same calls and returns the same on all drivers, and
  leaves them as they are;
* nobody takes the lock twice, and one who returned before another one started took it first. -/
theorem clients_serializable (hl : (clients s₀).Legal h) :
    let st := (clients s₀).exec h
    (∃ l s, Serial (fun i s s' => ∃ a, RunsAlone h i a s s' ∧ (st.threads i).result = some a) s₀ l s ∧
      (st.lock = none ∧ lockOrder adminLock h = l ∧ st.store = s ∨
        ∃ i, st.lock = some i ∧ lockOrder adminLock h = l ++ [i] ∧ (st.threads i).result = none)) ∧
    (∀ i a, i ∉ lockOrder adminLock h → st.threads i = .returned a → ∀ s, RunsAlone h i a s s) ∧
    (lockOrder adminLock h).Nodup ∧
    ∀ i j a op, i ∈ lockOrder adminLock h → j ∈ lockOrder adminLock h →
      Precedes (.finish i a) (.start j op) h → List.Sublist [i, j] (lockOrder adminLock h) := by
  have hguarded : ∀ op : Operation, Guarded adminLock op.sheltered.script :=
    fun op => op.sheltered.guarded
  have inv := serialized_of_legal hguarded hl
  refine ⟨?_, ?_, inv.nodup, fun i j a op hi hj hprecedes =>
    lockOrder_of_precedes hguarded hl hprecedes hi hj⟩
  · cases hlock : ((clients s₀).exec h).lock with
    | none =>
        exact ⟨_, _, (inv.free hlock).mono fun i _ s s' hi => runsAlone_of_ran hi,
          Or.inl ⟨rfl, rfl, rfl⟩⟩
    | some i =>
        obtain ⟨l, s, hl', hserial, howns⟩ := inv.held i hlock
        exact ⟨l, s, hserial.mono fun i _ s s' hi => runsAlone_of_ran hi,
          Or.inr ⟨i, rfl, hl', howns.result⟩⟩
  · intro i a hi hreturned s
    have hover := inv.unlocked i hi
    rw [hreturned] at hover
    cases hover with
    | @ended op _ hop hplays =>
        refine ⟨op, hop, fun env hmeets => ?_⟩
        rw [op.sheltered.prog_eq env, (hplays s).run hmeets]
        simp [Script.prog]

/-- On the sample bus: two clients bind and unbind the driver of the disk at the same time, while
libusb reports its arrival.  The one who asks to unbind is the second to get the lock. -/
def sampleClients : List (Action Operation Outcomes Call Answer) :=
  let o := sampleOutcomes
  [.start 1 (.driver ⟨false, "001/005".toList⟩), .start 0 (.driver ⟨true, "001/005".toList⟩),
    .call 0 o .lock, .call 0 o (.getDeviceList [sampleDisk]),
    .start 2 (.hotPlug .deviceArrived sampleDisk),
    .call 2 o (.getDeviceDescriptor sampleDisk true),
    .call 0 o (.openDevice sampleDisk true), .call 2 o .readSysfs,
    .call 0 o (.kernelDriverActive sampleDisk 0 0), .call 2 o (.openDirectory true),
    .call 0 o (.attachKernelDriver sampleDisk 0 true), .call 0 o (.closeDevice sampleDisk),
    .call 2 o .closeDirectory, .call 0 o .freeDeviceList, .call 0 o .unlock,
    .call 1 o .lock, .finish 0 (.driver .errorNone),
    .finish 2 (.job (some
      ⟨.deviceArrived, ⟨classMassStorage, 6, "001/005".toList, "/dev/sda".toList⟩⟩)),
    .call 1 o (.getDeviceList [sampleDisk]), .call 1 o (.openDevice sampleDisk true),
    .call 1 o (.kernelDriverActive sampleDisk 0 1),
    .call 1 o (.detachKernelDriver sampleDisk 0 true), .call 1 o (.closeDevice sampleDisk),
    .call 1 o .freeDeviceList, .call 1 o .unlock, .finish 1 (.driver .errorNone)]

set_option maxRecDepth 4000 in
lemma legal_sampleClients : (clients fun _ _ => false).Legal sampleClients := by decide

/-- The sample run. -/
theorem clients_serializable_sample :
    let st := (clients fun _ _ => false).exec sampleClients
    (∃ l s, Serial (fun i s s' => ∃ a, RunsAlone sampleClients i a s s' ∧
        (st.threads i).result = some a) (fun _ _ => false) l s ∧
      (st.lock = none ∧ lockOrder adminLock sampleClients = l ∧ st.store = s ∨
        ∃ i, st.lock = some i ∧ lockOrder adminLock sampleClients = l ++ [i] ∧
          (st.threads i).result = none)) ∧
    (∀ i a, i ∉ lockOrder adminLock sampleClients → st.threads i = .returned a →
      ∀ s, RunsAlone sampleClients i a s s) ∧
    (lockOrder adminLock sampleClients).Nodup ∧
    ∀ i j a op, i ∈ lockOrder adminLock sampleClients → j ∈ lockOrder adminLock sampleClients →
      Precedes (.finish i a) (.start j op) sampleClients →
        List.Sublist [i, j] (lockOrder adminLock sampleClients) :=
  clients_serializable legal_sampleClients

example : lockOrder adminLock sampleClients = [0, 1] := by decide

/-! ## The drivers -/

/-- The requests to bind and unbind made by these threads, with the status they came to. -/
def requests (h : List (Action Operation Outcomes Call Answer))
    (threads : ℕ → Thread Outcomes Call DriverState Answer) (l : List ℕ) :
    List (DriverCall × Status) :=
  l.filterMap fun i => match opOf i h, (threads i).result with
    | some (.driver call), some (.driver status) => some (call, status)
    | _, _ => none

/-- What was granted on a name. -/
def grantedBy (deviceName : CxxString) (rs : List (DriverCall × Status)) : List Bool :=
  granted deviceName (rs.map Prod.fst) (rs.map Prod.snd)

lemma grantedBy_append (deviceName : CxxString) (rs rs' : List (DriverCall × Status)) :
    grantedBy deviceName (rs ++ rs') = grantedBy deviceName rs ++ grantedBy deviceName rs' := by
  induction rs with
  | nil => rfl
  | cons r rs ih =>
      simp only [grantedBy] at ih
      simp only [grantedBy, List.cons_append, List.map_cons, granted, ih]
      split_ifs <;> rfl

/-- Drivers that are as granted, or as they were. -/
def AsGranted (s₀ s : DriverState) (rs : List (DriverCall × Status)) : Prop :=
  ∀ d : Device, s d.key 0 = ((grantedBy (usbDeviceName d) rs).getLast?).getD (s₀ d.key 0) ∧
    ∀ interface, interface ≠ 0 → s d.key interface = s₀ d.key interface

/-- One request more. -/
lemma AsGranted.snoc {s₀ s : DriverState} {rs : List (DriverCall × Status)}
    (hs : AsGranted s₀ s rs) {env : Env} {call : DriverCall} {t : ℕ}
    {r : Result Call DriverState Status}
    (hr : OperationResult env call.bound call.deviceName t s r) :
    AsGranted s₀ r.store (rs ++ [(call, r.value)]) := by
  intro d
  refine ⟨?_, fun interface hinterface => ?_⟩
  · rw [grantedBy_append]
    by_cases hgranted : r.value = .errorNone ∧ call.deviceName = usbDeviceName d
    · simp [grantedBy, granted, hgranted, hr.success hgranted.1 hgranted.2.symm]
    · have hsame : r.store d.key 0 = s d.key 0 := by
        by_cases hvalue : r.value = .errorNone
        · exact hr.frame (Or.inl fun hname => hgranted ⟨hvalue, hname.symm⟩)
        · rw [hr.failure hvalue]
      have hnone : grantedBy (usbDeviceName d) [(call, r.value)] = [] := by
        simpa [grantedBy, granted] using hgranted
      rw [hnone, List.append_nil, hsame]
      exact (hs d).1
  · rw [hr.frame (Or.inr hinterface)]
    exact (hs d).2 interface hinterface

/-- The threads that ran leave the drivers as granted.  The induction is on the order of the lock. -/
lemma asGranted_of_serial {threads : ℕ → Thread Outcomes Call DriverState Answer} {l : List ℕ}
    {s : DriverState}
    (hserial : Serial (Ran (fun op : Operation => op.sheltered.script) h threads) s₀ l s) :
    AsGranted s₀ s (requests h threads l) := by
  induction hserial with
  | nil => exact fun d => ⟨rfl, fun _ _ => rfl⟩
  | @snoc l s s' i _ hi ih =>
      obtain ⟨op, a, hop, hresult, hrun⟩ := hi.run
      have hown := hrun _ (meets_meeting sampleOutcomes _)
      rw [← op.sheltered.prog_eq] at hown
      have hsame : (∀ call, op ≠ .driver call) → s' = s := by
        intro hother
        have hstore := op.answer_store (meeting sampleOutcomes (outcomesOf i h)) hother 0 s
        rwa [hown] at hstore
      rw [requests, List.filterMap_append]
      cases op with
      | driver call =>
          have hcall := call.operation_result (meeting sampleOutcomes (outcomesOf i h)) 0 s
          simp only [Operation.answer, Prog.bind_run, Prog.pure_run, List.append_nil,
            Result.mk.injEq] at hown
          obtain ⟨rfl, -, rfl⟩ := hown
          simpa [requests, hop.opOf_eq, hresult] using ih.snoc hcall
      | _ =>
          obtain rfl := hsame (by simp)
          simpa [requests, hop.opOf_eq] using ih

/-- **Concurrent requests keep one bit per device.**  Whenever `_adminLock` is free, the driver of
every device is as the last successful request on its name asked for, in the order in which the
threads took the lock, or as it was at the start if there is none; other interfaces never change. -/
theorem clients_drivers (hl : (clients s₀).Legal h) (hfree : ((clients s₀).exec h).lock = none) :
    let st := (clients s₀).exec h
    ∀ d : Device,
      st.store d.key 0 = ((grantedBy (usbDeviceName d)
        (requests h st.threads (lockOrder adminLock h))).getLast?).getD (s₀ d.key 0) ∧
      ∀ interface, interface ≠ 0 → st.store d.key interface = s₀ d.key interface :=
  asGranted_of_serial (serial_of_legal (fun op : Operation => op.sheltered.guarded) hl hfree)

set_option maxRecDepth 4000 in
/-- The sample run: the driver was attached, and detached again. -/
theorem clients_drivers_sample :
    let st := (clients fun _ _ => false).exec sampleClients
    ∀ d : Device,
      st.store d.key 0 = ((grantedBy (usbDeviceName d)
        (requests sampleClients st.threads (lockOrder adminLock sampleClients))).getLast?).getD
          false ∧
      ∀ interface, interface ≠ 0 → st.store d.key interface = false :=
  clients_drivers legal_sampleClients (by decide)

/-! ## Everybody returns -/

/-- **Concurrent calls return.**  After every run:

* no schedule in which nobody calls any more goes on for ever, however long the lists and tables
  that libusb and the file system answer with;
* the thread with `_adminLock` can make its next call, whatever the outcome, and unless everybody has
  returned, so can some thread, or return;
* some such schedule ends with everybody returned and the lock free. -/
theorem clients_progress (hl : (clients s₀).Legal h) :
    let st := (clients s₀).exec h
    (∀ f : ℕ → Action Operation Outcomes Call Answer, (∀ n, (f n).Own) →
      ∃ n, ¬ (clients s₀).Legal (h ++ (List.range n).map f)) ∧
    (∀ i o, st.lock = some i → ∃ c, (clients s₀).Enabled st (.call i o c)) ∧
    (Settled st ∨ ∀ o, ∃ i, (∃ a, (clients s₀).Enabled st (.finish i a)) ∨
      ∃ c, (clients s₀).Enabled st (.call i o c)) ∧
    ∃ h', (clients s₀).Legal (h ++ h') ∧ (∀ a ∈ h', a.Own) ∧
      Settled ((clients s₀).exec (h ++ h')) := by
  have hguarded : ∀ op : Operation, Guarded adminLock op.sheltered.script :=
    fun op => op.sheltered.guarded
  have inv := serialized_of_legal hguarded hl
  obtain ⟨hfinite, hsettling⟩ := threads_finish sampleOutcomes hguarded hl
  refine ⟨hfinite, fun i o hlock => inv.exists_call_of_lock hlock o, ?_, hsettling⟩
  by_cases hsettled : Settled ((clients s₀).exec h)
  · exact Or.inl hsettled
  · exact Or.inr fun o => inv.exists_step hsettled o

set_option maxRecDepth 4000 in
/-- The sample run, with one client inside, one waiting, and the callback under way. -/
theorem clients_progress_sample :
    let h := sampleClients.take 8
    let st := (clients fun _ _ => false).exec h
    (∀ f : ℕ → Action Operation Outcomes Call Answer, (∀ n, (f n).Own) →
      ∃ n, ¬ (clients fun _ _ => false).Legal (h ++ (List.range n).map f)) ∧
    (∀ i o, st.lock = some i → ∃ c, (clients fun _ _ => false).Enabled st (.call i o c)) ∧
    (Settled st ∨ ∀ o, ∃ i, (∃ a, (clients fun _ _ => false).Enabled st (.finish i a)) ∨
      ∃ c, (clients fun _ _ => false).Enabled st (.call i o c)) ∧
    ∃ h', (clients fun _ _ => false).Legal (h ++ h') ∧ (∀ a ∈ h', a.Own) ∧
      Settled ((clients fun _ _ => false).exec (h ++ h')) :=
  clients_progress (by decide)

end Clients

end Usb
