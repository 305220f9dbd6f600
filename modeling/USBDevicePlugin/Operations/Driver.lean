import USBDevicePlugin.Operations.DeviceScan

/-!
# BindDriver and UnbindDriver

Two operations switch the kernel driver of a device's interface 0 on and off.  They are written out
separately and mirror each other: both scan the device list up to the first device with the name,
open it, ask whether a driver is active, attach or detach one if it is not as requested, and close
the device again.

Together they make a device's driver a bit that clients set and clear.

* `DriverResult` — the five ways the part between opening and closing can end.
* **`driverCalls_spec`** — over any sequence of calls: what a call's status says about the driver,
  what a call leaves alone, that it gives back what it takes, and the driver's state at the end.
-/

namespace Usb

open Interaction

/-! ## The code -/

/-- Attach or detach the driver; the status says whether that succeeded. -/
def requestDriver (env : Env) (bound : Bool) (d : Device) : Plugin Status := do
  let r ← if bound then libusbAttachKernelDriver env d 0 else libusbDetachKernelDriver env d 0
  pure (if r.isNone then .errorNone else .errorGeneral)

/-- The three branches on the answer of `libusb_kernel_driver_active`. -/
def branchOnDriver (kernelDriverStatus : Int) (inactive active : Plugin Status) : Plugin Status :=
  if kernelDriverStatus < 0 then pure .errorGeneral
  else if kernelDriverStatus = 0 then inactive
  else active

/-- Open the device, ask for its driver, branch, close the device. -/
def withKernelDriver (env : Env) (d : Device) (inactive active : Plugin Status) :
    Plugin Status := do
  match ← libusbOpen env d with
  | some _ => pure .errorGeneral
  | none => do
      let kernelDriverStatus ← libusbKernelDriverActive env d 0
      let status ← branchOnDriver kernelDriverStatus inactive active
      libusbClose d
      pure status

/-- The loop over the devices, left at the first one with the name. -/
def atNamedDevice (deviceName : CxxString) (body : Device → Plugin Status) :
    List Device → Plugin Status
  | [] => pure .errorGeneral
  | d :: devs =>
      if deviceName ≠ usbDeviceName d then atNamedDevice deviceName body devs
      else body d

/-- `BindDriver`: attach a driver if none is active. -/
def bindDriver (env : Env) (deviceName : CxxString) : Plugin Status :=
  withDeviceList env .errorGeneral <| atNamedDevice deviceName fun d =>
    withKernelDriver env d (requestDriver env true d) (pure .errorNone)

/-- `UnbindDriver`: detach the driver if one is active. -/
def unbindDriver (env : Env) (deviceName : CxxString) : Plugin Status :=
  withDeviceList env .errorGeneral <| atNamedDevice deviceName fun d =>
    withKernelDriver env d (pure .errorNone) (requestDriver env false d)

/-! ## One device -/

/-- The attach or detach call, with its outcome. -/
def driverRequest (bound : Bool) (d : Device) (ok : Bool) : Call :=
  if bound then .attachKernelDriver d 0 ok else .detachKernelDriver d 0 ok

/-- How the part of an operation that deals with one device can end, when it starts at `t`, the
driver is requested to be `bound`, and the drivers are as in `s`. -/
inductive DriverResult (env : Env) (bound : Bool) (d : Device) (t : ℕ) (s : DriverState) :
    Result Call DriverState Status → Prop
  | openFailed (hopen : (env t).openDevice d ≠ none) : DriverResult env bound d t s
      ⟨.errorGeneral, [.openDevice d false], s⟩
  | queryFailed (answer : Int) (hquery : (env (t + 1)).kernelDriverFailure d ≠ none) :
      DriverResult env bound d t s
        ⟨.errorGeneral, [.openDevice d true, .kernelDriverActive d 0 answer, .closeDevice d], s⟩
  | already (answer : Int) (hopen : (env t).openDevice d = none)
      (hquery : (env (t + 1)).kernelDriverFailure d = none) (h : s d.key 0 = bound) :
      DriverResult env bound d t s
        ⟨.errorNone, [.openDevice d true, .kernelDriverActive d 0 answer, .closeDevice d], s⟩
  | refused (answer : Int) (h : s d.key 0 ≠ bound) : DriverResult env bound d t s
      ⟨.errorGeneral, [.openDevice d true, .kernelDriverActive d 0 answer,
        driverRequest bound d false, .closeDevice d], s⟩
  | changed (answer : Int) (hopen : (env t).openDevice d = none)
      (hquery : (env (t + 1)).kernelDriverFailure d = none) : DriverResult env bound d t s
      ⟨.errorNone, [.openDevice d true, .kernelDriverActive d 0 answer,
        driverRequest bound d true, .closeDevice d], s.set d.key 0 bound⟩

/-- The part of an operation that deals with one device. -/
def changeDriver (env : Env) (bound : Bool) (d : Device) : Plugin Status :=
  if bound then withKernelDriver env d (requestDriver env true d) (pure .errorNone)
  else withKernelDriver env d (pure .errorNone) (requestDriver env false d)

lemma requestDriver_run (env : Env) (bound : Bool) (d : Device) (t : ℕ) (s : DriverState) :
    (requestDriver env bound d).run t s =
        ⟨.errorGeneral, [driverRequest bound d false], s⟩ ∨
      (requestDriver env bound d).run t s =
        ⟨.errorNone, [driverRequest bound d true], s.set d.key 0 bound⟩ := by
  cases bound with
  | true =>
      cases hr : (env t).attachKernelDriver d <;>
        simp [requestDriver, libusbAttachKernelDriver, driverRequest, hr]
  | false =>
      cases hr : (env t).detachKernelDriver d <;>
        simp [requestDriver, libusbDetachKernelDriver, driverRequest, hr]

/-- Whatever libusb answers, the run is one of the five. -/
lemma changeDriver_result (env : Env) (bound : Bool) (d : Device) (t : ℕ) (s : DriverState) :
    DriverResult env bound d t s ((changeDriver env bound d).run t s) := by
  cases hopen : (env t).openDevice d with
  | some e =>
      have hrun : (changeDriver env bound d).run t s =
          ⟨.errorGeneral, [.openDevice d false], s⟩ := by
        cases bound <;> simp [changeDriver, withKernelDriver, libusbOpen, hopen]
      exact hrun ▸ .openFailed (by simp [hopen])
  | none =>
      cases hquery : (env (t + 1)).kernelDriverFailure d with
      | some e =>
          have hneg := e.property
          have hrun : (changeDriver env bound d).run t s = ⟨.errorGeneral,
              [.openDevice d true, .kernelDriverActive d 0 e, .closeDevice d], s⟩ := by
            cases bound <;> simp [changeDriver, withKernelDriver, libusbOpen, hopen,
              libusbKernelDriverActive, hquery, branchOnDriver, hneg, libusbClose]
          exact hrun ▸ .queryFailed e.val (by simp [hquery])
      | none =>
          by_cases hstate : s d.key 0 = bound
          · have hrun : (changeDriver env bound d).run t s = ⟨.errorNone, [.openDevice d true,
                .kernelDriverActive d 0 (bound.toNat : ℕ), .closeDevice d], s⟩ := by
              cases bound <;> simp [changeDriver, withKernelDriver, libusbOpen, hopen,
                libusbKernelDriverActive, hquery, branchOnDriver, hstate, libusbClose]
            exact hrun ▸ .already _ hopen hquery hstate
          · have hrun : ∀ r, (requestDriver env bound d).run (t + 1 + 1) s = r →
                (changeDriver env bound d).run t s = ⟨r.value, .openDevice d true ::
                  .kernelDriverActive d 0 ((!bound).toNat : ℕ) :: (r.calls ++ [.closeDevice d]),
                  r.store⟩ := by
              rintro r rfl
              cases bound <;> simp_all [changeDriver, withKernelDriver, libusbOpen,
                libusbKernelDriverActive, branchOnDriver, libusbClose]
            rcases requestDriver_run env bound d (t + 1 + 1) s with hr | hr
            · exact hrun _ hr ▸ .refused _ hstate
            · exact hrun _ hr ▸ .changed _ hopen hquery

section DriverResult

variable {env : Env} {bound : Bool} {d : Device} {t : ℕ} {s : DriverState}
  {r : Result Call DriverState Status}

/-- Success means that both questions were answered and the driver is as requested. -/
lemma DriverResult.succeeds_iff (h : DriverResult env bound d t s r) :
    r.value = .errorNone ↔
      (env t).openDevice d = none ∧ (env (t + 1)).kernelDriverFailure d = none ∧
        r.store d.key 0 = bound := by
  cases h with
  | openFailed hopen => simp [hopen]
  | queryFailed answer hquery => simp [hquery]
  | already answer hopen hquery h => simp [hopen, hquery, h]
  | refused answer h => simp [h]
  | changed answer hopen hquery => simp [hopen, hquery, DriverState.set]

lemma DriverResult.failure (h : DriverResult env bound d t s r) (hvalue : r.value ≠ .errorNone) :
    r.store = s := by
  cases h with
  | openFailed hopen => rfl
  | queryFailed answer hquery => rfl
  | already answer hopen hquery h => rfl
  | refused answer h => rfl
  | changed answer hopen hquery => exact absurd rfl hvalue

lemma DriverResult.frame (h : DriverResult env bound d t s r) {key : UInt8 × UInt8}
    {interface : ℕ} (hother : key ≠ d.key ∨ interface ≠ 0) :
    r.store key interface = s key interface := by
  cases h with
  | openFailed hopen => rfl
  | queryFailed answer hquery => rfl
  | already answer hopen hquery h => rfl
  | refused answer h => rfl
  | changed answer hopen hquery => exact if_neg (by tauto)

/-- What is opened is closed. -/
lemma DriverResult.handles (h : DriverResult env bound d t s r) (d' : Device) :
    r.calls.count (.openDevice d' true) = r.calls.count (.closeDevice d') := by
  cases h <;> cases bound <;> simp [driverRequest, List.count_cons]

/-- Lock and list are the frame's business. -/
lemma DriverResult.not_mem (h : DriverResult env bound d t s r) :
    .lock ∉ r.calls ∧ .unlock ∉ r.calls ∧ .freeDeviceList ∉ r.calls := by
  cases h <;> cases bound <;> simp [driverRequest]

lemma DriverResult.balanced (h : DriverResult env bound d t s r) (held : Held) :
    Prog.replay account held r.calls = some held := by
  cases h <;> cases bound <;> simp [driverRequest, account]

end DriverResult

/-! ## One call -/

/-- How a whole call can end. -/
inductive OperationResult (env : Env) (bound : Bool) (deviceName : CxxString) (t : ℕ)
    (s : DriverState) : Result Call DriverState Status → Prop
  | noDevices (h : (env (t + 1)).devices = []) : OperationResult env bound deviceName t s
      ⟨.errorGeneral, [.lock, .getDeviceList [], .unlock], s⟩
  | notFound (hne : (env (t + 1)).devices ≠ [])
      (h : ∀ d ∈ (env (t + 1)).devices, deviceName ≠ usbDeviceName d) :
      OperationResult env bound deviceName t s
        ⟨.errorGeneral, [.lock, .getDeviceList (env (t + 1)).devices, .freeDeviceList, .unlock], s⟩
  | found (d : Device) (hd : d ∈ (env (t + 1)).devices) (hname : deviceName = usbDeviceName d)
      (r : Result Call DriverState Status) (hr : DriverResult env bound d (t + 2) s r) :
      OperationResult env bound deviceName t s
        ⟨r.value, .lock :: .getDeviceList (env (t + 1)).devices ::
          (r.calls ++ [.freeDeviceList, .unlock]), r.store⟩

/-- The loop ends at a device with the name, or past the last one. -/
lemma atNamedDevice_cases (deviceName : CxxString) (body : Device → Plugin Status) :
    ∀ devs : List Device,
      (atNamedDevice deviceName body devs = pure .errorGeneral ∧
        ∀ d ∈ devs, deviceName ≠ usbDeviceName d) ∨
      ∃ d ∈ devs, deviceName = usbDeviceName d ∧ atNamedDevice deviceName body devs = body d
  | [] => Or.inl ⟨rfl, by simp⟩
  | d :: devs => by
      rw [atNamedDevice]
      by_cases hname : deviceName = usbDeviceName d
      · exact Or.inr ⟨d, by simp, hname, if_neg (not_not.mpr hname)⟩
      · rw [if_pos hname]
        rcases atNamedDevice_cases deviceName body devs with ⟨heq, hall⟩ | ⟨d', hd', hname', heq⟩
        · exact Or.inl ⟨heq, by simpa [hname] using hall⟩
        · exact Or.inr ⟨d', by simp [hd'], hname', heq⟩

/-- A call of one of the two operations. -/
structure DriverCall where
  bound : Bool
  deviceName : CxxString
  deriving DecidableEq, Repr

/-- The operation called. -/
def DriverCall.operation (env : Env) (call : DriverCall) : Plugin Status :=
  if call.bound then bindDriver env call.deviceName else unbindDriver env call.deviceName

lemma DriverCall.operation_eq (env : Env) (call : DriverCall) :
    call.operation env = withDeviceList env .errorGeneral
      (atNamedDevice call.deviceName (changeDriver env call.bound)) := by
  obtain ⟨bound, deviceName⟩ := call
  cases bound <;> rfl

lemma DriverCall.operation_result (env : Env) (call : DriverCall) (t : ℕ) (s : DriverState) :
    OperationResult env call.bound call.deviceName t s ((call.operation env).run t s) := by
  rw [call.operation_eq]
  by_cases hdevs : (env (t + 1)).devices = []
  · rw [withDeviceList_run_nil hdevs]
    exact .noDevices hdevs
  · rw [withDeviceList_run_cons hdevs]
    rcases atNamedDevice_cases call.deviceName (changeDriver env call.bound)
      (env (t + 1)).devices with ⟨heq, hall⟩ | ⟨d, hd, hname, heq⟩
    · rw [heq]
      exact .notFound hdevs hall
    · rw [heq]
      exact .found d hd hname _ (changeDriver_result env call.bound d _ s)

/-- What is promised of a call that starts at `t` and finds the drivers as in `s`.  It asks for the
list at `t + 1`, opens a device at `t + 2` and asks for its driver at `t + 3`. -/
structure CallSpec (env : Env) (bound : Bool) (deviceName : CxxString) (t : ℕ) (s : DriverState)
    (r : Result Call DriverState Status) : Prop where
  /-- Success means: a device with the name is enumerated, opening it and asking for its driver
  succeed, and the driver is as requested now. -/
  succeeds_iff : r.value = .errorNone ↔
    ∃ d ∈ (env (t + 1)).devices, usbDeviceName d = deviceName ∧ (env (t + 2)).openDevice d = none ∧
      (env (t + 3)).kernelDriverFailure d = none ∧ r.store d.key 0 = bound
  /-- A failing call changes nothing. -/
  failure : r.value ≠ .errorNone → r.store = s
  /-- Devices with other names are not touched, and no interface but 0 is. -/
  frame : ∀ d interface, usbDeviceName d ≠ deviceName ∨ interface ≠ 0 →
    r.store d.key interface = s d.key interface
  /-- Each handle that is opened is closed once. -/
  handles : ∀ d, r.calls.count (.openDevice d true) = r.calls.count (.closeDevice d)
  /-- One list is asked for; it is freed once if there are devices in it, and never otherwise. -/
  lists : .getDeviceList (env (t + 1)).devices ∈ r.calls ∧
    r.calls.count .freeDeviceList = if (env (t + 1)).devices = [] then 0 else 1
  /-- The lock is taken first and released last. -/
  locked : ∃ calls, r.calls = .lock :: calls ++ [.unlock] ∧ .lock ∉ calls ∧ .unlock ∉ calls
  /-- Nothing is given back that is not held, and nothing is kept. -/
  balanced : ∀ held, Prog.replay account held r.calls = some held

section CallSpec

variable {env : Env} {bound : Bool} {deviceName : CxxString} {t : ℕ} {s : DriverState}
  {r : Result Call DriverState Status}

lemma OperationResult.succeeds_iff (h : OperationResult env bound deviceName t s r)
    (hdistinct : Distinct (env (t + 1)).devices) :
    r.value = .errorNone ↔
      ∃ d ∈ (env (t + 1)).devices, usbDeviceName d = deviceName ∧
        (env (t + 2)).openDevice d = none ∧ (env (t + 3)).kernelDriverFailure d = none ∧
        r.store d.key 0 = bound := by
  cases h with
  | noDevices h => simp [h]
  | notFound hne h =>
      simp only [reduceCtorEq, false_iff]
      rintro ⟨d, hd, hname, -⟩
      exact h d hd hname.symm
  | found d hd hname r' hr =>
      rw [hr.succeeds_iff]
      constructor
      · exact fun hall => ⟨d, hd, hname.symm, hall⟩
      · rintro ⟨d', hd', hname', hall⟩
        obtain rfl := hdistinct.eq_of_name hd' hd (hname'.trans hname)
        exact hall

lemma OperationResult.failure (h : OperationResult env bound deviceName t s r)
    (hvalue : r.value ≠ .errorNone) : r.store = s := by
  cases h with
  | noDevices h => rfl
  | notFound hne h => rfl
  | found d hd hname r' hr => exact hr.failure hvalue

/-- A successful call leaves the driver of every device with the name as requested. -/
lemma OperationResult.success (h : OperationResult env bound deviceName t s r)
    (hvalue : r.value = .errorNone) {d : Device} (hd : usbDeviceName d = deviceName) :
    r.store d.key 0 = bound := by
  cases h with
  | noDevices h => simp at hvalue
  | notFound hne h => simp at hvalue
  | found d' hd' hname r' hr =>
      rw [usbDeviceName_eq_iff.mp (hd.trans hname)]
      exact (hr.succeeds_iff.mp hvalue).2.2

lemma OperationResult.frame (h : OperationResult env bound deviceName t s r) {d : Device}
    {interface : ℕ} (hd : usbDeviceName d ≠ deviceName ∨ interface ≠ 0) :
    r.store d.key interface = s d.key interface := by
  cases h with
  | noDevices h => rfl
  | notFound hne h => rfl
  | found d' hd' hname r' hr =>
      exact hr.frame (hd.imp_left fun hne hkey =>
        hne ((usbDeviceName_eq_iff.mpr hkey).trans hname.symm))

lemma OperationResult.handles (h : OperationResult env bound deviceName t s r) (d : Device) :
    r.calls.count (.openDevice d true) = r.calls.count (.closeDevice d) := by
  cases h with
  | noDevices h => simp
  | notFound hne h => simp
  | found d' hd' hname r' hr => simpa [List.count_cons] using hr.handles d

lemma OperationResult.lists (h : OperationResult env bound deviceName t s r) :
    .getDeviceList (env (t + 1)).devices ∈ r.calls ∧
      r.calls.count .freeDeviceList = if (env (t + 1)).devices = [] then 0 else 1 := by
  cases h with
  | noDevices h => simp [h]
  | notFound hne h => simp [hne]
  | found d' hd' hname r' hr =>
      simp [List.ne_nil_of_mem hd', List.count_eq_zero.mpr hr.not_mem.2.2]

lemma OperationResult.locked (h : OperationResult env bound deviceName t s r) :
    ∃ calls, r.calls = .lock :: calls ++ [.unlock] ∧ .lock ∉ calls ∧ .unlock ∉ calls := by
  cases h with
  | noDevices h => exact ⟨[.getDeviceList []], rfl, by simp, by simp⟩
  | notFound hne h =>
      exact ⟨[.getDeviceList (env (t + 1)).devices, .freeDeviceList], rfl, by simp, by simp⟩
  | found d' hd' hname r' hr =>
      refine ⟨.getDeviceList (env (t + 1)).devices :: (r'.calls ++ [.freeDeviceList]), by simp,
        ?_, ?_⟩
      · simpa using hr.not_mem.1
      · simpa using hr.not_mem.2.1

lemma OperationResult.balanced (h : OperationResult env bound deviceName t s r) (held : Held) :
    Prog.replay account held r.calls = some held := by
  cases h with
  | noDevices h => simp [account]
  | notFound hne h => simp [account, hne]
  | found d' hd' hname r' hr =>
      simp [account, Prog.replay_append, List.ne_nil_of_mem hd', hr.balanced]

lemma OperationResult.callSpec (h : OperationResult env bound deviceName t s r)
    (hdistinct : Distinct (env (t + 1)).devices) : CallSpec env bound deviceName t s r where
  succeeds_iff := h.succeeds_iff hdistinct
  failure := h.failure
  frame _ _ := h.frame
  handles := h.handles
  lists := h.lists
  locked := h.locked
  balanced := h.balanced

end CallSpec

/-! ## Sequences of calls -/

/-- Calls one after the other, each against whatever libusb answers by then. -/
def driverCalls (env : Env) : List DriverCall → Plugin (List Status)
  | [] => pure []
  | call :: calls => do
      let status ← call.operation env
      let statuses ← driverCalls env calls
      pure (status :: statuses)

/-- What the successful calls on a name requested, in order. -/
def granted (deviceName : CxxString) : List DriverCall → List Status → List Bool
  | call :: calls, status :: statuses =>
      if status = .errorNone ∧ call.deviceName = deviceName then
        call.bound :: granted deviceName calls statuses
      else granted deviceName calls statuses
  | _, _ => []

/-- The driver of a device is as last granted, or as it was. -/
lemma driverCalls_store (env : Env) (d : Device) :
    ∀ (calls : List DriverCall) (t : ℕ) (s : DriverState),
      ((driverCalls env calls).run t s).store d.key 0 =
        ((granted (usbDeviceName d) calls ((driverCalls env calls).run t s).value).getLast?).getD
          (s d.key 0)
  | [], _, _ => rfl
  | call :: calls, t, s => by
      have hcall := call.operation_result env t s
      have ih := driverCalls_store env d calls
        (t + ((call.operation env).run t s).calls.length) ((call.operation env).run t s).store
      simp only [driverCalls, Prog.bind_run, Prog.pure_run, granted]
      rw [ih]
      split_ifs with hgranted
      · rw [List.getLast?_cons, hcall.success hgranted.1 hgranted.2.symm]
        rfl
      · have hsame : ((call.operation env).run t s).store d.key 0 = s d.key 0 := by
          by_cases hvalue : ((call.operation env).run t s).value = .errorNone
          · exact hcall.frame (Or.inl fun hname => hgranted ⟨hvalue, hname.symm⟩)
          · rw [hcall.failure hvalue]
        rw [hsame]

/-- **`BindDriver` and `UnbindDriver` keep one bit per device.**  In every sequence of calls, with
whatever names, enumerations and failures, each call keeps its promises about the drivers it found;
and at the end the driver of a device is as the last successful call on its name requested, or as
it was at the start if there is none. -/
theorem driverCalls_spec {env : Env} (hdistinct : ∀ t, Distinct (env t).devices)
    (calls : List DriverCall) (t : ℕ) (s : DriverState) :
    (∀ pre call post, calls = pre ++ call :: post →
      let before := (driverCalls env pre).run t s
      CallSpec env call.bound call.deviceName (t + before.calls.length) before.store
        ((call.operation env).run (t + before.calls.length) before.store)) ∧
    ∀ d : Device,
      let after := (driverCalls env calls).run t s
      after.store d.key 0 =
        ((granted (usbDeviceName d) calls after.value).getLast?).getD (s d.key 0) :=
  ⟨fun _ call _ _ => (call.operation_result env _ _).callSpec (hdistinct _),
    fun d => driverCalls_store env d calls t s⟩

/-- The sample bus at the start of three calls: bind the disk, bind a device that is not there,
unbind the disk. -/
theorem driverCalls_spec_sampleDisk :
    let calls : List DriverCall :=
      [⟨true, "001/005".toList⟩, ⟨true, "001/006".toList⟩, ⟨false, "001/005".toList⟩]
    (∀ pre call post, calls = pre ++ call :: post →
      let before := (driverCalls sampleOutcomes.steady pre).run 0 (fun _ _ => false)
      CallSpec sampleOutcomes.steady call.bound call.deviceName (0 + before.calls.length)
        before.store ((call.operation sampleOutcomes.steady).run (0 + before.calls.length)
          before.store)) ∧
    ∀ d : Device,
      let after := (driverCalls sampleOutcomes.steady calls).run 0 (fun _ _ => false)
      after.store d.key 0 = ((granted (usbDeviceName d) calls after.value).getLast?).getD false :=
  driverCalls_spec (fun _ => (by decide : Distinct sampleOutcomes.devices)) _ 0 (fun _ _ => false)

example : ((driverCalls sampleOutcomes.steady
    [⟨true, "001/005".toList⟩, ⟨true, "001/006".toList⟩, ⟨false, "001/005".toList⟩]).run 0
      (fun _ _ => false)).value = [.errorNone, .errorGeneral, .errorNone] := by decide

end Usb
