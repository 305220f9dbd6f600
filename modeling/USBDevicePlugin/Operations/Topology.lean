import USBDevicePlugin.Operations.DeviceInfo

/-!
# The place of a device in the tree

`GetDeviceInfo` is to report how deep a device sits and which device of the enumeration is its
parent.  Both come from the port chain: its length is the level, and the parent is searched for
among the enumerated devices by the port number one level up.

The computation sits in the branch for descriptions that fail.  The search looks at port numbers
only, which repeat on every bus and at every hub, and the last device it comes upon wins.

* **`getDeviceInfo_place_iff`** — the place is reported exactly when the description fails.
* **`parentSearch_iff`** — the search ends at the parent exactly when no device enumerated after it
  sits on a port with the same number.
-/

namespace Usb

open Interaction

/-! ## The search -/

lemma findParent_append (devs : List Device) (x : Device) (portNo parentId : UInt8) :
    findParent (devs ++ [x]) portNo parentId =
      if portNo = x.portNumber then UInt8.ofNat devs.length
      else findParent devs portNo parentId := by
  simp [findParent, List.zipIdx_append]

/-- No device enumerated after index `j` sits on a port of this number. -/
def LastOnPort (devs : List Device) (j : ℕ) (portNo : UInt8) : Prop :=
  ∀ k x, j < k → devs[k]? = some x → x.portNumber ≠ portNo

lemma lastOnPort_append {devs : List Device} {x : Device} {j : ℕ} (hj : j < devs.length)
    (portNo : UInt8) :
    LastOnPort (devs ++ [x]) j portNo ↔ LastOnPort devs j portNo ∧ x.portNumber ≠ portNo := by
  constructor
  · intro hlast
    refine ⟨fun k y hk hy => hlast k y hk ?_, hlast devs.length x hj (by simp)⟩
    obtain ⟨hlt, -⟩ := List.getElem?_eq_some_iff.mp hy
    rw [List.getElem?_append_left hlt, hy]
  · rintro ⟨hlast, hx⟩ k y hk hy
    rcases lt_or_ge k devs.length with hlt | hge
    · exact hlast k y hk (by rwa [List.getElem?_append_left hlt] at hy)
    · rw [List.getElem?_append_right hge, List.getElem?_singleton] at hy
      split_ifs at hy
      obtain rfl := Option.some.inj hy
      exact hx

/-- The search ends at a device exactly when it is the last one on a port of that number.  The
induction takes the devices off from the end, where the search looks last. -/
lemma findParent_toNat_iff {devs : List Device} (hcount : devs.length ≤ 256) {j : ℕ} {hub : Device}
    (hj : devs[j]? = some hub) (parentId : UInt8) :
    (findParent devs hub.portNumber parentId).toNat = j ↔ LastOnPort devs j hub.portNumber := by
  induction devs using List.reverseRecOn with
  | nil => simp at hj
  | append_singleton devs x ih =>
      rw [List.length_append, List.length_singleton] at hcount
      have hlength : (UInt8.ofNat devs.length).toNat = devs.length := by
        rw [UInt8.toNat_ofNat']
        omega
      rw [findParent_append]
      obtain ⟨hlt, -⟩ := List.getElem?_eq_some_iff.mp hj
      rw [List.length_append, List.length_singleton] at hlt
      rcases Nat.lt_or_eq_of_le (Nat.le_of_lt_succ hlt) with hbefore | rfl
      · rw [List.getElem?_append_left hbefore] at hj
        rw [lastOnPort_append hbefore]
        split_ifs with hport
        · simp only [hlength, hport, ne_eq, not_true, and_false, iff_false]
          omega
        · rw [ih (by omega) hj]
          exact ⟨fun hlast => ⟨hlast, fun h => hport h.symm⟩, fun h => h.1⟩
      · obtain rfl : x = hub := by simpa using hj
        rw [if_pos rfl, hlength]
        refine ⟨fun _ k y hk hy => ?_, fun _ => rfl⟩
        obtain ⟨hk', -⟩ := List.getElem?_eq_some_iff.mp hy
        rw [List.length_append, List.length_singleton] at hk'
        omega

/-! ## Level and parent -/

/-- What the code is to report as the parent: 0 on a root port, the result of the search below. -/
def parentOf (devs : List Device) (d : Device) (parentId : UInt8) : UInt8 :=
  if d.portChain.length = 1 then 0
  else findParent devs (d.portChain.getD (d.portChain.length - 2) 0) parentId

/-- The computation on a chain that fits the array of eight. -/
lemma locateDevice_place (devs : List Device) {d : Device} (hpos : 1 ≤ d.portChain.length)
    (hfits : d.portChain.length ≤ 8) (info : USBDeviceInfo) :
    (locateDevice devs d info).deviceLevel.toNat = d.portChain.length ∧
      (locateDevice devs d info).parentId = parentOf devs d info.parentId := by
  have hports : libusbGetPortNumbers d 8 = ((d.portChain.length : Int), d.portChain) :=
    if_neg (not_lt.mpr hfits)
  have hlevel : (UInt8.ofInt d.portChain.length).toNat = d.portChain.length := by
    rw [UInt8.ofInt, UInt8.toNat_ofNat']
    omega
  have hdeep : 1 < UInt8.ofInt d.portChain.length ↔ d.portChain.length ≠ 1 := by
    rw [UInt8.lt_iff_toNat_lt, hlevel]
    show 1 < d.portChain.length ↔ _
    omega
  simp only [locateDevice, hports, hlevel, hdeep, parentOf, true_and]
  split_ifs <;> simp_all

/-- Whatever level and parent the caller's structure comes with, a successful call reports those of the
device. -/
def PlaceReported (env : Env) (d : Device) (deviceInfo : USBDeviceInfo) (t : ℕ) (s : DriverState) :
    Prop :=
  ∀ deviceLevel parentId : UInt8,
    let r := (getDeviceInfo env (usbDeviceName d) { deviceInfo with deviceLevel, parentId }).run t s
    r.value.1 = .errorNone →
      r.value.2.deviceLevel.toNat = d.portChain.length ∧
        r.value.2.parentId = parentOf (env (t + 1)).devices d parentId

/-- **The place is reported exactly when there is no success to report it with**: when the description
of the device fails.  A call that succeeds leaves level and parent as they are. -/
theorem getDeviceInfo_place_iff {env : Env} {t : ℕ} (hdistinct : Distinct (env (t + 1)).devices)
    {d : Device} (hd : d ∈ (env (t + 1)).devices) (deviceInfo : USBDeviceInfo) (s : DriverState) :
    PlaceReported env d deviceInfo t s ↔ ¬ InfoRead env d deviceInfo.device (t + 2) := by
  constructor
  · intro hplace hread
    -- a level that is not the device's comes back as it is
    obtain ⟨deviceLevel, hwrong⟩ : ∃ deviceLevel : UInt8,
        deviceLevel.toNat ≠ d.portChain.length := by
      by_cases hzero : d.portChain.length = 0
      · exact ⟨1, by rw [hzero]; decide⟩
      · exact ⟨0, fun h => hzero h.symm⟩
    have hok := (getDeviceInfo_status hdistinct hd { deviceInfo with deviceLevel, parentId := 0 }
      s).mpr hread
    have hkept := (@getDeviceInfo_place_of_success env t hdistinct d hd
      { deviceInfo with deviceLevel, parentId := 0 } s hread).1
    have hlevel := (hplace deviceLevel 0 hok).1
    rw [hkept] at hlevel
    exact hwrong hlevel
  · intro hfail deviceLevel parentId r hok
    exact absurd ((getDeviceInfo_status hdistinct hd _ s).mp hok) hfail

/-- A bus with these devices on which no device opens. -/
def sampleClosedBus (devs : List Device) : Outcomes :=
  { sampleOutcomes.enumerating devs with openDevice := fun _ => some ⟨-3, by decide⟩ }

lemma not_infoRead_sampleClosedBus (devs : List Device) (d : Device) (device : USBDevice) (t : ℕ) :
    ¬ InfoRead (sampleClosedBus devs).steady d device t := by
  rintro ⟨desc, -, hopen, -⟩
  simp [sampleClosedBus, Outcomes.steady] at hopen

/-- The condition met and not met, for a device behind a hub: on a bus where nothing opens, and on one
where the device does. -/
theorem getDeviceInfo_place_samplePortOne :
    let devs := [sampleHub, samplePortOne]
    let s : DriverState := fun _ _ => false
    samplePortOne.portChain.length = 2 ∧
      PlaceReported (sampleClosedBus devs).steady samplePortOne {} 0 s ∧
      ¬ PlaceReported (sampleOutcomes.enumerating devs).steady samplePortOne {} 0 s := by
  intro devs s
  have hclosed := @getDeviceInfo_place_iff (sampleClosedBus devs).steady 0 (by decide) samplePortOne
    (by decide) {} s
  have hopen := @getDeviceInfo_place_iff (sampleOutcomes.enumerating devs).steady 0 (by decide)
    samplePortOne (by decide) {} s
  have hread : InfoRead (sampleOutcomes.enumerating devs).steady samplePortOne {} 2 :=
    (@getDeviceInfo_status (sampleOutcomes.enumerating devs).steady 0 (by decide) samplePortOne
      (by decide) {} s).mp (by decide)
  exact ⟨rfl, hclosed.mpr (not_infoRead_sampleClosedBus devs _ _ _),
    fun hplace => hopen.mp hplace hread⟩

/-- **The place is what the caller had.**  The stick is on a root port, level 1 with parent 0; the
call succeeds and reports level 0 and parent 9, as it was given. -/
theorem getDeviceInfo_place_lost :
    let r := (getDeviceInfo sampleOutcomes.steady "001/005".toList { parentId := 9 }).run 0
      fun _ _ => false
    sampleDisk.portChain.length = 1 ∧ r.value.1 = .errorNone ∧ r.value.2.deviceLevel = 0 ∧
      r.value.2.parentId = 9 ∧ parentOf [sampleDisk] sampleDisk 9 = 0 := by
  refine ⟨by decide, by decide, by decide, by decide, by decide⟩

/-! ## The parent hub -/

/-- The hub a device is plugged into: on the same bus, one level up. -/
structure IsParentHub (hub d : Device) : Prop where
  busNumber : hub.busNumber = d.busNumber
  portChain : hub.portChain = d.portChain.dropLast

/-- libusb reports the last element of the port chain as the port number. -/
def PortsConsistent (devs : List Device) : Prop :=
  ∀ x ∈ devs, ∀ port ∈ x.portChain.getLast?, x.portNumber = port

lemma portsConsistent_iff {devs : List Device} :
    PortsConsistent devs ↔ ∀ x ∈ devs, x.portChain.getLast?.getD x.portNumber = x.portNumber := by
  refine forall₂_congr fun x _ => ?_
  cases x.portChain.getLast? <;> simp [eq_comm]

instance (devs : List Device) : Decidable (PortsConsistent devs) :=
  decidable_of_iff _ portsConsistent_iff.symm

/-- The port number the search looks for is the hub's. -/
lemma IsParentHub.portNumber {hub d : Device} (h : IsParentHub hub d) {devs : List Device}
    (hports : PortsConsistent devs) (hhub : hub ∈ devs) (hchain : 2 ≤ d.portChain.length) :
    d.portChain.getD (d.portChain.length - 2) 0 = hub.portNumber := by
  have hlast : hub.portChain.getLast? = some (d.portChain.getD (d.portChain.length - 2) 0) := by
    have hlt : d.portChain.length - 2 < d.portChain.length := by omega
    rw [h.portChain, List.getLast?_eq_getElem?, List.length_dropLast, List.getElem?_dropLast,
      if_pos (by omega), show d.portChain.length - 1 - 1 = d.portChain.length - 2 by omega,
      List.getD_eq_getElem?_getD, List.getElem?_eq_getElem hlt, Option.getD_some]
  exact (hports hub hhub _ hlast).symm

/-- The search runs, and starts from the parent the structure has at this point. -/
lemma readNamedDevice_parentId {env : Env} {devs : List Device} {d : Device}
    (hchain : 2 ≤ d.portChain.length) (hfits : d.portChain.length ≤ 8)
    {acc : Status × USBDeviceInfo} {t : ℕ} (hfail : ¬ InfoRead env d acc.2.device t)
    (s : DriverState) :
    ((readNamedDevice env (usbDeviceName d) devs acc d).run t s).value.2.parentId =
      findParent devs (d.portChain.getD (d.portChain.length - 2) 0) acc.2.parentId := by
  have hstatus := mt (getUSBDeviceInfoStructFromDeviceDescriptor_status env d acc.2 t s).mp hfail
  have hkept := (getUSBDeviceInfoStructFromDeviceDescriptor_place env d acc.2 t s).2
  have hplace := fun info => (locateDevice_place devs (by omega) hfits info).2
  simp only [readNamedDevice, ne_eq, not_true, if_false, Prog.bind_run, Prog.pure_run, hstatus,
    not_false_eq_true, if_true, hplace, hkept]
  rw [parentOf, if_neg (by omega)]

/-- **The search finds the parent exactly when no device enumerated after it sits on a port with
the same number**: in the loop body, whatever was found before, and in the call as a whole. -/
theorem parentSearch_iff {env : Env} {devs : List Device} (hcount : devs.length ≤ 256)
    (hports : PortsConsistent devs) {d : Device} (hchain : 2 ≤ d.portChain.length)
    (hfits : d.portChain.length ≤ 8) {j : ℕ} {hub : Device} (hj : devs[j]? = some hub)
    (hhub : IsParentHub hub d) :
    (∀ (acc : Status × USBDeviceInfo) (t : ℕ) (s : DriverState),
      ¬ InfoRead env d acc.2.device t →
        (((readNamedDevice env (usbDeviceName d) devs acc d).run t s).value.2.parentId.toNat = j ↔
          LastOnPort devs j hub.portNumber)) ∧
    ∀ (deviceInfo : USBDeviceInfo) (t : ℕ) (s : DriverState), (env (t + 1)).devices = devs →
      Distinct devs → d ∈ devs → ¬ InfoRead env d deviceInfo.device (t + 2) →
        (((getDeviceInfo env (usbDeviceName d) deviceInfo).run t s).value.2.parentId.toNat = j ↔
          LastOnPort devs j hub.portNumber) := by
  have hbody : ∀ (acc : Status × USBDeviceInfo) (t : ℕ) (s : DriverState),
      ¬ InfoRead env d acc.2.device t →
        (((readNamedDevice env (usbDeviceName d) devs acc d).run t s).value.2.parentId.toNat = j ↔
          LastOnPort devs j hub.portNumber) := by
    intro acc t s hfail
    rw [readNamedDevice_parentId hchain hfits hfail,
      hhub.portNumber hports (List.mem_of_getElem? hj) hchain]
    exact findParent_toNat_iff hcount hj _
  refine ⟨hbody, fun deviceInfo t s hdevs hdistinct hd hfail => ?_⟩
  subst hdevs
  have hrun := hbody (.errorGeneral, deviceInfo) (t + 2) s hfail
  rw [getDeviceInfo_run hdistinct hd]
  simpa only [readNamedDevice, ne_eq, not_true, if_false, Prog.bind_run, Prog.pure_run] using hrun

/-- Another hub on the bus, on its port 3, and a device on port 2 of it. -/
def samplePortTwo : Device :=
  { pointer := 4, busNumber := 1, deviceAddress := 8, portChain := [3, 2], portNumber := 2,
    speed := 3 }

/-- The condition met: hub and device, and no other. -/
theorem parentSearch_sampleHub :
    let devs := [sampleHub, samplePortOne]
    ((readNamedDevice (sampleClosedBus devs).steady "001/006".toList devs (.errorGeneral, {})
      samplePortOne).run 2 fun _ _ => false).value.2.parentId.toNat = 0 ∧
    ((getDeviceInfo (sampleClosedBus devs).steady "001/006".toList {}).run 0
      fun _ _ => false).value.2.parentId.toNat = 0 := by
  have hlast : LastOnPort [sampleHub, samplePortOne] 0 sampleHub.portNumber := by
    intro k x hk hx
    match k with
    | 1 =>
        obtain rfl := Option.some.inj hx
        decide
    | k + 2 => simp at hx
  obtain ⟨hbody, hcall⟩ := @parentSearch_iff (sampleClosedBus [sampleHub, samplePortOne]).steady
    [sampleHub, samplePortOne] (by decide) (by decide) samplePortOne
    (by decide) (by decide) 0 sampleHub rfl ⟨rfl, rfl⟩
  exact ⟨(hbody _ _ _ (not_infoRead_sampleClosedBus _ _ _ _)).mpr hlast,
    (hcall _ _ _ rfl (by decide) (by decide) (not_infoRead_sampleClosedBus _ _ _ _)).mpr hlast⟩

/-- **A look-alike is taken for the parent.**  The parent of the device on port 1 of the first hub is
that hub, the device with index 0.  Reported as the parent is index 2, a device on port 2 of
another hub. -/
theorem parentSearch_lookalike :
    let devs := [sampleHub, samplePortOne, samplePortTwo]
    (devs.map fun d => (d.busNumber, d.portChain)).Nodup ∧ PortsConsistent devs ∧
      IsParentHub sampleHub samplePortOne ∧ devs[0]? = some sampleHub ∧
      ((getDeviceInfo (sampleClosedBus devs).steady "001/006".toList {}).run 0
        fun _ _ => false).value.2.parentId.toNat = 2 := by
  refine ⟨by decide, by decide, ⟨rfl, rfl⟩, rfl, by decide⟩

end Usb
