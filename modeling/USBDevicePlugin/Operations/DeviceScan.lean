import USBDevicePlugin.Environment.Calls
import USBDevicePlugin.Device.Struct

/-!
# Operations on a named device

`GetDeviceInfo`, `BindDriver` and `UnbindDriver` share a frame: take `_adminLock`, get the device
list, go through it looking for the device whose name is the one given, free the list, unlock.
The frame is `withDeviceList`; the loops are in the operations' own files.

A device name is as good as bus number and address (`usbDeviceName_eq_iff`), so in a list in which
no two devices share these, at most one device has the name.
-/

namespace Usb

open Interaction

/-! ## The frame -/

variable {α : Type}

/-- The part that depends on the count of devices. -/
def scanDevices (failed : α) (scan : List Device → Plugin α) : List Device → Plugin α
  | [] => pure failed
  | devs => do
      let r ← scan devs
      Prog.tell .freeDeviceList
      pure r

/-- Lock, scan the device list, unlock. -/
def withDeviceList (env : Env) (failed : α) (scan : List Device → Plugin α) : Plugin α := do
  Prog.tell .lock
  let devs ← libusbGetDeviceList env
  let r ← scanDevices failed scan (devs.toOption.getD [])
  Prog.tell .unlock
  pure r

/-- The devices one would get if one asked for them now; none in case of an error. -/
def Outcomes.devices (o : Outcomes) : List Device := o.getDeviceList.toOption.getD []

/-- An operation that gets no devices: nothing is freed. -/
lemma withDeviceList_run_nil {env : Env} {t : ℕ} (hdevs : (env (t + 1)).devices = []) (failed : α)
    (scan : List Device → Plugin α) (s : DriverState) :
    (withDeviceList env failed scan).run t s =
      ⟨failed, [.lock, .getDeviceList [], .unlock], s⟩ := by
  have hdevs' : (env (t + 1)).getDeviceList.toOption.getD [] = [] := hdevs
  simp [withDeviceList, scanDevices, libusbGetDeviceList, hdevs']

/-- One that gets some: the scan runs in between. -/
lemma withDeviceList_run_cons {env : Env} {t : ℕ} (hdevs : (env (t + 1)).devices ≠ []) (failed : α)
    (scan : List Device → Plugin α) (s : DriverState) :
    (withDeviceList env failed scan).run t s =
      let r := (scan (env (t + 1)).devices).run (t + 2) s
      ⟨r.value, .lock :: .getDeviceList (env (t + 1)).devices :: (r.calls ++
        [.freeDeviceList, .unlock]), r.store⟩ := by
  obtain ⟨d, ds, hcons⟩ := List.exists_cons_of_ne_nil hdevs
  have hcons' : (env (t + 1)).getDeviceList.toOption.getD [] = d :: ds := hcons
  simp [withDeviceList, scanDevices, libusbGetDeviceList, hcons, hcons']

/-! ## Names -/

/-- **The device name is a faithful key**: two devices have the same name exactly when they agree
in bus number and address. -/
theorem usbDeviceName_eq_iff {d d' : Device} :
    usbDeviceName d = usbDeviceName d' ↔ d.key = d'.key := by
  have hbyte : ∀ b : UInt8, b.toNat < 10 ^ 3 := fun b => by have := b.toNat_lt; omega
  constructor
  · intro h
    obtain ⟨hbus, haddr⟩ := Decimal.padded_append_inj (by decide) (hbyte _) (hbyte _) h
    exact Prod.ext (UInt8.toNat_inj.mp hbus) (UInt8.toNat_inj.mp haddr)
  · intro h
    obtain ⟨hbus, haddr⟩ := Prod.mk.inj h
    simp only [usbDeviceName, hbus, haddr]

/-- No two devices of the list share bus number and address. -/
def Distinct (devs : List Device) : Prop := (devs.map Device.key).Nodup

instance (devs : List Device) : Decidable (Distinct devs) :=
  inferInstanceAs (Decidable (devs.map Device.key).Nodup)

/-- Around a device of such a list, no other has its name. -/
lemma Distinct.exists_split {devs : List Device} (h : Distinct devs) {d : Device} (hd : d ∈ devs) :
    ∃ pre post, devs = pre ++ d :: post ∧
      ∀ x ∈ pre ++ post, usbDeviceName d ≠ usbDeviceName x := by
  obtain ⟨pre, post, rfl⟩ := List.append_of_mem hd
  refine ⟨pre, post, rfl, fun x hx hname => ?_⟩
  have hnotin : d.key ∉ (pre ++ post).map Device.key := by
    have hperm : ((pre ++ d :: post).map Device.key).Perm (d.key :: (pre ++ post).map Device.key) := by
      simp
    exact (List.nodup_cons.mp (hperm.nodup_iff.mp h)).1
  exact hnotin (usbDeviceName_eq_iff.mp hname ▸ List.mem_map_of_mem hx)

/-- The names of such a list are distinct. -/
lemma Distinct.nodup_names {devs : List Device} (h : Distinct devs) :
    (devs.map usbDeviceName).Nodup := by
  have hnodup : devs.Nodup := List.Nodup.of_map Device.key h
  exact hnodup.map_on fun d hd d' hd' hname =>
    List.inj_on_of_nodup_map h hd hd' (usbDeviceName_eq_iff.mp hname)

/-- The device with a given name is determined. -/
lemma Distinct.eq_of_name {devs : List Device} (h : Distinct devs) {d d' : Device} (hd : d ∈ devs)
    (hd' : d' ∈ devs) (hname : usbDeviceName d = usbDeviceName d') : d = d' :=
  List.inj_on_of_nodup_map h hd hd' (usbDeviceName_eq_iff.mp hname)

end Usb
