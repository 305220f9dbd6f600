import USBDevicePlugin.Device.Struct

/-!
# GetDeviceList

The operation describes every enumerated device, collects the descriptions that succeed and hands
them out, unless the status is an error in the end.  That status is the one of the last device
described: an unreadable device elsewhere is left out of the list, in last position it costs the
caller the whole list.

* **`getDeviceList_value`** — what the operation returns, device by device.
* **`getDeviceList_complete_iff`** — it returns every readable device, in any order of enumeration,
  exactly when the last device is readable in each order, or none is.
-/

namespace Usb

open Interaction

/-! ## The code -/

/-- The loop body: describe one device, and keep the description if that succeeds. -/
def listDevice (env : Env) (acc : Status × List USBDevice) (d : Device) :
    Plugin (Status × List USBDevice) := do
  let (status, usbDevice) ← getUSBDeviceStructFromDeviceDescriptor env d {}
  pure (status, if status = .errorNone then acc.2 ++ [usbDevice] else acc.2)

/-- `GetDeviceList`, with the caller's `devices`: `none` while it is a null pointer.  A count that
is not positive, be it an error, is no devices. -/
def getDeviceList (env : Env) (devices : Option (List USBDevice)) :
    Plugin (Status × Option (List USBDevice)) := do
  let devs ← libusbGetDeviceList env
  match devs.toOption.getD [] with
  | [] => pure (.errorNone, devices)
  | d :: ds => do
      let (status, usbDeviceList) ← (d :: ds).foldlM (listDevice env) (.errorGeneral, [])
      Prog.tell .freeDeviceList
      pure (status, if status = .errorNone then some usbDeviceList else devices)

/-! ## The loop -/

/-- What the description of a device says about it succeeding. -/
def descriptionStatus (o : Outcomes) (d : Device) : Status :=
  match describe o d with
  | none => .errorGeneral
  | some _ => .errorNone

lemma listDevice_steady (o : Outcomes) (acc : Status × List USBDevice) (d : Device) :
    (listDevice o.steady acc d).Returns
      (descriptionStatus o d, acc.2 ++ (describe o d).toList) := by
  refine Prog.Returns.bind (getUSBDeviceStructFromDeviceDescriptor_steady o d) ?_
  unfold descriptionStatus
  cases describe o d with
  | none => simpa using Prog.Returns.pure _
  | some u => exact Prog.Returns.pure _

/-- Descriptions are collected in order; the status is overwritten each time. -/
lemma foldl_listDevice (o : Outcomes) (devs : List Device) (acc : Status × List USBDevice) :
    devs.foldl (fun acc d => (descriptionStatus o d, acc.2 ++ (describe o d).toList)) acc =
      ((devs.getLast?.map (descriptionStatus o)).getD acc.1,
        acc.2 ++ devs.filterMap (describe o)) := by
  induction devs generalizing acc with
  | nil => simp
  | cons d devs ih =>
      rw [List.foldl_cons, ih]
      cases hd : describe o d <;> cases hl : devs.getLast? <;>
        simp [hd, hl, List.getLast?_cons]

/-- The outcomes with another device list. -/
def Outcomes.enumerating (o : Outcomes) (devs : List Device) : Outcomes :=
  { o with getDeviceList := .ok devs }

/-- **What `GetDeviceList` returns**, in an unchanging environment: the status of the last device,
and the descriptions if that is no error. -/
theorem getDeviceList_value (o : Outcomes) {devs : List Device} (hne : devs ≠ [])
    (devices : Option (List USBDevice)) (t : ℕ) (s : DriverState) :
    ((getDeviceList (o.enumerating devs).steady devices).run t s).value =
      (descriptionStatus o (devs.getLast hne),
        if descriptionStatus o (devs.getLast hne) = .errorNone then
          some (devs.filterMap (describe o))
        else devices) := by
  obtain ⟨d, ds, rfl⟩ := List.exists_cons_of_ne_nil hne
  have hloop := Prog.Returns.foldlM (listDevice_steady (o.enumerating (d :: ds))) (d :: ds)
    (.errorGeneral, []) (t + 1) s
  rw [foldl_listDevice, List.getLast?_eq_some_getLast hne] at hloop
  simp only [getDeviceList, libusbGetDeviceList, Prog.bind_run, Prog.ask_run, Outcomes.steady,
    Outcomes.enumerating, Except.toOption, Option.getD_some, List.length_singleton]
  simp only [Outcomes.enumerating] at hloop
  simp only [hloop]
  rfl

/-- The list that is obtained is freed. -/
lemma getDeviceList_balanced (env : Env) (devices : Option (List USBDevice)) :
    Prog.Balanced account (getDeviceList env devices) := by
  have hloop : ∀ devs : List Device,
      Prog.Balanced account (devs.foldlM (listDevice env) (.errorGeneral, [])) := fun devs =>
    Prog.Balanced.foldlM (fun _ d => Prog.Balanced.bind
      (getUSBDeviceStructFromDeviceDescriptor_balanced env d {}) fun _ => Prog.Balanced.pure _) _ _
  refine Prog.Balanced.acquire fun r held => ?_
  match hdevs : r.toOption.getD [] with
  | [] => exact ⟨held, by simp [account], Prog.Leads.pure rfl⟩
  | d :: ds =>
      exact ⟨{ held with lists := held.lists + 1 }, by simp [account],
        Prog.Leads.release (hloop (d :: ds)) rfl fun _ => Prog.Balanced.pure _⟩

/-- The lock is not taken. -/
lemma getDeviceList_lockless (env : Env) (devices : Option (List USBDevice)) :
    Prog.Emits (· ≠ .lock) (getDeviceList env devices) := by
  refine Prog.Emits.bind (Prog.Emits.ask fun _ => by simp) fun devs => ?_
  split
  · exact Prog.Emits.pure _
  · refine Prog.Emits.bind (Prog.Emits.foldlM (fun _ d => ?_) _ _) fun _ =>
      Prog.Emits.bind (Prog.Emits.tell (by simp)) fun _ => Prog.Emits.pure _
    exact Prog.Emits.bind (getUSBDeviceStructFromDeviceDescriptor_lockless env d {}) fun _ =>
      Prog.Emits.pure _

/-! ## Completeness and order -/

/-- The device can be read. -/
def Readable (o : Outcomes) (d : Device) : Prop := ∃ desc, o.getDeviceDescriptor d = .ok desc

lemma descriptionStatus_eq_errorNone_iff {o : Outcomes} {d : Device} :
    descriptionStatus o d = .errorNone ↔ Readable o d := by
  unfold descriptionStatus describe Readable
  cases o.getDeviceDescriptor d <;> simp

lemma descriptionStatus_eq_errorGeneral_iff {o : Outcomes} {d : Device} :
    descriptionStatus o d = .errorGeneral ↔ ¬ Readable o d := by
  unfold descriptionStatus describe Readable
  cases o.getDeviceDescriptor d <;> simp

/-- The result of a listing leaves no readable device out: if there is one, it is a success with
one entry for each, in enumeration order. -/
def ListsReadable (o : Outcomes) (devs : List Device)
    (result : Status × Option (List USBDevice)) : Prop :=
  (∃ d ∈ devs, Readable o d) → result = (.errorNone, some (devs.filterMap (describe o)))

/-- The outputs of two listings are the same up to the order of the entries. -/
def SameEntries : Option (List USBDevice) → Option (List USBDevice) → Prop :=
  Option.Rel List.Perm

lemma sameEntries_refl : ∀ devices : Option (List USBDevice), SameEntries devices devices
  | none => .none
  | some entries => .some (List.Perm.refl entries)

/-- A listing leaves nothing out exactly when its last device is readable or none is. -/
lemma listsReadable_iff (o : Outcomes) {devs : List Device} (hne : devs ≠ [])
    (devices : Option (List USBDevice)) (t : ℕ) (s : DriverState) :
    ListsReadable o devs ((getDeviceList (o.enumerating devs).steady devices).run t s).value ↔
      (∀ d ∈ devs, ¬ Readable o d) ∨ Readable o (devs.getLast hne) := by
  rw [getDeviceList_value o hne, ListsReadable]
  by_cases hlast : Readable o (devs.getLast hne)
  · simp [descriptionStatus_eq_errorNone_iff.mpr hlast, hlast]
  · have hstatus : descriptionStatus o (devs.getLast hne) ≠ .errorNone :=
      fun h => hlast (descriptionStatus_eq_errorNone_iff.mp h)
    simp [hstatus, hlast]

/-- **`GetDeviceList` loses no readable device and ignores the order of enumeration exactly when
the last device is readable in both orders, or none is.** -/
theorem getDeviceList_complete_iff (o : Outcomes) {devs devs' : List Device} (hne : devs ≠ [])
    (hperm : devs.Perm devs') (devices : Option (List USBDevice)) (t t' : ℕ)
    (s s' : DriverState) :
    (let result := ((getDeviceList (o.enumerating devs).steady devices).run t s).value
      let result' := ((getDeviceList (o.enumerating devs').steady devices).run t' s').value
      result.1 = result'.1 ∧ SameEntries result.2 result'.2 ∧
        ListsReadable o devs result ∧ ListsReadable o devs' result') ↔
      (∀ d ∈ devs, ¬ Readable o d) ∨
        (∀ d ∈ devs.getLast?, Readable o d) ∧ ∀ d ∈ devs'.getLast?, Readable o d := by
  have hne' : devs' ≠ [] := fun h => hne (h ▸ hperm).eq_nil
  have hnone : (∀ d ∈ devs', ¬ Readable o d) ↔ ∀ d ∈ devs, ¬ Readable o d := by
    simp only [hperm.mem_iff]
  simp only [listsReadable_iff o hne, listsReadable_iff o hne', hnone,
    List.getLast?_eq_some_getLast hne, List.getLast?_eq_some_getLast hne', Option.mem_some_iff,
    forall_eq']
  constructor
  · rintro ⟨-, -, hcomplete, hcomplete'⟩
    tauto
  · intro hcond
    have hagree : (Readable o (devs.getLast hne) ∧ Readable o (devs'.getLast hne')) ∨
        (¬ Readable o (devs.getLast hne) ∧ ¬ Readable o (devs'.getLast hne')) := by
      rcases hcond with hall | hlast
      · exact Or.inr ⟨hall _ (List.getLast_mem hne), hnone.mpr hall _ (List.getLast_mem hne')⟩
      · exact Or.inl hlast
    rw [getDeviceList_value o hne, getDeviceList_value o hne']
    refine ⟨?_, ?_, by tauto, by tauto⟩
    · rcases hagree with ⟨h, h'⟩ | ⟨h, h'⟩
      · simp only [descriptionStatus_eq_errorNone_iff.mpr h,
          descriptionStatus_eq_errorNone_iff.mpr h']
      · simp only [descriptionStatus_eq_errorGeneral_iff.mpr h,
          descriptionStatus_eq_errorGeneral_iff.mpr h']
    · rcases hagree with ⟨h, h'⟩ | ⟨h, h'⟩
      · simp only [descriptionStatus_eq_errorNone_iff.mpr h,
          descriptionStatus_eq_errorNone_iff.mpr h', if_true]
        exact .some (hperm.filterMap _)
      · simpa only [descriptionStatus_eq_errorNone_iff, h, h', if_false] using
          sameEntries_refl devices

/-- The sample bus with a hub whose descriptor cannot be read. -/
def sampleUnreadableHub : Outcomes :=
  { sampleOutcomes with
    getDeviceDescriptor := fun d =>
      if d = sampleHub then .error ⟨-4, by decide⟩ else .ok sampleDescriptor }

/-- The condition met: the hub is unreadable, and in both orders another device comes last. -/
theorem getDeviceList_complete_sampleHub :
    let listing := fun devs =>
      ((getDeviceList (sampleUnreadableHub.enumerating devs).steady none).run 0
        (fun _ _ => false)).value
    let result := listing [sampleDisk, sampleHub, samplePortOne]
    let result' := listing [sampleHub, samplePortOne, sampleDisk]
    result.1 = result'.1 ∧ SameEntries result.2 result'.2 ∧
      ListsReadable sampleUnreadableHub [sampleDisk, sampleHub, samplePortOne] result ∧
      ListsReadable sampleUnreadableHub [sampleHub, samplePortOne, sampleDisk] result' := by
  have hperm : [sampleDisk, sampleHub, samplePortOne].Perm [sampleHub, samplePortOne, sampleDisk] := by
    decide
  have hreadable : ∀ d : Device, d ≠ sampleHub → Readable sampleUnreadableHub d := fun d hd =>
    ⟨sampleDescriptor, if_neg hd⟩
  refine (getDeviceList_complete_iff sampleUnreadableHub (by decide) hperm none 0 0 _ _).mpr
    (Or.inr ⟨?_, ?_⟩)
  · simpa using hreadable samplePortOne (by decide)
  · simpa using hreadable sampleDisk (by decide)

/-- **The same two devices, listed in one order and lost in the other.**  The disk is readable.
Enumerated last, it is returned; enumerated before the unreadable hub, the call fails. -/
theorem getDeviceList_loses_disk :
    let listing := fun devs =>
      ((getDeviceList (sampleUnreadableHub.enumerating devs).steady none).run 0
        (fun _ _ => false)).value
    [sampleHub, sampleDisk].Perm [sampleDisk, sampleHub] ∧
      Readable sampleUnreadableHub sampleDisk ∧
      listing [sampleHub, sampleDisk] =
        (.errorNone, some [⟨classMassStorage, 6, "001/005".toList, "/dev/sda".toList⟩]) ∧
      listing [sampleDisk, sampleHub] = (.errorGeneral, none) ∧
      ¬ ListsReadable sampleUnreadableHub [sampleDisk, sampleHub]
        (listing [sampleDisk, sampleHub]) := by
  have hreadable : Readable sampleUnreadableHub sampleDisk := ⟨sampleDescriptor, by decide⟩
  have hlost : ((getDeviceList (sampleUnreadableHub.enumerating [sampleDisk, sampleHub]).steady
      none).run 0 (fun _ _ => false)).value = (.errorGeneral, none) := by decide
  refine ⟨List.Perm.swap _ _ _, hreadable, by decide, hlost, fun hlists => ?_⟩
  have hlisted := hlost.symm.trans (hlists ⟨sampleDisk, by simp, hreadable⟩)
  simp at hlisted

end Usb
