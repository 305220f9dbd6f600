import USBDevicePlugin.Device.HotPlug
import USBDevicePlugin.Operations.DeviceInfo
import USBDevicePlugin.Operations.Driver

/-!
# What the operations keep

Device lists, device handles, configuration descriptors, directories and the lock are all acquired
and given back within one call.  One acquisition is not given back: `GetDeviceInfo` asks for the
active configuration of the device it describes, and never frees it.

Since nothing frees it later, the configurations kept by one call are there for good, and add up
over a run.

* `Keeps` — the calls of a program leave everything as it was, up to configurations that are kept.
* **`operations_balanced_iff`** — a call gives back what it takes, and a run has nothing outstanding
  between its operations, exactly when no call of `GetDeviceInfo` obtains an active configuration.
-/

namespace Usb

open Interaction

/-! ## The operations -/

/-- A call of the implementation, by a client or by libusb. -/
inductive Operation
  | getDeviceList (devices : Option (List USBDevice))
  | getDeviceInfo (deviceName : CxxString) (deviceInfo : USBDeviceInfo)
  | driver (call : DriverCall)
  | hotPlug (event : Event) (d : Device)
  deriving Repr

/-- The call, without its result. -/
def Operation.perform (env : Env) : Operation → Plugin PUnit
  | .getDeviceList devices => do
      let _ ← Usb.getDeviceList env devices
      pure ⟨⟩
  | .getDeviceInfo deviceName deviceInfo => do
      let _ ← Usb.getDeviceInfo env deviceName deviceInfo
      pure ⟨⟩
  | .driver call => do
      let _ ← call.operation env
      pure ⟨⟩
  | .hotPlug event d => do
      let _ ← libUSBHotPlugCallback event env d
      pure ⟨⟩

/-- One call after the other. -/
def performAll (env : Env) (ops : List Operation) : Plugin PUnit :=
  ops.foldlM (fun _ op => op.perform env) ⟨⟩

/-! ## What a program keeps -/

section Keeps

variable {α β γ : Type}

/-- Run at `t`, the program gives back everything but the configurations of these devices. -/
def Keeps (m : Plugin α) (t : ℕ) (s : DriverState) (kept : List Device) : Prop :=
  ∀ held, Prog.replay account held (m.run t s).calls =
    some { held with configs := kept ++ held.configs }

lemma Keeps.of_balanced {m : Plugin α} (hm : Prog.Balanced account m) (t : ℕ) (s : DriverState) :
    Keeps m t s [] := fun held => hm.replay_eq held t s

lemma Keeps.bind {m : Plugin α} {f : α → Plugin β} {t : ℕ} {s : DriverState}
    {kept kept' : List Device} (hm : Keeps m t s kept)
    (hf : Keeps (f (m.run t s).value) (t + (m.run t s).calls.length) (m.run t s).store kept') :
    Keeps (m >>= f) t s (kept' ++ kept) := by
  intro held
  rw [Prog.bind_run, Prog.replay_append, hm held, Option.bind_some, hf, List.append_assoc]

/-- A loop keeps nothing exactly when none of its rounds does.  The induction is on the rounds
left; what they keep is never taken back. -/
lemma Keeps.foldlM {f : β → γ → Plugin β} {P : β → γ → ℕ → DriverState → Prop}
    (hround : ∀ b a t s, ∃ kept, (kept = [] ↔ ¬ P b a t s) ∧ Keeps (f b a) t s kept) :
    ∀ (l : List γ) (b : β) (t : ℕ) (s : DriverState),
      ∃ kept, (kept = [] ↔ ∀ pre a post, l = pre ++ a :: post →
        let before := (pre.foldlM f b).run t s
        ¬ P before.value a (t + before.calls.length) before.store) ∧ Keeps (l.foldlM f b) t s kept
  | [], b, t, s => ⟨[], by simp, Keeps.of_balanced (Prog.Balanced.pure b) t s⟩
  | a :: l, b, t, s => by
      obtain ⟨kept, hkept, hfirst⟩ := hround b a t s
      obtain ⟨kept', hkept', hrest⟩ := Keeps.foldlM hround l ((f b a).run t s).value
        (t + ((f b a).run t s).calls.length) ((f b a).run t s).store
      refine ⟨kept' ++ kept, ?_, Keeps.bind hfirst hrest⟩
      rw [List.append_eq_nil_iff, hkept, hkept']
      constructor
      · rintro ⟨hall, hnow⟩ pre a' post hsplit
        cases pre with
        | nil =>
            obtain ⟨rfl, rfl⟩ := List.cons.inj hsplit
            exact hnow
        | cons x pre =>
            obtain ⟨rfl, rfl⟩ := List.cons.inj hsplit
            have hlater := hall pre a' post rfl
            simpa only [List.foldlM_cons, Prog.bind_run, List.length_append, Nat.add_assoc]
              using hlater
      · intro hall
        refine ⟨fun pre a' post hsplit => ?_, hall [] a l rfl⟩
        have hlater := hall (a :: pre) a' post (by rw [hsplit]; rfl)
        simpa only [List.foldlM_cons, Prog.bind_run, List.length_append, Nat.add_assoc]
          using hlater

end Keeps

/-! ## One call -/

/-- The loop body, on a device that has the name, obtains its active configuration. -/
def RoundKeepsConfig (env : Env) (deviceName : CxxString) (acc : Status × USBDeviceInfo)
    (d : Device) (t : ℕ) : Prop :=
  deviceName = usbDeviceName d ∧ ActiveConfigKept env d acc.2.device t

/-- For one of the enumerated devices with the name, the active configuration is obtained. -/
def DescriptionKeepsConfig (env : Env) (deviceName : CxxString) (deviceInfo : USBDeviceInfo)
    (t : ℕ) (s : DriverState) : Prop :=
  let devs := (env (t + 1)).devices
  ¬ ∀ pre d post, devs = pre ++ d :: post →
    let before := (pre.foldlM (readNamedDevice env deviceName devs)
      (.errorGeneral, deviceInfo)).run (t + 2) s
    ¬ RoundKeepsConfig env deviceName before.value d (t + 2 + before.calls.length)

/-- Among distinct devices there is one with the name, and the question is about that one alone. -/
lemma descriptionKeepsConfig_iff {env : Env} {t : ℕ} (hdistinct : Distinct (env (t + 1)).devices)
    {d : Device} (hd : d ∈ (env (t + 1)).devices) (deviceInfo : USBDeviceInfo) (s : DriverState) :
    DescriptionKeepsConfig env (usbDeviceName d) deviceInfo t s ↔
      ActiveConfigKept env d deviceInfo.device (t + 2) := by
  have hskip : ∀ pre post, (env (t + 1)).devices = pre ++ d :: post → ∀ x ∈ pre, ∀ acc,
      readNamedDevice env (usbDeviceName d) (env (t + 1)).devices acc x = pure acc := by
    intro pre post hsplit x hx acc
    refine readNamedDevice_of_ne env _ (fun hname => ?_) acc
    have hnodup := hdistinct.nodup_names
    rw [hsplit, List.map_append, List.map_cons, List.nodup_append] at hnodup
    exact hnodup.2.2 _ (List.mem_map_of_mem hx) _ List.mem_cons_self hname.symm
  constructor
  · intro hkeeps
    by_contra hnot
    refine hkeeps fun pre x post hsplit hround => ?_
    obtain rfl := hdistinct.eq_of_name hd (by simp [hsplit]) hround.1
    rw [Prog.foldlM_run_of_skip (hskip pre post hsplit)] at hround
    exact hnot hround.2
  · intro hkept hnone
    obtain ⟨pre, post, hsplit, -⟩ := hdistinct.exists_split hd
    refine hnone pre d post hsplit ⟨rfl, ?_⟩
    rw [Prog.foldlM_run_of_skip (hskip pre post hsplit)]
    exact hkept

/-- The call obtains an active configuration.  Only `GetDeviceInfo` ever asks for one. -/
def Operation.KeepsConfig (env : Env) (t : ℕ) (s : DriverState) : Operation → Prop
  | .getDeviceInfo deviceName deviceInfo => DescriptionKeepsConfig env deviceName deviceInfo t s
  | _ => False

lemma readNamedDevice_keeps (env : Env) (deviceName : CxxString) (devs : List Device)
    (acc : Status × USBDeviceInfo) (d : Device) (t : ℕ) (s : DriverState) :
    ∃ kept, (kept = [] ↔ ¬ RoundKeepsConfig env deviceName acc d t) ∧
      Keeps (readNamedDevice env deviceName devs acc d) t s kept := by
  by_cases hname : deviceName = usbDeviceName d
  · obtain ⟨kept, hkept, hreplay⟩ :=
      getUSBDeviceInfoStructFromDeviceDescriptor_replay env d acc.2 t s
    refine ⟨kept, by simp [RoundKeepsConfig, hname, hkept], ?_⟩
    rw [readNamedDevice, if_neg (not_not.mpr hname)]
    exact Keeps.bind hreplay (Keeps.of_balanced (Prog.Balanced.pure _) _ _)
  · rw [readNamedDevice_of_ne env devs hname]
    exact ⟨[], by simp [RoundKeepsConfig, hname], Keeps.of_balanced (Prog.Balanced.pure _) t s⟩

lemma getDeviceInfo_keeps (env : Env) (deviceName : CxxString) (deviceInfo : USBDeviceInfo)
    (t : ℕ) (s : DriverState) :
    ∃ kept, (kept = [] ↔ ¬ DescriptionKeepsConfig env deviceName deviceInfo t s) ∧
      Keeps (getDeviceInfo env deviceName deviceInfo) t s kept := by
  unfold DescriptionKeepsConfig
  by_cases hdevs : (env (t + 1)).devices = []
  · refine ⟨[], by simp [hdevs], fun held => ?_⟩
    rw [getDeviceInfo, withDeviceList_run_nil hdevs]
    simp [account]
  · obtain ⟨kept, hkept, hloop⟩ := Keeps.foldlM
      (fun acc d _ s => readNamedDevice_keeps env deviceName (env (t + 1)).devices acc d _ s)
      (env (t + 1)).devices (.errorGeneral, deviceInfo) (t + 2) s
    refine ⟨kept, by rw [hkept, not_not], fun held => ?_⟩
    rw [getDeviceInfo, withDeviceList_run_cons hdevs]
    simp [account, hdevs, Prog.replay_append, hloop _]

lemma Operation.keeps (env : Env) (op : Operation) (t : ℕ) (s : DriverState) :
    ∃ kept, (kept = [] ↔ ¬ op.KeepsConfig env t s) ∧ Keeps (op.perform env) t s kept := by
  have hend : ∀ (α : Type) (m : Plugin α) (kept : List Device), Keeps m t s kept →
      Keeps (m >>= fun _ => pure PUnit.unit) t s kept := fun α m kept hm =>
    Keeps.bind hm (Keeps.of_balanced (Prog.Balanced.pure _) _ _)
  cases op with
  | getDeviceList devices =>
      exact ⟨[], by simp [KeepsConfig],
        hend _ _ _ (Keeps.of_balanced (getDeviceList_balanced env devices) t s)⟩
  | getDeviceInfo deviceName deviceInfo =>
      obtain ⟨kept, hkept, hcall⟩ := getDeviceInfo_keeps env deviceName deviceInfo t s
      exact ⟨kept, hkept, hend _ _ _ hcall⟩
  | driver call =>
      exact ⟨[], by simp [KeepsConfig],
        hend _ _ _ fun held => (call.operation_result env t s).balanced held⟩
  | hotPlug event d =>
      exact ⟨[], by simp [KeepsConfig],
        hend _ _ _ (Keeps.of_balanced (libUSBHotPlugCallback_balanced event env d) t s)⟩

/-! ## Runs -/

lemma Keeps.balanced_iff {α : Type} {m : Plugin α} {t : ℕ} {s : DriverState} {kept : List Device}
    (hm : Keeps m t s kept) (held : Held) :
    Prog.replay account held (m.run t s).calls = some held ↔ kept = [] := by
  rw [hm held]
  constructor
  · intro h
    have hconfigs := congrArg Held.configs (Option.some.inj h)
    simpa using hconfigs
  · rintro rfl
    rfl

/-- **Everything is given back exactly when no active configuration is obtained.**  A call, whatever
is held when it starts, ends with the same held; and between the operations of a run nothing is
held, at any point of it. -/
theorem operations_balanced_iff (env : Env) :
    (∀ (op : Operation) (t : ℕ) (s : DriverState),
      (∀ held, Prog.replay account held ((op.perform env).run t s).calls = some held) ↔
        ¬ op.KeepsConfig env t s) ∧
    ∀ (ops : List Operation) (t : ℕ) (s : DriverState),
      (∀ pre post, ops = pre ++ post →
        Prog.replay account {} ((performAll env pre).run t s).calls = some {}) ↔
        ∀ pre op post, ops = pre ++ op :: post →
          let before := (performAll env pre).run t s
          ¬ op.KeepsConfig env (t + before.calls.length) before.store := by
  constructor
  · intro op t s
    obtain ⟨kept, hkept, hcall⟩ := op.keeps env t s
    rw [← hkept]
    exact ⟨fun h => (hcall.balanced_iff {}).mp (h {}), fun h held => (hcall.balanced_iff held).mpr h⟩
  · intro ops t s
    have hrun := fun pre => Keeps.foldlM
      (fun (_ : PUnit) (op : Operation) t s => op.keeps env t s) pre ⟨⟩ t s
    constructor
    · intro hbalanced
      obtain ⟨kept, hkept, hall⟩ := hrun ops
      exact hkept.mp ((hall.balanced_iff {}).mp (hbalanced ops [] (by simp)))
    · rintro hnone pre post rfl
      obtain ⟨kept, hkept, hpre⟩ := hrun pre
      refine (hpre.balanced_iff {}).mpr (hkept.mpr fun pre' op post' hsplit => ?_)
      exact hnone pre' op (post' ++ post) (by simp [hsplit])

/-- **The active configuration of the stick is never freed.**  On the sample bus `GetDeviceInfo`
succeeds, and a configuration descriptor is outstanding afterwards; a second call adds a second. -/
theorem operations_not_balanced_sampleDisk :
    let call := (getDeviceInfo sampleOutcomes.steady "001/005".toList {}).run 0 fun _ _ => false
    call.value.1 = .errorNone ∧ .getActiveConfigDescriptor sampleDisk true ∈ call.calls ∧
      .freeConfigDescriptor sampleDisk ∉ call.calls ∧
      Prog.replay account {} ((performAll sampleOutcomes.steady
        [.getDeviceInfo "001/005".toList {}]).run 0 (fun _ _ => false)).calls =
          some { configs := [sampleDisk] } ∧
      Prog.replay account {} ((performAll sampleOutcomes.steady
        [.getDeviceInfo "001/005".toList {}, .getDeviceInfo "001/005".toList {}]).run 0
          (fun _ _ => false)).calls = some { configs := [sampleDisk, sampleDisk] } := by
  refine ⟨by decide, by decide, by decide, by decide, by decide⟩

end Usb
