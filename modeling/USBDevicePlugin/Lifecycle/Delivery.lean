import Mathlib.Data.List.Nodup
import Mathlib.Logic.Function.Basic
import USBDevicePlugin.Core.TransitionSystem
import USBDevicePlugin.Device.HotPlug

/-!
# Events, jobs and notifications

One `USBDeviceImplementation` object at work.  Three kinds of activities run concurrently: clients
calling `Register` and `Unregister`, hotplug callbacks, and the jobs that `Dispatch` an event to
the registered notifications.  They share the notification list, which is only touched under
`_adminLock`.

Each activity has its own program counter, and each step of the system advances one of them.  Which
thread runs an activity does not matter to what it does, so threads do not appear: a run in which
two workers are busy is one with two jobs under way.

The schedule is the history; everything claimed about it is said of the schedule alone, or of the
notification list at some point of it.
-/

namespace Usb

open Interaction TransitionSystem

/-! ## The code -/

/-- `Exchange::IUSBDevice::INotification*`. -/
abbrev Notification := ℕ

/-- `Register`, between `Lock` and `Unlock`: no notification is added twice. -/
def register (usbDeviceNotification : List Notification) (notification : Notification) :
    Status × List Notification :=
  if notification ∈ usbDeviceNotification then (.errorNone, usbDeviceNotification)
  else (.errorNone, usbDeviceNotification ++ [notification])

/-- `Unregister`, between `Lock` and `Unlock`. -/
def unregister (usbDeviceNotification : List Notification) (notification : Notification) :
    Status × List Notification :=
  if notification ∈ usbDeviceNotification then
    (.errorNone, usbDeviceNotification.erase notification)
  else (.errorGeneral, usbDeviceNotification)

/-- The two operations of clients on the list. -/
inductive RequestKind
  | register
  | unregister
  deriving DecidableEq, Repr

/-- What an operation does under the lock. -/
def RequestKind.body : RequestKind → List Notification → Notification → Status × List Notification
  | .register => Usb.register
  | .unregister => Usb.unregister

/-- The methods of `INotification`. -/
inductive Method
  | onDevicePluggedIn
  | onDevicePluggedOut
  deriving DecidableEq, Repr

/-- The `switch` of `Dispatch`: which method its loop calls. -/
def Event.method : Event → Method
  | .deviceArrived => .onDevicePluggedIn
  | .deviceLeft => .onDevicePluggedOut

/-- A call of a notification. -/
structure Announcement where
  notification : Notification
  method : Method
  usbDevice : USBDevice
  deriving DecidableEq, Repr

/-- The body of the loops of `Dispatch`: the call at one position of the list. -/
def Job.announce (job : Job) (notification : Notification) : Announcement :=
  { notification
    method := job.event.method
    usbDevice := job.usbDevice }

/-- What a hotplug callback meets: the device, and the environment it describes the device in. -/
structure World where
  env : Env
  device : Device
  time : ℕ
  drivers : DriverState

/-- The description the callback gets of its device. -/
def World.description (w : World) : Status × USBDevice :=
  ((getUSBDeviceStructFromDeviceDescriptor w.env w.device {}).run w.time w.drivers).value

/-- The job the callback submits, if it submits one. -/
def World.job (w : World) (event : Event) : Option Job :=
  ((libUSBHotPlugCallback event w.env w.device).run w.time w.drivers).value

namespace Delivery

/-! ## Activities -/

/-- A call of `Register` or `Unregister`. -/
inductive Request
  | absent
  | called (kind : RequestKind) (n : Notification)
  | locked (kind : RequestKind) (n : Notification)
  | done (kind : RequestKind) (n : Notification) (status : Status)
  | unlocked (kind : RequestKind) (n : Notification) (status : Status)
  | returned
  deriving DecidableEq, Repr

/-- A hotplug callback: it has described its device, it has submitted its job, it has returned. -/
inductive Callback
  | absent
  | described (job : Option Job)
  | dispatched
  | returned
  deriving DecidableEq, Repr

/-- A job: in the pool, with a worker, inside `Dispatch` with the iterator at a position of the
list, finished. -/
inductive JobState
  | absent
  | queued (job : Job)
  | taken (job : Job)
  | dispatching (job : Job) (index : ℕ)
  | finished
  deriving DecidableEq, Repr

/-- Who holds `_adminLock`. -/
inductive Owner
  | request (k : ℕ)
  | job (j : ℕ)
  deriving DecidableEq, Repr

/-- The object and its activities.  Jobs are numbered in the order of submission. -/
structure State where
  notifications : List Notification
  adminLock : Option Owner
  requests : ℕ → Request
  callbacks : ℕ → Callback
  jobs : ℕ → JobState
  submitted : ℕ

/-- The steps.  A step carries the data of the activity it advances. -/
inductive Action
  | call (k : ℕ) (kind : RequestKind) (n : Notification)
  | lockRequest (k : ℕ) (kind : RequestKind) (n : Notification)
  | runRequest (k : ℕ) (kind : RequestKind) (n : Notification) (status : Status)
  | unlockRequest (k : ℕ) (kind : RequestKind) (n : Notification) (status : Status)
  | returnRequest (k : ℕ) (kind : RequestKind) (n : Notification) (status : Status)
  | enterCallback (c : ℕ) (event : Event) (world : World)
  | submit (c j : ℕ) (job : Job)
  | returnCallback (c : ℕ)
  | take (j : ℕ) (job : Job)
  | lockJob (j : ℕ) (job : Job)
  | notify (j : ℕ) (job : Job) (index : ℕ) (announcement : Announcement)
  | finish (j : ℕ) (job : Job) (index : ℕ)

namespace State

/-- When a step may be taken. -/
def Enabled (s : State) : Action → Prop
  | .call k _ _ => s.requests k = .absent
  | .lockRequest k kind n => s.requests k = .called kind n ∧ s.adminLock = none
  | .runRequest k kind n status =>
      s.requests k = .locked kind n ∧ (kind.body s.notifications n).1 = status
  | .unlockRequest k kind n status => s.requests k = .done kind n status
  | .returnRequest k kind n status => s.requests k = .unlocked kind n status
  | .enterCallback c _ _ => s.callbacks c = .absent
  | .submit c j job => s.callbacks c = .described (some job) ∧ j = s.submitted
  | .returnCallback c => s.callbacks c = .described none ∨ s.callbacks c = .dispatched
  | .take j job => s.jobs j = .queued job
  | .lockJob j job => s.jobs j = .taken job ∧ s.adminLock = none
  | .notify j job index announcement =>
      s.jobs j = .dispatching job index ∧
        s.notifications[index]?.map job.announce = some announcement
  | .finish j job index => s.jobs j = .dispatching job index ∧ s.notifications.length ≤ index

/-- What a step does. -/
def next (s : State) : Action → State
  | .call k kind n => { s with requests := Function.update s.requests k (.called kind n) }
  | .lockRequest k kind n =>
      { s with
        adminLock := some (.request k)
        requests := Function.update s.requests k (.locked kind n) }
  | .runRequest k kind n status =>
      { s with
        notifications := (kind.body s.notifications n).2
        requests := Function.update s.requests k (.done kind n status) }
  | .unlockRequest k kind n status =>
      { s with
        adminLock := none
        requests := Function.update s.requests k (.unlocked kind n status) }
  | .returnRequest k _ _ _ => { s with requests := Function.update s.requests k .returned }
  | .enterCallback c event world =>
      { s with callbacks := Function.update s.callbacks c (.described (world.job event)) }
  | .submit c j job =>
      { s with
        callbacks := Function.update s.callbacks c .dispatched
        jobs := Function.update s.jobs j (.queued job)
        submitted := s.submitted + 1 }
  | .returnCallback c => { s with callbacks := Function.update s.callbacks c .returned }
  | .take j job => { s with jobs := Function.update s.jobs j (.taken job) }
  | .lockJob j job =>
      { s with
        adminLock := some (.job j)
        jobs := Function.update s.jobs j (.dispatching job 0) }
  | .notify j job index _ =>
      { s with jobs := Function.update s.jobs j (.dispatching job (index + 1)) }
  | .finish j _ _ =>
      { s with
        adminLock := none
        jobs := Function.update s.jobs j .finished }

end State

/-- The object at work, from the time its construction is over. -/
def system : System State Action where
  init :=
    { notifications := []
      adminLock := none
      requests := fun _ => .absent
      callbacks := fun _ => .absent
      jobs := fun _ => .absent
      submitted := 0 }
  Enabled := State.Enabled
  next := State.next

instance (s : State) : ∀ a : Action, Decidable (system.Enabled s a)
  | .call .. | .unlockRequest .. | .returnRequest .. | .enterCallback .. | .take .. =>
      inferInstanceAs (Decidable (_ = _))
  | .lockRequest .. | .runRequest .. | .submit .. | .lockJob .. | .notify .. | .finish .. =>
      inferInstanceAs (Decidable (_ ∧ _))
  | .returnCallback _ => inferInstanceAs (Decidable (_ ∨ _))

/-! ## What a schedule says -/

/-- The jobs a callback has submitted. -/
def submitsOf (c : ℕ) (h : List Action) : List Job :=
  h.filterMap fun
    | .submit c' _ job => if c' = c then some job else none
    | _ => none

/-- The numbers of the jobs submitted. -/
def jobIds (h : List Action) : List ℕ :=
  h.filterMap fun
    | .submit _ j _ => some j
    | _ => none

/-- The calls a job has made. -/
def callsOf (j : ℕ) (h : List Action) : List Announcement :=
  h.filterMap fun
    | .notify j' _ _ announcement => if j' = j then some announcement else none
    | _ => none

lemma submitsOf_append (c : ℕ) (h h' : List Action) :
    submitsOf c (h ++ h') = submitsOf c h ++ submitsOf c h' := List.filterMap_append ..

lemma jobIds_append (h h' : List Action) : jobIds (h ++ h') = jobIds h ++ jobIds h' :=
  List.filterMap_append ..

lemma callsOf_append (j : ℕ) (h h' : List Action) :
    callsOf j (h ++ h') = callsOf j h ++ callsOf j h' := List.filterMap_append ..

/-! ## Mutual exclusion -/

/-- The activity is inside the lock. -/
def Request.holds : Request → Bool
  | .locked _ _ => true
  | .done _ _ _ => true
  | _ => false

/-- The job is inside the lock. -/
def JobState.holds : JobState → Bool
  | .dispatching _ _ => true
  | _ => false

/-- Whoever is inside the lock is its owner. -/
structure Exclusive (s : State) : Prop where
  request : ∀ k, (s.requests k).holds = true → s.adminLock = some (.request k)
  job : ∀ j, (s.jobs j).holds = true → s.adminLock = some (.job j)

lemma exclusive_next {s : State} {a : Action} (hs : Exclusive s) (ha : s.Enabled a) :
    Exclusive (s.next a) := by
  obtain ⟨hrequest, hjob⟩ := hs
  constructor
  · intro k'
    cases a <;> simp only [State.Enabled, State.next, Function.update_apply] at ha ⊢ <;>
      grind [Request.holds, JobState.holds]
  · intro j'
    cases a <;> simp only [State.Enabled, State.next, Function.update_apply] at ha ⊢ <;>
      grind [Request.holds, JobState.holds]

lemma exclusive_of_legal {h : List Action} (hl : system.Legal h) : Exclusive (system.exec h) :=
  System.invariant (S := system) (I := fun _ s => Exclusive s)
    ⟨fun _ h => by simp [system, Request.holds] at h, fun _ h => by simp [system, JobState.holds] at h⟩
    (fun _ _ _ hs ha => exclusive_next hs ha) hl

/-! ## The notification list -/

/-- A request takes notifications out or appends a new one. -/
lemma body_cases (l : List Notification) (kind : RequestKind) (n : Notification) :
    (kind.body l n).2.Sublist l ∨ n ∉ l ∧ (kind.body l n).2 = l ++ [n] := by
  cases kind with
  | register =>
      rw [RequestKind.body, register]
      split_ifs with hn
      · exact Or.inl (List.Sublist.refl l)
      · exact Or.inr ⟨hn, rfl⟩
  | unregister =>
      rw [RequestKind.body, unregister]
      split_ifs
      · exact Or.inl List.erase_sublist
      · exact Or.inl (List.Sublist.refl l)

lemma body_nodup {l : List Notification} (hl : l.Nodup) (kind : RequestKind) (n : Notification) :
    (kind.body l n).2.Nodup := by
  rcases body_cases l kind n with hsub | ⟨hn, heq⟩
  · exact hl.sublist hsub
  · rw [heq]
    exact List.Nodup.append hl (List.nodup_singleton n) (by simpa using hn)

/-- Only `Register` brings a notification into the list. -/
lemma eq_register_of_mem_body {l : List Notification} {kind : RequestKind} {n m : Notification}
    (hn : n ∉ l) (hmem : n ∈ (kind.body l m).2) : kind = .register ∧ m = n := by
  cases kind with
  | register =>
      rw [RequestKind.body, register] at hmem
      split_ifs at hmem
      · exact absurd hmem hn
      · exact ⟨rfl, by simpa [hn, eq_comm] using hmem⟩
  | unregister =>
      rw [RequestKind.body, unregister] at hmem
      split_ifs at hmem
      · exact absurd (List.mem_of_mem_erase hmem) hn
      · exact absurd hmem hn

/-- A successful `Unregister` takes the notification out. -/
lemma not_mem_body_unregister {l : List Notification} (hl : l.Nodup) {n : Notification}
    (hstatus : (RequestKind.unregister.body l n).1 = .errorNone) :
    n ∉ (RequestKind.unregister.body l n).2 := by
  rw [RequestKind.body, unregister] at hstatus ⊢
  split_ifs at hstatus ⊢
  exact hl.not_mem_erase

/-- `Register` always succeeds, `Unregister` if the notification is in the list. -/
lemma body_status_iff (l : List Notification) (kind : RequestKind) (n : Notification) :
    (kind.body l n).1 = .errorNone ↔ kind = .register ∨ n ∈ l := by
  cases kind with
  | register =>
      rw [RequestKind.body, register]
      split_ifs <;> simp
  | unregister =>
      rw [RequestKind.body, unregister]
      split_ifs with hn <;> simp [hn]

/-- Who is in the list after a request: whoever it has registered, and of those before whoever it has
not unregistered. -/
lemma mem_body_iff {l : List Notification} (hl : l.Nodup) (kind : RequestKind)
    (n m : Notification) :
    n ∈ (kind.body l m).2 ↔
      (kind = .register ∧ m = n) ∨
        n ∈ l ∧ ¬ (kind = .unregister ∧ m = n ∧ (kind.body l m).1 = .errorNone) := by
  cases kind with
  | register =>
      rw [RequestKind.body, register]
      split_ifs with hm
      · simp only [true_and, false_and, not_false_eq_true, and_true]
        exact ⟨Or.inr, fun h => h.elim (fun heq => heq ▸ hm) id⟩
      · simp only [List.mem_append, List.mem_singleton, true_and, false_and, not_false_eq_true,
          and_true, or_comm, eq_comm]
  | unregister =>
      rw [RequestKind.body, unregister]
      split_ifs with hm
      · simp only [hl.mem_erase_iff, false_and, false_or, true_and, and_comm, ne_eq, eq_comm]
      · simp

lemma notifications_nodup {h : List Action} (hl : system.Legal h) :
    (system.exec h).notifications.Nodup := by
  refine System.invariant (S := system) (I := fun _ s => s.notifications.Nodup) List.nodup_nil ?_ hl
  intro h a _ hs _
  cases a with
  | runRequest k kind n status => exact body_nodup hs kind n
  | _ => exact hs

/-- At some point of the schedule `n` was in the list and `m` was not, and `n` has stayed there. -/
def RegisteredBefore (h : List Action) (n m : Notification) : Prop :=
  ∃ p q, h = p ++ q ∧ m ∉ (system.exec p).notifications ∧
    ∀ r r', q = r ++ r' → n ∈ (system.exec (p ++ r)).notifications

lemma RegisteredBefore.snoc {h : List Action} {n m : Notification} (hnm : RegisteredBefore h n m)
    {a : Action} (hn : n ∈ (system.exec (h ++ [a])).notifications) :
    RegisteredBefore (h ++ [a]) n m := by
  obtain ⟨p, q, rfl, hm, hstays⟩ := hnm
  refine ⟨p, q ++ [a], by simp, hm, fun r r' heq => ?_⟩
  rcases List.eq_nil_or_concat r' with rfl | ⟨r'', b, rfl⟩
  · obtain rfl : q ++ [a] = r := by simpa using heq
    simpa using hn
  · rw [List.concat_eq_append, ← List.append_assoc] at heq
    exact hstays r r'' (List.append_inj_left' heq rfl)

/-- A step takes notifications out or appends a new one. -/
lemma notifications_snoc (h : List Action) (a : Action) :
    (system.exec (h ++ [a])).notifications.Sublist (system.exec h).notifications ∨
      ∃ n, n ∉ (system.exec h).notifications ∧
        (system.exec (h ++ [a])).notifications = (system.exec h).notifications ++ [n] := by
  rw [System.exec_snoc]
  cases a with
  | runRequest k kind n status => exact (body_cases _ kind n).imp_right fun hnew => ⟨n, hnew⟩
  | _ => exact Or.inl (List.Sublist.refl _)

/-- The list is in the order of registration: whoever stands earlier has been there for longer. -/
lemma notifications_pairwise {h : List Action} (hl : system.Legal h) :
    (system.exec h).notifications.Pairwise (RegisteredBefore h) := by
  refine System.invariant (S := system) (I := fun h s => s.notifications.Pairwise (RegisteredBefore h))
    List.Pairwise.nil ?_ hl
  intro h a _ hs _
  rw [← System.exec_snoc]
  have hkeep : ∀ l : List Notification, l.Sublist (system.exec h).notifications →
      l ⊆ (system.exec (h ++ [a])).notifications → l.Pairwise (RegisteredBefore (h ++ [a])) :=
    fun l hsub hmem => (hs.sublist hsub).imp_of_mem fun hn _ hnm => hnm.snoc (hmem hn)
  rcases notifications_snoc h a with hsub | ⟨m, hm, heq⟩
  · exact hkeep _ hsub (List.Subset.refl _)
  · have hstay : (system.exec h).notifications ⊆ (system.exec (h ++ [a])).notifications :=
      heq ▸ List.subset_append_left _ _
    rw [heq, List.pairwise_append]
    refine ⟨hkeep _ (List.Sublist.refl _) hstay, List.pairwise_singleton _ _, fun n hn m' hm' => ?_⟩
    obtain rfl := List.mem_singleton.mp hm'
    refine ⟨h, [a], rfl, hm, fun r r' hr => ?_⟩
    cases r with
    | nil => simpa using hn
    | cons b r =>
        obtain ⟨rfl, rfl, -⟩ : a = b ∧ r = [] ∧ r' = [] := by simpa using hr
        exact hstay hn

/-- The list changes by the requests only. -/
lemma exists_runRequest_of_mem {p q : List Action} {n : Notification}
    (hn : n ∉ (system.exec p).notifications) (hmem : n ∈ (system.exec (p ++ q)).notifications) :
    ∃ k status, .runRequest k .register n status ∈ q := by
  obtain ⟨q₁, a, q₂, rfl, hbefore, hafter⟩ :=
    System.exists_step_of_change (P := fun s : State => n ∈ s.notifications) p hn hmem
  cases a with
  | runRequest k kind m status =>
      obtain ⟨rfl, rfl⟩ := eq_register_of_mem_body hbefore hafter
      exact ⟨k, status, by simp⟩
  | _ => exact absurd hafter hbefore

/-- Somebody has registered the notification, and nobody has unregistered it since.  This is said of
the schedule, not of the list. -/
def Registered (h : List Action) (n : Notification) : Prop :=
  ∃ p q k, h = p ++ .runRequest k .register n .errorNone :: q ∧
    ∀ k', .runRequest k' .unregister n .errorNone ∉ q

lemma not_registered_nil (n : Notification) : ¬ Registered [] n := by
  rintro ⟨p, q, k, heq, -⟩
  simp at heq

lemma registered_snoc {h : List Action} {a : Action} {n : Notification} :
    Registered (h ++ [a]) n ↔
      (∃ k, a = .runRequest k .register n .errorNone) ∨
        Registered h n ∧ ∀ k, a ≠ .runRequest k .unregister n .errorNone := by
  constructor
  · rintro ⟨p, q, k, heq, hnone⟩
    rcases List.eq_nil_or_concat q with rfl | ⟨q, b, rfl⟩
    · exact Or.inl ⟨k, (List.append_inj' heq rfl).2 |> List.singleton_inj.mp⟩
    · rw [List.concat_eq_append] at heq hnone
      obtain ⟨rfl, hab⟩ := List.append_inj' (heq.trans (List.append_assoc p (_ :: q) [b]).symm) rfl
      obtain rfl := List.singleton_inj.mp hab
      refine Or.inr ⟨⟨p, q, k, rfl, fun k' hmem => hnone k' (List.mem_append_left _ hmem)⟩, ?_⟩
      rintro k' rfl
      exact hnone k' (by simp)
  · rintro (⟨k, rfl⟩ | ⟨⟨p, q, k, rfl, hnone⟩, ha⟩)
    · exact ⟨h, [], k, rfl, fun _ => List.not_mem_nil⟩
    · refine ⟨p, q ++ [a], k, by simp, fun k' hmem => ?_⟩
      rcases List.mem_append.mp hmem with hmem | hmem
      · exact hnone k' hmem
      · exact ha k' (List.mem_singleton.mp hmem).symm

/-- **The list holds exactly the registered notifications**, at every moment. -/
lemma mem_notifications_iff {h : List Action} (hl : system.Legal h) :
    ∀ n, n ∈ (system.exec h).notifications ↔ Registered h n := by
  refine System.invariant (S := system) (I := fun h s => ∀ n, n ∈ s.notifications ↔ Registered h n)
    (fun n => iff_of_false List.not_mem_nil (not_registered_nil n)) ?_ hl
  intro h a hlh hs ha n
  rw [registered_snoc, ← hs n]
  cases a with
  | runRequest k kind m status =>
      obtain ⟨-, hstatus⟩ := ha
      refine (mem_body_iff (notifications_nodup hlh) kind n m).trans ?_
      refine or_congr ?_ (and_congr_right' ?_)
      · constructor
        · rintro ⟨rfl, rfl⟩
          have hsuccess := (body_status_iff (system.exec h).notifications .register m).mpr (Or.inl rfl)
          exact ⟨k, by rw [← hstatus, hsuccess]⟩
        · rintro ⟨k', heq⟩
          obtain ⟨-, hkind, hm, -⟩ := Action.runRequest.inj heq
          exact ⟨hkind, hm⟩
      · rw [hstatus]
        constructor
        · intro hnot k' heq
          exact hnot (Action.runRequest.inj heq).2
        · rintro hne ⟨rfl, rfl, rfl⟩
          exact hne k rfl
  | _ => simp [State.next, system]

/-! ## Requests -/

/-- What has happened to a request, by where it is. -/
def RequestRecord (h : List Action) (k : ℕ) : Request → Prop
  | .done kind n status => .runRequest k kind n status ∈ h
  | .unlocked kind n status => .runRequest k kind n status ∈ h
  | _ => True

lemma RequestRecord.mono {h : List Action} {k : ℕ} {r : Request} (hr : RequestRecord h k r)
    (a : Action) : RequestRecord (h ++ [a]) k r := by
  cases r with
  | done kind n status => exact List.mem_append_left _ hr
  | unlocked kind n status => exact List.mem_append_left _ hr
  | _ => trivial

lemma requestRecord_of_legal {h : List Action} (hl : system.Legal h) :
    ∀ k, RequestRecord h k ((system.exec h).requests k) := by
  refine System.invariant (S := system) (I := fun h s => ∀ k, RequestRecord h k (s.requests k))
    (fun _ => trivial) ?_ hl
  intro h a _ hs ha
  have hmono := fun k => (hs k).mono a
  have hupdate : ∀ k₀ r, RequestRecord (h ++ [a]) k₀ r → ∀ k,
      RequestRecord (h ++ [a]) k (Function.update (system.exec h).requests k₀ r k) := fun k₀ r hr =>
    (Function.forall_update_iff _ fun k r => RequestRecord (h ++ [a]) k r).mpr
      ⟨hr, fun k _ => hmono k⟩
  cases a with
  | call k kind n => exact hupdate k _ trivial
  | lockRequest k kind n => exact hupdate k _ trivial
  | runRequest k kind n status => exact hupdate k _ (by simp [RequestRecord])
  | unlockRequest k kind n status =>
      have hran := hmono k
      rw [show (system.exec h).requests k = .done kind n status from ha] at hran
      exact hupdate k _ hran
  | returnRequest k kind n status => exact hupdate k _ trivial
  | _ => exact hmono

/-! ## Callbacks -/

/-- What has happened to a callback, by where it is. -/
def CallbackRecord (h : List Action) (c : ℕ) : Callback → Prop
  | .absent =>
      (∀ event w, .enterCallback c event w ∉ h) ∧ submitsOf c h = [] ∧ .returnCallback c ∉ h
  | .described job =>
      (∃ event w, .enterCallback c event w ∈ h ∧ w.job event = job) ∧
        (∀ event w, .enterCallback c event w ∈ h → w.job event = job) ∧ submitsOf c h = [] ∧
        .returnCallback c ∉ h
  | .dispatched | .returned =>
      (∀ event w, .enterCallback c event w ∈ h → submitsOf c h = (w.job event).toList) ∧
        (submitsOf c h).length ≤ 1

/-- A step of another activity leaves the record of the callback as it is. -/
lemma CallbackRecord.mono {h : List Action} {c : ℕ} {r : Callback} (hr : CallbackRecord h c r)
    {a : Action} (henter : ∀ event w, a ≠ .enterCallback c event w)
    (hsubmit : submitsOf c [a] = []) (hreturn : a ≠ .returnCallback c) :
    CallbackRecord (h ++ [a]) c r := by
  have hmem : ∀ event w, .enterCallback c event w ∈ h ++ [a] ↔ .enterCallback c event w ∈ h := by
    intro event w
    simp [(henter event w).symm]
  have hmem' : .returnCallback c ∈ h ++ [a] ↔ .returnCallback c ∈ h := by simp [hreturn.symm]
  have hsubmits : submitsOf c (h ++ [a]) = submitsOf c h := by
    rw [submitsOf_append, hsubmit, List.append_nil]
  cases r <;> simpa only [CallbackRecord, hmem, hmem', hsubmits] using hr

lemma callbackRecord_of_legal {h : List Action} (hl : system.Legal h) :
    ∀ c, CallbackRecord h c ((system.exec h).callbacks c) := by
  refine System.invariant (S := system) (I := fun h s => ∀ c, CallbackRecord h c (s.callbacks c))
    (fun _ => ⟨by simp, rfl, by simp⟩) ?_ hl
  intro h a _ hs ha
  have hupdate : ∀ c₀ r, CallbackRecord (h ++ [a]) c₀ r →
      (∀ c ≠ c₀, (∀ event w, a ≠ .enterCallback c event w) ∧ submitsOf c [a] = [] ∧
        a ≠ .returnCallback c) → ∀ c,
      CallbackRecord (h ++ [a]) c (Function.update (system.exec h).callbacks c₀ r c) :=
    fun c₀ r hr hother =>
      (Function.forall_update_iff _ fun c r => CallbackRecord (h ++ [a]) c r).mpr
        ⟨hr, fun c hc => (hs c).mono (hother c hc).1 (hother c hc).2.1 (hother c hc).2.2⟩
  cases a with
  | enterCallback c event w =>
      have hc : (system.exec h).callbacks c = .absent := ha
      obtain ⟨hnone, hsubmits, hreturn⟩ := hc ▸ hs c
      refine hupdate c _ ⟨⟨event, w, by simp, rfl⟩, fun event' w' hmem => ?_, ?_, by simpa using hreturn⟩
        fun c' hc' => ⟨by grind, rfl, by simp⟩
      · rcases List.mem_append.mp hmem with hmem | hmem
        · exact absurd hmem (hnone event' w')
        · obtain ⟨rfl, rfl⟩ : event' = event ∧ w' = w := by simpa using hmem
          rfl
      · rw [submitsOf_append, hsubmits]
        rfl
  | submit c j job =>
      have hc : (system.exec h).callbacks c = .described (some job) := ha.1
      obtain ⟨-, hentered, hsubmits, -⟩ := hc ▸ hs c
      have hnow : submitsOf c (h ++ [.submit c j job]) = [job] := by
        rw [submitsOf_append, hsubmits]
        simp [submitsOf]
      refine hupdate c _ ⟨fun event w hmem => ?_, by simp [hnow]⟩
        fun c' hc' => ⟨by simp, by simp [submitsOf, hc'.symm], by simp⟩
      rw [hnow, hentered event w (by simpa using hmem)]
      rfl
  | returnCallback c =>
      have hsubmits' : submitsOf c (h ++ [.returnCallback c]) = submitsOf c h := by
        rw [submitsOf_append]
        exact List.append_nil _
      refine hupdate c _ ?_ fun c' hc' => ⟨by simp, rfl, by simp [hc'.symm]⟩
      rcases ha with hc | hc
      · obtain ⟨-, hentered, hsubmits, -⟩ := hc ▸ hs c
        refine ⟨fun event w hmem => ?_, by simp [hsubmits', hsubmits]⟩
        rw [hsubmits', hsubmits, hentered event w (by simpa using hmem)]
        rfl
      · obtain ⟨hentered, hlength⟩ := hc ▸ hs c
        exact ⟨fun event w hmem => hsubmits'.trans (hentered event w (by simpa using hmem)),
          hsubmits' ▸ hlength⟩
  | _ => exact fun c => (hs c).mono (by simp) rfl (by simp)

end Delivery

end Usb
