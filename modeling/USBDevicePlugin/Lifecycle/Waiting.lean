import USBDevicePlugin.Core.TransitionSystem
import USBDevicePlugin.Operations.Resources
import USBDevicePlugin.Lifecycle.Delivery

/-!
# Who waits for whom

Workers that dispatch, listeners in other processes, and the threads that serve the calls of
clients.  A worker holds `_adminLock` while it waits for a listener's callback to return; the
listener may, before it returns, call the implementation and wait for the result; and the thread
that serves this call may need the lock.

* `Waits` — who waits for whom.
* **`not_deadlocked_iff`** — a run never has a cycle of waiting exactly when no callback calls an
  operation that takes the lock.
* `Stuck.of_legal` — such a cycle is there for good.
-/

namespace Usb

open TransitionSystem Interaction

/-! ## The calls of clients -/

/-- A call of a client, as far as the lock is concerned. -/
inductive ClientCall
  | request (kind : RequestKind) (n : Notification)
  | getDeviceList
  | getDeviceInfo (deviceName : CxxString)
  | driver (call : DriverCall)
  deriving DecidableEq, Repr

/-- All but `GetDeviceList` work under the lock. -/
def ClientCall.takesLock : ClientCall → Bool
  | .getDeviceList => false
  | _ => true

/-- What a call does to the notification list. -/
def ClientCall.body (l : List Notification) : ClientCall → List Notification
  | .request kind n => (kind.body l n).2
  | _ => l

/-- The call of a client that an operation serves.  Hotplug callbacks are for libusb. -/
def Operation.clientCall : Operation → Option ClientCall
  | .getDeviceList _ => some .getDeviceList
  | .getDeviceInfo deviceName _ => some (.getDeviceInfo deviceName)
  | .driver call => some (.driver call)
  | .hotPlug .. => none

lemma withDeviceList_locks {α : Type} (env : Env) (failed : α) (scan : List Device → Plugin α)
    (t : ℕ) (s : DriverState) : .lock ∈ ((withDeviceList env failed scan).run t s).calls := by
  by_cases hdevs : (env (t + 1)).devices = []
  · simp [withDeviceList_run_nil hdevs]
  · simp [withDeviceList_run_cons hdevs]

/-- **The operations take the lock as listed.** -/
lemma takesLock_iff {op : Operation} {call : ClientCall} (hcall : op.clientCall = some call)
    (env : Env) (t : ℕ) (s : DriverState) :
    call.takesLock = true ↔ .lock ∈ ((op.perform env).run t s).calls := by
  cases op with
  | getDeviceList devices =>
      obtain rfl := Option.some.inj hcall
      have hnone : .lock ∉ ((getDeviceList env devices).run t s).calls :=
        fun hlock => getDeviceList_lockless env devices t s _ hlock rfl
      simpa [ClientCall.takesLock, Operation.perform] using hnone
  | getDeviceInfo deviceName deviceInfo =>
      obtain rfl := Option.some.inj hcall
      have hlock := withDeviceList_locks env (.errorGeneral, deviceInfo) (fun devs =>
        devs.foldlM (readNamedDevice env deviceName devs) (.errorGeneral, deviceInfo)) t s
      simpa [ClientCall.takesLock, Operation.perform, getDeviceInfo] using hlock
  | driver driverCall =>
      obtain rfl := Option.some.inj hcall
      have hlock := withDeviceList_locks env .errorGeneral
        (atNamedDevice driverCall.deviceName (changeDriver env driverCall.bound)) t s
      simpa [ClientCall.takesLock, Operation.perform, DriverCall.operation_eq] using hlock
  | hotPlug event d => simp [Operation.clientCall] at hcall

namespace Waiting

/-! ## The parties -/

/-- A worker: without a job, about to lock, between two callbacks, in a callback. -/
inductive Worker
  | idle
  | taken
  | dispatching (index : ℕ)
  | calling (index c : ℕ)
  deriving DecidableEq, Repr

/-- A callback in a listener's process: it does what the listener wants, or waits for a call it has
made. -/
inductive Callback
  | absent
  | running (worker : ℕ)
  | waiting (worker k : ℕ)
  | returned
  deriving DecidableEq, Repr

/-- The thread that serves a call. -/
inductive Serving
  | absent
  | called (call : ClientCall)
  | locked (call : ClientCall)
  | done (call : ClientCall)
  | unlocked
  | returned
  deriving DecidableEq, Repr

inductive Party
  | worker (j : ℕ)
  | callback (c : ℕ)
  | serving (k : ℕ)
  deriving DecidableEq, Repr

structure State where
  adminLock : Option Party
  notifications : List Notification
  workers : ℕ → Worker
  callbacks : ℕ → Callback
  calls : ℕ → Serving

/-- The steps.  `issue` is a call that a listener makes from inside a callback, `call` any other. -/
inductive Action
  | take (j : ℕ)
  | lockWorker (j : ℕ)
  | notify (j index c : ℕ)
  | issue (c j k : ℕ) (call : ClientCall)
  | resume (c j k : ℕ)
  | returnCallback (c j index : ℕ)
  | finish (j index : ℕ)
  | call (k : ℕ) (call : ClientCall)
  | lockCall (k : ℕ) (call : ClientCall)
  | runCall (k : ℕ) (call : ClientCall)
  | unlockCall (k : ℕ) (call : ClientCall)
  | returnCall (k : ℕ)
  deriving DecidableEq, Repr

namespace State

/-- When a step may be taken. -/
def Enabled (s : State) : Action → Prop
  | .take j => s.workers j = .idle
  | .lockWorker j => s.workers j = .taken ∧ s.adminLock = none
  | .notify j index c =>
      s.workers j = .dispatching index ∧ index < s.notifications.length ∧ s.callbacks c = .absent
  | .issue c j k _ => s.callbacks c = .running j ∧ s.calls k = .absent
  | .resume c j k => s.callbacks c = .waiting j k ∧ s.calls k = .returned
  | .returnCallback c j index => s.callbacks c = .running j ∧ s.workers j = .calling index c
  | .finish j index => s.workers j = .dispatching index ∧ s.notifications.length ≤ index
  | .call k _ => s.calls k = .absent
  | .lockCall k call => s.calls k = .called call ∧ call.takesLock = true ∧ s.adminLock = none
  | .runCall k call =>
      s.calls k = .locked call ∨ s.calls k = .called call ∧ call.takesLock = false
  | .unlockCall k call => s.calls k = .done call
  | .returnCall k => s.calls k = .unlocked

/-- What a step does. -/
def next (s : State) : Action → State
  | .take j => { s with workers := Function.update s.workers j .taken }
  | .lockWorker j =>
      { s with
        adminLock := some (.worker j)
        workers := Function.update s.workers j (.dispatching 0) }
  | .notify j index c =>
      { s with
        workers := Function.update s.workers j (.calling index c)
        callbacks := Function.update s.callbacks c (.running j) }
  | .issue c j k call =>
      { s with
        callbacks := Function.update s.callbacks c (.waiting j k)
        calls := Function.update s.calls k (.called call) }
  | .resume c j _ => { s with callbacks := Function.update s.callbacks c (.running j) }
  | .returnCallback c j index =>
      { s with
        callbacks := Function.update s.callbacks c .returned
        workers := Function.update s.workers j (.dispatching (index + 1)) }
  | .finish j _ =>
      { s with
        adminLock := none
        workers := Function.update s.workers j .idle }
  | .call k call => { s with calls := Function.update s.calls k (.called call) }
  | .lockCall k call =>
      { s with
        adminLock := some (.serving k)
        calls := Function.update s.calls k (.locked call) }
  | .runCall k call =>
      { s with
        notifications := call.body s.notifications
        calls := Function.update s.calls k (.done call) }
  | .unlockCall k call =>
      { s with
        adminLock := if call.takesLock then none else s.adminLock
        calls := Function.update s.calls k .unlocked }
  | .returnCall k => { s with calls := Function.update s.calls k .returned }

end State

/-- The object and those around it, before anybody has called. -/
def system : System State Action where
  init :=
    { adminLock := none
      notifications := []
      workers := fun _ => .idle
      callbacks := fun _ => .absent
      calls := fun _ => .absent }
  Enabled := State.Enabled
  next := State.next

instance (s : State) : ∀ a : Action, Decidable (system.Enabled s a)
  | .take _ | .call .. | .unlockCall .. | .returnCall _ => inferInstanceAs (Decidable (_ = _))
  | .lockWorker _ | .notify .. | .issue .. | .resume .. | .returnCallback .. | .finish ..
  | .lockCall .. => inferInstanceAs (Decidable (_ ∧ _))
  | .runCall .. => inferInstanceAs (Decidable (_ ∨ _))

/-! ## Waiting -/

/-- Who waits for whom. -/
inductive Waits (s : State) : Party → Party → Prop
  /-- A worker for the callback it has called to return. -/
  | callback {j index c : ℕ} (h : s.workers j = .calling index c) :
      Waits s (.worker j) (.callback c)
  /-- A callback for the result of its call. -/
  | result {c j k : ℕ} (h : s.callbacks c = .waiting j k) (hk : s.calls k ≠ .returned) :
      Waits s (.callback c) (.serving k)
  /-- A worker for the lock. -/
  | workerLock {j : ℕ} {owner : Party} (h : s.workers j = .taken)
      (howner : s.adminLock = some owner) : Waits s (.worker j) owner
  /-- A call for the lock. -/
  | callLock {k : ℕ} {call : ClientCall} {owner : Party} (h : s.calls k = .called call)
      (hlock : call.takesLock = true) (howner : s.adminLock = some owner) :
      Waits s (.serving k) owner

/-! ## Who holds the lock -/

/-- The worker is inside `Dispatch`. -/
def Worker.holds : Worker → Bool
  | .dispatching _ => true
  | .calling .. => true
  | _ => false

/-- The call is between `Lock` and `Unlock`. -/
def Serving.holds : Serving → Bool
  | .locked call => call.takesLock
  | .done call => call.takesLock
  | _ => false

/-- The worker that a callback keeps waiting. -/
def Callback.worker : Callback → Option ℕ
  | .running j => some j
  | .waiting j _ => some j
  | _ => none

/-- The parties are where the lock and the callbacks say. -/
structure Consistent (s : State) : Prop where
  worker : ∀ j, (s.workers j).holds = true ↔ s.adminLock = some (.worker j)
  serving : ∀ k, (s.calls k).holds = true ↔ s.adminLock = some (.serving k)
  callback : ∀ c j, (s.callbacks c).worker = some j → ∃ index, s.workers j = .calling index c
  called : ∀ c j k, s.callbacks c = .waiting j k → s.calls k ≠ .absent

section Update

variable {ρ : Type} {f : ℕ → ρ} {i : ℕ} {v : ρ}

/-- A party that moves without taking or releasing the lock. -/
lemma holds_update {holds : ρ → Bool} {owner : ℕ → Prop}
    (h : ∀ i, holds (f i) = true ↔ owner i) (hv : holds v = holds (f i)) :
    ∀ i', holds (Function.update f i v i') = true ↔ owner i' := by
  intro i'
  rw [Function.update_apply]
  split_ifs with hi
  · subst hi
    rw [hv, h]
  · exact h i'

/-- A party that takes the lock, which was free. -/
lemma holds_lock {holds : ρ → Bool} {party : ℕ → Party} {lock : Option Party}
    (h : ∀ i, holds (f i) = true ↔ lock = some (party i)) (hfree : lock = none)
    (hparty : Function.Injective party) (hv : holds v = true) :
    ∀ i', holds (Function.update f i v i') = true ↔ some (party i) = some (party i') := by
  intro i'
  rw [Function.update_apply, Option.some_inj, hparty.eq_iff]
  split_ifs with hi
  · simp [hv, hi]
  · rw [h i', hfree]
    simp [Ne.symm hi]

/-- A party that releases it. -/
lemma holds_unlock {holds : ρ → Bool} {party : ℕ → Party} {lock : Option Party}
    (h : ∀ i, holds (f i) = true ↔ lock = some (party i)) (howner : lock = some (party i))
    (hparty : Function.Injective party) (hv : holds v = false) :
    ∀ i', holds (Function.update f i v i') = true ↔ none = some (party i') := by
  intro i'
  rw [Function.update_apply]
  split_ifs with hi
  · simp [hv]
  · rw [h i', howner, Option.some_inj, hparty.eq_iff]
    simp [Ne.symm hi]

end Update

lemma worker_injective : Function.Injective Party.worker := fun _ _ => Party.worker.inj

lemma serving_injective : Function.Injective Party.serving := fun _ _ => Party.serving.inj

/-- The other parties do not notice who has the lock. -/
lemma holds_other {ρ : Type} {f : ℕ → ρ} {holds : ρ → Bool} {party : ℕ → Party}
    {lock lock' : Option Party} (h : ∀ i, holds (f i) = true ↔ lock = some (party i))
    (hlock : ∀ i, lock ≠ some (party i)) (hlock' : ∀ i, lock' ≠ some (party i)) :
    ∀ i, holds (f i) = true ↔ lock' = some (party i) := by
  intro i
  rw [h i]
  exact iff_of_false (hlock i) (hlock' i)

/-- A worker that is in no callback moves. -/
lemma callback_move {s : State} (hs : Consistent s) {j : ℕ} {w : Worker}
    (hw : ∀ index c, s.workers j ≠ .calling index c) :
    ∀ c j', (s.callbacks c).worker = some j' →
      ∃ index, Function.update s.workers j w j' = .calling index c := by
  intro c j' hc
  obtain ⟨index, hindex⟩ := hs.callback c j' hc
  refine ⟨index, ?_⟩
  rw [Function.update_of_ne]
  · exact hindex
  · rintro rfl
    exact hw index c hindex

/-- A callback moves, of which the worker that waits for it is the same. -/
lemma callback_set {s : State} (hs : Consistent s) {c : ℕ} {callback : Callback}
    (hworker : callback.worker = (s.callbacks c).worker) :
    ∀ c' j, (Function.update s.callbacks c callback c').worker = some j →
      ∃ index, s.workers j = .calling index c' := by
  intro c' j hc'
  rw [Function.update_apply] at hc'
  split_ifs at hc' with hc
  · subst hc
    exact hs.callback c' j (hworker ▸ hc')
  · exact hs.callback c' j hc'

/-- A callback moves, which does not wait for a call. -/
lemma called_set {s : State} (hs : Consistent s) {c : ℕ} {callback : Callback}
    (hcallback : ∀ j k, callback ≠ .waiting j k) :
    ∀ c' j k, Function.update s.callbacks c callback c' = .waiting j k → s.calls k ≠ .absent := by
  intro c' j k hc'
  rw [Function.update_apply] at hc'
  split_ifs at hc'
  · exact absurd hc' (hcallback j k)
  · exact hs.called c' j k hc'

/-- A call that is there moves. -/
lemma called_move {s : State} (hs : Consistent s) {k : ℕ} {v : Serving} (hv : v ≠ .absent) :
    ∀ c j k', s.callbacks c = .waiting j k' → Function.update s.calls k v k' ≠ .absent := by
  intro c j k' hc
  rw [Function.update_apply]
  split_ifs
  · exact hv
  · exact hs.called c j k' hc

lemma consistent_next {s : State} {a : Action} (hs : Consistent s) (ha : s.Enabled a) :
    Consistent (s.next a) := by
  cases a with
  | take j =>
      have hidle : s.workers j = .idle := ha
      exact ⟨holds_update hs.worker (by rw [hidle]; rfl), hs.serving,
        callback_move hs (by simp [hidle]), hs.called⟩
  | lockWorker j =>
      obtain ⟨htaken, hfree⟩ := ha
      exact ⟨holds_lock hs.worker hfree worker_injective rfl,
        holds_other hs.serving (by simp [hfree]) (by simp [State.next]),
        callback_move hs (by simp [htaken]), hs.called⟩
  | notify j index c =>
      obtain ⟨hdispatching, -, habsent⟩ := ha
      refine ⟨holds_update hs.worker (by rw [hdispatching]; rfl), hs.serving, ?_,
        called_set hs (by simp)⟩
      intro c' j' hc'
      show ∃ index', Function.update s.workers j (.calling index c) j' = .calling index' c'
      simp only [State.next, Function.update_apply] at hc'
      split_ifs at hc' with hc
      · obtain rfl : j = j' := by simpa [Callback.worker] using hc'
        exact ⟨index, by rw [Function.update_self, hc]⟩
      · exact callback_move hs (by simp [hdispatching]) c' j' hc'
  | issue c j k call =>
      obtain ⟨hrunning, habsent⟩ := ha
      refine ⟨hs.worker, holds_update hs.serving (by rw [habsent]; rfl),
        callback_set hs (by rw [hrunning]; rfl), ?_⟩
      intro c' j' k' hc'
      show Function.update s.calls k (.called call) k' ≠ .absent
      simp only [State.next, Function.update_apply] at hc'
      split_ifs at hc' with hc
      · obtain ⟨-, rfl⟩ := Callback.waiting.inj hc'
        simp
      · exact called_move hs (by simp) c' j' k' hc'
  | resume c j k =>
      obtain ⟨hwaiting, -⟩ := ha
      exact ⟨hs.worker, hs.serving, callback_set hs (by rw [hwaiting]; rfl),
        called_set hs (by simp)⟩
  | returnCallback c j index =>
      obtain ⟨hrunning, hcalling⟩ := ha
      refine ⟨holds_update hs.worker (by rw [hcalling]; rfl), hs.serving, ?_,
        called_set hs (by simp)⟩
      intro c' j' hc'
      show ∃ index', Function.update s.workers j (.dispatching (index + 1)) j' = .calling index' c'
      simp only [State.next, Function.update_apply] at hc'
      split_ifs at hc' with hc
      · simp [Callback.worker] at hc'
      · obtain ⟨index', hindex'⟩ := hs.callback c' j' hc'
        -- the worker is in one callback at a time
        refine ⟨index', ?_⟩
        rw [Function.update_of_ne]
        · exact hindex'
        · rintro rfl
          rw [hcalling] at hindex'
          exact hc (Worker.calling.inj hindex').2.symm
  | finish j index =>
      obtain ⟨hdispatching, -⟩ := ha
      have howner : s.adminLock = some (.worker j) :=
        (hs.worker j).mp (by rw [hdispatching]; rfl)
      exact ⟨holds_unlock hs.worker howner worker_injective rfl,
        holds_other hs.serving (by simp [howner]) (by simp [State.next]),
        callback_move hs (by simp [hdispatching]), hs.called⟩
  | call k call =>
      have habsent : s.calls k = .absent := ha
      exact ⟨hs.worker, holds_update hs.serving (by rw [habsent]; rfl), hs.callback,
        called_move hs (by simp)⟩
  | lockCall k call =>
      obtain ⟨-, hlock, hfree⟩ := ha
      exact ⟨holds_other hs.worker (by simp [hfree]) (by simp [State.next]),
        holds_lock hs.serving hfree serving_injective hlock, hs.callback, called_move hs (by simp)⟩
  | runCall k call =>
      refine ⟨hs.worker, holds_update hs.serving ?_, hs.callback, called_move hs (by simp)⟩
      rcases ha with hlocked | ⟨hcalled, hnone⟩
      · rw [hlocked]; rfl
      · rw [hcalled]; exact hnone
  | unlockCall k call =>
      have hdone : s.calls k = .done call := ha
      cases hlock : call.takesLock with
      | true =>
          have howner : s.adminLock = some (.serving k) :=
            (hs.serving k).mp (by rw [hdone]; exact hlock)
          refine ⟨?_, ?_, hs.callback, called_move hs (by simp)⟩
          · simp only [State.next, hlock, if_true]
            exact holds_other hs.worker (by simp [howner]) (by simp)
          · simp only [State.next, hlock, if_true]
            exact holds_unlock hs.serving howner serving_injective rfl
      | false =>
          refine ⟨?_, ?_, hs.callback, called_move hs (by simp)⟩
          · simp only [State.next, hlock]
            exact hs.worker
          · simp only [State.next, hlock]
            exact holds_update hs.serving (by rw [hdone]; exact hlock.symm)
  | returnCall k =>
      have hunlocked : s.calls k = .unlocked := ha
      exact ⟨hs.worker, holds_update hs.serving (by rw [hunlocked]; rfl), hs.callback,
        called_move hs (by simp)⟩

lemma consistent_of_legal {h : List Action} (hl : system.Legal h) : Consistent (system.exec h) :=
  System.invariant (S := system) (I := fun _ s => Consistent s)
    ⟨by simp [system, Worker.holds], by simp [system, Serving.holds],
      by simp [system, Callback.worker], by simp [system]⟩
    (fun _ _ _ hs ha => consistent_next hs ha) hl

/-! ## Listeners that need no lock -/

/-- The call has to do with the lock, or will have. -/
def Serving.takesLock : Serving → Bool
  | .called call => call.takesLock
  | .locked call => call.takesLock
  | .done call => call.takesLock
  | _ => false

/-- No callback waits for a call that takes the lock. -/
def Quiet (s : State) : Prop :=
  ∀ c j k, s.callbacks c = .waiting j k → (s.calls k).takesLock = false

/-- A call that moves takes the lock only if it did so before. -/
lemma Quiet.move {s s' : State} (hs : Quiet s) {k : ℕ} {v : Serving}
    (hcalls : s'.calls = Function.update s.calls k v) (hcallbacks : s'.callbacks = s.callbacks)
    (hv : v.takesLock = true → (s.calls k).takesLock = true) : Quiet s' := by
  intro c j k' hc
  rw [hcallbacks] at hc
  rw [hcalls, Function.update_apply]
  split_ifs with hk
  · subst hk
    have hbefore := hs c j k' hc
    by_contra htakes
    rw [hv (by simpa using htakes)] at hbefore
    exact absurd hbefore (by simp)
  · exact hs c j k' hc

/-- A callback that does not wait any longer. -/
lemma Quiet.resume {s s' : State} (hs : Quiet s) {c : ℕ} {callback : Callback}
    (hcallbacks : s'.callbacks = Function.update s.callbacks c callback)
    (hcalls : s'.calls = s.calls) (hcallback : ∀ j k, callback ≠ .waiting j k) : Quiet s' := by
  intro c' j k hc'
  rw [hcallbacks, Function.update_apply] at hc'
  rw [hcalls]
  split_ifs at hc'
  · exact absurd hc' (hcallback j k)
  · exact hs c' j k hc'

/-- A new call does not matter to those who wait already. -/
lemma Quiet.call {s : State} (hs : Quiet s) (hconsistent : Consistent s) {k : ℕ}
    (habsent : s.calls k = .absent) (v : Serving) {c j k' : ℕ}
    (hc : s.callbacks c = .waiting j k') : (Function.update s.calls k v k').takesLock = false := by
  rw [Function.update_of_ne]
  · exact hs c j k' hc
  · rintro rfl
    exact hconsistent.called c j k' hc habsent

lemma quiet_next {s : State} {a : Action} (hs : Quiet s) (hconsistent : Consistent s)
    (ha : s.Enabled a) (hissue : ∀ c j k call, a = .issue c j k call → call.takesLock = false) :
    Quiet (s.next a) := by
  cases a with
  | take j => exact hs
  | lockWorker j => exact hs
  | finish j index => exact hs
  | notify j index c => exact hs.resume rfl rfl (by simp)
  | resume c j k => exact hs.resume rfl rfl (by simp)
  | returnCallback c j index => exact hs.resume rfl rfl (by simp)
  | issue c j k call =>
      intro c' j' k' hc'
      show (Function.update s.calls k (.called call) k').takesLock = false
      simp only [State.next, Function.update_apply] at hc'
      split_ifs at hc' with hc
      · obtain ⟨-, rfl⟩ := Callback.waiting.inj hc'
        rw [Function.update_self]
        exact hissue c j k call rfl
      · exact hs.call hconsistent ha.2 _ hc'
  | call k call => exact fun c j k' hc => hs.call hconsistent ha _ hc
  | lockCall k call => exact hs.move rfl rfl fun htakes => by rw [ha.1]; exact htakes
  | runCall k call =>
      refine hs.move rfl rfl fun htakes => ?_
      rcases ha with hlocked | ⟨hcalled, -⟩
      · rw [hlocked]; exact htakes
      · rw [hcalled]; exact htakes
  | unlockCall k call => exact hs.move rfl rfl (by simp [Serving.takesLock])
  | returnCall k => exact hs.move rfl rfl (by simp [Serving.takesLock])

lemma quiet_of_legal {h : List Action} (hl : system.Legal h)
    (hissues : ∀ c j k call, .issue c j k call ∈ h → call.takesLock = false) :
    Quiet (system.exec h) := by
  refine System.invariant (S := system)
    (I := fun h s => (∀ c j k call, .issue c j k call ∈ h → call.takesLock = false) → Quiet s)
    (fun _ => by simp [Quiet, system]) ?_ hl hissues
  intro h a hlh hs ha hissues
  refine quiet_next (hs fun c j k call hmem => hissues c j k call ?_) (consistent_of_legal hlh) ha
    fun c j k call heq => hissues c j k call ?_
  · exact List.mem_append_left _ hmem
  · simp [heq]

/-- The lock's owner waits for listeners at most, listeners wait for calls that need no lock. -/
def rank (s : State) : Party → ℕ
  | .worker j => if s.adminLock = some (.worker j) then 2 else 3
  | .callback _ => 1
  | .serving k =>
      if s.adminLock ≠ some (.serving k) ∧ (s.calls k).takesLock = true then 3 else 0

lemma rank_owner {s : State} {owner : Party} (howner : s.adminLock = some owner) :
    rank s owner ≤ 2 := by
  cases owner <;> simp [rank, howner]

lemma rank_lt {s : State} (hs : Consistent s) (hquiet : Quiet s) {p q : Party}
    (hwaits : Waits s p q) : rank s q < rank s p := by
  cases hwaits with
  | @callback j index c h =>
      simp only [rank]
      split_ifs <;> omega
  | result h hk => simp [rank, hquiet _ _ _ h]
  | @workerLock j owner h howner =>
      have hnot : s.adminLock ≠ some (.worker j) := fun hown => by
        have hholds := (hs.worker j).mpr hown
        rw [h] at hholds
        exact absurd hholds (by simp [Worker.holds])
      have hrank : rank s (.worker j) = 3 := by simp [rank, hnot]
      have hle := rank_owner howner
      omega
  | @callLock k call owner h hlock howner =>
      have hnot : s.adminLock ≠ some (.serving k) := fun hown => by
        have hholds := (hs.serving k).mpr hown
        rw [h] at hholds
        exact absurd hholds (by simp [Serving.holds])
      have hrank : rank s (.serving k) = 3 := by simp [rank, hnot, h, Serving.takesLock, hlock]
      have hle := rank_owner howner
      omega

/-! ## Listeners that need it -/

/-- A worker waits for a callback, the callback for a call, the call for the worker's lock. -/
structure Stuck (s : State) (j c k : ℕ) : Prop where
  worker : ∃ index, s.workers j = .calling index c
  callback : s.callbacks c = .waiting j k
  call : ∃ call, s.calls k = .called call ∧ call.takesLock = true
  lock : s.adminLock = some (.worker j)

lemma Stuck.deadlocked {s : State} {j c k : ℕ} (h : Stuck s j c k) : Deadlocked (Waits s) := by
  obtain ⟨index, hworker⟩ := h.worker
  obtain ⟨call, hcall, htakes⟩ := h.call
  refine ⟨.worker j, Relation.TransGen.trans (.single (.callback hworker)) ?_⟩
  refine Relation.TransGen.trans (.single (.result h.callback (by simp [hcall]))) ?_
  exact .single (.callLock hcall htakes h.lock)

/-- The call need only be made. -/
lemma stuck_of_issue {h : List Action} (hl : system.Legal h) {c j k : ℕ} {call : ClientCall}
    (ha : system.Enabled (system.exec h) (.issue c j k call)) (htakes : call.takesLock = true) :
    Stuck (system.exec (h ++ [.issue c j k call])) j c k := by
  have hs := consistent_of_legal hl
  obtain ⟨index, hworker⟩ := hs.callback c j (by rw [ha.1]; rfl)
  rw [System.exec_snoc]
  refine ⟨⟨index, hworker⟩, Function.update_self .., ⟨call, Function.update_self .., htakes⟩, ?_⟩
  exact (hs.worker j).mp (by rw [hworker]; rfl)

/-- **A run has no cycle of waiting at any time exactly when** no callback has made a call that takes
the lock. -/
theorem not_deadlocked_iff {h : List Action} (hl : system.Legal h) :
    (∀ p q, h = p ++ q → ¬ Deadlocked (Waits (system.exec p))) ↔
      ∀ c j k call, .issue c j k call ∈ h → call.takesLock = false := by
  constructor
  · intro hnever c j k call hmem
    by_contra htakes
    obtain ⟨p, q, rfl⟩ := List.append_of_mem hmem
    have hstuck := stuck_of_issue hl.prefix hl.enabled_at (by simpa using htakes)
    exact hnever _ q (by simp) hstuck.deadlocked
  · rintro hissues p q rfl
    have hquiet := quiet_of_legal hl.prefix fun c j k call hmem =>
      hissues c j k call (List.mem_append_left q hmem)
    exact not_deadlocked_of_rank _ fun _ _ => rank_lt (consistent_of_legal hl.prefix) hquiet

/-- A listener registers and is told about a device. -/
def plugIn : List Action :=
  [.call 0 (.request .register 7), .lockCall 0 (.request .register 7),
    .runCall 0 (.request .register 7), .unlockCall 0 (.request .register 7), .returnCall 0,
    .take 0, .lockWorker 0, .notify 0 0 0]

/-- It asks for the list of devices, while another client waits for the lock. -/
theorem not_deadlocked_list :
    let h := plugIn ++ [.call 1 (.getDeviceInfo "001/005".toList), .issue 0 0 2 .getDeviceList,
      .runCall 2 .getDeviceList, .unlockCall 2 .getDeviceList, .returnCall 2, .resume 0 0 2,
      .returnCallback 0 0 0, .finish 0 1]
    (∀ p q, h = p ++ q → ¬ Deadlocked (Waits (system.exec p))) ↔
      ∀ c j k call, .issue c j k call ∈ h → call.takesLock = false :=
  not_deadlocked_iff (by decide)

/-- **It asks for the device it has been told about**, and the answer does not come. -/
theorem deadlocked_info :
    ¬ ∀ h, system.Legal h → ¬ Deadlocked (Waits (system.exec h)) := by
  intro hclaim
  refine hclaim (plugIn ++ [.issue 0 0 1 (.getDeviceInfo "001/005".toList)]) (by decide) ?_
  exact (stuck_of_issue (h := plugIn) (by decide) (by decide) rfl).deadlocked

/-! ## For good -/

/-- A party that moves is not one that is elsewhere. -/
lemma update_elsewhere {ρ : Type} {f : ℕ → ρ} {i i' : ℕ} (h : f i' ≠ f i) (v : ρ) :
    Function.update f i' v i = f i :=
  Function.update_of_ne (fun heq => h (congrArg f heq.symm)) v f

lemma Stuck.of_eq {s s' : State} {j c k : ℕ} (h : Stuck s j c k)
    (hworker : s'.workers j = s.workers j) (hcallback : s'.callbacks c = s.callbacks c)
    (hcall : s'.calls k = s.calls k) (hlock : s'.adminLock = s.adminLock) : Stuck s' j c k := by
  refine ⟨?_, hcallback.trans h.callback, ?_, hlock.trans h.lock⟩
  · rw [hworker]; exact h.worker
  · rw [hcall]; exact h.call

/-- Whoever can take a step is none of the three, and does not have the lock. -/
lemma stuck_next {s : State} {j c k : ℕ} (h : Stuck s j c k) (hs : Consistent s) {a : Action}
    (ha : s.Enabled a) : Stuck (s.next a) j c k := by
  obtain ⟨index, hworker⟩ := h.worker
  obtain ⟨call, hcall, htakes⟩ := h.call
  have hcallback := h.callback
  have hlock := h.lock
  cases a with
  | take j' =>
      refine h.of_eq (update_elsewhere ?_ _) rfl rfl rfl
      rw [show s.workers j' = _ from ha, hworker]
      simp
  | lockWorker j' =>
      exact absurd (hlock.symm.trans ha.2) (by simp)
  | notify j' index' c' =>
      refine h.of_eq (update_elsewhere ?_ _) (update_elsewhere ?_ _) rfl rfl
      · rw [ha.1, hworker]; simp
      · rw [ha.2.2, hcallback]; simp
  | issue c' j' k' call' =>
      refine h.of_eq rfl (update_elsewhere ?_ _) (update_elsewhere ?_ _) rfl
      · rw [ha.1, hcallback]; simp
      · rw [ha.2, hcall]; simp
  | resume c' j' k' =>
      refine h.of_eq rfl (update_elsewhere ?_ _) rfl rfl
      obtain ⟨hwaiting, hreturned⟩ := ha
      rw [hwaiting, hcallback]
      intro heq
      rw [(Callback.waiting.inj heq).2, hcall] at hreturned
      exact absurd hreturned (by simp)
  | returnCallback c' j' index' =>
      obtain ⟨hrunning, hcalling⟩ := ha
      refine h.of_eq (update_elsewhere ?_ _) (update_elsewhere ?_ _) rfl rfl
      · rw [hcalling, hworker]
        intro heq
        rw [(Worker.calling.inj heq).2, hcallback] at hrunning
        exact absurd hrunning (by simp)
      · rw [hrunning, hcallback]; simp
  | finish j' index' =>
      have howner := (hs.worker j').mp (by rw [ha.1]; rfl)
      rw [hlock] at howner
      obtain rfl := worker_injective (Option.some.inj howner)
      exact absurd (hworker.symm.trans ha.1) (by simp)
  | call k' call' =>
      refine h.of_eq rfl rfl (update_elsewhere ?_ _) rfl
      rw [show s.calls k' = _ from ha, hcall]
      simp
  | lockCall k' call' =>
      exact absurd (hlock.symm.trans ha.2.2) (by simp)
  | runCall k' call' =>
      refine h.of_eq rfl rfl (update_elsewhere ?_ _) rfl
      rcases ha with hlocked | ⟨hcalled, hnone⟩
      · rw [hlocked, hcall]; simp
      · rw [hcalled, hcall]
        intro heq
        rw [Serving.called.inj heq, htakes] at hnone
        exact absurd hnone (by simp)
  | unlockCall k' call' =>
      have hdone : s.calls k' = .done call' := ha
      refine h.of_eq rfl rfl (update_elsewhere (by rw [hdone, hcall]; simp) _) ?_
      show (if call'.takesLock then none else s.adminLock) = s.adminLock
      refine if_neg fun htakes' => ?_
      have howner := (hs.serving k').mp (by rw [hdone]; exact htakes')
      rw [hlock] at howner
      exact absurd howner (by simp)
  | returnCall k' =>
      refine h.of_eq rfl rfl (update_elsewhere ?_ _) rfl
      rw [show s.calls k' = _ from ha, hcall]
      simp

/-- **Nobody gets out of it.** -/
theorem Stuck.of_legal {h h' : List Action} (hl : system.Legal (h ++ h')) {j c k : ℕ}
    (hstuck : Stuck (system.exec h) j c k) : Stuck (system.exec (h ++ h')) j c k := by
  induction h' using List.reverseRecOn with
  | nil => simpa using hstuck
  | append_singleton h' a ih =>
      rw [← List.append_assoc] at hl ⊢
      obtain ⟨hlh, ha⟩ := (system.legal_snoc _ _).mp hl
      rw [System.exec_snoc]
      exact stuck_next (ih hlh) (consistent_of_legal hlh) ha

end Waiting

end Usb
