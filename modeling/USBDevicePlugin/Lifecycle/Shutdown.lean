import USBDevicePlugin.Lifecycle.ExactlyOnce

/-!
# Shutdown

The references to a `USBDeviceImplementation`, its destructor, its event thread and the jobs that
point to it.  A job takes a reference when it is constructed and gives it back when it is
destroyed; the owner has one as well.  The reference count starts the destructor when it reaches
zero, and nothing stops the destructor any more.

The event thread has no reference.  It may be describing a device when the last one goes, and the
destructor waits for it: deregistering a callback does not wait for one that runs, joining the
thread does.  By then the callback can have submitted a job, whose reference brings the count back
from zero.

* **`job_outlives`** — with that job the destructor completes, and is started again.
* **`noJobOutlives_of_legal`** — nothing of the kind happens as long as no job is constructed when
  the count is zero.
* `destroyed_twice` — and when one is, the rest follows.
* **`ownerRelease_last_iff`** — the owner's reference is the last one exactly when no job is left.
-/

namespace Usb

open TransitionSystem

namespace Shutdown

/-! ## Threads -/

/-- A job, from its construction to its destruction. -/
inductive JobState
  | created
  | queued
  | running
  | ended
  | destroyed
  deriving DecidableEq, Repr

/-- The job has a reference. -/
def JobState.refers : JobState → Bool
  | .destroyed => false
  | _ => true

/-- A worker has the job or can get it. -/
def JobState.pending : JobState → Bool
  | .queued => true
  | .running => true
  | _ => false

lemma JobState.pending_of_not_refers :
    ∀ {job : JobState}, job.refers = false → job.pending = false
  | .destroyed, _ => rfl

/-- `~USBDeviceImplementation`, by the last step of `libUSBClose` it has taken. -/
inductive Destructor
  | started
  | flagCleared
  | arrivalsDeregistered
  | departuresDeregistered
  | joined
  | completed
  deriving DecidableEq, Repr

/-- `libUSBEventsHandlingThread`: about to look at the flag, inside `libusb_handle_events`, or
inside a callback.  What matters of a callback is whether it will submit a job. -/
inductive EventThread
  | checking
  | handling
  | describing (submits : Bool)
  | described (submits : Bool)
  | submitting (j : ℕ)
  | returning
  | exited
  deriving DecidableEq, Repr

/-- The object and those who use it.  Jobs and runs of the destructor are listed in the order in
which they began. -/
structure State where
  refCount : ℕ
  owner : Bool
  handlingUSBDeviceEvents : Bool
  registered : Event → Bool
  eventThread : EventThread
  jobs : List JobState
  destructors : List Destructor

inductive Action
  | ownerRelease
  | clearFlag (d : ℕ)
  | deregister (d : ℕ) (event : Event)
  | join (d : ℕ)
  | exitLibusb (d : ℕ)
  | handleEvents
  | exitThread
  | enterCallback (event : Event) (world : World)
  | describe (submits : Bool)
  | createJob
  | submit (j : ℕ)
  | returnCallback
  | leaveHandleEvents
  | take (j : ℕ)
  | finish (j : ℕ)
  | destroyJob (j : ℕ)

namespace State

/-- `AddRef`. -/
def addRef (s : State) : State := { s with refCount := s.refCount + 1 }

/-- `Release`: the last reference starts the destructor. -/
def release (s : State) : State :=
  { s with
    refCount := s.refCount - 1
    destructors := if s.refCount = 1 then s.destructors ++ [.started] else s.destructors }

/-- When a step may be taken. -/
def Enabled (s : State) : Action → Prop
  | .ownerRelease => s.owner = true
  | .clearFlag d => s.destructors[d]? = some .started
  | .deregister d .deviceArrived => s.destructors[d]? = some .flagCleared
  | .deregister d .deviceLeft => s.destructors[d]? = some .arrivalsDeregistered
  | .join d => s.destructors[d]? = some .departuresDeregistered ∧ s.eventThread = .exited
  | .exitLibusb d => s.destructors[d]? = some .joined
  | .handleEvents => s.eventThread = .checking ∧ s.handlingUSBDeviceEvents = true
  | .exitThread => s.eventThread = .checking ∧ s.handlingUSBDeviceEvents = false
  | .enterCallback event _ => s.eventThread = .handling ∧ s.registered event = true
  | .describe submits => s.eventThread = .describing submits
  | .createJob => s.eventThread = .described true
  | .submit j => s.eventThread = .submitting j ∧ s.jobs[j]? = some .created
  | .returnCallback => s.eventThread = .described false ∨ s.eventThread = .returning
  | .leaveHandleEvents => s.eventThread = .handling
  | .take j => s.jobs[j]? = some .queued
  | .finish j => s.jobs[j]? = some .running
  | .destroyJob j => s.jobs[j]? = some .ended

/-- What a step does. -/
def next (s : State) : Action → State
  | .ownerRelease => { s with owner := false }.release
  | .clearFlag d =>
      { s with
        handlingUSBDeviceEvents := false
        destructors := s.destructors.set d .flagCleared }
  | .deregister d .deviceArrived =>
      { s with
        registered := Function.update s.registered .deviceArrived false
        destructors := s.destructors.set d .arrivalsDeregistered }
  | .deregister d .deviceLeft =>
      { s with
        registered := Function.update s.registered .deviceLeft false
        destructors := s.destructors.set d .departuresDeregistered }
  | .join d => { s with destructors := s.destructors.set d .joined }
  | .exitLibusb d => { s with destructors := s.destructors.set d .completed }
  | .handleEvents => { s with eventThread := .handling }
  | .exitThread => { s with eventThread := .exited }
  | .enterCallback event world =>
      { s with eventThread := .describing (world.job event).isSome }
  | .describe submits => { s with eventThread := .described submits }
  | .createJob =>
      { s.addRef with
        eventThread := .submitting s.jobs.length
        jobs := s.jobs ++ [.created] }
  | .submit j => { s with eventThread := .returning, jobs := s.jobs.set j .queued }
  | .returnCallback => { s with eventThread := .handling }
  | .leaveHandleEvents => { s with eventThread := .checking }
  | .take j => { s with jobs := s.jobs.set j .running }
  | .finish j => { s with jobs := s.jobs.set j .ended }
  | .destroyJob j => { s with jobs := s.jobs.set j .destroyed }.release

end State

/-- The object at work, from the time its construction is over. -/
def system : System State Action where
  init :=
    { refCount := 1
      owner := true
      handlingUSBDeviceEvents := true
      registered := fun _ => true
      eventThread := .checking
      jobs := []
      destructors := [] }
  Enabled := State.Enabled
  next := State.next

instance (s : State) : ∀ a : Action, Decidable (system.Enabled s a)
  | .ownerRelease | .clearFlag _ | .deregister _ .deviceArrived | .deregister _ .deviceLeft
  | .exitLibusb _ | .describe _ | .createJob | .leaveHandleEvents | .take _ | .finish _
  | .destroyJob _ => inferInstanceAs (Decidable (_ = _))
  | .join _ | .handleEvents | .exitThread | .enterCallback .. | .submit _ =>
      inferInstanceAs (Decidable (_ ∧ _))
  | .returnCallback => inferInstanceAs (Decidable (_ ∨ _))

/-- What a reference count is for. -/
structure NoJobOutlives (s : State) : Prop where
  /-- When a destructor has completed, there is no job left for a worker to run. -/
  outlives : .completed ∈ s.destructors → ∀ job ∈ s.jobs, job.pending = false
  /-- The destructor is started at most once. -/
  once : s.destructors.length ≤ 1

/-! ## Counting references -/

/-- The jobs that have a reference. -/
def references (jobs : List JobState) : ℕ := jobs.countP JobState.refers

/-- A job that changes its state changes the number of references by its own. -/
lemma references_set {jobs : List JobState} {j : ℕ} {r : JobState} (hj : jobs[j]? = some r)
    (r' : JobState) :
    references (jobs.set j r') + r.refers.toNat = references jobs + r'.refers.toNat :=
  countP_set_add hj r'

lemma references_destroy {jobs : List JobState} {j : ℕ} (hj : jobs[j]? = some .ended) :
    references (jobs.set j .destroyed) + 1 = references jobs := references_set hj .destroyed

/-- The count is the number of references. -/
def Counted (s : State) : Prop := s.refCount = s.owner.toNat + references s.jobs

lemma counted_next {s : State} {a : Action} (hs : Counted s) (ha : s.Enabled a) :
    Counted (s.next a) := by
  have hset : ∀ {j r} r', s.jobs[j]? = some r → r.refers = r'.refers →
      s.refCount = s.owner.toNat + references (s.jobs.set j r') := by
    intro j r r' hj hr
    have := references_set hj r'
    rw [hr] at this
    rw [Counted] at hs
    omega
  cases a with
  | ownerRelease =>
      rw [Counted, show s.owner = true from ha, Bool.toNat_true] at hs
      simp only [Counted, State.next, State.release, Bool.toNat_false]
      omega
  | createJob =>
      have hmore : references (s.jobs ++ [.created]) = references s.jobs + 1 :=
        List.countP_append
      rw [Counted] at hs
      simp only [Counted, State.next, State.addRef, hmore]
      omega
  | submit j => exact hset .queued ha.2 rfl
  | take j => exact hset .running ha rfl
  | finish j => exact hset .ended ha rfl
  | destroyJob j =>
      have hdrop := references_destroy ha
      rw [Counted] at hs
      simp only [Counted, State.next, State.release]
      omega
  | deregister d event => cases event <;> exact hs
  | _ => exact hs

lemma counted_of_legal {h : List Action} (hl : system.Legal h) : Counted (system.exec h) :=
  System.invariant (S := system) (I := fun _ s => Counted s) rfl
    (fun _ _ _ hs ha => counted_next hs ha) hl

/-! ## The destructor -/

/-- A job is constructed only while somebody else has a reference. -/
def Referenced (s : State) : Action → Prop
  | .createJob => 0 < s.refCount
  | _ => True

instance (s : State) : ∀ a : Action, Decidable (Referenced s a)
  | .createJob => inferInstanceAs (Decidable (0 < s.refCount))
  | .ownerRelease | .clearFlag _ | .deregister .. | .join _ | .exitLibusb _ | .handleEvents
  | .exitThread | .enterCallback .. | .describe _ | .submit _ | .returnCallback
  | .leaveHandleEvents | .take _ | .finish _ | .destroyJob _ => inferInstanceAs (Decidable True)

/-- How often the destructor has been started, by the count. -/
def StartedAtZero (s : State) : Prop :=
  s.destructors.length = if s.refCount = 0 then 1 else 0

lemma startedAtZero_release {s : State} (hs : StartedAtZero s) (hpos : 0 < s.refCount) :
    StartedAtZero s.release := by
  rw [StartedAtZero, if_neg hpos.ne'] at hs
  by_cases hlast : s.refCount = 1
  · simp [StartedAtZero, State.release, hlast, hs]
  · have hmore : s.refCount - 1 ≠ 0 := by omega
    simp only [StartedAtZero, State.release, if_neg hlast, if_neg hmore, hs]

lemma startedAtZero_next {s : State} {a : Action} (hcount : Counted s) (hs : StartedAtZero s)
    (ha : s.Enabled a) (href : Referenced s a) : StartedAtZero (s.next a) := by
  cases a with
  | ownerRelease =>
      have hpos : 0 < s.refCount := by
        rw [Counted, show s.owner = true from ha, Bool.toNat_true] at hcount
        omega
      exact startedAtZero_release (s := { s with owner := false }) hs hpos
  | createJob =>
      have hpos : 0 < s.refCount := href
      rw [StartedAtZero, if_neg hpos.ne'] at hs
      exact hs
  | destroyJob j =>
      have hdrop := references_destroy ha
      have hpos : 0 < s.refCount := by
        rw [Counted] at hcount
        omega
      exact startedAtZero_release (s := { s with jobs := s.jobs.set j .destroyed }) hs hpos
  | deregister d event =>
      cases event <;> exact (List.length_set).trans hs
  | clearFlag d => exact (List.length_set).trans hs
  | join d => exact (List.length_set).trans hs
  | exitLibusb d => exact (List.length_set).trans hs
  | _ => exact hs

lemma startedAtZero_of_legal {h : List Action} (hl : (system.restrict Referenced).Legal h) :
    StartedAtZero (system.exec h) :=
  System.invariant (S := system.restrict Referenced) (I := fun _ s => StartedAtZero s) rfl
    (fun _ _ hlh hs ha => startedAtZero_next (counted_of_legal hlh.of_restrict) hs ha.1 ha.2) hl

/-- The owner drops the last reference while a callback describes its device.  The destructor waits
for the callback, which submits its job. -/
def lastReleaseInCallback : List Action :=
  [.handleEvents, .enterCallback .deviceArrived Delivery.sampleWorld, .ownerRelease, .clearFlag 0,
    .deregister 0 .deviceArrived, .deregister 0 .deviceLeft, .describe true, .createJob, .submit 0,
    .returnCallback, .leaveHandleEvents, .exitThread, .join 0, .exitLibusb 0]

/-- **A job outlives the object.**  It waits for a worker when the destructor has completed, and
its own reference, when it is given back, starts the destructor again. -/
theorem job_outlives :
    (¬ ∀ h, system.Legal h → .completed ∈ (system.exec h).destructors →
      ∀ job ∈ (system.exec h).jobs, job.pending = false) ∧
    ¬ ∀ h, system.Legal h → (system.exec h).destructors.length ≤ 1 := by
  constructor
  · intro hclaim
    have hjob := hclaim lastReleaseInCallback (by decide) (by decide) .queued (by decide)
    exact absurd hjob (by decide)
  · intro hclaim
    have honce := hclaim (lastReleaseInCallback ++ [.take 0, .finish 0, .destroyJob 0]) (by decide)
    exact absurd honce (by decide)

/-- **No job outlives the object** in a run that constructs jobs only while the object is
referenced. -/
theorem noJobOutlives_of_legal {h : List Action} (hl : (system.restrict Referenced).Legal h) :
    NoJobOutlives (system.exec h) where
  outlives hcompleted job hjob := by
    have hcount := counted_of_legal hl.of_restrict
    have hstarted := startedAtZero_of_legal hl
    have hlength := List.length_pos_of_mem hcompleted
    have hzero : (system.exec h).refCount = 0 := by
      by_contra hpos
      rw [StartedAtZero, if_neg hpos] at hstarted
      omega
    rw [Counted, hzero] at hcount
    have hnone : references (system.exec h).jobs = 0 := by omega
    exact JobState.pending_of_not_refers (by simpa using List.countP_eq_zero.mp hnone job hjob)
  once := by
    have hstarted := startedAtZero_of_legal hl
    rw [StartedAtZero] at hstarted
    split_ifs at hstarted <;> omega

/-- The owner drops its reference when the job is with a worker: the job's is the last one. -/
theorem noJobOutlives_lastJob :
    NoJobOutlives (system.exec
      [.handleEvents, .enterCallback .deviceArrived Delivery.sampleWorld, .describe true, .createJob,
        .submit 0, .returnCallback, .leaveHandleEvents, .take 0, .ownerRelease, .finish 0,
        .destroyJob 0, .clearFlag 0, .exitThread, .deregister 0 .deviceArrived,
        .deregister 0 .deviceLeft, .join 0, .exitLibusb 0]) :=
  noJobOutlives_of_legal (by decide)

/-! ## The owner's Release -/

/-- What `Release` returns: `Core::ERROR_DESTRUCTION_SUCCEEDED` for the last reference. -/
inductive ReleaseResult
  | errorNone
  | errorDestructionSucceeded
  deriving DecidableEq, Repr

def State.releaseResult (s : State) : ReleaseResult :=
  if s.refCount = 1 then .errorDestructionSucceeded else .errorNone

lemma references_eq_zero_iff {jobs : List JobState} :
    references jobs = 0 ↔ ∀ job ∈ jobs, job = .destroyed := by
  have hrefers : ∀ job : JobState, ¬ job.refers = true ↔ job = .destroyed := by
    intro job
    cases job <;> simp [JobState.refers]
  simp only [references, List.countP_eq_zero, hrefers]

/-- **`Deinitialize` drops the last reference exactly when no job is left**: queued, running, or
waiting to be destroyed, each has a reference of its own. -/
theorem ownerRelease_last_iff {h : List Action} (hl : system.Legal h) {p q : List Action}
    (hrelease : h = p ++ .ownerRelease :: q) :
    ((system.exec p).releaseResult = .errorDestructionSucceeded ∧
      (system.exec (p ++ [.ownerRelease])).refCount = 0) ↔
      ∀ job ∈ (system.exec p).jobs, job = .destroyed := by
  subst hrelease
  have howner : (system.exec p).owner = true := hl.enabled_at
  have hcount := counted_of_legal hl.prefix
  rw [Counted, howner, Bool.toNat_true] at hcount
  have hafter : (system.exec (p ++ [.ownerRelease])).refCount = (system.exec p).refCount - 1 := by
    rw [System.exec_snoc]
    rfl
  have hresult : (system.exec p).releaseResult = .errorDestructionSucceeded ↔
      (system.exec p).refCount = 1 := by
    rw [State.releaseResult]
    split_ifs with hone <;> simp [hone]
  rw [← references_eq_zero_iff, hresult, hafter]
  omega

/-- A device arrives and its job has been destroyed when the owner lets go. -/
theorem ownerRelease_last_idle :
    let p : List Action :=
      [.handleEvents, .enterCallback .deviceArrived Delivery.sampleWorld, .describe true, .createJob,
        .submit 0, .returnCallback, .take 0, .finish 0, .destroyJob 0]
    ((system.exec p).releaseResult = .errorDestructionSucceeded ∧
      (system.exec (p ++ [.ownerRelease])).refCount = 0) ↔
      ∀ job ∈ (system.exec p).jobs, job = .destroyed :=
  ownerRelease_last_iff (q := []) (by decide) rfl

/-- **A job is still queued.**  The owner's `Release` leaves one reference, and the assertion after
it fails. -/
theorem ownerRelease_not_last :
    ¬ ∀ (h p q : List Action), system.Legal h → h = p ++ .ownerRelease :: q →
      (system.exec p).releaseResult = .errorDestructionSucceeded := by
  intro hclaim
  have hqueued := hclaim
    [.handleEvents, .enterCallback .deviceArrived Delivery.sampleWorld, .describe true, .createJob,
      .submit 0, .ownerRelease]
    [.handleEvents, .enterCallback .deviceArrived Delivery.sampleWorld, .describe true, .createJob,
      .submit 0] [] (by decide) rfl
  exact absurd hqueued (by decide)

/-! ## Without the reference -/

/-- A count of zero has started the destructor. -/
lemma started_of_zero {h : List Action} (hl : system.Legal h) :
    (system.exec h).refCount = 0 → (system.exec h).destructors ≠ [] := by
  refine System.invariant (S := system) (I := fun _ s => s.refCount = 0 → s.destructors ≠ [])
    (fun h => absurd h (by decide)) ?_ hl
  intro h a _ hs _
  have hrelease : ∀ s : State, (s.refCount = 0 → s.destructors ≠ []) →
      s.release.refCount = 0 → s.release.destructors ≠ [] := by
    intro s hs hzero
    by_cases hlast : s.refCount = 1
    · simp [State.release, hlast]
    · have : s.refCount = 0 := by
        simp only [State.release] at hzero
        omega
      simpa [State.release, hlast] using hs this
  cases a with
  | ownerRelease => exact hrelease _ hs
  | destroyJob j => exact hrelease _ hs
  | createJob => exact fun hzero => absurd hzero (Nat.succ_ne_zero _)
  | clearFlag d => simpa [system, State.next] using hs
  | deregister d event => cases event <;> simpa [system, State.next] using hs
  | join d => simpa [system, State.next] using hs
  | exitLibusb d => simpa [system, State.next] using hs
  | _ => exact hs

/-- A job from its construction to its destruction, with nothing in between. -/
def jobSteps (j : ℕ) : List Action := [.createJob, .submit j, .take j, .finish j, .destroyJob j]

lemma legalFrom_jobSteps {s : State} (hs : s.eventThread = .described true) :
    system.LegalFrom s (jobSteps s.jobs.length) := by
  simp [jobSteps, System.LegalFrom, system, State.Enabled, State.next, State.addRef, hs]

lemma destructors_jobSteps (s : State) :
    ((jobSteps s.jobs.length).foldl system.next s).destructors =
      if s.refCount = 0 then s.destructors ++ [.started] else s.destructors := by
  simp [jobSteps, system, State.next, State.addRef, State.release]

/-- **A job constructed when the count is zero** starts the destructor again as soon as it has
run. -/
theorem destroyed_twice {h : List Action} (hl : system.Legal h)
    (hcreate : system.Enabled (system.exec h) .createJob) (hzero : (system.exec h).refCount = 0) :
    ∃ h', system.Legal (h ++ .createJob :: h') ∧
      1 < (system.exec (h ++ .createJob :: h')).destructors.length := by
  refine ⟨(jobSteps (system.exec h).jobs.length).tail, ?_, ?_⟩
  · exact (system.legalFrom_append h _ _).mpr ⟨hl, legalFrom_jobSteps hcreate⟩
  · have hstarted := List.length_pos_iff.mpr (started_of_zero hl hzero)
    have hagain := destructors_jobSteps (system.exec h)
    rw [if_pos hzero] at hagain
    rw [System.exec, List.foldl_append]
    exact hagain ▸ by simpa using hstarted

end Shutdown

end Usb
