import USBDevicePlugin.Lifecycle.ExactlyOnce

/-!
# The order of delivery

The event thread runs callbacks one after the other and the pool hands out jobs in the order of
their submission.  Neither decides in which order events are delivered: a job delivers when it has
`_adminLock`, and between leaving the pool and getting the lock a worker can be overtaken.

* **`calls_overtaken`** — with two workers, a departure can be delivered before the arrival.
* **`calls_in_order`** — the order in which the jobs get the lock is the order of delivery; with
  one worker it is the order of submission.
-/

namespace Usb

open TransitionSystem

namespace Delivery

/-! ## Scheduling assumptions -/

/-- The job waits in the pool. -/
def JobState.waits : JobState → Bool
  | .queued _ => true
  | _ => false

/-- A worker has the job. -/
def JobState.underWay : JobState → Bool
  | .taken _ => true
  | .dispatching _ _ => true
  | _ => false

/-- Jobs leave the pool in the order of submission, and a callback is entered when all earlier ones
have returned. -/
def InOrder (s : State) : Action → Prop
  | .take j _ => ∀ j' < j, (s.jobs j').waits = false
  | .enterCallback c _ _ => ∀ c' < c, s.callbacks c' = .returned
  | _ => True

instance (s : State) : ∀ a : Action, Decidable (InOrder s a)
  | .take j _ => inferInstanceAs (Decidable (∀ j' < j, (s.jobs j').waits = false))
  | .enterCallback c _ _ => inferInstanceAs (Decidable (∀ c' < c, s.callbacks c' = .returned))
  | .call .. | .lockRequest .. | .runRequest .. | .unlockRequest .. | .returnRequest ..
  | .submit .. | .returnCallback _ | .lockJob .. | .notify .. | .finish .. =>
      inferInstanceAs (Decidable True)

/-- There is one worker: it takes a job when it has none. -/
def OneWorker (s : State) : Action → Prop
  | .take _ _ => ∀ j, (s.jobs j).underWay = false
  | _ => True

/-- The object with an event thread and a pool that keep the order. -/
def ordered : System State Action := system.restrict InOrder

instance (s : State) (a : Action) : Decidable (ordered.Enabled s a) :=
  System.decidableEnabledRestrict system InOrder s a

/-! ## Cutting at the lock -/

lemma mem_callsOf {j : ℕ} {announcement : Announcement} {h : List Action} :
    announcement ∈ callsOf j h ↔ ∃ job index, .notify j job index announcement ∈ h := by
  constructor
  · intro hmem
    obtain ⟨a, ha, hsome⟩ := List.mem_filterMap.mp hmem
    cases a with
    | notify j' job index announcement' =>
        obtain ⟨rfl, rfl⟩ : j' = j ∧ announcement' = announcement := by simpa using hsome
        exact ⟨job, index, ha⟩
    | _ => simp at hsome
  · rintro ⟨job, index, ha⟩
    exact List.mem_filterMap.mpr ⟨_, ha, by simp⟩

/-- A job gets the lock once. -/
lemma lockJob_not_mem {p q : List Action} {j : ℕ} {job : Job}
    (hl : system.Legal (p ++ .lockJob j job :: q)) (job' : Job) : .lockJob j job' ∉ p := by
  have hrecord := jobRecord_of_legal hl.prefix j
  rw [show (system.exec p).jobs j = .taken job from hl.enabled_at.1] at hrecord
  exact hrecord.2.lockJob job'

/-- When the lock is free, a job that had it has called everything there was to call. -/
lemma callsOf_of_lock_free {p q : List Action} {j : ℕ} {job : Job}
    (hl : system.Legal (p ++ .lockJob j job :: q))
    (hfree : (system.exec (p ++ .lockJob j job :: q)).adminLock = none) :
    callsOf j (p ++ .lockJob j job :: q) = (system.exec p).notifications.map job.announce := by
  obtain ⟨-, ⟨index, hj, -, -⟩ | hcalls⟩ := dispatch_cases hl
  · have howner := (exclusive_of_legal hl).job j (by rw [hj]; rfl)
    rw [hfree] at howner
    exact absurd howner (by simp)
  · exact hcalls

/-- **Delivery follows the lock.** -/
lemma calls_in_lock_order {h : List Action} (hl : system.Legal h) {j₁ j₂ : ℕ} {job₁ job₂ job : Job}
    {n : Notification} {index : ℕ} {announcement : Announcement}
    (hlock : Precedes (.lockJob j₁ job₁) (.lockJob j₂ job₂) h)
    (hreg : ∀ p q, h = p ++ .lockJob j₁ job₁ :: q → n ∈ (system.exec p).notifications)
    (hcall : .notify j₂ job index announcement ∈ h) :
    ∃ job' index', Precedes (.notify j₁ job' index' (job₁.announce n))
      (.notify j₂ job index announcement) h := by
  obtain ⟨p, q, r, rfl⟩ := hlock
  have hl₁ : system.Legal (p ++ .lockJob j₁ job₁ :: q) := hl.prefix
  have hfirst := callsOf_of_lock_free hl₁ hl.enabled_at.2
  have hn : n ∈ (system.exec p).notifications := hreg p (q ++ .lockJob j₂ job₂ :: r) (by simp)
  obtain ⟨job', index', hmem⟩ :=
    mem_callsOf.mp (hfirst ▸ List.mem_map_of_mem hn : job₁.announce n ∈ callsOf j₁ _)
  have hnone := callsOf_eq_nil hl₁ fun job' => lockJob_not_mem hl job'
  have hlate : .notify j₂ job index announcement ∈ r := by
    rcases List.mem_append.mp hcall with hearly | hlate
    · have := mem_callsOf.mpr ⟨job, index, hearly⟩
      rw [hnone] at this
      exact absurd this List.not_mem_nil
    · simpa using hlate
  obtain ⟨p', q', hpq⟩ := List.append_of_mem hmem
  obtain ⟨r₁, r₂, rfl⟩ := List.append_of_mem hlate
  exact ⟨job', index', p', q' ++ .lockJob j₂ job₂ :: r₁, r₂, by rw [hpq]; simp⟩

/-! ## One worker -/

/-- Jobs are numbered in the order of submission. -/
lemma lt_of_precedes {h : List Action} (hl : system.Legal h) {c₁ c₂ j₁ j₂ : ℕ} {job₁ job₂ : Job}
    (hevents : Precedes (.submit c₁ j₁ job₁) (.submit c₂ j₂ job₂) h) : j₁ < j₂ := by
  obtain ⟨p, q, r, rfl⟩ := hevents
  have hids := (numbered_of_legal hl).jobIds
  have hsorted := List.pairwise_lt_range (n := (system.exec (p ++ .submit c₁ j₁ job₁ :: q ++
    .submit c₂ j₂ job₂ :: r)).submitted)
  rw [← hids, jobIds_append, List.pairwise_append] at hsorted
  exact hsorted.2.2 j₁ (by simp [jobIds]) j₂ (by simp [jobIds])

/-- A number belongs to one job. -/
lemma submit_unique {h : List Action} (hl : system.Legal h) {c c' j : ℕ} {job job' : Job}
    (hsub : .submit c j job ∈ h) (hsub' : .submit c' j job' ∈ h) : c = c' ∧ job = job' := by
  by_contra hne
  have hdiff : (.submit c j job : Action) ≠ .submit c' j job' := by
    intro heq
    obtain ⟨hc, -, hjob⟩ := Action.submit.inj heq
    exact hne ⟨hc, hjob⟩
  rcases precedes_or_precedes hdiff hsub hsub' with h₁ | h₂
  · exact absurd (lt_of_precedes hl h₁) (lt_irrefl j)
  · exact absurd (lt_of_precedes hl h₂) (lt_irrefl j)

/-- The job has left the pool. -/
def JobState.left : JobState → Bool
  | .absent => false
  | .queued _ => false
  | _ => true

/-- A job leaves the pool when all earlier ones are finished. -/
def Sequential (s : State) : Prop :=
  ∀ j, (s.jobs j).left = true → ∀ j' < j, s.jobs j' = .finished

/-- The step of the job under way: the jobs before it are finished and not touched again, those
after it are still in the pool. -/
lemma Sequential.update {s : State} (hs : Sequential s) {j₀ : ℕ} {r r' : JobState}
    (hj₀ : s.jobs j₀ = r) (hleft : r.left = true) (hr : r ≠ .finished) :
    ∀ j, (Function.update s.jobs j₀ r' j).left = true →
      ∀ j' < j, Function.update s.jobs j₀ r' j' = .finished := by
  subst hj₀
  intro j hj j' hj'
  by_cases hjj : j = j₀
  · subst hjj
    rw [Function.update_of_ne hj'.ne]
    exact hs j hleft j' hj'
  · rw [Function.update_of_ne hjj] at hj
    have hle : j ≤ j₀ := by
      by_contra hlt
      exact hr (hs j hj j₀ (not_le.mp hlt))
    rw [Function.update_of_ne (by omega)]
    exact hs j hj j' hj'

/-- A job that is submitted has not left the pool, and none that has left comes after it. -/
lemma Sequential.submit {s : State} (hs : Sequential s)
    (habsent : ∀ j, s.jobs j = .absent ↔ s.submitted ≤ j) {job : Job} :
    ∀ j, (Function.update s.jobs s.submitted (.queued job) j).left = true →
      ∀ j' < j, Function.update s.jobs s.submitted (.queued job) j' = .finished := by
  intro j hj j' hj'
  by_cases hjj : j = s.submitted
  · subst hjj
    simp [JobState.left] at hj
  · rw [Function.update_of_ne hjj] at hj
    have hlt : j < s.submitted := by
      by_contra hge
      rw [(habsent j).mpr (not_lt.mp hge)] at hj
      exact absurd hj (by simp [JobState.left])
    rw [Function.update_of_ne (by omega)]
    exact hs j hj j' hj'

/-- A job taken from the pool: those before it have left the pool, and no worker has one. -/
lemma Sequential.take {s : State} (hs : Sequential s) {j₀ : ℕ} {job : Job} (hj₀ : s.jobs j₀ = .queued job)
    (hpresent : ∀ j < j₀, s.jobs j ≠ .absent) (hnone : ∀ j < j₀, (s.jobs j).waits = false)
    (hidle : ∀ j, (s.jobs j).underWay = false) {r : JobState} :
    ∀ j, (Function.update s.jobs j₀ r j).left = true →
      ∀ j' < j, Function.update s.jobs j₀ r j' = .finished := by
  intro j hj j' hj'
  by_cases hjj : j = j₀
  · subst hjj
    rw [Function.update_of_ne hj'.ne]
    cases hstate : s.jobs j' with
    | absent => exact absurd hstate (hpresent j' hj')
    | queued job' => simpa [hstate, JobState.waits] using hnone j' hj'
    | taken job' => simpa [hstate, JobState.underWay] using hidle j'
    | dispatching job' index => simpa [hstate, JobState.underWay] using hidle j'
    | finished => rfl
  · rw [Function.update_of_ne hjj] at hj
    have hne : j' ≠ j₀ := by
      rintro rfl
      simpa [hj₀] using hs j hj j' hj'
    rw [Function.update_of_ne hne]
    exact hs j hj j' hj'

lemma sequential_of_legal {h : List Action} (hl : (ordered.restrict OneWorker).Legal h) :
    Sequential (system.exec h) := by
  refine System.invariant (S := ordered.restrict OneWorker) (I := fun _ s => Sequential s)
    (fun j hj => by simp [System.restrict, ordered, system, JobState.left] at hj) ?_ hl
  rintro h a hlh hs ⟨⟨ha, horder⟩, hidle⟩
  have habsent := (numbered_of_legal hlh.of_restrict.of_restrict).absent
  cases a with
  | submit c j job =>
      obtain ⟨-, rfl⟩ := ha
      exact hs.submit habsent
  | take j job =>
      refine hs.take ha (fun j' hj' habs => ?_) horder hidle
      have hle := (habsent j').mp habs
      have hj : (system.exec h).jobs j = .absent := (habsent j).mpr (by omega)
      rw [show (system.exec h).jobs j = .queued job from ha] at hj
      exact absurd hj (by simp)
  | lockJob j job => exact hs.update ha.1 rfl (by simp)
  | notify j job index announcement => exact hs.update ha.1 rfl (by simp)
  | finish j job index => exact hs.update ha.1 rfl (by simp)
  | _ => exact hs

lemma finished_of_lock {p q : List Action} {j₁ j₂ : ℕ} {job₂ : Job}
    (hl : (ordered.restrict OneWorker).Legal (p ++ .lockJob j₂ job₂ :: q)) (hlt : j₁ < j₂) :
    (system.exec p).jobs j₁ = .finished := by
  have hj₂ : (system.exec p).jobs j₂ = .taken job₂ := hl.enabled_at.1.1.1
  exact sequential_of_legal hl.prefix j₂ (by rw [hj₂]; rfl) j₁ hlt

/-- **One worker locks in the order of submission.** -/
lemma lock_in_submission_order {h : List Action} (hl : (ordered.restrict OneWorker).Legal h)
    {c₁ c₂ j₁ j₂ : ℕ} {job₁ job₂ : Job}
    (hevents : Precedes (.submit c₁ j₁ job₁) (.submit c₂ j₂ job₂) h)
    (hlock : .lockJob j₂ job₂ ∈ h) : Precedes (.lockJob j₁ job₁) (.lockJob j₂ job₂) h := by
  have hlegal : system.Legal h := hl.of_restrict.of_restrict
  have hsub : .submit c₁ j₁ job₁ ∈ h := hevents.sublist.subset (by simp)
  obtain ⟨p, q, rfl⟩ := List.append_of_mem hlock
  have hrecord := jobRecord_of_legal hlegal.prefix j₁
  rw [finished_of_lock hl (lt_of_precedes hlegal hevents)] at hrecord
  obtain ⟨job, p', q', rfl, ⟨c, hc⟩, -⟩ := hrecord
  have hsub' : .submit c j₁ job ∈ p' ++ .lockJob j₁ job :: q' ++ .lockJob j₂ job₂ :: q := by simp [hc]
  obtain ⟨-, rfl⟩ := submit_unique hlegal hsub hsub'
  exact ⟨p', q', q, by simp⟩

/-- A job that calls anything has the lock. -/
lemma exists_lockJob_of_call {h : List Action} (hl : system.Legal h) {c₁ c₂ j₁ j₂ : ℕ}
    {job₁ job₂ job : Job} {index : ℕ} {announcement : Announcement}
    (hevents : Precedes (.submit c₁ j₁ job₁) (.submit c₂ j₂ job₂) h)
    (hcall : .notify j₂ job index announcement ∈ h) : .lockJob j₂ job₂ ∈ h := by
  have hsub : .submit c₂ j₂ job₂ ∈ h := hevents.sublist.subset (by simp)
  have hcalls : callsOf j₂ h ≠ [] := List.ne_nil_of_mem (mem_callsOf.mpr ⟨job, index, hcall⟩)
  obtain ⟨job', hlock⟩ : ∃ job', .lockJob j₂ job' ∈ h := by
    by_contra hnone
    exact hcalls (callsOf_eq_nil hl (not_exists.mp hnone))
  obtain ⟨p, q, rfl⟩ := List.append_of_mem hlock
  obtain ⟨⟨c, hc⟩, -⟩ := delivered_of_legal hl
  have hsub' : .submit c j₂ job' ∈ p ++ .lockJob j₂ job' :: q := by simp [hc]
  obtain ⟨-, rfl⟩ := submit_unique hl hsub hsub'
  exact hlock

/-! ## Order of delivery -/

/-- From the submission of the job on, the notification is in the list. -/
def RegisteredSince (n : Notification) (j : ℕ) (h : List Action) : Prop :=
  ∀ i ≤ h.length, j ∈ jobIds (h.take i) → n ∈ (system.exec (h.take i)).notifications

instance (n : Notification) (j : ℕ) (h : List Action) : Decidable (RegisteredSince n j h) :=
  inferInstanceAs (Decidable (∀ i ≤ h.length, _ → _))

lemma RegisteredSince.mem {n : Notification} {j : ℕ} {p q : List Action}
    (hreg : RegisteredSince n j (p ++ q)) (hj : j ∈ jobIds p) : n ∈ (system.exec p).notifications := by
  have hp := hreg p.length (by simp)
  rw [List.take_left] at hp
  exact hp hj

/-- The notification hears of the later event only after it has heard of the earlier one. -/
def HeardInOrder (n : Notification) (h : List Action) (j₁ j₂ : ℕ) (job₁ job₂ : Job) : Prop :=
  ∀ job index, .notify j₂ job index (job₂.announce n) ∈ h →
    ∃ job' index', Precedes (.notify j₁ job' index' (job₁.announce n))
      (.notify j₂ job index (job₂.announce n)) h

/-- All calls, in the order in which they are made. -/
def callsMade (h : List Action) : List Announcement :=
  h.filterMap fun
    | .notify _ _ _ announcement => some announcement
    | _ => none

lemma sublist_callsMade {h : List Action} {j j' index index' : ℕ} {job job' : Job}
    {announcement announcement' : Announcement}
    (hprecedes : Precedes (.notify j job index announcement)
      (.notify j' job' index' announcement') h) :
    List.Sublist [announcement, announcement'] (callsMade h) := by
  simpa [callsMade] using hprecedes.sublist.filterMap fun
    | .notify _ _ _ announcement => some announcement
    | _ => none

/-- Notification 7 is registered, the disk comes and goes, and two workers take the two jobs. -/
def comeAndGo : List Action :=
  requestSteps 0 .register 7 .errorNone ++
    callbackSteps 0 0 .deviceArrived sampleWorld (sampleJob .deviceArrived) ++
    callbackSteps 1 1 .deviceLeft sampleWorld (sampleJob .deviceLeft) ++
    [.take 0 (sampleJob .deviceArrived), .take 1 (sampleJob .deviceLeft)]

/-- A job for this disk, inside the lock. -/
def dispatchSteps (j : ℕ) (event : Event) : List Action :=
  [.lockJob j (sampleJob event), .notify j (sampleJob event) 0 ((sampleJob event).announce 7),
    .finish j (sampleJob event) 1]

/-- **The order of submission is not the order of delivery.** -/
theorem calls_overtaken :
    ¬ ∀ (h : List Action) (n : Notification) (c₁ c₂ j₁ j₂ : ℕ) (job₁ job₂ : Job),
      ordered.Legal h → Precedes (.submit c₁ j₁ job₁) (.submit c₂ j₂ job₂) h →
        RegisteredSince n j₁ h → HeardInOrder n h j₁ j₂ job₁ job₂ := by
  intro hclaim
  -- the worker with the departure gets the lock before the worker with the arrival
  obtain ⟨job', index', hprecedes⟩ :=
    hclaim (comeAndGo ++ dispatchSteps 1 .deviceLeft ++ dispatchSteps 0 .deviceArrived) 7 0 1 0 1
      (sampleJob .deviceArrived) (sampleJob .deviceLeft) (by decide)
      ⟨requestSteps 0 .register 7 .errorNone ++ [.enterCallback 0 .deviceArrived sampleWorld],
        [.returnCallback 0, .enterCallback 1 .deviceLeft sampleWorld], _, rfl⟩
      (by decide) (sampleJob .deviceLeft) 0 (by simp [dispatchSteps])
  exact absurd (sublist_callsMade hprecedes) (by decide)

/-- **Delivery is in the order of the events** if the earlier job gets the lock first, and it does
if there is one worker. -/
theorem calls_in_order {h : List Action} (hl : ordered.Legal h) {n : Notification}
    {c₁ c₂ j₁ j₂ : ℕ} {job₁ job₂ : Job}
    (hevents : Precedes (.submit c₁ j₁ job₁) (.submit c₂ j₂ job₂) h)
    (hreg : RegisteredSince n j₁ h)
    (horder : Precedes (.lockJob j₁ job₁) (.lockJob j₂ job₂) h ∨
      (ordered.restrict OneWorker).Legal h) :
    HeardInOrder n h j₁ j₂ job₁ job₂ := by
  have hlegal : system.Legal h := hl.of_restrict
  intro job index hcall
  have hlock₂ := exists_lockJob_of_call hlegal hevents hcall
  have hlocks : Precedes (.lockJob j₁ job₁) (.lockJob j₂ job₂) h :=
    horder.elim id fun hone => lock_in_submission_order hone hevents hlock₂
  refine calls_in_lock_order hlegal hlocks (fun p q hpq => ?_) hcall
  subst hpq
  obtain ⟨⟨c, hsub⟩, -⟩ := delivered_of_legal hlegal
  exact hreg.mem (List.mem_filterMap.mpr ⟨_, hsub, rfl⟩)

/-- The worker with the arrival is the first to get the lock. -/
theorem calls_in_order_sampleDisk :
    HeardInOrder 7 (comeAndGo ++ dispatchSteps 0 .deviceArrived ++ dispatchSteps 1 .deviceLeft) 0 1
      (sampleJob .deviceArrived) (sampleJob .deviceLeft) :=
  calls_in_order (by decide)
    ⟨requestSteps 0 .register 7 .errorNone ++ [.enterCallback 0 .deviceArrived sampleWorld],
      [.returnCallback 0, .enterCallback 1 .deviceLeft sampleWorld], _, rfl⟩
    (by decide)
    (Or.inl ⟨comeAndGo, (dispatchSteps 0 .deviceArrived).tail, (dispatchSteps 1 .deviceLeft).tail,
      rfl⟩)

end Delivery

end Usb
