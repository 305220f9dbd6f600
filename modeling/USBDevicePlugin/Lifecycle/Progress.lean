import USBDevicePlugin.Core.Progress
import USBDevicePlugin.Lifecycle.Order

/-!
# Everything gets done

Requests, callbacks and jobs wait for each other: for `_adminLock`, for a worker, for the jobs
before them.  No waiting is in vain.  However they are scheduled, a bounded number of steps is left
to those that are under way, and as long as there is one, it can be taken, even if there is only one
worker and the pool keeps the order.

* `work` — a bound on the steps left.
* `Settled` — nobody is under way.
* **`delivery_progress`** — left alone, the object gets everything done.
-/

namespace Usb

open TransitionSystem

namespace Delivery

/-! ## What is left to do -/

/-- Only clients and libusb bring work. -/
def Action.Own : Action → Prop
  | .call .. => False
  | .enterCallback .. => False
  | _ => True

/-- Nobody is under way, and the lock is free. -/
structure Settled (s : State) : Prop where
  free : s.adminLock = none
  requests : ∀ k, s.requests k = .absent ∨ s.requests k = .returned
  callbacks : ∀ c, s.callbacks c = .absent ∨ s.callbacks c = .returned
  jobs : ∀ j, s.jobs j = .absent ∨ s.jobs j = .finished

/-- The steps a request has to take, -/
def Request.work : Request → ℕ
  | .called _ _ => 4
  | .locked _ _ => 3
  | .done _ _ _ => 2
  | .unlocked _ _ _ => 1
  | _ => 0

/-- a job, if the list may grow to `room` notifications, -/
def JobState.work (room : ℕ) : JobState → ℕ
  | .queued _ => room + 3
  | .taken _ => room + 2
  | .dispatching _ index => room - index + 1
  | _ => 0

/-- and a callback with the job it submits. -/
def Callback.work (room : ℕ) : Callback → ℕ
  | .described (some _) => room + 5
  | .described none => 1
  | .dispatched => 1
  | _ => 0

/-- A request that has yet to touch the list. -/
def Request.pending : Request → ℕ
  | .called _ _ => 1
  | .locked _ _ => 1
  | _ => 0

/-- How long the list may grow. -/
def State.room (s : State) (requests : Finset ℕ) : ℕ :=
  s.notifications.length + ∑ k ∈ requests, (s.requests k).pending

/-- The steps left to these requests and callbacks, and to all jobs. -/
def work (requests callbacks : Finset ℕ) (s : State) : ℕ :=
  ∑ k ∈ requests, (s.requests k).work +
    (∑ c ∈ callbacks, (s.callbacks c).work (s.room requests) +
      ∑ j ∈ Finset.range s.submitted, (s.jobs j).work (s.room requests))

/-- These are the requests and callbacks there are, and the lock is with somebody who is inside. -/
structure Working (requests callbacks : Finset ℕ) (s : State) : Prop where
  exclusive : Exclusive s
  requests : ∀ k, s.requests k ≠ .absent → k ∈ requests
  callbacks : ∀ c, s.callbacks c ≠ .absent → c ∈ callbacks
  jobs : ∀ j, s.jobs j ≠ .absent → j < s.submitted
  request_of_lock : ∀ k, s.adminLock = some (.request k) → (s.requests k).holds = true
  job_of_lock : ∀ j, s.adminLock = some (.job j) → (s.jobs j).holds = true

variable {requests callbacks : Finset ℕ} {s : State}

lemma Working.next {requests' callbacks' : Finset ℕ} (hs : Working requests callbacks s)
    {a : Action} (ha : s.Enabled a) (hrequests : requests ⊆ requests')
    (hcallbacks : callbacks ⊆ callbacks') (hcall : ∀ k kind n, a = .call k kind n → k ∈ requests')
    (henter : ∀ c event w, a = .enterCallback c event w → c ∈ callbacks') :
    Working requests' callbacks' (s.next a) where
  exclusive := exclusive_next hs.exclusive ha
  requests k := by
    have hk := fun h => hrequests (hs.requests k h)
    cases a <;> simp only [State.Enabled, State.next, Function.update_apply] at ha ⊢ <;> grind
  callbacks c := by
    have hc := fun h => hcallbacks (hs.callbacks c h)
    cases a <;> simp only [State.Enabled, State.next, Function.update_apply] at ha ⊢ <;> grind
  jobs j := by
    have hj := hs.jobs j
    cases a <;> simp only [State.Enabled, State.next, Function.update_apply] at ha ⊢ <;> grind
  request_of_lock k := by
    have hk := hs.request_of_lock k
    have hexclusive := hs.exclusive
    cases a <;> simp only [State.Enabled, State.next, Function.update_apply] at ha ⊢ <;>
      grind [Request.holds, JobState.holds, Exclusive]
  job_of_lock j := by
    have hj := hs.job_of_lock j
    have hsubmitted := hs.jobs j
    have hexclusive := hs.exclusive
    cases a <;> simp only [State.Enabled, State.next, Function.update_apply] at ha ⊢ <;>
      grind [Request.holds, JobState.holds, Exclusive]

lemma Working.next_of_own (hs : Working requests callbacks s) {a : Action} (ha : s.Enabled a)
    (hown : a.Own) : Working requests callbacks (s.next a) :=
  hs.next ha (Finset.Subset.refl _) (Finset.Subset.refl _)
    (fun _ _ _ heq => (heq ▸ hown :).elim) (fun _ _ _ heq => (heq ▸ hown :).elim)

/-- The requests made, -/
def requestIds (h : List Action) : Finset ℕ :=
  (h.filterMap fun
    | .call k _ _ => some k
    | _ => none).toFinset

/-- and the callbacks entered. -/
def callbackIds (h : List Action) : Finset ℕ :=
  (h.filterMap fun
    | .enterCallback c _ _ => some c
    | _ => none).toFinset

lemma working_of_legal {h : List Action} (hl : system.Legal h) :
    Working (requestIds h) (callbackIds h) (system.exec h) := by
  refine System.invariant (S := system) (I := fun h s => Working (requestIds h) (callbackIds h) s)
    ⟨exclusive_of_legal (System.legal_nil _), nofun, nofun, nofun, nofun, nofun⟩ ?_ hl
  intro h a _ hs ha
  refine hs.next ha ?_ ?_ ?_ ?_
  · simp [requestIds, List.filterMap_append, Finset.subset_union_left]
  · simp [callbackIds, List.filterMap_append, Finset.subset_union_left]
  · rintro k kind n rfl
    simp [requestIds]
  · rintro c event w rfl
    simp [callbackIds]

/-! ## Every step leaves less -/

lemma JobState.work_mono {room room' : ℕ} (h : room' ≤ room) (r : JobState) :
    r.work room' ≤ r.work room := by
  cases r <;> simp only [JobState.work] <;> omega

lemma Callback.work_mono {room room' : ℕ} (h : room' ≤ room) (r : Callback) :
    r.work room' ≤ r.work room := by
  cases r with
  | described job => cases job <;> simp only [Callback.work] <;> omega
  | _ => simp only [Callback.work]; omega

/-- A request moves, and the list may not grow longer than before. -/
lemma work_request (hs : Working requests callbacks s) {k : ℕ} {r : Request} {l : List Notification}
    {owner : Option Owner} (hk : s.requests k ≠ .absent) (hless : r.work < (s.requests k).work)
    (hroom : l.length + r.pending ≤ s.notifications.length + (s.requests k).pending) :
    work requests callbacks { s with
      notifications := l, adminLock := owner, requests := Function.update s.requests k r } <
        work requests callbacks s := by
  have hmem := hs.requests k hk
  have hpending := sum_update_add hmem s.requests r Request.pending
  have hwork := sum_update_add hmem s.requests r Request.work
  have hle : State.room { s with
      notifications := l, adminLock := owner, requests := Function.update s.requests k r } requests ≤
        s.room requests := by
    simp only [State.room]
    omega
  have hcallbacks := Finset.sum_le_sum fun c (_ : c ∈ callbacks) =>
    Callback.work_mono hle (s.callbacks c)
  have hjobs := Finset.sum_le_sum fun j (_ : j ∈ Finset.range s.submitted) =>
    JobState.work_mono hle (s.jobs j)
  simp only [work]
  omega

/-- A job moves. -/
lemma work_job (hs : Working requests callbacks s) {j : ℕ} {r : JobState} {owner : Option Owner}
    (hj : s.jobs j ≠ .absent) (hless : r.work (s.room requests) < (s.jobs j).work (s.room requests)) :
    work requests callbacks { s with
      adminLock := owner, jobs := Function.update s.jobs j r } < work requests callbacks s := by
  have hmem := Finset.mem_range.mpr (hs.jobs j hj)
  have hwork := sum_update_add hmem s.jobs r (JobState.work (s.room requests))
  have hroom : State.room { s with adminLock := owner, jobs := Function.update s.jobs j r } requests =
      s.room requests := rfl
  simp only [work, hroom]
  omega

/-- A callback moves, and brings no more than it leaves. -/
lemma work_callback (hs : Working requests callbacks s) {c : ℕ} {r : Callback}
    (hc : s.callbacks c ≠ .absent)
    (hless : r.work (s.room requests) < (s.callbacks c).work (s.room requests)) :
    work requests callbacks { s with callbacks := Function.update s.callbacks c r } <
      work requests callbacks s := by
  have hwork := sum_update_add (hs.callbacks c hc) s.callbacks r (Callback.work (s.room requests))
  have hroom : State.room { s with callbacks := Function.update s.callbacks c r } requests =
      s.room requests := rfl
  simp only [work, hroom]
  omega

/-- A job that is submitted is paid for by its callback. -/
lemma work_submit (hs : Working requests callbacks s) {c : ℕ} {job : Job}
    (hc : s.callbacks c = .described (some job)) :
    work requests callbacks { s with
      callbacks := Function.update s.callbacks c .dispatched
      jobs := Function.update s.jobs s.submitted (.queued job)
      submitted := s.submitted + 1 } < work requests callbacks s := by
  have hmem := hs.callbacks c (by simp [hc])
  have hwork := sum_update_add hmem s.callbacks .dispatched (Callback.work (s.room requests))
  have hroom : State.room { s with
      callbacks := Function.update s.callbacks c .dispatched
      jobs := Function.update s.jobs s.submitted (.queued job)
      submitted := s.submitted + 1 } requests = s.room requests := rfl
  have hold : ∑ j ∈ Finset.range s.submitted,
      (Function.update s.jobs s.submitted (.queued job) j).work (s.room requests) =
        ∑ j ∈ Finset.range s.submitted, (s.jobs j).work (s.room requests) :=
    Finset.sum_congr rfl fun j hj => by
      rw [Function.update_of_ne (Finset.mem_range.mp hj).ne]
  have hbefore : (Callback.described (some job)).work (s.room requests) = s.room requests + 5 := rfl
  have hafter : Callback.dispatched.work (s.room requests) = 1 := rfl
  have hjob : (JobState.queued job).work (s.room requests) = s.room requests + 3 := rfl
  rw [hc, hbefore, hafter] at hwork
  simp only [work, hroom, Finset.sum_range_succ, hold, Function.update_self, hjob]
  omega

lemma work_next (hs : Working requests callbacks s) {a : Action} (hown : a.Own)
    (ha : s.Enabled a) : work requests callbacks (s.next a) < work requests callbacks s := by
  cases a with
  | call k kind n => exact hown.elim
  | enterCallback c event w => exact hown.elim
  | lockRequest k kind n =>
      exact work_request hs (by simp [ha.1]) (by simp [ha.1, Request.work])
        (by simp [ha.1, Request.pending])
  | runRequest k kind n status =>
      have hlength : (kind.body s.notifications n).2.length ≤ s.notifications.length + 1 := by
        rcases body_cases s.notifications kind n with hsub | ⟨-, heq⟩
        · exact hsub.length_le.trans (Nat.le_succ _)
        · simp [heq]
      exact work_request hs (by simp [ha.1]) (by simp [ha.1, Request.work])
        (by simpa [ha.1, Request.pending] using hlength)
  | unlockRequest k kind n status =>
      have hk : s.requests k = .done kind n status := ha
      exact work_request hs (by simp [hk]) (by simp [hk, Request.work])
        (by simp [hk, Request.pending])
  | returnRequest k kind n status =>
      have hk : s.requests k = .unlocked kind n status := ha
      exact work_request hs (by simp [hk]) (by simp [hk, Request.work])
        (by simp [hk, Request.pending])
  | submit c j job =>
      obtain ⟨hc, rfl⟩ := ha
      exact work_submit hs hc
  | returnCallback c =>
      rcases ha with hc | hc
      · exact work_callback hs (by simp [hc]) (by simp [hc, Callback.work])
      · exact work_callback hs (by simp [hc]) (by simp [hc, Callback.work])
  | take j job =>
      have hj : s.jobs j = .queued job := ha
      exact work_job hs (by simp [hj]) (by simp [hj, JobState.work])
  | lockJob j job => exact work_job hs (by simp [ha.1]) (by simp [ha.1, JobState.work])
  | notify j job index announcement =>
      obtain ⟨hj, hget⟩ := ha
      obtain ⟨n, hn, -⟩ := Option.map_eq_some_iff.mp hget
      have hlt := (List.getElem?_eq_some_iff.mp hn).1
      refine work_job hs (by simp [hj]) ?_
      simp only [hj, JobState.work, State.room]
      omega
  | finish j job index => exact work_job hs (by simp [ha.1]) (by simp [ha.1, JobState.work])

/-! ## And some step can be taken -/

/-- A step that even the pool in order with its one worker can take. -/
def CanMove (s : State) : Prop := ∃ a : Action, a.Own ∧ s.Enabled a ∧ InOrder s a ∧ OneWorker s a

/-- Whoever has the lock is not waiting for anything. -/
lemma canMove_of_locked (hs : Working requests callbacks s) {owner : Owner}
    (hlock : s.adminLock = some owner) : CanMove s := by
  cases owner with
  | request k =>
      have hholds := hs.request_of_lock k hlock
      cases hk : s.requests k with
      | locked kind n =>
          exact ⟨.runRequest k kind n (kind.body s.notifications n).1, trivial, ⟨hk, rfl⟩, trivial,
            trivial⟩
      | done kind n status => exact ⟨.unlockRequest k kind n status, trivial, hk, trivial, trivial⟩
      | _ => simp [hk, Request.holds] at hholds
  | job j =>
      have hholds := hs.job_of_lock j hlock
      cases hj : s.jobs j with
      | dispatching job index =>
          by_cases hindex : index < s.notifications.length
          · exact ⟨.notify j job index (job.announce s.notifications[index]), trivial,
              ⟨hj, by simp [hindex]⟩, trivial, trivial⟩
          · exact ⟨.finish j job index, trivial, ⟨hj, not_lt.mp hindex⟩, trivial, trivial⟩
      | _ => simp [hj, JobState.holds] at hholds

/-- With the lock free, requests, callbacks and workers can go on. -/
lemma canMove_of_job (hs : Working requests callbacks s) (hfree : s.adminLock = none) {j : ℕ}
    (hj : ¬ (s.jobs j = .absent ∨ s.jobs j = .finished)) : CanMove s := by
  by_cases htaken : ∃ j job, s.jobs j = .taken job
  · obtain ⟨j, job, hj⟩ := htaken
    exact ⟨.lockJob j job, trivial, ⟨hj, hfree⟩, trivial, trivial⟩
  · have hoff : ∀ j, (s.jobs j).underWay = false := by
      intro j
      cases hj : s.jobs j with
      | taken job => exact absurd ⟨j, job, hj⟩ htaken
      | dispatching job index =>
          have hlock := hs.exclusive.job j (by rw [hj]; rfl)
          simp [hfree] at hlock
      | _ => rfl
    -- no worker is busy, so the first job in the pool can be taken
    have hwaits : ∃ j, (s.jobs j).waits = true := by
      refine ⟨j, ?_⟩
      have hidle := hoff j
      cases hstate : s.jobs j <;> simp_all [JobState.underWay, JobState.waits]
    obtain ⟨first, hfirst, hmin⟩ : ∃ first, (s.jobs first).waits = true ∧
        ∀ j' < first, ¬ (s.jobs j').waits = true :=
      ⟨Nat.find hwaits, Nat.find_spec hwaits, fun _ => Nat.find_min hwaits⟩
    cases hstate : s.jobs first with
    | queued job =>
        exact ⟨.take first job, trivial, hstate, fun j' hj' => Bool.eq_false_iff.mpr (hmin j' hj'),
          hoff⟩
    | _ => simp [hstate, JobState.waits] at hfirst

lemma canMove_of_not_settled (hs : Working requests callbacks s) (hnot : ¬ Settled s) :
    CanMove s := by
  cases hlock : s.adminLock with
  | some owner => exact canMove_of_locked hs hlock
  | none =>
      by_contra hstuck
      refine hnot ⟨hlock, fun k => ?_, fun c => ?_, fun j => ?_⟩
      · by_contra hk
        cases hstate : s.requests k with
        | called kind n =>
            exact hstuck ⟨.lockRequest k kind n, trivial, ⟨hstate, hlock⟩, trivial, trivial⟩
        | unlocked kind n status =>
            exact hstuck ⟨.returnRequest k kind n status, trivial, hstate, trivial, trivial⟩
        | locked kind n =>
            have howner := hs.exclusive.request k (by rw [hstate]; rfl)
            simp [hlock] at howner
        | done kind n status =>
            have howner := hs.exclusive.request k (by rw [hstate]; rfl)
            simp [hlock] at howner
        | _ => simp [hstate] at hk
      · by_contra hc
        cases hstate : s.callbacks c with
        | described job =>
            cases job with
            | none => exact hstuck ⟨.returnCallback c, trivial, Or.inl hstate, trivial, trivial⟩
            | some job =>
                exact hstuck ⟨.submit c s.submitted job, trivial, ⟨hstate, rfl⟩, trivial, trivial⟩
        | dispatched => exact hstuck ⟨.returnCallback c, trivial, Or.inr hstate, trivial, trivial⟩
        | _ => simp [hstate] at hc
      · by_contra hj
        exact hstuck (canMove_of_job hs hlock hj)

/-- Own steps drain the object, whatever else they have to respect. -/
lemma drains (requests callbacks : Finset ℕ) :
    system.Drains Action.Own (Working requests callbacks) (· < ·) (work requests callbacks) :=
  fun _ _ hs hown ha => ⟨hs.next_of_own ha hown, work_next hs hown ha⟩

example : work (requestIds comeAndGo) (callbackIds comeAndGo) (system.exec comeAndGo) = 6 := by
  decide

end Delivery

end Usb
