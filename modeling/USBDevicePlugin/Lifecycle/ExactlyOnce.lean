import USBDevicePlugin.Lifecycle.Delivery

/-!
# Exactly-once delivery

Every event a callback could describe becomes one job, and every job calls each of the registered
notifications once.

The proof keeps a record for each job: what the schedule says about it, by where the job is.  All
records but one survive a step by being about other actions; the one remaining is the job whose step
it is.

* **`exactlyOnce_of_legal`** — what holds of the history of an object in every run.
-/

namespace Usb

open Interaction TransitionSystem

namespace Delivery

/-! ## Jobs -/

/-- Jobs are numbered as they are submitted, and no other number is in use. -/
structure Numbered (h : List Action) (s : State) : Prop where
  jobIds : jobIds h = List.range s.submitted
  absent : ∀ j, s.jobs j = .absent ↔ s.submitted ≤ j

lemma numbered_of_legal {h : List Action} (hl : system.Legal h) : Numbered h (system.exec h) := by
  refine System.invariant (S := system) (I := Numbered)
    ⟨rfl, fun _ => iff_of_true rfl (Nat.zero_le _)⟩ ?_ hl
  intro h a _ hs ha
  -- a job that is under way stays under way
  have hupdate : ∀ j₀ r r', (system.exec h).jobs j₀ = r → r ≠ .absent → r' ≠ .absent →
      ∀ j, Function.update (system.exec h).jobs j₀ r' j = .absent ↔
        (system.exec h).submitted ≤ j := by
    intro j₀ r r' hj₀ hr hr' j
    by_cases hj : j = j₀
    · subst hj
      rw [Function.update_self, ← hs.absent j, hj₀]
      exact iff_of_false hr' hr
    · rw [Function.update_of_ne hj]
      exact hs.absent j
  have hids : jobIds [a] = [] → jobIds (h ++ [a]) = List.range (system.exec h).submitted := by
    intro hnone
    rw [jobIds_append, hnone, List.append_nil, hs.jobIds]
  cases a with
  | submit c j job =>
      obtain ⟨-, rfl⟩ := ha
      constructor
      · rw [jobIds_append, hs.jobIds]
        exact List.range_succ.symm
      · -- the new number is in use from now on, and it is the only one
        intro j
        show Function.update (system.exec h).jobs _ (.queued job) j = .absent ↔
          (system.exec h).submitted + 1 ≤ j
        by_cases hj : j = (system.exec h).submitted
        · subst hj
          rw [Function.update_self]
          exact iff_of_false (by simp) (Nat.not_succ_le_self _)
        · rw [Function.update_of_ne hj, hs.absent j]
          omega
  | take j job => exact ⟨hids rfl, hupdate j _ _ ha (by simp) (by simp)⟩
  | lockJob j job => exact ⟨hids rfl, hupdate j _ _ ha.1 (by simp) (by simp)⟩
  | notify j job index announcement => exact ⟨hids rfl, hupdate j _ _ ha.1 (by simp) (by simp)⟩
  | finish j job index => exact ⟨hids rfl, hupdate j _ _ ha.1 (by simp) (by simp)⟩
  | _ => exact ⟨hids rfl, hs.absent⟩

/-- The job has not been inside `Dispatch`. -/
structure Undelivered (h : List Action) (j : ℕ) : Prop where
  lockJob : ∀ job, .lockJob j job ∉ h
  finish : ∀ job index, .finish j job index ∉ h
  calls : callsOf j h = []

/-- What has happened to a job, by where it is.  From the moment it holds the lock, `p` is the
schedule up to that moment, and the calls are compared with the list as it was then. -/
def JobRecord (h : List Action) (notifications : List Notification) (j : ℕ) : JobState → Prop
  | .absent => Undelivered h j
  | .queued job | .taken job => (∃ c, .submit c j job ∈ h) ∧ Undelivered h j
  | .dispatching job index =>
      ∃ p q, h = p ++ .lockJob j job :: q ∧ (∃ c, .submit c j job ∈ p) ∧
        (∀ job', .lockJob j job' ∉ p ++ q) ∧ (∀ job' index', .finish j job' index' ∉ h) ∧
        (system.exec p).notifications = notifications ∧
        callsOf j h = (notifications.take index).map job.announce
  | .finished =>
      ∃ job p q, h = p ++ .lockJob j job :: q ∧ (∃ c, .submit c j job ∈ p) ∧
        (∀ job', .lockJob j job' ∉ p ++ q) ∧
        callsOf j h = ((system.exec p).notifications).map job.announce

/-- The step is not one of the job's steps inside the lock. -/
structure Foreign (a : Action) (j : ℕ) : Prop where
  lockJob : ∀ job, a ≠ .lockJob j job
  finish : ∀ job index, a ≠ .finish j job index
  calls : callsOf j [a] = []

lemma Foreign.callsOf_eq {a : Action} {j : ℕ} (ha : Foreign a j) (h : List Action) :
    callsOf j (h ++ [a]) = callsOf j h := by
  rw [callsOf_append, ha.calls, List.append_nil]

lemma Foreign.not_mem_snoc {a : Action} {j : ℕ} (ha : Foreign a j) {p q : List Action}
    (h : ∀ job, .lockJob j job ∉ p ++ q) : ∀ job, .lockJob j job ∉ p ++ (q ++ [a]) := by
  intro job hmem
  rw [← List.append_assoc] at hmem
  rcases List.mem_append.mp hmem with hmem | hmem
  · exact h job hmem
  · exact ha.lockJob job (List.mem_singleton.mp hmem).symm

lemma Undelivered.snoc {h : List Action} {j : ℕ} (hj : Undelivered h j) {a : Action}
    (ha : Foreign a j) : Undelivered (h ++ [a]) j where
  lockJob job := by simpa using ⟨hj.lockJob job, (ha.lockJob job).symm⟩
  finish job index := by simpa using ⟨hj.finish job index, (ha.finish job index).symm⟩
  calls := (ha.callsOf_eq h).trans hj.calls

/-- A step that is not the job's own, nor changes the list under its feet, leaves its record as it
is. -/
lemma JobRecord.mono {h : List Action} {l l' : List Notification} {j : ℕ} {r : JobState}
    (hr : JobRecord h l j r) {a : Action} (ha : Foreign a j) (hlist : r.holds = true → l' = l) :
    JobRecord (h ++ [a]) l' j r := by
  cases r with
  | absent => exact Undelivered.snoc hr ha
  | queued job | taken job =>
      obtain ⟨⟨c, hc⟩, hrest⟩ := hr
      exact ⟨⟨c, List.mem_append_left _ hc⟩, hrest.snoc ha⟩
  | dispatching job index =>
      obtain ⟨p, q, rfl, hsub, huniq, hfin, hl, hmade⟩ := hr
      obtain rfl := hlist rfl
      refine ⟨p, q ++ [a], by simp, hsub, ha.not_mem_snoc huniq, fun job' index' hmem => ?_, hl,
        (ha.callsOf_eq _).trans hmade⟩
      rcases List.mem_append.mp hmem with hmem | hmem
      · exact hfin job' index' hmem
      · exact ha.finish job' index' (List.mem_singleton.mp hmem).symm
  | finished =>
      obtain ⟨job, p, q, rfl, hsub, huniq, hmade⟩ := hr
      exact ⟨job, p, q ++ [a], by simp, hsub, ha.not_mem_snoc huniq,
        (ha.callsOf_eq _).trans hmade⟩

/-- The records of all jobs.  The step of one job inside the lock sees the list it locked; no
request can change it, because the request would hold the lock as well. -/
lemma jobRecord_of_legal {h : List Action} (hl : system.Legal h) :
    ∀ j, JobRecord h (system.exec h).notifications j ((system.exec h).jobs j) := by
  refine System.invariant (S := system) (I := fun h s => ∀ j, JobRecord h s.notifications j (s.jobs j))
    (fun _ => ⟨by simp, by simp, rfl⟩) ?_ hl
  intro h a hlh hs ha
  have hupdate : ∀ j₀ r, JobRecord (h ++ [a]) (system.exec h).notifications j₀ r →
      (∀ j ≠ j₀, Foreign a j) → ∀ j, JobRecord (h ++ [a]) (system.exec h).notifications j
        (Function.update (system.exec h).jobs j₀ r j) := fun j₀ r hr hother =>
    (Function.forall_update_iff _
      fun j r => JobRecord (h ++ [a]) (system.exec h).notifications j r).mpr
      ⟨hr, fun j hj => (hs j).mono (hother j hj) fun _ => rfl⟩
  cases a with
  | runRequest k kind n status =>
      have howner := (exclusive_of_legal hlh).request k (by rw [ha.1]; rfl)
      refine fun j => (hs j).mono ⟨by simp, by simp, rfl⟩ fun hholds => ?_
      have howner' := (exclusive_of_legal hlh).job j hholds
      rw [howner] at howner'
      exact absurd howner' (by simp)
  | submit c j job =>
      obtain ⟨-, rfl⟩ := ha
      have habsent := hs (system.exec h).submitted
      rw [((numbered_of_legal hlh).absent _).mpr le_rfl] at habsent
      exact hupdate _ _ ⟨⟨c, by simp⟩, habsent.snoc ⟨by simp, by simp, rfl⟩⟩
        fun j hj => ⟨by simp, by simp, rfl⟩
  | take j job =>
      have hrecord := (hs j).mono (a := .take j job) ⟨by simp, by simp, rfl⟩ fun _ => rfl
      rw [show (system.exec h).jobs j = .queued job from ha] at hrecord
      exact hupdate j _ hrecord fun j' hj' => ⟨by simp, by simp, rfl⟩
  | lockJob j job =>
      have hrecord := hs j
      rw [ha.1] at hrecord
      obtain ⟨hsub, hnone⟩ := hrecord
      refine hupdate j _ ⟨h, [], rfl, hsub, by simpa using hnone.lockJob, ?_, rfl, ?_⟩
        fun j' hj' => ⟨by simp [hj'.symm], by simp, rfl⟩
      · simpa using hnone.finish
      · rw [callsOf_append, hnone.calls]
        rfl
  | notify j job index announcement =>
      obtain ⟨hj, hget⟩ := ha
      have hrecord := hs j
      rw [hj] at hrecord
      obtain ⟨p, q, rfl, hsub, huniq, hfin, hlist, hcalls⟩ := hrecord
      refine hupdate j _ ⟨p, q ++ [.notify j job index announcement], by simp, hsub, ?_, ?_, hlist, ?_⟩
        fun j' hj' => ⟨by simp, by simp, by simp [callsOf, hj'.symm]⟩
      · intro job' hmem
        exact huniq job' (by simpa using hmem)
      · intro job' index' hmem
        exact hfin job' index' (by simpa using hmem)
      · obtain ⟨n, hn, rfl⟩ := Option.map_eq_some_iff.mp hget
        rw [callsOf_append, hcalls, List.take_add_one, hn, List.map_append]
        simp [callsOf]
  | finish j job index =>
      obtain ⟨hj, hlength⟩ := ha
      have hrecord := hs j
      rw [hj] at hrecord
      obtain ⟨p, q, rfl, hsub, huniq, -, hlist, hcalls⟩ := hrecord
      refine hupdate j _ ⟨job, p, q ++ [.finish j job index], by simp, hsub, ?_, ?_⟩
        fun j' hj' => ⟨by simp, by simp [hj'.symm], rfl⟩
      · intro job' hmem
        exact huniq job' (by simpa using hmem)
      · rw [callsOf_append, hcalls, List.take_of_length_le hlength, hlist]
        simp [callsOf]
  | _ => exact fun j => (hs j).mono ⟨by simp, by simp, rfl⟩ fun _ => rfl

/-! ## What is delivered -/

/-- The history of an object keeps the promises about its notifications. -/
structure ExactlyOnce (h : List Action) : Prop where
  /-- A callback that is over has submitted one job if its description succeeded, with that
  description, and none if it failed. -/
  created : ∀ c event w, .enterCallback c event w ∈ h → .returnCallback c ∈ h →
    submitsOf c h =
      match w.description with
      | (.errorNone, usbDevice) => [⟨event, usbDevice⟩]
      | (.errorGeneral, _) => []
  /-- None ever submits two. -/
  createdOnce : ∀ c, (submitsOf c h).length ≤ 1
  /-- A job is for the event its callback was entered for, with what the callback described. -/
  payload : ∀ c j job, .submit c j job ∈ h → ∃ w, .enterCallback c job.event w ∈ h ∧
    w.description = (.errorNone, job.usbDevice)
  /-- No two jobs share a number. -/
  distinct : (jobIds h).Nodup
  /-- A job that got the lock was submitted before, and calls, one after the other and in their
  order, the notifications in the list at the moment it got the lock; all of them by the time it
  finishes. -/
  delivered : ∀ p q j job, h = p ++ .lockJob j job :: q →
    (∃ c, .submit c j job ∈ p) ∧
    (callsOf j h).map Announcement.notification <+: (system.exec p).notifications ∧
    ((∃ job' index, .finish j job' index ∈ h) →
      (callsOf j h).map Announcement.notification = (system.exec p).notifications)
  /-- A call is made with the method for the event of the callback that submitted the job, and with
  what this callback described. -/
  called : ∀ p q j job index announcement, h = p ++ .notify j job index announcement :: q →
    ∃ c w, .enterCallback c job.event w ∈ p ∧ .submit c j job ∈ p ∧
      w.description = (.errorNone, announcement.usbDevice) ∧
      announcement.method =
        match job.event with
        | .deviceArrived => .onDevicePluggedIn
        | .deviceLeft => .onDevicePluggedOut
  /-- One that did not get it calls nothing. -/
  silent : ∀ j, (∀ job, .lockJob j job ∉ h) → callsOf j h = []
  /-- The list never holds a notification twice, -/
  nodup : ∀ p q, h = p ++ q → (system.exec p).notifications.Nodup
  /-- and is in the order of registration. -/
  inOrder : ∀ p q, h = p ++ q → (system.exec p).notifications.Pairwise (RegisteredBefore p)
  /-- At every moment, also when a job gets the lock, it holds those and only those for whom a
  `Register` has run with success and no `Unregister` since. -/
  listed : ∀ p q n, h = p ++ q → (n ∈ (system.exec p).notifications ↔ Registered p n)
  /-- `Register` always succeeds, `Unregister` if the notification is in the list. -/
  answered : ∀ p q k kind n status, h = p ++ .runRequest k kind n status :: q →
    (status = .errorNone ↔ kind = .register ∨ n ∈ (system.exec p).notifications)
  /-- A call of either that returns has run before, with the status that it returns, -/
  ran : ∀ p q k kind n status, h = p ++ .returnRequest k kind n status :: q →
    .runRequest k kind n status ∈ p
  /-- and after a removal it is not called unless it is registered again. -/
  notCalled : ∀ p q r k n j job index announcement,
    h = p ++ .runRequest k .unregister n .errorNone :: q ++
      .notify j job index announcement :: r → announcement.notification = n →
    ∃ k' status, .runRequest k' .register n status ∈ q

/-- A callback submits what its description gives it to announce. -/
lemma job_toList (w : World) (event : Event) :
    (w.job event).toList =
      match w.description with
      | (.errorNone, usbDevice) => [⟨event, usbDevice⟩]
      | (.errorGeneral, _) => [] := by
  simp only [World.job, World.description, libUSBHotPlugCallback, Prog.bind_run]
  generalize (getUSBDeviceStructFromDeviceDescriptor w.env w.device {}).run w.time w.drivers = r
  obtain ⟨⟨status, usbDevice⟩, calls, drivers⟩ := r
  cases status <;> rfl

lemma submitsOf_of_returned {h : List Action} (hl : system.Legal h) {c : ℕ} {event : Event}
    {w : World} (henter : .enterCallback c event w ∈ h) (hreturn : .returnCallback c ∈ h) :
    submitsOf c h = (w.job event).toList := by
  have hrecord := callbackRecord_of_legal hl c
  cases hc : (system.exec h).callbacks c with
  | absent => exact absurd henter ((hc ▸ hrecord).1 event w)
  | described job => exact absurd hreturn (hc ▸ hrecord).2.2.2
  | dispatched => exact (hc ▸ hrecord).1 event w henter
  | returned => exact (hc ▸ hrecord).1 event w henter

/-- A job that a callback submits is the one its description leads to. -/
lemma description_of_submit {h : List Action} (hl : system.Legal h) {c j : ℕ} {job : Job}
    (hsubmit : .submit c j job ∈ h) : ∃ w, .enterCallback c job.event w ∈ h ∧
      w.description = (.errorNone, job.usbDevice) := by
  obtain ⟨p, q, rfl⟩ := List.append_of_mem hsubmit
  have hrecord := callbackRecord_of_legal hl.prefix c
  rw [show (system.exec p).callbacks c = .described (some job) from hl.enabled_at.1] at hrecord
  obtain ⟨⟨event, w, henter, hjob⟩, -⟩ := hrecord
  have hlist := job_toList w event
  rw [hjob] at hlist
  rcases hdesc : w.description with ⟨status, usbDevice⟩
  cases status with
  | errorNone =>
      obtain rfl : job = ⟨event, usbDevice⟩ := by simpa [hdesc] using hlist
      exact ⟨w, List.mem_append_left _ henter, hdesc⟩
  | errorGeneral => simp [hdesc] at hlist

lemma length_submitsOf_le_one {h : List Action} (hl : system.Legal h) (c : ℕ) :
    (submitsOf c h).length ≤ 1 := by
  have hrecord := callbackRecord_of_legal hl c
  cases hc : (system.exec h).callbacks c with
  | absent => simp [(hc ▸ hrecord).2.1]
  | described job => simp [(hc ▸ hrecord).2.2.1]
  | dispatched => exact (hc ▸ hrecord).2
  | returned => exact (hc ▸ hrecord).2

/-- A schedule is cut in one way at an action that occurs in it once. -/
lemma eq_of_cut {p q p' q' : List Action} {j : ℕ} {job job' : Job}
    (huniq : ∀ job, .lockJob j job ∉ p ++ q)
    (heq : p' ++ .lockJob j job' :: q' = p ++ .lockJob j job :: q) :
    p' = p ∧ job' = job ∧ q' = q := by
  have hp : .lockJob j job' ∉ p := fun h => huniq job' (List.mem_append_left _ h)
  have hq : .lockJob j job' ∉ q := fun h => huniq job' (List.mem_append_right _ h)
  obtain ⟨rfl, hlock, rfl⟩ := (List.append_cons_inj_of_notMem hp hq).mp heq.symm
  exact ⟨rfl, (Action.lockJob.inj hlock).2.symm, rfl⟩

/-- A job that got the lock is on its way through the list it found then, or through with it. -/
lemma dispatch_cases {p q : List Action} {j : ℕ} {job : Job}
    (hl : system.Legal (p ++ .lockJob j job :: q)) :
    (∃ c, .submit c j job ∈ p) ∧
    ((∃ index, (system.exec (p ++ .lockJob j job :: q)).jobs j = .dispatching job index ∧
        (∀ job' index', .finish j job' index' ∉ p ++ .lockJob j job :: q) ∧
        callsOf j (p ++ .lockJob j job :: q) =
          ((system.exec p).notifications.take index).map job.announce) ∨
      callsOf j (p ++ .lockJob j job :: q) = (system.exec p).notifications.map job.announce) := by
  have hrecord := jobRecord_of_legal hl j
  have hlocked : .lockJob j job ∈ p ++ .lockJob j job :: q := by simp
  cases hj : (system.exec (p ++ .lockJob j job :: q)).jobs j with
  | absent => exact absurd hlocked ((hj ▸ hrecord).lockJob job)
  | queued job' => exact absurd hlocked ((hj ▸ hrecord).2.lockJob job)
  | taken job' => exact absurd hlocked ((hj ▸ hrecord).2.lockJob job)
  | dispatching job' index =>
      rw [hj] at hrecord
      obtain ⟨p', q', heq, hsub, huniq, hfin, hlist, hcalls⟩ := hrecord
      obtain ⟨rfl, rfl, rfl⟩ := eq_of_cut huniq heq
      exact ⟨hsub, Or.inl ⟨index, rfl, hfin, hlist ▸ hcalls⟩⟩
  | finished =>
      rw [hj] at hrecord
      obtain ⟨job', p', q', heq, hsub, huniq, hcalls⟩ := hrecord
      obtain ⟨rfl, rfl, rfl⟩ := eq_of_cut huniq heq
      exact ⟨hsub, Or.inr hcalls⟩

lemma delivered_of_legal {p q : List Action} {j : ℕ} {job : Job}
    (hl : system.Legal (p ++ .lockJob j job :: q)) :
    (∃ c, .submit c j job ∈ p) ∧
    callsOf j (p ++ .lockJob j job :: q) <+: (system.exec p).notifications.map job.announce ∧
    ((∃ job' index, .finish j job' index ∈ p ++ .lockJob j job :: q) →
      callsOf j (p ++ .lockJob j job :: q) = (system.exec p).notifications.map job.announce) := by
  obtain ⟨hsub, ⟨index, -, hfin, hcalls⟩ | hcalls⟩ := dispatch_cases hl
  · refine ⟨hsub, ?_, fun ⟨job', index', hmem⟩ => absurd hmem (hfin job' index')⟩
    rw [hcalls]
    exact (List.take_prefix _ _).map _
  · exact ⟨hsub, hcalls ▸ List.prefix_rfl, fun _ => hcalls⟩

/-- The calls a job makes for a list of notifications are calls of these. -/
lemma map_announce_notification (job : Job) (l : List Notification) :
    (l.map job.announce).map Announcement.notification = l := by
  rw [List.map_map]
  exact List.map_id l

/-- A call comes from the loop of the job's `Dispatch`, and the job from a callback. -/
lemma called_of_legal {p q : List Action} {j index : ℕ} {job : Job} {announcement : Announcement}
    (hl : system.Legal (p ++ .notify j job index announcement :: q)) :
    ∃ c w, .enterCallback c job.event w ∈ p ∧ .submit c j job ∈ p ∧
      w.description = (.errorNone, announcement.usbDevice) ∧
      announcement.method =
        match job.event with
        | .deviceArrived => .onDevicePluggedIn
        | .deviceLeft => .onDevicePluggedOut := by
  obtain ⟨hj, hget⟩ := hl.enabled_at
  have hrecord := jobRecord_of_legal hl.prefix j
  rw [hj] at hrecord
  obtain ⟨p₁, p₂, rfl, ⟨c, hsubmit⟩, -⟩ := hrecord
  obtain ⟨n, -, rfl⟩ := Option.map_eq_some_iff.mp hget
  have hsubmit' : .submit c j job ∈ p₁ ++ .lockJob j job :: p₂ := List.mem_append_left _ hsubmit
  obtain ⟨w, henter, hdescription⟩ := description_of_submit hl.prefix hsubmit'
  refine ⟨c, w, henter, hsubmit', hdescription, ?_⟩
  rw [Job.announce]
  cases job.event <;> rfl

lemma callsOf_eq_nil {h : List Action} (hl : system.Legal h) {j : ℕ}
    (hnone : ∀ job, .lockJob j job ∉ h) : callsOf j h = [] := by
  have hrecord := jobRecord_of_legal hl j
  cases hj : (system.exec h).jobs j with
  | absent => exact (hj ▸ hrecord).calls
  | queued job => exact (hj ▸ hrecord).2.calls
  | taken job => exact (hj ▸ hrecord).2.calls
  | dispatching job index =>
      rw [hj] at hrecord
      obtain ⟨p, q, rfl, -⟩ := hrecord
      exact absurd (by simp) (hnone job)
  | finished =>
      rw [hj] at hrecord
      obtain ⟨job, p, q, rfl, -⟩ := hrecord
      exact absurd (by simp) (hnone job)

/-- A call of a notification that was removed before: somebody registered it in between. -/
lemma exists_runRequest_of_removed {p q r : List Action} {k j index : ℕ} {job : Job}
    {announcement : Announcement}
    (hl : system.Legal (p ++ .runRequest k .unregister announcement.notification .errorNone :: q ++
      .notify j job index announcement :: r)) :
    ∃ k' status, .runRequest k' .register announcement.notification status ∈ q := by
  set n := announcement.notification
  have hcall := hl.enabled_at
  have hrun : system.Enabled (system.exec p) (.runRequest k .unregister n .errorNone) := by
    rw [List.append_assoc] at hl
    exact hl.enabled_at
  have hremoved : n ∉ (system.exec (p ++ [.runRequest k .unregister n .errorNone])).notifications := by
    rw [System.exec_snoc]
    have hlp : system.Legal p := by
      rw [List.append_assoc] at hl
      exact hl.prefix
    exact not_mem_body_unregister (notifications_nodup hlp) hrun.2
  have hpresent : n ∈ (system.exec (p ++ [.runRequest k .unregister n .errorNone] ++ q)).notifications := by
    obtain ⟨m, hm, hannounce⟩ := Option.map_eq_some_iff.mp hcall.2
    obtain rfl : m = n := congrArg Announcement.notification hannounce
    simpa using List.mem_of_getElem? hm
  exact exists_runRequest_of_mem hremoved hpresent

/-- **Each event reaches exactly the registered notifications, each of them once**, in every run of
the object. -/
theorem exactlyOnce_of_legal {h : List Action} (hl : system.Legal h) : ExactlyOnce h where
  created c event w henter hreturn := by
    rw [submitsOf_of_returned hl henter hreturn, job_toList]
  createdOnce := length_submitsOf_le_one hl
  payload _ _ _ := description_of_submit hl
  distinct := (numbered_of_legal hl).jobIds ▸ List.nodup_range
  delivered := by
    rintro p q j job rfl
    obtain ⟨hsub, hcalls, hall⟩ := delivered_of_legal hl
    rw [← map_announce_notification job (system.exec p).notifications]
    exact ⟨hsub, hcalls.map _, fun hfinished => congrArg _ (hall hfinished)⟩
  called := by
    rintro p q j job index announcement rfl
    exact called_of_legal hl
  silent _ := callsOf_eq_nil hl
  nodup := by
    rintro p q rfl
    exact notifications_nodup hl.prefix
  inOrder := by
    rintro p q rfl
    exact notifications_pairwise hl.prefix
  listed := by
    rintro p q n rfl
    exact mem_notifications_iff hl.prefix n
  answered := by
    rintro p q k kind n status rfl
    obtain ⟨-, rfl⟩ := hl.enabled_at
    exact body_status_iff _ kind n
  ran := by
    rintro p q k kind n status rfl
    have hrecord := requestRecord_of_legal hl.prefix k
    rw [show (system.exec p).requests k = .unlocked kind n status from hl.enabled_at] at hrecord
    exact hrecord
  notCalled := by
    rintro p q r k n j job index announcement rfl rfl
    exact exists_runRequest_of_removed hl

/-! ## A run -/

/-- A request from call to return. -/
def requestSteps (k : ℕ) (kind : RequestKind) (n : Notification) (status : Status) : List Action :=
  [.call k kind n, .lockRequest k kind n, .runRequest k kind n status, .unlockRequest k kind n status,
    .returnRequest k kind n status]

/-- A callback that succeeds, from entry to return. -/
def callbackSteps (c j : ℕ) (event : Event) (w : World) (job : Job) : List Action :=
  [.enterCallback c event w, .submit c j job, .returnCallback c]

/-- The sample disk on the sample bus. -/
def sampleWorld : World :=
  { env := sampleOutcomes.steady, device := sampleDisk, time := 0, drivers := fun _ _ => false }

/-- The job for an event of this disk. -/
def sampleJob (event : Event) : Job :=
  { event, usbDevice := ⟨classMassStorage, 6, "001/005".toList, "/dev/sda".toList⟩ }

/-- What a worker does with a job that finds these notifications in the list. -/
def workerSteps (j : ℕ) (job : Job) (notifications : List Notification) : List Action :=
  [.take j job, .lockJob j job] ++
    notifications.mapIdx (fun index n => .notify j job index (job.announce n)) ++
    [.finish j job notifications.length]

/-- Two notifications are registered, one of them twice, and told that the disk has arrived.  The
first is unregistered, and only the second told that the disk has left. -/
theorem exactlyOnce_sampleDisk :
    ExactlyOnce (requestSteps 0 .register 7 .errorNone ++ requestSteps 1 .register 8 .errorNone ++
      requestSteps 2 .register 7 .errorNone ++
      callbackSteps 0 0 .deviceArrived sampleWorld (sampleJob .deviceArrived) ++
      workerSteps 0 (sampleJob .deviceArrived) [7, 8] ++
      requestSteps 3 .unregister 7 .errorNone ++ requestSteps 4 .unregister 7 .errorGeneral ++
      callbackSteps 1 1 .deviceLeft sampleWorld (sampleJob .deviceLeft) ++
      workerSteps 1 (sampleJob .deviceLeft) [8]) :=
  exactlyOnce_of_legal (by decide)

end Delivery

end Usb
