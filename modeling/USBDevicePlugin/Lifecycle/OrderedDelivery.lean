import USBDevicePlugin.Lifecycle.Linearization

/-!
# From the bus to the client

libusb calls back for one event after the other, the pool hands out the jobs in the order of their
submission, and there is one worker.  Then nothing is lost, doubled or overtaken on the way from the
bus to a client: three queues stand one behind the other, and each hands on what it got in the order
in which it came.

* `described`, `submittedJobs`, `lockedJobs` — what is put into the queues.
* **`ordered_delivery`** — a notification that stays registered is told every event that could be
  described, once and in the order of the events.
-/

namespace Usb

open TransitionSystem

namespace Delivery

/-! ## The queues -/

/-- What the callbacks described, in the order in which libusb called them. -/
def described (h : List Action) : List Job :=
  h.filterMap fun
    | .enterCallback _ event w => w.job event
    | _ => none

/-- The jobs in the order of submission, -/
def submittedJobs (h : List Action) : List Job :=
  h.filterMap fun
    | .submit _ _ job => some job
    | _ => none

/-- and in the order in which they get the lock, with their numbers. -/
def lockedJobs (h : List Action) : List (ℕ × Job) :=
  h.filterMap fun
    | .lockJob j job => some (j, job)
    | _ => none

/-- The notification is in the list whenever a job gets the lock. -/
def StaysRegistered (n : Notification) (h : List Action) : Prop :=
  ∀ i < h.length, lockedJobs (h.drop i |>.take 1) ≠ [] →
    n ∈ (system.exec (h.take i)).notifications

instance (n : Notification) (h : List Action) : Decidable (StaysRegistered n h) :=
  inferInstanceAs (Decidable (∀ i < h.length, _ → _))

lemma StaysRegistered.mem {n : Notification} {p q : List Action} {j : ℕ} {job : Job}
    (hreg : StaysRegistered n (p ++ .lockJob j job :: q)) : n ∈ (system.exec p).notifications := by
  have hp := hreg p.length (by simp) (by simp [lockedJobs])
  rwa [List.take_left] at hp

lemma StaysRegistered.prefix {n : Notification} {h : List Action} {a : Action}
    (hreg : StaysRegistered n (h ++ [a])) : StaysRegistered n h := by
  intro i hi hlock
  have hmem := hreg i (by simp; omega) ?_
  · rwa [List.take_append_of_le_length hi.le] at hmem
  · rwa [List.drop_append_of_le_length hi.le, List.take_append_of_le_length]
    simp
    omega

/-- The calls of one notification. -/
def heardBy (n : Notification) (calls : List Announcement) : List Announcement :=
  calls.filter fun announcement => announcement.notification = n

lemma described_append (h h' : List Action) : described (h ++ h') = described h ++ described h' :=
  List.filterMap_append ..

lemma submittedJobs_append (h h' : List Action) :
    submittedJobs (h ++ h') = submittedJobs h ++ submittedJobs h' := List.filterMap_append ..

lemma lockedJobs_append (h h' : List Action) :
    lockedJobs (h ++ h') = lockedJobs h ++ lockedJobs h' := List.filterMap_append ..

/-! ## From the event to the job -/

/-- A callback is entered when all before it have returned. -/
def Successive (s : State) : Prop :=
  ∀ c, s.callbacks c ≠ .absent → ∀ c' < c, s.callbacks c' = .returned

lemma Successive.eq {s : State} (hs : Successive s) {c c' : ℕ} (hc : s.callbacks c ≠ .absent)
    (hc' : s.callbacks c' ≠ .absent) (hreturned : s.callbacks c ≠ .returned)
    (hreturned' : s.callbacks c' ≠ .returned) : c = c' := by
  rcases lt_trichotomy c c' with hlt | heq | hgt
  · exact absurd (hs c' hc' c hlt) hreturned
  · exact heq
  · exact absurd (hs c hc c' hgt) hreturned'

/-- A callback that moves on, or is entered now. -/
lemma Successive.update {s : State} (hs : Successive s) {c : ℕ} {r : Callback}
    (hbefore : ∀ c' < c, s.callbacks c' = .returned) (hc : s.callbacks c ≠ .returned) :
    ∀ c', Function.update s.callbacks c r c' ≠ .absent →
      ∀ c'' < c', Function.update s.callbacks c r c'' = .returned := by
  intro c' hc' c'' hlt
  by_cases heq : c' = c
  · subst heq
    rw [Function.update_of_ne hlt.ne]
    exact hbefore c'' hlt
  · rw [Function.update_of_ne heq] at hc'
    have hne : c'' ≠ c := by
      rintro rfl
      exact hc (hs c' hc' c'' hlt)
    rw [Function.update_of_ne hne]
    exact hs c' hc' c'' hlt

lemma successive_next {s : State} (hs : Successive s) {a : Action} (ha : s.Enabled a)
    (horder : InOrder s a) : Successive (s.next a) := by
  cases a with
  | enterCallback c event w =>
      have hc : s.callbacks c = .absent := ha
      exact hs.update horder (by rw [hc]; simp)
  | submit c j job => exact hs.update (hs c (by simp [ha.1])) (by simp [ha.1])
  | returnCallback c =>
      rcases ha with hc | hc
      · exact hs.update (hs c (by simp [hc])) (by simp [hc])
      · exact hs.update (hs c (by simp [hc])) (by simp [hc])
  | _ => exact hs

lemma successive_of_legal {h : List Action} (hl : ordered.Legal h) : Successive (system.exec h) :=
  System.invariant (S := ordered) (I := fun _ s => Successive s) (fun _ hc => absurd rfl hc)
    (fun _ _ _ hs ha => successive_next hs ha.1 ha.2) hl

/-- No callback has something to submit. -/
def Idle (s : State) : Prop := ∀ c job, s.callbacks c ≠ .described (some job)

/-- What was described is what was submitted, except that a callback may not have come to it yet. -/
def Fed (s : State) (described submitted : List Job) : Prop :=
  (∃ c job, s.callbacks c = .described (some job) ∧ described = submitted ++ [job]) ∨
    Idle s ∧ described = submitted

/-- A callback that has nothing to submit any more, or nothing to submit at all. -/
lemma Idle.update {s : State} {c : ℕ} {r : Callback} (hr : ∀ job, r ≠ .described (some job))
    (hs : ∀ c' ≠ c, ∀ job, s.callbacks c' ≠ .described (some job)) :
    ∀ c' job, Function.update s.callbacks c r c' ≠ .described (some job) := by
  intro c' job
  by_cases hc : c' = c
  · subst hc
    rw [Function.update_self]
    exact hr job
  · rw [Function.update_of_ne hc]
    exact hs c' hc job

/-- When a callback may be entered, no other one is under way. -/
lemma idle_of_enter {s : State} (hs : Successive s) {c : ℕ} (hc : s.callbacks c = .absent)
    (hbefore : ∀ c' < c, s.callbacks c' = .returned) : Idle s := by
  intro c' job hc'
  rcases lt_trichotomy c' c with hlt | rfl | hgt
  · simp [hbefore c' hlt] at hc'
  · simp [hc] at hc'
  · have hreturned := hs c' (by simp [hc']) c hgt
    simp [hc] at hreturned

lemma Fed.next {s : State} {d sub : List Job} (hfed : Fed s d sub) (hs : Successive s) {a : Action}
    (ha : s.Enabled a) (horder : InOrder s a) :
    Fed (s.next a) (d ++ described [a]) (sub ++ submittedJobs [a]) := by
  have hother : described [a] = [] → submittedJobs [a] = [] →
      (s.next a).callbacks = s.callbacks →
      Fed (s.next a) (d ++ described [a]) (sub ++ submittedJobs [a]) := by
    intro hd hsub hcallbacks
    simpa [Fed, Idle, hd, hsub, hcallbacks] using hfed
  cases a with
  | enterCallback c event w =>
      have hidle := idle_of_enter hs ha horder
      obtain rfl : d = sub := by
        rcases hfed with ⟨c', job, hc', -⟩ | ⟨-, hsame⟩
        · exact absurd hc' (hidle c' job)
        · exact hsame
      cases hjob : w.job event with
      | none =>
          refine Or.inr ⟨?_, by simp [described, submittedJobs, hjob]⟩
          exact Idle.update (by simp [hjob]) fun c' _ job => hidle c' job
      | some job =>
          exact Or.inl ⟨c, job, by simp [State.next, hjob], by simp [described, submittedJobs, hjob]⟩
  | submit c j job =>
      obtain ⟨c', job', hc', rfl⟩ := hfed.resolve_right fun hidle => hidle.1 c job ha.1
      obtain rfl : c' = c :=
        hs.eq (by simp [hc']) (by simp [ha.1]) (by simp [hc']) (by simp [ha.1])
      obtain rfl : job' = job := by simpa [ha.1] using hc'.symm
      refine Or.inr ⟨?_, by simp [described, submittedJobs]⟩
      refine Idle.update (by simp) fun c'' hne job' hc'' => hne ?_
      exact hs.eq (by simp [hc'']) (by simp [hc']) (by simp [hc'']) (by simp [hc'])
  | returnCallback c =>
      have hc : ∀ job, s.callbacks c ≠ .described (some job) := by
        intro job hc
        rcases ha with hc' | hc' <;> simp [hc'] at hc
      rcases hfed with ⟨c', job, hc', rfl⟩ | ⟨hidle, rfl⟩
      · refine Or.inl ⟨c', job, ?_, by simp [described, submittedJobs]⟩
        have hne : c' ≠ c := by
          rintro rfl
          exact hc job hc'
        exact (Function.update_of_ne hne ..).trans hc'
      · refine Or.inr ⟨?_, by simp [described, submittedJobs]⟩
        exact Idle.update (by simp) fun c' _ job => hidle c' job
  | _ => exact hother rfl rfl rfl

lemma fed_of_legal {h : List Action} (hl : ordered.Legal h) :
    Fed (system.exec h) (described h) (submittedJobs h) := by
  refine System.invariant (S := ordered)
    (I := fun h s => Fed s (described h) (submittedJobs h))
    (Or.inr ⟨nofun, rfl⟩) ?_ hl
  rintro h a hlh hs ha
  rw [described_append, submittedJobs_append]
  exact Fed.next hs (successive_of_legal hlh) ha.1 ha.2

/-! ## From the job to the lock -/

/-- The job with a number is the one that was submitted at this place. -/
lemma submittedJobs_of_legal {h : List Action} (hl : system.Legal h) :
    (submittedJobs h).length = (system.exec h).submitted ∧
      ∀ c j job, .submit c j job ∈ h → (submittedJobs h)[j]? = some job := by
  refine System.invariant (S := system)
    (I := fun h s => (submittedJobs h).length = s.submitted ∧
      ∀ c j job, .submit c j job ∈ h → (submittedJobs h)[j]? = some job) ⟨rfl, by simp⟩ ?_ hl
  rintro h a - ⟨hlength, hjobs⟩ ha
  have hother : submittedJobs [a] = [] → (∀ c j job, a ≠ .submit c j job) →
      (submittedJobs (h ++ [a])).length = (system.exec h).submitted ∧
        ∀ c j job, .submit c j job ∈ h ++ [a] → (submittedJobs (h ++ [a]))[j]? = some job := by
    intro hnone hne
    rw [submittedJobs_append, hnone, List.append_nil]
    refine ⟨hlength, fun c j job hmem => hjobs c j job ?_⟩
    exact (List.mem_append.mp hmem).resolve_right fun hlast =>
      hne c j job (List.mem_singleton.mp hlast).symm
  cases a with
  | submit c j job =>
      obtain ⟨-, rfl⟩ := ha
      rw [submittedJobs_append]
      refine ⟨?_, fun c' j' job' hmem => ?_⟩
      · rw [List.length_append, hlength]
        rfl
      rcases List.mem_append.mp hmem with hmem | hmem
      · have hj := hjobs c' j' job' hmem
        rw [List.getElem?_append_left (List.getElem?_eq_some_iff.mp hj).1, hj]
      · obtain ⟨-, rfl, rfl⟩ := Action.submit.inj (List.mem_singleton.mp hmem)
        simp [submittedJobs, ← hlength]
  | _ => exact hother rfl (by simp)

lemma mem_lockedJobs {h : List Action} {j : ℕ} {job : Job} :
    (j, job) ∈ lockedJobs h ↔ .lockJob j job ∈ h := by
  rw [lockedJobs, List.mem_filterMap]
  constructor
  · rintro ⟨a, ha, hlock⟩
    cases a with
    | lockJob j' job' =>
        obtain ⟨rfl, rfl⟩ := Prod.mk.inj (Option.some.inj hlock)
        exact ha
    | _ => simp at hlock
  · exact fun ha => ⟨_, ha, rfl⟩

/-- The job has got the lock. -/
def JobState.dispatched : JobState → Bool
  | .dispatching _ _ => true
  | .finished => true
  | _ => false

lemma dispatched_iff {h : List Action} (hl : system.Legal h) (j : ℕ) :
    ((system.exec h).jobs j).dispatched = true ↔ j ∈ (lockedJobs h).map Prod.fst := by
  have hrecord := jobRecord_of_legal hl j
  have hmem : j ∈ (lockedJobs h).map Prod.fst ↔ ∃ job, .lockJob j job ∈ h := by
    simp [mem_lockedJobs]
  rw [hmem]
  cases hj : (system.exec h).jobs j with
  | absent => simpa [JobState.dispatched] using (hj ▸ hrecord).lockJob
  | queued job => simpa [JobState.dispatched] using (hj ▸ hrecord).2.lockJob
  | taken job => simpa [JobState.dispatched] using (hj ▸ hrecord).2.lockJob
  | dispatching job index =>
      rw [hj] at hrecord
      obtain ⟨p, q, rfl, -⟩ := hrecord
      simpa [JobState.dispatched] using ⟨job, by simp⟩
  | finished =>
      rw [hj] at hrecord
      obtain ⟨job, p, q, rfl, -⟩ := hrecord
      simpa [JobState.dispatched] using ⟨job, by simp⟩

/-- **With one worker the jobs get the lock in the order of submission**, and none is left out. -/
lemma lockedJobs_of_legal {h : List Action} (hl : (ordered.restrict OneWorker).Legal h) :
    (lockedJobs h).map Prod.fst = List.range (lockedJobs h).length := by
  refine System.invariant (S := ordered.restrict OneWorker)
    (I := fun h _ => (lockedJobs h).map Prod.fst = List.range (lockedJobs h).length) rfl ?_ hl
  rintro h a hlh hs ⟨⟨ha, -⟩, -⟩
  rw [lockedJobs_append]
  cases a with
  | lockJob j job =>
      have hj : (system.exec h).jobs j = .taken job := ha.1
      have hlegal : system.Legal h := hlh.of_restrict.of_restrict
      have hsequential := sequential_of_legal hlh
      -- all jobs before this one are finished, and none after it has left the pool
      have hiff : ∀ j', j' ∈ (lockedJobs h).map Prod.fst ↔ j' < j := by
        intro j'
        rw [← dispatched_iff hlegal]
        constructor
        · intro hdispatched
          by_contra hge
          rcases (not_lt.mp hge).lt_or_eq with hgt | rfl
          · have hleft : ((system.exec h).jobs j').left = true := by
              cases hj' : (system.exec h).jobs j' <;> simp_all [JobState.dispatched, JobState.left]
            have hfinished := hsequential j' hleft j hgt
            simp [hj] at hfinished
          · simp [hj, JobState.dispatched] at hdispatched
        · intro hlt
          rw [hsequential j (by rw [hj]; rfl) j' hlt]
          rfl
      have hlength : (lockedJobs h).length = j := by
        rw [hs] at hiff
        simp only [List.mem_range] at hiff
        have h₁ := hiff j
        have h₂ := hiff (lockedJobs h).length
        omega
      rw [List.map_append, hs, List.length_append, hlength]
      exact List.range_succ.symm
  | _ => exact (List.append_nil (lockedJobs h)).symm ▸ hs

/-- So they are the first of the jobs submitted. -/
lemma lockedJobs_eq_take {h : List Action} (hl : (ordered.restrict OneWorker).Legal h) :
    (lockedJobs h).map Prod.snd = (submittedJobs h).take (lockedJobs h).length := by
  have hlegal : system.Legal h := hl.of_restrict.of_restrict
  have hids := lockedJobs_of_legal hl
  refine List.ext_getElem? fun i => ?_
  by_cases hi : i < (lockedJobs h).length
  · obtain ⟨⟨j, job⟩, hlocked⟩ : ∃ x, (lockedJobs h)[i]? = some x :=
      ⟨_, List.getElem?_eq_getElem hi⟩
    obtain rfl : j = i := by
      have hj := congrArg (·[i]?) hids
      simp only [List.getElem?_map, hlocked, List.getElem?_range hi] at hj
      exact Option.some.inj hj
    obtain ⟨p, q, rfl⟩ := List.append_of_mem (mem_lockedJobs.mp (List.mem_of_getElem? hlocked))
    obtain ⟨⟨c, hc⟩, -⟩ := delivered_of_legal hlegal
    have hjob := (submittedJobs_of_legal hlegal).2 c j job (List.mem_append_left _ hc)
    rw [List.getElem?_take_of_lt hi, hjob, List.getElem?_map, hlocked]
    rfl
  · rw [List.getElem?_eq_none (by simpa using hi), List.getElem?_eq_none]
    rw [List.length_take]
    omega

/-! ## From the lock to the notification -/

/-- Among the calls of a delivery, one is for the notification. -/
lemma heardBy_announce {l : List Notification} (hl : l.Nodup) {n : Notification} (hn : n ∈ l)
    (job : Job) : heardBy n (l.map job.announce) = [job.announce n] := by
  have hone : l.filter (fun m => m = n) = [n] := by
    rw [List.filter_eq, List.count_eq_one_of_mem hl hn]
    rfl
  rw [heardBy, List.filter_map]
  exact congrArg (List.map job.announce) hone

lemma heardBy_linearization {h : List Action} (hl : system.Legal h) {n : Notification}
    (hreg : StaysRegistered n h) :
    heardBy n (notifier.exec (linearization h)).heard =
      ((lockedJobs h).map Prod.snd).map fun job => job.announce n := by
  induction h using List.reverseRecOn with
  | nil => rfl
  | append_singleton h a ih =>
      have hlh : system.Legal h := hl.prefix
      have hbefore := ih hlh hreg.prefix
      rw [linearization_append, lockedJobs_append]
      cases a with
      | runRequest k kind n' status =>
          have hpoint : linearization [.runRequest k kind n' status] =
            [.request k kind n' status] := rfl
          rw [hpoint, System.exec_snoc]
          exact (List.append_nil (lockedJobs h)).symm ▸ hbefore
      | lockJob j job =>
          have hpoint : linearization [.lockJob j job] = [.broadcast j job] := rfl
          have hlist := (delivery_refines.run hlh).2.1
          have hheard : (notifier.exec (linearization h ++ [.broadcast j job])).heard =
              (notifier.exec (linearization h)).heard ++
                (system.exec h).notifications.map job.announce := by
            rw [System.exec_snoc, ← hlist]
            rfl
          rw [hpoint, hheard, heardBy, List.filter_append, List.map_append, List.map_append]
          refine congrArg₂ (· ++ ·) hbefore ?_
          exact heardBy_announce (notifications_nodup hlh) hreg.mem job
      | _ => exact (List.append_nil (linearization h)).symm ▸
          (List.append_nil (lockedJobs h)).symm ▸ hbefore

/-- What a notification has heard, and what the job with the lock still has to tell it, is what the
jobs that got the lock have for it. -/
lemma heardBy_callsMade {h : List Action} (hl : system.Legal h) {n : Notification}
    (hreg : StaysRegistered n h) :
    heardBy n (callsMade h) ++ heardBy n (system.exec h).outstanding =
      ((lockedJobs h).map Prod.snd).map fun job => job.announce n := by
  have hagrees : (notifier.exec (linearization h)).heard =
      callsMade h ++ (system.exec h).outstanding := (delivery_refines.run hl).2.2
  rw [← heardBy_linearization hl hreg, hagrees]
  exact (List.filter_append ..).symm

/-- At any time it has heard a first part of what was described, -/
lemma heardBy_inOrder {h : List Action} (hl : (ordered.restrict OneWorker).Legal h)
    {n : Notification} (hreg : StaysRegistered n h) :
    heardBy n (callsMade h) <+: (described h).map (·.announce n) := by
  have hcalls : heardBy n (callsMade h) <+:
      ((lockedJobs h).map Prod.snd).map fun job => job.announce n :=
    heardBy_callsMade hl.of_restrict.of_restrict hreg ▸ List.prefix_append _ _
  rw [lockedJobs_eq_take hl] at hcalls
  have hsubmitted : submittedJobs h <+: described h := by
    rcases fed_of_legal hl.of_restrict with ⟨c, job, -, hd⟩ | ⟨-, hd⟩
    · exact hd ▸ List.prefix_append _ _
    · exact hd ▸ List.prefix_rfl
  exact hcalls.trans (((List.take_prefix _ _).trans hsubmitted).map _)

/-- Every callback has returned and every job is finished. -/
def State.AtRest (s : State) : Prop :=
  (∀ c, s.callbacks c = .absent ∨ s.callbacks c = .returned) ∧
    ∀ j, s.jobs j = .absent ∨ s.jobs j = .finished

/-- and at rest, all of it. -/
lemma heardBy_atRest {h : List Action} (hl : (ordered.restrict OneWorker).Legal h)
    {n : Notification} (hreg : StaysRegistered n h) (hrest : (system.exec h).AtRest) :
    heardBy n (callsMade h) = (described h).map (·.announce n) := by
  obtain ⟨hcallbacks, hjobs⟩ := hrest
  have hlegal : system.Legal h := hl.of_restrict.of_restrict
  have hheard := heardBy_callsMade hlegal hreg
  have hd : described h = submittedJobs h := by
    rcases fed_of_legal hl.of_restrict with ⟨c, job, hc, -⟩ | ⟨-, hd⟩
    · rcases hcallbacks c with hc' | hc' <;> simp [hc] at hc'
    · exact hd
  have hquiet : (system.exec h).outstanding = [] := by
    unfold State.outstanding
    split
    · next j _ => rcases hjobs j with hj | hj <;> rw [hj]
    · rfl
  have hall : (submittedJobs h).length ≤ (lockedJobs h).length := by
    by_contra hlt
    have hnot : (lockedJobs h).length ∉ (lockedJobs h).map Prod.fst := by
      simp [lockedJobs_of_legal hl]
    rw [← dispatched_iff hlegal] at hnot
    rcases hjobs (lockedJobs h).length with hj | hj
    · rw [(numbered_of_legal hlegal).absent, ← (submittedJobs_of_legal hlegal).1] at hj
      exact hlt hj
    · exact hnot (by rw [hj]; rfl)
  have hnone : heardBy n (system.exec h).outstanding = [] := by
    rw [hquiet]
    rfl
  rwa [hnone, List.append_nil, lockedJobs_eq_take hl, List.take_of_length_le hall, ← hd] at hheard

/-- **From the bus to the client.**  Callbacks come one after the other, jobs leave the pool in the
order of submission, and there is one worker.  Then a notification that is in the list whenever a
job gets the lock is told a first part of the events that could be described, each once, in the
order in which libusb reported them, with what was described; and all of them once the callbacks
have returned and the jobs are finished. -/
theorem ordered_delivery {h : List Action} (hl : (ordered.restrict OneWorker).Legal h)
    {n : Notification} (hreg : StaysRegistered n h) :
    heardBy n (callsMade h) <+: (described h).map (·.announce n) ∧
      ((∀ c, (system.exec h).callbacks c = .absent ∨ (system.exec h).callbacks c = .returned) →
        (∀ j, (system.exec h).jobs j = .absent ∨ (system.exec h).jobs j = .finished) →
          heardBy n (callsMade h) = (described h).map (·.announce n)) :=
  ⟨heardBy_inOrder hl hreg, fun hcallbacks hjobs => heardBy_atRest hl hreg ⟨hcallbacks, hjobs⟩⟩

/-- No worker has any of the jobs submitted so far. -/
def WorkersIdle (s : State) : Action → Prop
  | .take _ _ => ∀ j < s.submitted, (s.jobs j).underWay = false
  | _ => True

instance (s : State) : ∀ a : Action, Decidable (WorkersIdle s a)
  | .take _ _ => inferInstanceAs (Decidable (∀ j < s.submitted, (s.jobs j).underWay = false))
  | .call .. | .lockRequest .. | .runRequest .. | .unlockRequest .. | .returnRequest ..
  | .enterCallback .. | .submit .. | .returnCallback _ | .lockJob .. | .notify .. | .finish .. =>
      inferInstanceAs (Decidable True)

/-- Then no worker has a job. -/
lemma legal_of_workersIdle {h : List Action} (hl : (ordered.restrict WorkersIdle).Legal h) :
    (ordered.restrict OneWorker).Legal h := by
  induction h using List.reverseRecOn with
  | nil => exact System.legal_nil _
  | append_singleton h a ih =>
      obtain ⟨hlh, ha, hidle⟩ := (System.legal_snoc _ h a).mp hl
      refine (System.legal_snoc _ h a).mpr ⟨ih hlh, ha, ?_⟩
      cases a with
      | take j job =>
          intro j'
          by_cases hj' : j' < (system.exec h).submitted
          · exact hidle j' hj'
          · have hlegal : system.Legal h := hlh.of_restrict.of_restrict
            have habsent := ((numbered_of_legal hlegal).absent j').mpr (not_lt.mp hj')
            show ((system.exec h).jobs j').underWay = false
            rw [habsent]
            rfl
      | _ => trivial

/-- The disk comes and goes, and notification 7 is told both. -/
theorem ordered_delivery_sampleDisk :
    let h := requestSteps 0 .register 7 .errorNone ++
      callbackSteps 0 0 .deviceArrived sampleWorld (sampleJob .deviceArrived) ++
      callbackSteps 1 1 .deviceLeft sampleWorld (sampleJob .deviceLeft) ++
      [.take 0 (sampleJob .deviceArrived)] ++ dispatchSteps 0 .deviceArrived ++
      [.take 1 (sampleJob .deviceLeft)] ++ dispatchSteps 1 .deviceLeft
    heardBy 7 (callsMade h) <+: (described h).map (·.announce 7) ∧
      ((∀ c, (system.exec h).callbacks c = .absent ∨ (system.exec h).callbacks c = .returned) →
        (∀ j, (system.exec h).jobs j = .absent ∨ (system.exec h).jobs j = .finished) →
          heardBy 7 (callsMade h) = (described h).map (·.announce 7)) :=
  ordered_delivery (legal_of_workersIdle (by decide)) (by decide)

end Delivery

end Usb
