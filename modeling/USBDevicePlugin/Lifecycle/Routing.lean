import USBDevicePlugin.Lifecycle.Activation

/-!
# Where events go

What becomes of an event when there is more than one object.

An event is shown to the callbacks of every object that has some.  Each dispatches to the object
constructed last, so the event is announced there as often as there are objects, and the older ones
announce nothing.  If only callbacks of the object constructed last dispatch, at most one of them
does so for an event: when it does, no younger object exists, and the objects the event was shown to
are all as old as the event.

* **`events_misrouted`** — with two objects, an event is announced twice, and to notifications that
  are not those of the callback's object; and the older object can be left with a pointer to a
  younger one that has been destroyed.
* **`wellRouted_of_legal`** — none of this happens under `ThroughNewest`.
* `throughNewest_of_alone` — which always holds if no two objects exist at a time.
-/

namespace Usb

open TransitionSystem

namespace Activation

/-! ## One job for an event -/

/-- The callback that has dispatched for an event belongs to the youngest object the event was shown
to, and there is a job for it. -/
structure OneJob (s : State) : Prop where
  youngest : ∀ e o, s.callbacks e o = .dispatched → ∀ o', s.callbacks e o' ≠ .absent → o' ≤ o
  dispatched : ∀ entry ∈ s.jobs, ∃ o, s.callbacks entry.hotplug o = .dispatched
  distinct : (s.jobs.map PoolJob.hotplug).Nodup

/-- A job that goes on stays the job of its event. -/
lemma map_hotplug_set {jobs : List PoolJob} {j : ℕ} {entry : PoolJob} (hj : jobs[j]? = some entry)
    (phase : JobPhase) :
    (jobs.set j { entry with phase }).map PoolJob.hotplug = jobs.map PoolJob.hotplug := by
  obtain ⟨hlt, rfl⟩ := List.getElem?_eq_some_iff.mp hj
  have hlt' : j < (jobs.map PoolJob.hotplug).length := by simpa using hlt
  simpa [List.map_set] using List.set_getElem_self hlt'

lemma OneJob.set {s : State} (hs : OneJob s) {j : ℕ} {entry : PoolJob}
    (hj : s.jobs[j]? = some entry) (phase : JobPhase) :
    OneJob { s with jobs := s.jobs.set j { entry with phase } } where
  youngest := hs.youngest
  dispatched entry' hmem := by
    rcases List.mem_or_eq_of_mem_set hmem with hmem | rfl
    · exact hs.dispatched entry' hmem
    · exact hs.dispatched entry (List.mem_of_getElem? hj)
  distinct := by
    rw [map_hotplug_set hj]
    exact hs.distinct

/-- Only callbacks and jobs matter. -/
lemma OneJob.congr {s s' : State} (hs : OneJob s) (hcallbacks : s'.callbacks = s.callbacks)
    (hjobs : s'.jobs = s.jobs) : OneJob s' := by
  obtain ⟨hyoungest, hdispatched, hdistinct⟩ := hs
  rw [← hcallbacks] at hyoungest hdispatched
  rw [← hjobs] at hdispatched hdistinct
  exact ⟨hyoungest, hdispatched, hdistinct⟩

lemma OneJob.hotplug {s : State} (hs : OneJob s) (huse : InUse s) (event : Event) :
    OneJob (s.next (.hotplug s.events event)) where
  youngest e o ho o' ho' := by
    by_cases he : e = s.events
    · subst he
      simp only [State.next, Function.update_self] at ho
      split_ifs at ho
    · simp only [State.next, Function.update_of_ne he] at ho ho'
      exact hs.youngest e o ho o' ho'
  dispatched entry hentry := by
    obtain ⟨o, ho⟩ := hs.dispatched entry hentry
    have hold := (huse.callback entry.hotplug o (by simp [ho])).1
    exact ⟨o, by simpa [State.next, hold.ne] using ho⟩
  distinct := hs.distinct

/-- A callback that goes on, and is not at its end. -/
lemma OneJob.update {s : State} (hs : OneJob s) {e o : ℕ} {r : Callback}
    (hbefore : s.callbacks e o ≠ .absent) (hbefore' : s.callbacks e o ≠ .dispatched)
    (hafter : r ≠ .dispatched) :
    OneJob { s with
      callbacks := Function.update s.callbacks e (Function.update (s.callbacks e) o r) } where
  youngest := by
    intro e' o₁ ho₁ o₂ ho₂
    have hyoungest := hs.youngest e' o₁
    simp only [Function.update_apply, ite_apply] at ho₁ ho₂
    grind
  dispatched := by
    intro entry hentry
    obtain ⟨o', ho'⟩ := hs.dispatched entry hentry
    refine ⟨o', ?_⟩
    simp only [Function.update_apply, ite_apply]
    grind
  distinct := hs.distinct

lemma OneJob.dispatch {s : State} (hs : OneJob s) (huse : InUse s) {e o target j : ℕ} {job : Job}
    (ha : s.Enabled (.dispatch e o target j job)) (hnewest : o + 1 = s.constructed) :
    OneJob (s.next (.dispatch e o target j job)) := by
  have hcallback := ha.1
  -- the objects the event was shown to exist, so this one is the youngest
  have hle : ∀ o', s.callbacks e o' ≠ .absent → o' ≤ o := by
    intro o' ho'
    have := (huse.callback e o' ho').2
    omega
  have hnone : ∀ entry ∈ s.jobs, entry.hotplug ≠ e := by
    rintro entry hentry rfl
    obtain ⟨o', ho'⟩ := hs.dispatched entry hentry
    have hge := hs.youngest _ o' ho' o (by simp [hcallback])
    obtain rfl : o' = o := le_antisymm (hle o' (by simp [ho'])) hge
    simp [hcallback] at ho'
  constructor
  · intro e' o₁ ho₁ o₂ ho₂
    have hyoungest := hs.youngest e' o₁
    simp only [State.next, Function.update_apply, ite_apply] at ho₁ ho₂
    grind
  · intro entry hmem
    simp only [State.next, Function.update_apply, ite_apply]
    rcases List.mem_append.mp hmem with hmem | hmem
    · obtain ⟨o', ho'⟩ := hs.dispatched entry hmem
      exact ⟨o', by simp [hnone entry hmem, ho']⟩
    · exact ⟨o, by simp [List.mem_singleton.mp hmem]⟩
  · simp only [State.next, List.map_append]
    refine List.Nodup.append hs.distinct (List.nodup_singleton _) ?_
    simpa using hnone

lemma oneJob_next {s : State} {a : Action} (huse : InUse s) (hs : OneJob s) (ha : s.Enabled a)
    (hcond : ThroughNewest s a) : OneJob (s.next a) := by
  cases a with
  | hotplug e event =>
      obtain rfl : e = s.events := ha
      exact hs.hotplug huse event
  | describe e o target event world =>
      exact hs.update (by simp [ha.1]) (by simp [ha.1]) (by simp)
  | dispatch e o target j job => exact hs.dispatch huse ha hcond.1
  | run j entry calls => exact hs.set ha.1 .ran
  | destroyJob j entry =>
      exact (hs.set ha.1 .destroyed).congr rfl rfl
  | _ => exact hs.congr rfl rfl

lemma oneJob_of_legal {h : List Action} (hl : throughNewest.Legal h) : OneJob (system.exec h) :=
  System.invariant (S := throughNewest) (I := fun _ s => OneJob s)
    ⟨by simp [throughNewest, System.restrict, system], by simp [throughNewest, System.restrict, system],
      List.nodup_nil⟩
    (fun _ _ hlh hs ha => oneJob_next (inUse_of_legal hlh.of_restrict) hs ha.1 ha.2) hl

/-! ## Calls -/

lemma notifications_nodup_next {s : State} (hs : ∀ o, (s.objects o).notifications.Nodup)
    (a : Action) : ∀ o, ((s.next a).objects o).notifications.Nodup := by
  have hupdate : ∀ o₀ (x : Object), x.notifications.Nodup →
      ∀ o, (Function.update s.objects o₀ x o).notifications.Nodup := fun o₀ x hx =>
    (Function.forall_update_iff _ fun _ (y : Object) => y.notifications.Nodup).mpr ⟨hx, fun o _ => hs o⟩
  cases a with
  | construct => exact hupdate _ _ List.nodup_nil
  | initialise o target => exact hupdate o _ (hs o)
  | initialiseFails o arrivals => exact hupdate o _ (hs o)
  | request o kind n => exact hupdate o _ (Delivery.body_nodup (hs o) kind n)
  | ownerRelease o =>
      intro o'
      rw [State.next, close_notifications]
      exact hupdate o { s.objects o with owner := false } (hs o) o'
  | deregister o event => exact hupdate o _ (hs o)
  | destroy o => exact hupdate o _ (hs o)
  | destroyJob j entry =>
      intro o'
      rw [State.next, close_notifications]
      exact hs o'
  | _ => exact hs

lemma notifications_nodup_of_legal {h : List Action} (hl : system.Legal h) :
    ∀ o, ((system.exec h).objects o).notifications.Nodup :=
  System.invariant (S := system) (I := fun _ s => ∀ o, (s.objects o).notifications.Nodup)
    (fun _ => List.nodup_nil) (fun _ a _ hs _ => notifications_nodup_next hs a) hl

/-- What an event has led to so far: no notification is called twice, and none at all while its
job is waiting. -/
structure CalledOnce (h : List Action) (s : State) (e : ℕ) : Prop where
  nodup : ((callsFor e h).map Announcement.notification).Nodup
  waiting : (∀ entry ∈ s.jobs, entry.hotplug = e → entry.phase = .queued) → callsFor e h = []

lemma callsFor_append (e : ℕ) (h h' : List Action) :
    callsFor e (h ++ h') = callsFor e h ++ callsFor e h' := List.flatMap_append

lemma CalledOnce.mono {h : List Action} {s s' : State} {e : ℕ} (hs : CalledOnce h s e) {a : Action}
    (ha : callsFor e [a] = [])
    (hjobs : ∀ entry ∈ s.jobs, entry.hotplug = e → entry.phase ≠ .queued →
      ∃ entry' ∈ s'.jobs, entry'.hotplug = e ∧ entry'.phase ≠ .queued) :
    CalledOnce (h ++ [a]) s' e := by
  have hcalls : callsFor e (h ++ [a]) = callsFor e h := by rw [callsFor_append, ha, List.append_nil]
  constructor
  · rw [hcalls]
    exact hs.nodup
  · intro hwaiting
    rw [hcalls]
    refine hs.waiting fun entry hentry he => ?_
    by_contra hphase
    obtain ⟨entry', hentry', he', hphase'⟩ := hjobs entry hentry he hphase
    exact hphase' (hwaiting entry' hentry' he')

/-- A job that has run stays one that has. -/
lemma exists_ran_set {jobs : List PoolJob} {j : ℕ} {entry : PoolJob} (hj : jobs[j]? = some entry)
    {phase : JobPhase} (hphase : phase ≠ .queued) {entry₀ : PoolJob} (hentry : entry₀ ∈ jobs)
    (hran : entry₀.phase ≠ .queued) :
    ∃ entry' ∈ jobs.set j { entry with phase }, entry'.hotplug = entry₀.hotplug ∧
      entry'.phase ≠ .queued := by
  obtain ⟨i, hi⟩ := List.mem_iff_getElem?.mp hentry
  by_cases hij : i = j
  · subst hij
    obtain rfl : entry = entry₀ := Option.some.inj (hj.symm.trans hi)
    refine ⟨{ entry with phase }, List.mem_set ?_ _, rfl, hphase⟩
    exact (List.getElem?_eq_some_iff.mp hj).1
  · refine ⟨entry₀, List.mem_of_getElem? (i := i) ?_, rfl, hran⟩
    rw [List.getElem?_set_ne (Ne.symm hij), hi]

/-- The only job of its event runs: nothing has been called for the event before. -/
lemma CalledOnce.run {h : List Action} {s : State} (hone : OneJob s)
    (hs : ∀ e, CalledOnce h s e) (hlist : ∀ o, (s.objects o).notifications.Nodup) {j : ℕ}
    {entry : PoolJob} {calls : List Announcement} (ha : s.Enabled (.run j entry calls)) (e : ℕ) :
    CalledOnce (h ++ [.run j entry calls]) (s.next (.run j entry calls)) e := by
  obtain ⟨hj, hqueued, rfl⟩ := ha
  by_cases he : entry.hotplug = e
  · subst he
    have hmem : entry ∈ s.jobs := List.mem_of_getElem? hj
    have hnone : callsFor entry.hotplug h = [] := (hs _).waiting fun entry₀ hentry₀ he₀ => by
      rw [List.inj_on_of_nodup_map hone.distinct hentry₀ hmem he₀]
      exact hqueued
    constructor
    · rw [callsFor_append, hnone]
      simpa [callsFor, Job.announce, Function.comp_def] using hlist entry.target
    · intro hwaiting
      have hlt : j < s.jobs.length := (List.getElem?_eq_some_iff.mp hj).1
      exact absurd (hwaiting _ (List.mem_set hlt _) rfl) (by simp)
  · refine (hs e).mono (by simp [callsFor, he]) fun entry₀ hentry₀ he₀ hran => ?_
    rw [← he₀]
    exact exists_ran_set hj (by simp) hentry₀ hran

lemma calledOnce_of_legal {h : List Action} (hl : throughNewest.Legal h) :
    ∀ e, CalledOnce h (system.exec h) e := by
  refine System.invariant (S := throughNewest) (I := fun h s => ∀ e, CalledOnce h s e)
    (fun e => ⟨List.nodup_nil, fun _ => rfl⟩) ?_ hl
  rintro h a hlh hs ⟨ha, -⟩ e
  cases a with
  | run j entry calls =>
      exact CalledOnce.run (oneJob_of_legal hlh) hs (notifications_nodup_of_legal hlh.of_restrict) ha e
  | dispatch e' o target j job =>
      exact (hs e).mono rfl fun entry hentry he hran => ⟨entry, List.mem_append_left _ hentry, he, hran⟩
  | destroyJob j entry =>
      refine (hs e).mono rfl fun entry₀ hentry₀ he₀ hran => ?_
      obtain ⟨entry', hentry', he', hran'⟩ :=
        exists_ran_set ha.1 (show JobPhase.destroyed ≠ .queued by simp) hentry₀ hran
      exact ⟨entry', hentry', he'.trans he₀, hran'⟩
  | _ => exact (hs e).mono rfl fun entry hentry he hran => ⟨entry, hentry, he, hran⟩

/-! ## Jobs and their callbacks -/

/-- The jobs dispatched are in the pool, under their numbers. -/
def Pooled (h : List Action) (s : State) : Prop :=
  ∀ e o target j job, .dispatch e o target j job ∈ h →
    ∃ phase, s.jobs[j]? = some { hotplug := e, target, job, phase }

/-- A job that goes on stays the one that was dispatched. -/
lemma Pooled.set {h : List Action} {s : State} (hs : Pooled h s) {j : ℕ} {entry : PoolJob}
    (hj : s.jobs[j]? = some entry) (phase : JobPhase) :
    Pooled h { s with jobs := s.jobs.set j { entry with phase } } := by
  intro e o target i job hmem
  obtain ⟨phase', hi⟩ := hs e o target i job hmem
  by_cases hij : i = j
  · subst hij
    obtain rfl := Option.some.inj (hj.symm.trans hi)
    exact ⟨phase, List.getElem?_set_self (List.getElem?_eq_some_iff.mp hj).1⟩
  · exact ⟨phase', (List.getElem?_set_ne (Ne.symm hij)).trans hi⟩

lemma Pooled.mono {h : List Action} {s s' : State} (hs : Pooled h s) (hjobs : s'.jobs = s.jobs)
    {a : Action} (ha : ∀ e o target j job, a ≠ .dispatch e o target j job) :
    Pooled (h ++ [a]) s' := by
  intro e o target j job hmem
  rw [hjobs]
  refine hs e o target j job ?_
  simpa [(ha e o target j job).symm] using hmem

lemma pooled_of_legal {h : List Action} (hl : system.Legal h) : Pooled h (system.exec h) := by
  refine System.invariant (S := system) (I := Pooled) (fun e o target j job hmem => by simp at hmem)
    ?_ hl
  intro h a _ hs ha
  cases a with
  | dispatch e o target j job =>
      obtain rfl : j = (system.exec h).jobs.length := ha.2.2
      intro e' o' target' j' job' hmem
      rcases List.mem_append.mp hmem with hmem | hmem
      · obtain ⟨phase, hj'⟩ := hs e' o' target' j' job' hmem
        refine ⟨phase, (List.getElem?_append_left ?_).trans hj'⟩
        exact (List.getElem?_eq_some_iff.mp hj').1
      · obtain ⟨rfl, rfl, rfl, rfl, rfl⟩ := Action.dispatch.inj (List.mem_singleton.mp hmem)
        exact ⟨.queued, by simp [system, State.next]⟩
  | run j entry calls => exact (hs.set ha.1 .ran).mono rfl (by simp)
  | destroyJob j entry => exact (hs.set ha.1 .destroyed).mono rfl (by simp)
  | _ => exact hs.mono rfl (by simp)

/-! ## Two objects -/

/-- The disk arrives; its job waits and keeps the first object, which is released by its owner;
the second object is constructed. -/
def overlap : List Action :=
  [.construct, .initialise 0 0, .hotplug 0 .deviceArrived,
    .describe 0 0 0 .deviceArrived Delivery.sampleWorld,
    .dispatch 0 0 0 0 (Delivery.sampleJob .deviceArrived), .ownerRelease 0,
    .construct, .initialise 1 1]

/-- The second object is registered with; the disk leaves, and both callbacks dispatch. -/
def bothDispatch : List Action :=
  [.request 1 .register 7, .hotplug 1 .deviceLeft,
    .describe 1 0 1 .deviceLeft Delivery.sampleWorld,
    .dispatch 1 0 1 1 (Delivery.sampleJob .deviceLeft),
    .describe 1 1 1 .deviceLeft Delivery.sampleWorld,
    .dispatch 1 1 1 2 (Delivery.sampleJob .deviceLeft)]

/-- The second object is done with before the disk leaves. -/
def secondGone : List Action :=
  [.ownerRelease 1, .deregister 1 .deviceArrived, .deregister 1 .deviceLeft, .destroy 1,
    .hotplug 1 .deviceLeft, .describe 1 0 1 .deviceLeft Delivery.sampleWorld]

/-- A job of the second object, about the departure. -/
def departureRun (j : ℕ) : Action :=
  .run j { hotplug := 1, target := 1, job := Delivery.sampleJob .deviceLeft, phase := .queued }
    [(Delivery.sampleJob .deviceLeft).announce 7]

/-- **Two objects, one pointer.** -/
theorem events_misrouted :
    (¬ ∀ h, system.Legal h → Once h) ∧ (¬ ∀ h, system.Legal h → Routed h) ∧
      ¬ ∀ h, system.Legal h → Undestroyed h := by
  refine ⟨fun hclaim => ?_, fun hclaim => ?_, fun hclaim => ?_⟩
  · have honce := hclaim (overlap ++ bothDispatch ++ [departureRun 1, departureRun 2]) (by decide) 1
    exact absurd honce (by decide)
  · -- the first object has no notifications; its event goes to those of the second
    have hrouted := hclaim (overlap ++ bothDispatch ++ [departureRun 1]) (by decide)
      (overlap ++ bothDispatch.take 3) (bothDispatch.drop 4) [] 1 0 1 1 _ _ _ rfl (by decide)
    exact absurd hrouted (by decide)
  · have hgone := hclaim (overlap ++ secondGone) (by decide) (overlap ++ secondGone.take 5) []
      _ 0 1 rfl rfl (by decide)
    exact absurd hgone (by decide)

/-! ## The condition is enough -/

/-- What a live object gets from `instance()` is live. -/
lemma live_target {s : State} (huse : InUse s) {a : Action} (ha : s.Enabled a)
    (hcond : ThroughNewest s a) {o target : ℕ} (huses : a.usesInstance = some (o, target))
    (hlive : s.Live o) : s.Live target := by
  have hnewest : s.usbDeviceImplInstance = some target → s.Live (s.constructed - 1) →
      s.Live target := by
    intro htarget hlast
    rwa [← huse.newest target htarget] at hlast
  cases a with
  | initialise o' target' =>
      obtain ⟨rfl, rfl⟩ : o' = o ∧ target' = target := by simpa [Action.usesInstance] using huses
      exact hnewest ha.2 (hcond hlive)
  | operate o' target' =>
      obtain ⟨rfl, rfl⟩ : o' = o ∧ target' = target := by simpa [Action.usesInstance] using huses
      exact hnewest ha.2.2 (hcond hlive)
  | describe e o' target' event world =>
      obtain ⟨rfl, rfl⟩ : o' = o ∧ target' = target := by simpa [Action.usesInstance] using huses
      exact hnewest ha.2.2 (hcond hlive)
  | dispatch e o' target' j job =>
      obtain ⟨rfl, rfl⟩ : o' = o ∧ target' = target := by simpa [Action.usesInstance] using huses
      rw [target_eq_of_dispatch huse ha hcond.1]
      exact hlive
  | _ => simp [Action.usesInstance] at huses

/-- **Events go where they belong**, and once, in a run in which callbacks dispatch for the object
constructed last only. -/
theorem wellRouted_of_legal {h : List Action} (hl : throughNewest.Legal h) : WellRouted h where
  once e := (calledOnce_of_legal hl e).nodup
  routed := by
    rintro p q r e o target j job entry calls rfl -
    have hlq : system.Legal (p ++ .dispatch e o target j job :: q) := hl.of_restrict.prefix
    obtain ⟨hj, -, rfl⟩ := hl.of_restrict.enabled_at
    -- the job that runs is the one that was dispatched, for the object constructed last
    obtain ⟨phase, hjob⟩ := pooled_of_legal hlq e o target j job (by simp)
    obtain rfl := Option.some.inj (hj.symm.trans hjob)
    have hlp : throughNewest.Legal (p ++ .dispatch e o target j job :: q) := hl.prefix
    obtain ⟨ha, hnewest, -⟩ := hlp.enabled_at
    rw [target_eq_of_dispatch (inUse_of_legal hlq.prefix) ha hnewest]
  undestroyed := by
    rintro p q a o target rfl huses hlive hdestroyed
    have hlp : throughNewest.Legal p := hl.prefix
    obtain ⟨ha, hcond⟩ := hl.enabled_at
    have htarget := live_target (inUse_of_legal hlp.of_restrict) ha hcond huses hlive
    rcases referable_of_legal hlp target htarget with hphase | hphase <;> simp [hdestroyed] at hphase

/-- The second activation begins when the first is over. -/
theorem wellRouted_twoActivations :
    WellRouted
      [.construct, .initialise 0 0, .hotplug 0 .deviceArrived,
        .describe 0 0 0 .deviceArrived Delivery.sampleWorld,
        .dispatch 0 0 0 0 (Delivery.sampleJob .deviceArrived),
        .run 0 ⟨0, 0, Delivery.sampleJob .deviceArrived, .queued⟩ [],
        .destroyJob 0 ⟨0, 0, Delivery.sampleJob .deviceArrived, .ran⟩,
        .ownerRelease 0, .deregister 0 .deviceArrived, .deregister 0 .deviceLeft, .destroy 0,
        .construct, .initialise 1 1,
        .request 1 .register 7, .hotplug 1 .deviceLeft,
        .describe 1 1 1 .deviceLeft Delivery.sampleWorld,
        .dispatch 1 1 1 1 (Delivery.sampleJob .deviceLeft), departureRun 1] :=
  wellRouted_of_legal (by decide)

/-! ## One object at a time -/

/-- An object is constructed when all others are destroyed, and a callback dispatches only if its
object is referenced. -/
def Alone (s : State) : Action → Prop
  | .construct => ∀ o < s.constructed, (s.objects o).phase = .destroyed
  | .dispatch _ o _ _ _ => s.Live o
  | _ => True

/-- Nothing happens to an object that has been destroyed. -/
lemma destroyed_next {s : State} {a : Action} (huse : InUse s) (ha : s.Enabled a) {o : ℕ}
    (ho : (s.objects o).phase = .destroyed) : ((s.next a).objects o).phase = .destroyed := by
  have hlt := huse.object o (by simp [ho])
  cases a <;> simp only [State.Enabled, State.next, close_phase, Function.update_apply] at ha ⊢ <;>
    grind

lemma constructed_next {s : State} {a : Action} (ha : a ≠ .construct) :
    (s.next a).constructed = s.constructed := by
  cases a with
  | construct => exact absurd rfl ha
  | _ => rfl

/-- All objects but the last are destroyed. -/
lemma destroyed_of_alone {h : List Action} (hl : (system.restrict Alone).Legal h) :
    ∀ o, o + 1 < (system.exec h).constructed → ((system.exec h).objects o).phase = .destroyed := by
  refine System.invariant (S := system.restrict Alone)
    (I := fun _ s => ∀ o, o + 1 < s.constructed → (s.objects o).phase = .destroyed)
    (fun o ho => by simp [System.restrict, system] at ho) ?_ hl
  rintro h a hlh hs ⟨ha, halone⟩ o ho
  refine destroyed_next (inUse_of_legal hlh.of_restrict) ha ?_
  by_cases hconstruct : a = .construct
  · subst hconstruct
    have hbelow : ∀ o < (system.exec h).constructed, ((system.exec h).objects o).phase = .destroyed :=
      halone
    exact hbelow o (Nat.lt_of_succ_lt_succ ho)
  · exact hs o ((constructed_next hconstruct).symm ▸ ho)

/-- The only object there is was constructed last. -/
lemma newest_of_live {h : List Action} (hl : (system.restrict Alone).Legal h)
    (href : Referable (system.exec h)) {o : ℕ} (ho : o < (system.exec h).constructed)
    (hlive : (system.exec h).Live o) : o + 1 = (system.exec h).constructed := by
  by_contra hne
  have hdestroyed := destroyed_of_alone hl o (by omega)
  rcases href o hlive with hphase | hphase <;> simp [hdestroyed] at hphase

lemma throughNewest_of_newest {s : State} {a : Action} (huse : InUse s) (ha : s.Enabled a)
    (halone : Alone s a) (hnewest : ∀ o < s.constructed, s.Live o → o + 1 = s.constructed) :
    ThroughNewest s a := by
  have hlast : ∀ o < s.constructed, s.Live o → s.Live (s.constructed - 1) := by
    intro o ho hlive
    rwa [← hnewest o ho hlive]
  cases a with
  | initialise o target => exact hlast o (huse.object o (by simp [ha.1]))
  | operate o target => exact hlast o (huse.object o (by simp [ha.1]))
  | describe e o target event world => exact hlast o (huse.callback e o (by simp [ha.1])).2
  | dispatch e o target j job =>
      exact ⟨hnewest o (huse.callback e o (by simp [ha.1])).2 halone, halone⟩
  | _ => trivial

/-- **One object at a time** is enough. -/
theorem throughNewest_of_alone {h : List Action} (hl : (system.restrict Alone).Legal h) :
    throughNewest.Legal h := by
  induction h using List.reverseRecOn with
  | nil => exact throughNewest.legal_nil
  | append_singleton h a ih =>
      obtain ⟨hlh, ha, halone⟩ := ((system.restrict Alone).legal_snoc h a).mp hl
      refine (throughNewest.legal_snoc h a).mpr ⟨ih hlh, ha, ?_⟩
      exact throughNewest_of_newest (inUse_of_legal hlh.of_restrict) ha halone
        fun o => newest_of_live hlh (referable_of_legal (ih hlh))

end Activation

end Usb
