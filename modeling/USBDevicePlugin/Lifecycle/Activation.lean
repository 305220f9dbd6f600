import USBDevicePlugin.Lifecycle.ExactlyOnce

/-!
# Activation after activation

All `USBDeviceImplementation` objects of a process.  Each registers the same two callbacks, without
user data, and the callbacks find an object through `instance()`: a static pointer that every
construction overwrites and no destruction clears.  An object lives until its last reference is
gone, and a job in the pool has one, so an object can still be there, with its callbacks registered,
when the next one is constructed.

* `WellRouted` — what is promised of the events of a run.
* `ThroughNewest` — the condition under which it is kept: callbacks dispatch for the object
  constructed last only, and `instance()` is used only while that object is referenced.
* **`referable_of_legal`** — under this condition, what somebody refers to is never destroyed.
-/

namespace Usb

open TransitionSystem

namespace Activation

/-! ## Objects, callbacks, jobs -/

/-- An object: inside its constructor, at work, inside its destructor, gone. -/
inductive Phase
  | absent
  | constructing
  | working
  | closing
  | destroyed
  deriving DecidableEq, Repr

/-- One `USBDeviceImplementation`: does its owner hold it, which of its callbacks does libusb
know. -/
structure Object where
  phase : Phase
  owner : Bool
  registered : Event → Bool
  notifications : List Notification

/-- A callback of one object for one event. -/
inductive Callback
  | absent
  | pending (event : Event)
  | described (job : Option Job)
  | dispatched
  deriving DecidableEq, Repr

/-- A job is waiting, has run, has given its reference back. -/
inductive JobPhase
  | queued
  | ran
  | destroyed
  deriving DecidableEq, Repr

/-- A job of the pool: the event it is about, and the object it points to. -/
structure PoolJob where
  hotplug : ℕ
  target : ℕ
  job : Job
  phase : JobPhase
  deriving DecidableEq, Repr

/-- The process.  Objects are numbered in the order of construction, events in the order of their
occurrence. -/
structure State where
  usbDeviceImplInstance : Option ℕ
  constructed : ℕ
  objects : ℕ → Object
  events : ℕ
  callbacks : ℕ → ℕ → Callback
  jobs : List PoolJob

/-- The steps.  Where the code calls `instance()`, `target` is what it gets. -/
inductive Action
  | construct
  | initialise (o target : ℕ)
  | initialiseFails (o : ℕ) (arrivals : Bool)
  | request (o : ℕ) (kind : RequestKind) (n : Notification)
  | operate (o target : ℕ)
  | ownerRelease (o : ℕ)
  | deregister (o : ℕ) (event : Event)
  | destroy (o : ℕ)
  | hotplug (e : ℕ) (event : Event)
  | describe (e o target : ℕ) (event : Event) (world : World)
  | dispatch (e o target j : ℕ) (job : Job)
  | run (j : ℕ) (entry : PoolJob) (calls : List Announcement)
  | destroyJob (j : ℕ) (entry : PoolJob)

namespace State

/-- Somebody has a reference to the object. -/
def Live (s : State) (o : ℕ) : Prop :=
  (s.objects o).owner = true ∨ ∃ entry ∈ s.jobs, entry.target = o ∧ entry.phase ≠ .destroyed

instance (s : State) (o : ℕ) : Decidable (s.Live o) := inferInstanceAs (Decidable (_ ∨ _))

/-- What `Release` does when the count has reached zero: the destructor begins. -/
def close (s : State) (o : ℕ) : State :=
  { s with
    objects := Function.update s.objects o
      (if s.Live o ∨ (s.objects o).phase ≠ .working then s.objects o
        else { s.objects o with phase := .closing }) }

/-- When a step may be taken. -/
def Enabled (s : State) : Action → Prop
  | .construct => True
  | .initialise o target =>
      (s.objects o).phase = .constructing ∧ s.usbDeviceImplInstance = some target
  | .initialiseFails o _ => (s.objects o).phase = .constructing
  | .request o _ _ => (s.objects o).phase = .working ∧ (s.objects o).owner = true
  | .operate o target =>
      (s.objects o).phase = .working ∧ (s.objects o).owner = true ∧
        s.usbDeviceImplInstance = some target
  | .ownerRelease o => (s.objects o).phase = .working ∧ (s.objects o).owner = true
  | .deregister o event =>
      (s.objects o).phase = .closing ∧ (s.objects o).registered event = true ∧
        (event = .deviceLeft → (s.objects o).registered .deviceArrived = false)
  | .destroy o =>
      (s.objects o).phase = .closing ∧ (s.objects o).registered .deviceArrived = false ∧
        (s.objects o).registered .deviceLeft = false
  | .hotplug e _ => e = s.events
  | .describe e o target event _ =>
      s.callbacks e o = .pending event ∧ (s.objects o).registered event = true ∧
        s.usbDeviceImplInstance = some target
  | .dispatch e o target j job =>
      s.callbacks e o = .described (some job) ∧ s.usbDeviceImplInstance = some target ∧
        j = s.jobs.length
  | .run j entry calls =>
      s.jobs[j]? = some entry ∧ entry.phase = .queued ∧
        calls = (s.objects entry.target).notifications.map entry.job.announce
  | .destroyJob j entry => s.jobs[j]? = some entry ∧ entry.phase = .ran

/-- What a step does.  libusb shows an event to the callbacks it knows when the event occurs.  An
initialisation that fails leaves none known, or the one for arrivals if it is the other that could
not be registered.  A job runs in one step: nobody else gets at the list while it has
`_adminLock`. -/
def next (s : State) : Action → State
  | .construct =>
      { s with
        usbDeviceImplInstance := some s.constructed
        constructed := s.constructed + 1
        objects := Function.update s.objects s.constructed
          { phase := .constructing
            owner := true
            registered := fun _ => false
            notifications := [] } }
  | .initialise o _ =>
      { s with
        objects := Function.update s.objects o
          { s.objects o with phase := .working, registered := fun _ => true } }
  | .initialiseFails o arrivals =>
      { s with
        objects := Function.update s.objects o
          { s.objects o with
            phase := .working
            registered := fun event => event = .deviceArrived && arrivals } }
  | .request o kind n =>
      { s with
        objects := Function.update s.objects o
          { s.objects o with notifications := (kind.body (s.objects o).notifications n).2 } }
  | .operate _ _ => s
  | .ownerRelease o =>
      { s with objects := Function.update s.objects o { s.objects o with owner := false } }.close o
  | .deregister o event =>
      { s with
        objects := Function.update s.objects o
          { s.objects o with
            registered := Function.update (s.objects o).registered event false } }
  | .destroy o =>
      { s with objects := Function.update s.objects o { s.objects o with phase := .destroyed } }
  | .hotplug e event =>
      { s with
        events := s.events + 1
        callbacks := Function.update s.callbacks e
          fun o => if (s.objects o).registered event then .pending event else .absent }
  | .describe e o _ event world =>
      { s with
        callbacks := Function.update s.callbacks e
          (Function.update (s.callbacks e) o (.described (world.job event))) }
  | .dispatch e o target _ job =>
      { s with
        callbacks := Function.update s.callbacks e (Function.update (s.callbacks e) o .dispatched)
        jobs := s.jobs ++ [{ hotplug := e, target, job, phase := .queued }] }
  | .run j entry _ => { s with jobs := s.jobs.set j { entry with phase := .ran } }
  | .destroyJob j entry =>
      { s with jobs := s.jobs.set j { entry with phase := .destroyed } }.close entry.target

end State

/-- The process, before the first activation. -/
def system : System State Action where
  init :=
    { usbDeviceImplInstance := none
      constructed := 0
      objects := fun _ =>
        { phase := .absent, owner := false, registered := fun _ => false, notifications := [] }
      events := 0
      callbacks := fun _ _ => .absent
      jobs := [] }
  Enabled := State.Enabled
  next := State.next

instance (s : State) : ∀ a : Action, Decidable (system.Enabled s a)
  | .construct => inferInstanceAs (Decidable True)
  | .initialiseFails .. | .hotplug .. => inferInstanceAs (Decidable (_ = _))
  | .initialise .. | .request .. | .operate .. | .ownerRelease _ | .deregister .. | .destroy _
  | .describe .. | .dispatch .. | .run .. | .destroyJob .. => inferInstanceAs (Decidable (_ ∧ _))

/-! ## What is promised -/

/-- The calls made for an event. -/
def callsFor (e : ℕ) (h : List Action) : List Announcement :=
  h.flatMap fun
    | .run _ entry calls => if entry.hotplug = e then calls else []
    | _ => []

/-- Whose code calls `instance()` in a step, and the object it gets. -/
def Action.usesInstance : Action → Option (ℕ × ℕ)
  | .initialise o target => some (o, target)
  | .operate o target => some (o, target)
  | .describe _ o target _ _ => some (o, target)
  | .dispatch _ o target _ _ => some (o, target)
  | _ => none

/-- An event is announced to no notification twice. -/
def Once (h : List Action) : Prop := ∀ e, ((callsFor e h).map Announcement.notification).Nodup

/-- What the callback of a live object dispatches is announced to the notifications of this
object. -/
def Routed (h : List Action) : Prop :=
  ∀ p q r e o target j job entry calls,
    h = p ++ .dispatch e o target j job :: q ++ .run j entry calls :: r → (system.exec p).Live o →
      calls = ((system.exec (p ++ .dispatch e o target j job :: q)).objects o).notifications.map
        job.announce

/-- `instance()` does not give a live object one that has been destroyed. -/
def Undestroyed (h : List Action) : Prop :=
  ∀ p q a o target, h = p ++ a :: q → a.usesInstance = some (o, target) → (system.exec p).Live o →
    ((system.exec p).objects target).phase ≠ .destroyed

/-- Events are announced once, and where they belong. -/
structure WellRouted (h : List Action) : Prop where
  once : Once h
  routed : Routed h
  undestroyed : Undestroyed h

/-! ## The static pointer -/

section close

variable (s : State) (o : ℕ)

@[simp] lemma close_instance : (s.close o).usbDeviceImplInstance = s.usbDeviceImplInstance := rfl

@[simp] lemma close_constructed : (s.close o).constructed = s.constructed := rfl

@[simp] lemma close_events : (s.close o).events = s.events := rfl

@[simp] lemma close_callbacks : (s.close o).callbacks = s.callbacks := rfl

@[simp] lemma close_jobs : (s.close o).jobs = s.jobs := rfl

@[simp] lemma close_owner (o' : ℕ) : ((s.close o).objects o').owner = (s.objects o').owner := by
  simp only [State.close, Function.update_apply]
  split_ifs with heq <;> simp [heq]

@[simp] lemma close_registered (o' : ℕ) :
    ((s.close o).objects o').registered = (s.objects o').registered := by
  simp only [State.close, Function.update_apply]
  split_ifs with heq <;> simp [heq]

@[simp] lemma close_notifications (o' : ℕ) :
    ((s.close o).objects o').notifications = (s.objects o').notifications := by
  simp only [State.close, Function.update_apply]
  split_ifs with heq <;> simp [heq]

@[simp] lemma close_live (o' : ℕ) : (s.close o).Live o' ↔ s.Live o' := by
  simp only [State.Live, close_owner]
  exact Iff.rfl

/-- The destructor begins for an object that nobody refers to, and for no other. -/
lemma close_phase (o' : ℕ) : ((s.close o).objects o').phase =
    if o' = o ∧ ¬ s.Live o ∧ (s.objects o).phase = .working then .closing
    else (s.objects o').phase := by
  simp only [State.close, Function.update_apply]
  split_ifs <;> grind

end close

/-- What is in use has been constructed, and `instance()` is the last of it. -/
structure InUse (s : State) : Prop where
  newest : ∀ target, s.usbDeviceImplInstance = some target → target + 1 = s.constructed
  object : ∀ o, (s.objects o).phase ≠ .absent → o < s.constructed
  registered : ∀ o event, (s.objects o).registered event = true → o < s.constructed
  callback : ∀ e o, s.callbacks e o ≠ .absent → e < s.events ∧ o < s.constructed

/-- Changing one object that has been constructed. -/
lemma InUse.update {s : State} (hs : InUse s) {o : ℕ} (ho : o < s.constructed) (x : Object) :
    InUse { s with objects := Function.update s.objects o x } where
  newest := hs.newest
  object o' hphase := by
    by_cases heq : o' = o
    · exact heq ▸ ho
    · simp only [Function.update_of_ne heq] at hphase
      exact hs.object o' hphase
  registered o' event hregistered := by
    by_cases heq : o' = o
    · exact heq ▸ ho
    · simp only [Function.update_of_ne heq] at hregistered
      exact hs.registered o' event hregistered
  callback := hs.callback

lemma InUse.close {s : State} (hs : InUse s) (o : ℕ) : InUse (s.close o) where
  newest := hs.newest
  object o' hphase := by
    rw [close_phase] at hphase
    split_ifs at hphase with hclose
    · obtain ⟨rfl, -, hworking⟩ := hclose
      exact hs.object o' (by simp [hworking])
    · exact hs.object o' hphase
  registered o' event hregistered := by
    rw [close_registered] at hregistered
    exact hs.registered o' event hregistered
  callback := hs.callback

/-- A callback that goes on is that of a known event and object. -/
lemma InUse.update_callback {s : State} (hs : InUse s) {e o : ℕ} (h : s.callbacks e o ≠ .absent)
    (callback : Callback) (e' o' : ℕ) :
    Function.update s.callbacks e (Function.update (s.callbacks e) o callback) e' o' ≠ .absent →
      e' < s.events ∧ o' < s.constructed := by
  intro hcallback
  by_cases he : e' = e
  · subst he
    by_cases ho : o' = o
    · subst ho
      exact hs.callback e' o' h
    · rw [Function.update_self, Function.update_of_ne ho] at hcallback
      exact hs.callback e' o' hcallback
  · rw [Function.update_of_ne he] at hcallback
    exact hs.callback e' o' hcallback

lemma inUse_next {s : State} {a : Action} (hs : InUse s) (ha : s.Enabled a) :
    InUse (s.next a) := by
  have hphase : ∀ {o phase}, (s.objects o).phase = phase → phase ≠ .absent → o < s.constructed :=
    fun {o phase} h hne => hs.object o (h ▸ hne)
  cases a with
  | construct =>
      have hnew := fun o (ho : o ≠ s.constructed) (x : Object) =>
        Function.update_of_ne (β := fun _ => Object) ho x s.objects
      refine ⟨fun target h => ?_, fun o h => ?_, fun o event h => ?_, fun e o h => ?_⟩
      · exact congrArg (· + 1) (Option.some.inj h).symm
      · by_cases ho : o = s.constructed
        · exact ho ▸ Nat.lt_succ_self o
        · simp only [State.next, hnew o ho] at h
          exact Nat.lt_succ_of_lt (hs.object o h)
      · by_cases ho : o = s.constructed
        · exact ho ▸ Nat.lt_succ_self o
        · simp only [State.next, hnew o ho] at h
          exact Nat.lt_succ_of_lt (hs.registered o event h)
      · exact ⟨(hs.callback e o h).1, Nat.lt_succ_of_lt (hs.callback e o h).2⟩
  | initialise o target => exact hs.update (hphase ha.1 (by simp)) _
  | initialiseFails o arrivals => exact hs.update (hphase ha (by simp)) _
  | request o kind n => exact hs.update (hphase ha.1 (by simp)) _
  | operate o target => exact hs
  | ownerRelease o => exact (hs.update (hphase ha.1 (by simp)) _).close o
  | deregister o event => exact hs.update (hphase ha.1 (by simp)) _
  | destroy o => exact hs.update (hphase ha.1 (by simp)) _
  | hotplug e event =>
      obtain rfl : e = s.events := ha
      refine ⟨hs.newest, hs.object, hs.registered, fun e o h => ?_⟩
      by_cases he : e = s.events
      · -- libusb shows the event to the callbacks it knows
        subst he
        simp only [State.next, Function.update_self] at h
        split_ifs at h with hregistered
        · exact ⟨Nat.lt_succ_self _, hs.registered o event hregistered⟩
        · exact absurd rfl h
      · simp only [State.next, Function.update_of_ne he] at h
        exact ⟨Nat.lt_succ_of_lt (hs.callback e o h).1, (hs.callback e o h).2⟩
  | describe e o target event world =>
      exact ⟨hs.newest, hs.object, hs.registered, hs.update_callback (by simp [ha.1]) _⟩
  | dispatch e o target j job =>
      exact ⟨hs.newest, hs.object, hs.registered, hs.update_callback (by simp [ha.1]) _⟩
  | run j entry calls => exact ⟨hs.newest, hs.object, hs.registered, hs.callback⟩
  | destroyJob j entry =>
      have hjobs : InUse { s with jobs := s.jobs.set j { entry with phase := .destroyed } } :=
        ⟨hs.newest, hs.object, hs.registered, hs.callback⟩
      exact hjobs.close entry.target

lemma inUse_of_legal {h : List Action} (hl : system.Legal h) : InUse (system.exec h) :=
  System.invariant (S := system) (I := fun _ s => InUse s)
    ⟨by simp [system], by simp [system], by simp [system], by simp [system]⟩
    (fun _ _ _ hs ha => inUse_next hs ha) hl

/-! ## References -/

/-- What somebody refers to is not inside its destructor, nor behind it. -/
def Referable (s : State) : Prop :=
  ∀ o, s.Live o → (s.objects o).phase = .constructing ∨ (s.objects o).phase = .working

/-- The other fields of an object do not decide whether it is live. -/
lemma live_update {s : State} {o : ℕ} {x : Object} (hx : x.owner = (s.objects o).owner) (o' : ℕ) :
    { s with objects := Function.update s.objects o x }.Live o' ↔ s.Live o' := by
  by_cases ho : o' = o
  · subst ho
    simp [State.Live, hx]
  · simp [State.Live, ho]

/-- A job that goes on refers to its object or no longer, and to no other. -/
lemma live_set {s : State} {j : ℕ} {entry : PoolJob} (hj : s.jobs[j]? = some entry)
    (hentry : entry.phase ≠ .destroyed) {phase : JobPhase} {o : ℕ}
    (ho : { s with jobs := s.jobs.set j { entry with phase } }.Live o) : s.Live o := by
  rcases ho with howner | ⟨entry', hmem, htarget, hphase⟩
  · exact Or.inl howner
  · rcases List.mem_or_eq_of_mem_set hmem with hmem | rfl
    · exact Or.inr ⟨entry', hmem, htarget, hphase⟩
    · exact Or.inr ⟨entry, List.mem_of_getElem? hj, htarget, hentry⟩

lemma live_release {s : State} {o o' : ℕ}
    (ho' : { s with objects := Function.update s.objects o { s.objects o with owner := false } }.Live
      o') : s.Live o' := by
  rcases ho' with howner | hjob
  · by_cases heq : o' = o
    · simp [heq] at howner
    · exact Or.inl (by simpa [heq] using howner)
  · exact Or.inr hjob

lemma live_dispatch {s : State} {entry : PoolJob} {callbacks : ℕ → ℕ → Callback} {o : ℕ}
    (ho : { s with callbacks, jobs := s.jobs ++ [entry] }.Live o) : s.Live o ∨ o = entry.target := by
  rcases ho with howner | ⟨entry', hmem, rfl, hphase⟩
  · exact Or.inl (Or.inl howner)
  · rcases List.mem_append.mp hmem with hmem | hmem
    · exact Or.inl (Or.inr ⟨entry', hmem, rfl, hphase⟩)
    · exact Or.inr (congrArg PoolJob.target (List.mem_singleton.mp hmem))

lemma referable_close {s : State} (hs : Referable s) (o : ℕ) : Referable (s.close o) := by
  intro o' ho'
  rw [close_live] at ho'
  rw [close_phase, if_neg]
  · exact hs o' ho'
  · rintro ⟨rfl, hnot, -⟩
    exact hnot ho'

/-- If jobs are constructed for live objects only, live objects stay what they are. -/
lemma referable_next {s : State} {a : Action} (hs : Referable s) (ha : s.Enabled a)
    (hdispatch : ∀ e o target j job, a = .dispatch e o target j job → s.Live target) :
    Referable (s.next a) := by
  -- an object that is live before and after, and goes on with a phase that is not the last
  have hupdate : ∀ {o₀ : ℕ} {x : Object}, x.owner = (s.objects o₀).owner →
      (s.Live o₀ → x.phase = .constructing ∨ x.phase = .working) →
        Referable { s with objects := Function.update s.objects o₀ x } := by
    intro o₀ x howner hphase o ho
    rw [live_update howner] at ho
    by_cases heq : o = o₀
    · subst heq
      simpa using hphase ho
    · simpa [heq] using hs o ho
  cases a with
  | construct =>
      intro o ho
      by_cases heq : o = s.constructed
      · subst heq
        simp [State.next]
      · have hold : s.Live o := by simpa [State.Live, State.next, heq] using ho
        simpa [State.next, heq] using hs o hold
  | initialise o target => exact hupdate rfl fun _ => Or.inr rfl
  | initialiseFails o arrivals => exact hupdate rfl fun _ => Or.inr rfl
  | request o kind n => exact hupdate rfl (hs o)
  | operate o target => exact hs
  | ownerRelease o =>
      refine referable_close (fun o' ho' => ?_) o
      by_cases heq : o' = o
      · subst heq
        simpa using hs o' (live_release ho')
      · simpa [heq] using hs o' (live_release ho')
  | deregister o event => exact hupdate rfl (hs o)
  | destroy o =>
      refine hupdate rfl fun hlive => ?_
      rcases hs o hlive with h | h <;> simp [ha.1] at h
  | hotplug e event => exact hs
  | describe e o target event world => exact hs
  | dispatch e o target j job =>
      intro o' ho'
      rcases live_dispatch ho' with hlive | htarget
      · exact hs o' hlive
      · rw [htarget]
        exact hs target (hdispatch e o target j job rfl)
  | run j entry calls =>
      exact fun o ho => hs o (live_set ha.1 (by simp [ha.2.1]) ho)
  | destroyJob j entry =>
      refine referable_close (fun o ho => ?_) entry.target
      exact hs o (live_set ha.1 (by simp [ha.2]) ho)

/-! ## The condition -/

/-- A callback dispatches only if its object is referenced and the last one constructed, and a live
object uses `instance()` only while the object constructed last is referenced. -/
def ThroughNewest (s : State) : Action → Prop
  | .dispatch _ o _ _ _ => o + 1 = s.constructed ∧ s.Live o
  | .initialise o _ => s.Live o → s.Live (s.constructed - 1)
  | .operate o _ => s.Live o → s.Live (s.constructed - 1)
  | .describe _ o _ _ _ => s.Live o → s.Live (s.constructed - 1)
  | _ => True

instance (s : State) : ∀ a : Action, Decidable (ThroughNewest s a)
  | .dispatch .. => inferInstanceAs (Decidable (_ ∧ _))
  | .initialise .. | .operate .. | .describe .. => inferInstanceAs (Decidable (_ → _))
  | .construct | .initialiseFails .. | .request .. | .ownerRelease _ | .deregister .. | .destroy _
  | .hotplug .. | .run .. | .destroyJob .. => inferInstanceAs (Decidable True)

/-- The system of the runs in which nobody gets a wrong object. -/
def throughNewest : System State Action := system.restrict ThroughNewest

instance (s : State) (a : Action) : Decidable (throughNewest.Enabled s a) :=
  System.decidableEnabledRestrict system ThroughNewest s a

/-- Then a callback dispatches to its own object. -/
lemma target_eq_of_dispatch {s : State} (huse : InUse s) {e o target j : ℕ} {job : Job}
    (ha : s.Enabled (.dispatch e o target j job)) (hnewest : o + 1 = s.constructed) : target = o := by
  have htarget := huse.newest target ha.2.1
  omega

lemma referable_of_legal {h : List Action} (hl : throughNewest.Legal h) :
    Referable (system.exec h) := by
  refine System.invariant (S := throughNewest) (I := fun _ s => Referable s)
    (fun o ho => by simp [throughNewest, System.restrict, system, State.Live] at ho) ?_ hl
  rintro h a hlh hs ⟨ha, hcond⟩
  refine referable_next hs ha ?_
  rintro e o target j job rfl
  rw [target_eq_of_dispatch (inUse_of_legal hlh.of_restrict) ha hcond.1]
  exact hcond.2

end Activation

end Usb
