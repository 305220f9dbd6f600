import USBDevicePlugin.Core.Progress
import USBDevicePlugin.Device.HotPlug

/-!
# The event thread

One object from its constructor to the end of its destructor, with `libUSBEventsHandlingThread`.
The thread looks at `_handlingUSBDeviceEvents` and calls `libusb_handle_events`, which returns when
it feels like it: after events, on an error, after its timeout.  It also returns when a hotplug
callback is deregistered, and if it is not being called at that time, the next call returns at
once.  `libUSBClose` rests on this when it joins the thread.

* `Sound` — the thread is inside libusb only while there is a context, it is there as long as the
  object works, and it does not miss being woken.
* **`sound_of_legal`** — this holds throughout, also where `libUSBInit` fails.
* **`close_completes`** — the destructor waits for nothing but the callbacks.
-/

namespace Usb

open TransitionSystem

namespace EventLoop

/-! ## The object and its thread -/

/-- The constructor and the destructor, by the last step taken.  `exiting` is an error branch of
`libUSBInit` before its `libusb_exit`. -/
inductive Phase
  | constructing
  | contextInitialised
  | hotplugCapable
  | arrivalsRegistered
  | departuresRegistered
  | flagSet
  | exiting
  | working (initialised : Bool)
  | closing
  | flagCleared
  | arrivalsDeregistered
  | departuresDeregistered
  | joined
  | completed
  deriving DecidableEq, Repr

/-- `libUSBEventsHandlingThread`: about to look at the flag, inside `libusb_handle_events`, or
inside a callback. -/
inductive EventThread
  | absent
  | checking
  | handling
  | inCallback (event : Event)
  | exited
  deriving DecidableEq, Repr

/-- `woken` is what libusb keeps of a deregistration until `libusb_handle_events` returns. -/
structure State where
  phase : Phase
  contextInitialised : Bool
  registered : Event → Bool
  woken : Bool
  handlingUSBDeviceEvents : Bool
  eventThread : EventThread

/-- The steps of the two, with the outcome of the libusb calls. -/
inductive Action
  | initContext (ok : Bool)
  | hasCapability (ok : Bool)
  | registerCallback (event : Event) (ok : Bool)
  | setFlag
  | startThread
  | exitInInit
  | beginClose
  | clearFlag
  | deregisterCallback (event : Event)
  | join
  | exitInClose
  | handleEvents
  | exitThread
  | enterCallback (event : Event)
  | returnCallback (event : Event)
  | wake
  | interrupt
  deriving DecidableEq, Repr

namespace State

/-- `libusb_exit`: the callbacks go with the context. -/
def exitContext (s : State) (phase : Phase) : State :=
  { s with phase := phase, contextInitialised := false, registered := fun _ => false, woken := false }

/-- When a step may be taken. -/
def Enabled (s : State) : Action → Prop
  | .initContext _ => s.phase = .constructing
  | .hasCapability _ => s.phase = .contextInitialised
  | .registerCallback .deviceArrived _ => s.phase = .hotplugCapable
  | .registerCallback .deviceLeft _ => s.phase = .arrivalsRegistered
  | .setFlag => s.phase = .departuresRegistered
  | .startThread => s.phase = .flagSet
  | .exitInInit => s.phase = .exiting
  | .beginClose => s.phase = .working true ∨ s.phase = .working false
  | .clearFlag => s.phase = .closing
  | .deregisterCallback .deviceArrived => s.phase = .flagCleared
  | .deregisterCallback .deviceLeft => s.phase = .arrivalsDeregistered
  | .join =>
      s.phase = .departuresDeregistered ∧ (s.eventThread = .absent ∨ s.eventThread = .exited)
  | .exitInClose => s.phase = .joined
  | .handleEvents => s.eventThread = .checking ∧ s.handlingUSBDeviceEvents = true
  | .exitThread => s.eventThread = .checking ∧ s.handlingUSBDeviceEvents = false
  | .enterCallback event => s.eventThread = .handling ∧ s.registered event = true
  | .returnCallback event => s.eventThread = .inCallback event
  | .wake => s.eventThread = .handling ∧ s.woken = true
  | .interrupt => s.eventThread = .handling

/-- What a step does. -/
def next (s : State) : Action → State
  | .initContext true => { s with phase := .contextInitialised, contextInitialised := true }
  | .initContext false => { s with phase := .working false }
  | .hasCapability ok => { s with phase := if ok then .hotplugCapable else .exiting }
  | .registerCallback .deviceArrived true =>
      { s with
        phase := .arrivalsRegistered
        registered := Function.update s.registered .deviceArrived true }
  | .registerCallback .deviceLeft true =>
      { s with
        phase := .departuresRegistered
        registered := Function.update s.registered .deviceLeft true }
  | .registerCallback _ false => { s with phase := .exiting }
  | .setFlag => { s with phase := .flagSet, handlingUSBDeviceEvents := true }
  | .startThread => { s with phase := .working true, eventThread := .checking }
  | .exitInInit => s.exitContext (.working false)
  | .beginClose => { s with phase := .closing }
  | .clearFlag => { s with phase := .flagCleared, handlingUSBDeviceEvents := false }
  | .deregisterCallback .deviceArrived =>
      { s with
        phase := .arrivalsDeregistered
        registered := Function.update s.registered .deviceArrived false
        woken := s.woken || s.registered .deviceArrived }
  | .deregisterCallback .deviceLeft =>
      { s with
        phase := .departuresDeregistered
        registered := Function.update s.registered .deviceLeft false
        woken := s.woken || s.registered .deviceLeft }
  | .join => { s with phase := .joined }
  | .exitInClose => s.exitContext .completed
  | .handleEvents => { s with eventThread := .handling }
  | .exitThread => { s with eventThread := .exited }
  | .enterCallback event => { s with eventThread := .inCallback event }
  | .returnCallback _ => { s with eventThread := .handling }
  | .wake => { s with eventThread := .checking, woken := false }
  | .interrupt => { s with eventThread := .checking }

end State

/-- The object, before its construction. -/
def system : System State Action where
  init :=
    { phase := .constructing
      contextInitialised := false
      registered := fun _ => false
      woken := false
      handlingUSBDeviceEvents := false
      eventThread := .absent }
  Enabled := State.Enabled
  next := State.next

instance (s : State) : ∀ a : Action, Decidable (system.Enabled s a)
  | .initContext _ | .hasCapability _ | .registerCallback .deviceArrived _
  | .registerCallback .deviceLeft _ | .setFlag | .startThread | .exitInInit | .clearFlag
  | .deregisterCallback .deviceArrived | .deregisterCallback .deviceLeft | .exitInClose
  | .returnCallback _ | .interrupt => inferInstanceAs (Decidable (_ = _))
  | .join | .handleEvents | .exitThread | .enterCallback _ | .wake =>
      inferInstanceAs (Decidable (_ ∧ _))
  | .beginClose => inferInstanceAs (Decidable (_ ∨ _))

/-! ## What holds throughout -/

/-- The thread is inside `libusb_handle_events` or in a callback. -/
def EventThread.inside : EventThread → Bool
  | .handling => true
  | .inCallback _ => true
  | _ => false

/-- The thread has work to do or waits for some. -/
def EventThread.running : EventThread → Bool
  | .checking => true
  | r => r.inside

/-- Nothing of libusb is in use. -/
structure Released (s : State) : Prop where
  context : s.contextInitialised = false
  registered : ∀ event, s.registered event = false

/-- What the object and its thread promise each other. -/
structure Sound (s : State) : Prop where
  /-- libusb is never shut down under the thread. -/
  inside : s.eventThread.inside = true → s.contextInitialised = true
  /-- Events are handled as long as an object works that could be initialised. -/
  working : s.phase = .working true →
    s.eventThread.running = true ∧ s.handlingUSBDeviceEvents = true ∧
      ∀ event, s.registered event = true
  /-- Where `libUSBInit` fails, nothing is left of it. -/
  failed : s.phase = .working false → s.eventThread = .absent ∧ Released s
  /-- Once a callback is deregistered, `libusb_handle_events` returns by itself. -/
  wakes : s.phase = .arrivalsDeregistered ∨ s.phase = .departuresDeregistered →
    s.eventThread.inside = true → s.woken = true
  /-- The destructor leaves nothing behind. -/
  completed : s.phase = .completed → s.eventThread.running = false ∧ Released s

/-! ## Phase by phase -/

/-- There is a context, with these callbacks. -/
structure Present (s : State) (arrivals departures : Bool) : Prop where
  context : s.contextInitialised = true
  arrivals : s.registered .deviceArrived = arrivals
  departures : s.registered .deviceLeft = departures

/-- There is no thread, -/
structure Idle (s : State) : Prop where
  thread : s.eventThread = .absent
  flag : s.handlingUSBDeviceEvents = false

/-- the thread goes on, -/
structure AtWork (s : State) : Prop where
  thread : s.eventThread.running = true
  flag : s.handlingUSBDeviceEvents = true
  present : Present s true true

/-- or it is to stop. -/
structure Stopping (s : State) (arrivals departures : Bool) : Prop where
  thread : s.eventThread ≠ .absent
  flag : s.handlingUSBDeviceEvents = false
  present : Present s arrivals departures
  wakes : arrivals = false → s.eventThread.inside = true → s.woken = true

/-- What has been done in each phase, and not been undone. -/
def Consistent (s : State) : Prop :=
  match s.phase with
  | .constructing => Idle s ∧ Released s
  | .contextInitialised => Idle s ∧ Present s false false
  | .hotplugCapable => Idle s ∧ Present s false false
  | .arrivalsRegistered => Idle s ∧ Present s true false
  | .departuresRegistered => Idle s ∧ Present s true true
  | .flagSet =>
      s.eventThread = .absent ∧ s.handlingUSBDeviceEvents = true ∧ Present s true true
  | .exiting => Idle s
  | .working true => AtWork s
  | .working false => Idle s ∧ Released s
  | .closing => AtWork s ∨ Idle s ∧ Released s
  | .flagCleared => Stopping s true true ∨ Idle s ∧ Released s
  | .arrivalsDeregistered => Stopping s false true ∨ Idle s ∧ Released s
  | .departuresDeregistered => Stopping s false false ∨ Idle s ∧ Released s
  | .joined =>
      s.eventThread.running = false ∧ s.handlingUSBDeviceEvents = false ∧
        ∀ event, s.registered event = false
  | .completed =>
      s.eventThread.running = false ∧ s.handlingUSBDeviceEvents = false ∧ Released s

lemma released_exitContext (s : State) (phase : Phase) : Released (s.exitContext phase) :=
  ⟨rfl, fun _ => rfl⟩

/-! ## The thread moves -/

lemma AtWork.thread_next {s : State} (hs : AtWork s) {r : EventThread} (w : Bool)
    (hr : r.running = true) : AtWork { s with eventThread := r, woken := w } :=
  ⟨hr, hs.flag, hs.present.context, hs.present.arrivals, hs.present.departures⟩

lemma Stopping.thread_next {s : State} {arrivals departures : Bool}
    (hs : Stopping s arrivals departures) {r : EventThread} {w : Bool} (hr : r ≠ .absent)
    (hw : r.inside = true → s.eventThread.inside = true ∧ w = s.woken) :
    Stopping { s with eventThread := r, woken := w } arrivals departures where
  thread := hr
  flag := hs.flag
  present := ⟨hs.present.context, hs.present.arrivals, hs.present.departures⟩
  wakes hgone hinside := by
    obtain ⟨hbefore, hsame⟩ := hw hinside
    exact hsame.trans (hs.wakes hgone hbefore)

/-- The thread goes on unless the flag is cleared.  Then it does not go back into libusb, and is not
woken before it leaves. -/
lemma consistent_thread {s : State} (hs : Consistent s) {r : EventThread} {w : Bool}
    (hrunning : s.eventThread.running = true) (hr : r ≠ .absent)
    (hgoes : s.handlingUSBDeviceEvents = true → r.running = true)
    (hstops : s.handlingUSBDeviceEvents = false → r.inside = true →
      s.eventThread.inside = true ∧ w = s.woken) :
    Consistent { s with eventThread := r, woken := w } := by
  have habsent : s.eventThread ≠ .absent := fun h => by simp [h, EventThread.running,
    EventThread.inside] at hrunning
  have hidle : ∀ {P}, ¬ (Idle s ∧ P) := fun h => habsent h.1.thread
  have hwork := fun h : AtWork s => h.thread_next w (hgoes h.flag)
  have hstop := fun {arrivals departures} (h : Stopping s arrivals departures) =>
    h.thread_next hr (hstops h.flag)
  obtain ⟨phase, context, registered, woken, flag, thread⟩ := s
  cases phase with
  | constructing => exact absurd hs hidle
  | contextInitialised => exact absurd hs hidle
  | hotplugCapable => exact absurd hs hidle
  | arrivalsRegistered => exact absurd hs hidle
  | departuresRegistered => exact absurd hs hidle
  | flagSet => exact absurd hs.1 habsent
  | exiting => exact absurd (Idle.thread hs) habsent
  | working initialised =>
      cases initialised with
      | true => exact hwork hs
      | false => exact absurd hs hidle
  | closing => exact Or.inl (hwork (Or.resolve_right hs hidle))
  | flagCleared => exact Or.inl (hstop (Or.resolve_right hs hidle))
  | arrivalsDeregistered => exact Or.inl (hstop (Or.resolve_right hs hidle))
  | departuresDeregistered => exact Or.inl (hstop (Or.resolve_right hs hidle))
  | joined => simp [hs.1] at hrunning
  | completed => simp [hs.1] at hrunning

/-! ## The object moves -/

lemma Idle.of_eq {s s' : State} (hs : Idle s) (hthread : s'.eventThread = s.eventThread)
    (hflag : s'.handlingUSBDeviceEvents = s.handlingUSBDeviceEvents) : Idle s' :=
  ⟨hthread.trans hs.thread, hflag.trans hs.flag⟩

/-- A deregistration wakes the thread if it takes a callback away. -/
lemma Stopping.deregister {s s' : State} {arrivals departures arrivals' departures' : Bool}
    (hs : Stopping s arrivals departures) (hthread : s'.eventThread = s.eventThread)
    (hflag : s'.handlingUSBDeviceEvents = s.handlingUSBDeviceEvents)
    (hpresent : Present s' arrivals' departures') (hwoken : s'.woken = true) :
    Stopping s' arrivals' departures' :=
  ⟨hthread ▸ hs.thread, hflag.trans hs.flag, hpresent, fun _ _ => hwoken⟩

lemma Released.deregister {s : State} (hs : Released s) (event : Event) :
    ∀ event', Function.update s.registered event false event' = false := by
  intro event'
  rw [Function.update_apply]
  split_ifs
  · rfl
  · exact hs.registered event'

lemma Present.registered {s : State} (hs : Present s false false) :
    ∀ event, s.registered event = false
  | .deviceArrived => hs.arrivals
  | .deviceLeft => hs.departures

lemma consistent_next {s : State} {a : Action} (hs : Consistent s) (ha : s.Enabled a) :
    Consistent (s.next a) := by
  have hphase : ∀ {phase : Phase}, s.phase = phase → Consistent { s with phase := phase } := by
    rintro _ rfl
    exact hs
  cases a with
  | initContext ok =>
      obtain ⟨hidle, hreleased⟩ := hphase ha
      cases ok with
      | true =>
          exact ⟨hidle.of_eq rfl rfl, rfl, hreleased.registered _, hreleased.registered _⟩
      | false => exact ⟨hidle.of_eq rfl rfl, hreleased.context, hreleased.registered⟩
  | hasCapability ok =>
      obtain ⟨hidle, hpresent⟩ := hphase ha
      cases ok with
      | true =>
          exact ⟨hidle.of_eq rfl rfl, hpresent.context, hpresent.arrivals, hpresent.departures⟩
      | false => exact hidle.of_eq rfl rfl
  | registerCallback event ok =>
      cases event with
      | deviceArrived =>
          obtain ⟨hidle, hpresent⟩ := hphase ha
          cases ok with
          | true => exact ⟨hidle.of_eq rfl rfl, hpresent.context, rfl, hpresent.departures⟩
          | false => exact hidle.of_eq rfl rfl
      | deviceLeft =>
          obtain ⟨hidle, hpresent⟩ := hphase ha
          cases ok with
          | true => exact ⟨hidle.of_eq rfl rfl, hpresent.context, hpresent.arrivals, rfl⟩
          | false => exact hidle.of_eq rfl rfl
  | setFlag =>
      obtain ⟨hidle, hpresent⟩ := hphase ha
      exact ⟨hidle.thread, rfl, hpresent.context, hpresent.arrivals, hpresent.departures⟩
  | startThread =>
      obtain ⟨-, hflag, hpresent⟩ := hphase ha
      exact ⟨rfl, hflag, hpresent.context, hpresent.arrivals, hpresent.departures⟩
  | exitInInit =>
      have hidle : Idle { s with phase := .exiting } := hphase ha
      exact ⟨hidle.of_eq rfl rfl, released_exitContext s _⟩
  | beginClose =>
      rcases ha with ha | ha
      · have hwork : AtWork { s with phase := .working true } := hphase ha
        exact Or.inl ⟨hwork.thread, hwork.flag, hwork.present.context, hwork.present.arrivals,
          hwork.present.departures⟩
      · obtain ⟨hidle, hreleased⟩ := hphase ha
        exact Or.inr ⟨hidle.of_eq rfl rfl, hreleased.context, hreleased.registered⟩
  | clearFlag =>
      rcases hphase ha with hwork | ⟨hidle, hreleased⟩
      · refine Or.inl ⟨fun hthread => ?_, rfl, ⟨hwork.present.context, hwork.present.arrivals,
          hwork.present.departures⟩, nofun⟩
        have hrunning := hwork.thread
        have habsent : s.eventThread = .absent := hthread
        simp [habsent, EventThread.running, EventThread.inside] at hrunning
      · exact Or.inr ⟨⟨hidle.thread, rfl⟩, hreleased.context, hreleased.registered⟩
  | deregisterCallback event =>
      cases event with
      | deviceArrived =>
          rcases hphase ha with hstop | ⟨hidle, hreleased⟩
          · have harrivals : s.registered .deviceArrived = true := hstop.present.arrivals
            exact Or.inl (hstop.deregister rfl rfl
              ⟨hstop.present.context, rfl, hstop.present.departures⟩ (by simp [State.next, harrivals]))
          · exact Or.inr ⟨hidle.of_eq rfl rfl, hreleased.context, hreleased.deregister _⟩
      | deviceLeft =>
          rcases hphase ha with hstop | ⟨hidle, hreleased⟩
          · have hdepartures : s.registered .deviceLeft = true := hstop.present.departures
            exact Or.inl (hstop.deregister rfl rfl
              ⟨hstop.present.context, hstop.present.arrivals, rfl⟩ (by simp [State.next, hdepartures]))
          · exact Or.inr ⟨hidle.of_eq rfl rfl, hreleased.context, hreleased.deregister _⟩
  | join =>
      obtain ⟨hbefore, hthread⟩ := ha
      have hrunning : s.eventThread.running = false := by
        rcases hthread with hthread | hthread <;> rw [hthread] <;> rfl
      rcases hphase hbefore with hstop | ⟨hidle, hreleased⟩
      · exact ⟨hrunning, hstop.flag, hstop.present.registered⟩
      · exact ⟨hrunning, hidle.flag, hreleased.registered⟩
  | exitInClose =>
      obtain ⟨hthread, hflag, -⟩ := hphase ha
      exact ⟨hthread, hflag, released_exitContext s _⟩
  | handleEvents =>
      obtain ⟨hthread, hflag⟩ := ha
      exact consistent_thread hs (by simp [hthread, EventThread.running]) nofun (fun _ => rfl)
        (by simp [hflag])
  | exitThread =>
      obtain ⟨hthread, hflag⟩ := ha
      exact consistent_thread hs (by simp [hthread, EventThread.running]) nofun (by simp [hflag])
        nofun
  | enterCallback event =>
      obtain ⟨hthread, -⟩ := ha
      exact consistent_thread hs (by simp [hthread, EventThread.running, EventThread.inside]) nofun
        (fun _ => rfl) (by simp [hthread, EventThread.inside])
  | returnCallback event =>
      have hthread : s.eventThread = .inCallback event := ha
      exact consistent_thread hs (by simp [hthread, EventThread.running, EventThread.inside]) nofun
        (fun _ => rfl) (by simp [hthread, EventThread.inside])
  | wake =>
      obtain ⟨hthread, -⟩ := ha
      exact consistent_thread hs (by simp [hthread, EventThread.running, EventThread.inside]) nofun
        (fun _ => rfl) nofun
  | interrupt =>
      have hthread : s.eventThread = .handling := ha
      exact consistent_thread hs (by simp [hthread, EventThread.running, EventThread.inside]) nofun
        (fun _ => rfl) nofun

lemma consistent_of_legal {h : List Action} (hl : system.Legal h) : Consistent (system.exec h) :=
  System.invariant (S := system) (I := fun _ s => Consistent s) ⟨⟨rfl, rfl⟩, rfl, fun _ => rfl⟩
    (fun _ _ _ hs ha => consistent_next hs ha) hl

lemma EventThread.running_of_inside {r : EventThread} (h : r.inside = true) : r.running = true := by
  cases r <;> first | rfl | exact absurd h (by decide)

/-- Phase by phase, the promises are kept. -/
lemma Consistent.sound {s : State} (hs : Consistent s) : Sound s where
  inside hinside := by
    have hrunning := EventThread.running_of_inside hinside
    have hidle : ¬ Idle s := fun h => by simp [h.thread, EventThread.inside] at hinside
    unfold Consistent at hs
    grind [Present, AtWork, Stopping, EventThread.running, EventThread.inside]
  working hphase := by
    simp only [Consistent, hphase] at hs
    exact ⟨hs.thread, hs.flag, fun
      | .deviceArrived => hs.present.arrivals
      | .deviceLeft => hs.present.departures⟩
  failed hphase := by
    simp only [Consistent, hphase] at hs
    exact ⟨hs.1.thread, hs.2⟩
  wakes hphase hinside := by
    have hidle : ¬ Idle s := fun h => by simp [h.thread, EventThread.inside] at hinside
    rcases hphase with hphase | hphase <;> simp only [Consistent, hphase] at hs
    · exact (hs.resolve_right fun h => hidle h.1).wakes rfl hinside
    · exact (hs.resolve_right fun h => hidle h.1).wakes rfl hinside
  completed hphase := by
    simp only [Consistent, hphase] at hs
    exact ⟨hs.1, hs.2.2⟩

/-- The callback for a departure runs when the destructor begins, and until the thread is joined. -/
def closedInCallback : List Action :=
  [.initContext true, .hasCapability true, .registerCallback .deviceArrived true,
    .registerCallback .deviceLeft true, .setFlag, .startThread, .handleEvents,
    .enterCallback .deviceLeft, .beginClose, .clearFlag, .deregisterCallback .deviceArrived,
    .deregisterCallback .deviceLeft, .returnCallback .deviceLeft]

/-- The destructor has cleared the flag. -/
def Phase.pastFlag : Phase → Bool
  | .flagCleared => true
  | .arrivalsDeregistered => true
  | .departuresDeregistered => true
  | .joined => true
  | .completed => true
  | _ => false

/-- The steps the destructor has to take, -/
def Phase.stepsLeft : Phase → ℕ
  | .flagCleared => 4
  | .arrivalsDeregistered => 3
  | .departuresDeregistered => 2
  | .joined => 1
  | _ => 0

/-- and the thread, once the flag is cleared. -/
def EventThread.stepsLeft : EventThread → ℕ
  | .inCallback _ => 3
  | .handling => 2
  | .checking => 1
  | _ => 0

def State.stepsLeft (s : State) : ℕ := s.phase.stepsLeft + s.eventThread.stepsLeft

/-- Nobody waits for a device, an error or a timeout. -/
def Action.Own : Action → Prop
  | .enterCallback _ => False
  | .interrupt => False
  | _ => True

/-- A callback has to return, and the thread has to be woken once more. -/
def Action.cost : Action → ℕ
  | .enterCallback _ => 2
  | _ => 0

structure Closing (s : State) : Prop where
  consistent : Consistent s
  pastFlag : s.phase.pastFlag = true

lemma Closing.flag {s : State} (hs : Closing s) : s.handlingUSBDeviceEvents = false := by
  obtain ⟨hs, hpast⟩ := hs
  unfold Consistent at hs
  grind [Stopping, Idle, Phase.pastFlag]

lemma Closing.phase_ne {s : State} (hs : Closing s) {phase : Phase} (hphase : s.phase = phase) :
    phase.pastFlag = true := hphase ▸ hs.pastFlag

/-- Every step of the destructor or the thread is one less, and the flag stays cleared. -/
lemma closing_step {s : State} {a : Action} (hs : Closing s) (ha : s.Enabled a) :
    (s.next a).phase.pastFlag = true ∧ (s.next a).stepsLeft + 1 ≤ s.stepsLeft + a.cost := by
  cases a with
  | initContext ok => exact absurd (hs.phase_ne ha) (by decide)
  | hasCapability ok => exact absurd (hs.phase_ne ha) (by decide)
  | registerCallback event ok =>
      cases event with
      | deviceArrived => exact absurd (hs.phase_ne ha) (by decide)
      | deviceLeft => exact absurd (hs.phase_ne ha) (by decide)
  | setFlag => exact absurd (hs.phase_ne ha) (by decide)
  | startThread => exact absurd (hs.phase_ne ha) (by decide)
  | exitInInit => exact absurd (hs.phase_ne ha) (by decide)
  | beginClose =>
      rcases ha with ha | ha
      · exact absurd (hs.phase_ne ha) (by decide)
      · exact absurd (hs.phase_ne ha) (by decide)
  | clearFlag => exact absurd (hs.phase_ne ha) (by decide)
  | deregisterCallback event =>
      cases event with
      | deviceArrived =>
          have hphase : s.phase = .flagCleared := ha
          refine ⟨rfl, ?_⟩
          simp only [State.stepsLeft, State.next, hphase, Phase.stepsLeft]
          omega
      | deviceLeft =>
          have hphase : s.phase = .arrivalsDeregistered := ha
          refine ⟨rfl, ?_⟩
          simp only [State.stepsLeft, State.next, hphase, Phase.stepsLeft]
          omega
  | join =>
      refine ⟨rfl, ?_⟩
      simp only [State.stepsLeft, State.next, ha.1, Phase.stepsLeft]
      omega
  | exitInClose =>
      have hphase : s.phase = .joined := ha
      refine ⟨rfl, ?_⟩
      simp only [State.stepsLeft, State.next, State.exitContext, hphase, Phase.stepsLeft]
      omega
  | handleEvents =>
      have hflag := hs.flag
      rw [ha.2] at hflag
      exact absurd hflag (by decide)
  | exitThread =>
      refine ⟨hs.pastFlag, ?_⟩
      simp only [State.stepsLeft, State.next, ha.1, EventThread.stepsLeft]
      omega
  | enterCallback event =>
      refine ⟨hs.pastFlag, ?_⟩
      simp only [State.stepsLeft, State.next, ha.1, EventThread.stepsLeft, Action.cost]
      omega
  | returnCallback event =>
      have hthread : s.eventThread = .inCallback event := ha
      refine ⟨hs.pastFlag, ?_⟩
      simp only [State.stepsLeft, State.next, hthread, EventThread.stepsLeft]
      omega
  | wake =>
      refine ⟨hs.pastFlag, ?_⟩
      simp only [State.stepsLeft, State.next, ha.1, EventThread.stepsLeft]
      omega
  | interrupt =>
      have hthread : s.eventThread = .handling := ha
      refine ⟨hs.pastFlag, ?_⟩
      simp only [State.stepsLeft, State.next, hthread, EventThread.stepsLeft]
      omega

lemma closing_next {s : State} {a : Action} (hs : Closing s) (ha : s.Enabled a) :
    Closing (s.next a) :=
  ⟨consistent_next hs.consistent ha, (closing_step hs ha).1⟩

lemma pays : system.Pays Closing State.stepsLeft Action.cost :=
  fun _ _ hs ha => ⟨closing_next hs ha, (closing_step hs ha).2⟩

/-- With the flag cleared, no callback is registered any more. -/
lemma registered_next {s : State} {a : Action} (hs : Closing s) (ha : s.Enabled a) {event : Event}
    (hevent : s.registered event = false) : (s.next a).registered event = false := by
  cases a with
  | initContext ok => exact absurd (hs.phase_ne ha) (by decide)
  | registerCallback event ok =>
      cases event with
      | deviceArrived => exact absurd (hs.phase_ne ha) (by decide)
      | deviceLeft => exact absurd (hs.phase_ne ha) (by decide)
  | deregisterCallback event' =>
      cases event' with
      | deviceArrived => simp [State.next, Function.update_apply, hevent]
      | deviceLeft => simp [State.next, Function.update_apply, hevent]
  | exitInInit => rfl
  | exitInClose => rfl
  | _ => exact hevent

lemma closing_clearFlag {s : State} (hs : Consistent s) (ha : s.Enabled .clearFlag) :
    Closing (s.next .clearFlag) :=
  ⟨consistent_next hs ha, rfl⟩

lemma registered_deregister {s : State} {event : Event} (hs : Consistent s)
    (ha : s.Enabled (.deregisterCallback event)) :
    Closing (s.next (.deregisterCallback event)) ∧
      (s.next (.deregisterCallback event)).registered event = false := by
  cases event with
  | deviceArrived => exact ⟨⟨consistent_next hs ha, rfl⟩, by simp [State.next]⟩
  | deviceLeft => exact ⟨⟨consistent_next hs ha, rfl⟩, by simp [State.next]⟩

lemma closing_of_legal {h : List Action} (hl : system.Legal h) (hclear : .clearFlag ∈ h) :
    Closing (system.exec h) := by
  revert hclear
  refine System.invariant (S := system) (I := fun h s => .clearFlag ∈ h → Closing s) nofun ?_ hl
  intro h a hl hs ha hclear
  rcases List.mem_append.mp hclear with hclear | hclear
  · exact closing_next (hs hclear) ha
  · obtain rfl : .clearFlag = a := List.mem_singleton.mp hclear
    exact closing_clearFlag (consistent_of_legal hl) ha

/-- A callback that has been deregistered stays so. -/
lemma deregistered_of_legal {h : List Action} (hl : system.Legal h) {event : Event}
    (hderegister : .deregisterCallback event ∈ h) :
    Closing (system.exec h) ∧ (system.exec h).registered event = false := by
  revert hderegister
  refine System.invariant (S := system)
    (I := fun h s => .deregisterCallback event ∈ h → Closing s ∧ s.registered event = false) nofun ?_
    hl
  intro h a hl hs ha hderegister
  rcases List.mem_append.mp hderegister with hderegister | hderegister
  · obtain ⟨hclosing, hevent⟩ := hs hderegister
    exact ⟨closing_next hclosing ha, registered_next hclosing ha hevent⟩
  · obtain rfl : .deregisterCallback event = a := List.mem_singleton.mp hderegister
    exact registered_deregister (consistent_of_legal hl) ha

/-- The thread is never in the way for good. -/
lemma exists_own_of_stopping {s : State} {departures : Bool} (hs : Stopping s false departures)
    (hnot : s.eventThread ≠ .exited) : ∃ a : Action, a.Own ∧ s.Enabled a := by
  cases hthread : s.eventThread with
  | absent => exact absurd hthread hs.thread
  | checking => exact ⟨.exitThread, trivial, hthread, hs.flag⟩
  | handling => exact ⟨.wake, trivial, hthread, hs.wakes rfl (by rw [hthread]; rfl)⟩
  | inCallback event => exact ⟨.returnCallback event, trivial, hthread⟩
  | exited => exact absurd hthread hnot

/-- Unless the destructor is done, it or the thread can take a step. -/
lemma exists_own_of_closing {s : State} (hs : Closing s) (hnot : s.phase ≠ .completed) :
    ∃ a : Action, a.Own ∧ s.Enabled a := by
  have hpast := hs.pastFlag
  cases hphase : s.phase with
  | flagCleared => exact ⟨.deregisterCallback .deviceArrived, trivial, hphase⟩
  | arrivalsDeregistered => exact ⟨.deregisterCallback .deviceLeft, trivial, hphase⟩
  | departuresDeregistered =>
      by_cases hthread : s.eventThread = .absent ∨ s.eventThread = .exited
      · exact ⟨.join, trivial, hphase, hthread⟩
      · have hconsistent := hs.consistent
        simp only [Consistent, hphase] at hconsistent
        rcases hconsistent with hstop | ⟨hidle, -⟩
        · exact exists_own_of_stopping hstop fun h => hthread (Or.inr h)
        · exact absurd (Or.inl hidle.thread) hthread
  | joined => exact ⟨.exitInClose, trivial, hphase⟩
  | completed => exact absurd hphase hnot
  | _ => simp [hphase, Phase.pastFlag] at hpast

lemma drains : system.Drains Action.Own Closing (· < ·) State.stepsLeft := by
  intro s a hs hown ha
  obtain ⟨hnext, hpaid⟩ := pays s a hs ha
  have hfree : a.cost = 0 := by
    cases a <;> first | rfl | exact hown.elim
  exact ⟨hnext, by omega⟩

lemma State.stepsLeft_le (s : State) : s.stepsLeft ≤ 7 := by
  have hphase : s.phase.stepsLeft ≤ 4 := by
    cases s.phase <;> simp [Phase.stepsLeft]
  have hthread : s.eventThread.stepsLeft ≤ 3 := by
    cases s.eventThread <;> simp [EventThread.stepsLeft]
  rw [State.stepsLeft]
  omega

/-- **The destructor waits for nothing but the callbacks.**  Once it has cleared the flag:

* the number of steps left to it and to the thread is bounded by the callbacks that still begin;
* none begins any more once it has been deregistered;
* unless the destructor is done, one of the two can take a step, without an event, an error or a
  timeout;
* and such steps complete it. -/
theorem close_completes {h : List Action} (hl : system.Legal h) (hclear : .clearFlag ∈ h) :
    (∀ h', system.Legal (h ++ h') → h'.length ≤ 7 + (h'.map Action.cost).sum) ∧
    (∀ h' event, .deregisterCallback event ∈ h → system.Legal (h ++ h') →
      .enterCallback event ∉ h') ∧
    ((system.exec h).phase = .completed ∨
      ∃ a : Action, a.Own ∧ system.Enabled (system.exec h) a) ∧
    ∃ h', system.Legal (h ++ h') ∧ (∀ a ∈ h', a.Own) ∧
      (system.exec (h ++ h')).phase = .completed := by
  have hclosing := closing_of_legal hl hclear
  refine ⟨fun h' hl' => ?_, fun h' event hderegister hl' hmem => ?_, ?_, ?_⟩
  · have hlater := ((system.legalFrom_append h h' system.init).mp hl').2
    have hbound := length_le_of_pays pays h' hclosing hlater
    have hseven := (system.exec h).stepsLeft_le
    omega
  · obtain ⟨p, q, rfl⟩ := List.append_of_mem hmem
    rw [← List.append_assoc] at hl'
    have hgone := (deregistered_of_legal hl'.prefix (List.mem_append_left p hderegister)).2
    have hthere := hl'.enabled_at.2
    simp [hgone] at hthere
  · by_cases hdone : (system.exec h).phase = .completed
    · exact Or.inl hdone
    · exact Or.inr (exists_own_of_closing hclosing hdone)
  · have hprogress : ∀ s, Closing s → ¬ s.phase = .completed →
        ∃ a : Action, a.Own ∧ system.Enabled s a := fun _ => exists_own_of_closing
    obtain ⟨h', hl', hown, hdone⟩ := exists_settling Nat.lt_wfRel.wf drains hprogress _ hclosing
    refine ⟨h', (system.legalFrom_append h h' system.init).mpr ⟨hl, hl'⟩, hown, ?_⟩
    rwa [System.exec, List.foldl_append]

/-- The flag is cleared in the middle of a callback. -/
theorem close_completes_inCallback :
    let h := closedInCallback.take 10
    (∀ h', system.Legal (h ++ h') → h'.length ≤ 7 + (h'.map Action.cost).sum) ∧
    (∀ h' event, .deregisterCallback event ∈ h → system.Legal (h ++ h') →
      .enterCallback event ∉ h') ∧
    ((system.exec h).phase = .completed ∨
      ∃ a : Action, a.Own ∧ system.Enabled (system.exec h) a) ∧
    ∃ h', system.Legal (h ++ h') ∧ (∀ a ∈ h', a.Own) ∧
      (system.exec (h ++ h')).phase = .completed :=
  close_completes (by decide) (by decide)

end EventLoop

end Usb
