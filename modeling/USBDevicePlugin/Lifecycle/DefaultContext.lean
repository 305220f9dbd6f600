import USBDevicePlugin.Core.TransitionSystem
import USBDevicePlugin.Device.HotPlug

/-!
# The default context

`libUSBInit` and `libUSBClose` of all `USBDeviceImplementation` objects of a process, libusb call by
libusb call.  They all work on libusb's default context, which libusb counts the uses of: the first
`libusb_init_context` creates it, and the `libusb_exit` that takes the count to zero shuts it down,
together with the hotplug callbacks registered in it.

`libUSBInit` can fail at every call, and where it fails after the first it shuts the context down
itself.  The constructor logs the failure and goes on, so the destructor cannot tell, and runs all
of `libUSBClose`.

* `Balanced` — what is promised of the calls of a run.
* **`balanced_of_legal`** — it is kept as long as no object is destroyed whose `libUSBInit` failed.
* `unbalanced_of_failed` — and broken soon after the destructor of one begins.
-/

namespace Usb

open TransitionSystem

namespace DefaultContext

/-! ## Objects and context -/

/-- An object, by the last of the libusb calls of its constructor or destructor that it has made.
`exiting` is the error branch of `libUSBInit` before its `libusb_exit`. -/
inductive Phase
  | constructing
  | contextInitialised
  | hotplugCapable
  | arrivalsRegistered
  | exiting
  | working (initialised : Bool)
  | closing
  | arrivalsDeregistered
  | departuresDeregistered
  | destroyed
  deriving DecidableEq, Repr

/-- The process.  Objects are numbered in the order of construction.  `hotPlugHandle` is what
registrations have stored in the objects' arrays, which nothing else initialises; `registered` is
what libusb knows of each handle. -/
structure State where
  contextUses : ℕ
  registered : ℕ → Option (ℕ × Event)
  phases : List Phase
  hotPlugHandle : ℕ → Event → Option ℕ

/-- The libusb calls of object `o`, with their outcome, and the beginnings of its constructor and
destructor. -/
inductive Action
  | construct
  | initContext (o : ℕ) (ok : Bool)
  | hasCapability (o : ℕ) (ok : Bool)
  | registerCallback (o : ℕ) (event : Event) (handle : Option ℕ)
  | exitInInit (o : ℕ)
  | beginClose (o : ℕ)
  | deregisterCallback (o : ℕ) (event : Event) (handle : ℕ)
  | exitInClose (o : ℕ)
  deriving DecidableEq, Repr

namespace State

/-- The object goes on to another phase. -/
def advance (s : State) (o : ℕ) (phase : Phase) : State :=
  { s with phases := s.phases.set o phase }

/-- The handle of a registration is stored. -/
def store (s : State) (o : ℕ) (event : Event) (handle : ℕ) : State :=
  { s with
    registered := Function.update s.registered handle (some (o, event))
    hotPlugHandle := Function.update s.hotPlugHandle o
      (Function.update (s.hotPlugHandle o) event (some handle)) }

/-- `libusb_exit` on the default context. -/
def exitContext (s : State) : State :=
  { s with
    contextUses := s.contextUses - 1
    registered := if s.contextUses ≤ 1 then fun _ => none else s.registered }

/-- The phase in which the callback for an event is the next to be registered. -/
def beforeRegistration : Event → Phase
  | .deviceArrived => .hotplugCapable
  | .deviceLeft => .arrivalsRegistered

/-- The phase after it has been. -/
def afterRegistration : Event → Phase
  | .deviceArrived => .arrivalsRegistered
  | .deviceLeft => .working true

/-- The phase in which the callback for an event is the next to be deregistered. -/
def beforeDeregistration : Event → Phase
  | .deviceArrived => .closing
  | .deviceLeft => .arrivalsDeregistered

/-- The phase after it has been. -/
def afterDeregistration : Event → Phase
  | .deviceArrived => .arrivalsDeregistered
  | .deviceLeft => .departuresDeregistered

/-- When a step may be taken.  A new handle is not in use; a handle that was never stored has an
indeterminate value. -/
def Enabled (s : State) : Action → Prop
  | .construct => True
  | .initContext o _ => s.phases[o]? = some .constructing
  | .hasCapability o _ => s.phases[o]? = some .contextInitialised
  | .registerCallback o event handle =>
      s.phases[o]? = some (beforeRegistration event) ∧ ∀ v ∈ handle, s.registered v = none
  | .exitInInit o => s.phases[o]? = some .exiting
  | .beginClose o => s.phases[o]? = some (.working true) ∨ s.phases[o]? = some (.working false)
  | .deregisterCallback o event handle =>
      s.phases[o]? = some (beforeDeregistration event) ∧
        (s.hotPlugHandle o event).getD handle = handle
  | .exitInClose o => s.phases[o]? = some .departuresDeregistered

/-- What a step does. -/
def next (s : State) : Action → State
  | .construct => { s with phases := s.phases ++ [.constructing] }
  | .initContext o true =>
      { s with contextUses := s.contextUses + 1 }.advance o .contextInitialised
  | .initContext o false => s.advance o (.working false)
  | .hasCapability o ok => s.advance o (if ok then .hotplugCapable else .exiting)
  | .registerCallback o event (some handle) =>
      (s.store o event handle).advance o (afterRegistration event)
  | .registerCallback o _ none => s.advance o .exiting
  | .exitInInit o => s.exitContext.advance o (.working false)
  | .beginClose o => s.advance o .closing
  | .deregisterCallback o event handle =>
      { s with registered := Function.update s.registered handle none }.advance o
        (afterDeregistration event)
  | .exitInClose o => s.exitContext.advance o .destroyed

end State

/-- The process, before the first construction. -/
def system : System State Action where
  init :=
    { contextUses := 0
      registered := fun _ => none
      phases := []
      hotPlugHandle := fun _ _ => none }
  Enabled := State.Enabled
  next := State.next

instance (s : State) : ∀ a : Action, Decidable (system.Enabled s a)
  | .construct => inferInstanceAs (Decidable True)
  | .initContext .. | .hasCapability .. | .exitInInit _ | .exitInClose _ =>
      inferInstanceAs (Decidable (_ = _))
  | .registerCallback o event none =>
      decidable_of_iff (s.phases[o]? = some (State.beforeRegistration event))
        (by simp [system, State.Enabled])
  | .registerCallback o event (some handle) =>
      decidable_of_iff (s.phases[o]? = some (State.beforeRegistration event) ∧
        s.registered handle = none) (by simp [system, State.Enabled])
  | .beginClose _ => inferInstanceAs (Decidable (_ ∨ _))
  | .deregisterCallback .. => inferInstanceAs (Decidable (_ ∧ _))

/-! ## What is promised -/

/-- The successful calls of `libusb_init_context`. -/
def inits (h : List Action) : ℕ :=
  h.countP fun
    | .initContext _ ok => ok
    | _ => false

/-- The calls of `libusb_exit`. -/
def exits (h : List Action) : ℕ :=
  h.countP fun
    | .exitInInit _ => true
    | .exitInClose _ => true
    | _ => false

/-- The handle is one that a registration of the object for this event stored, and the
registration is still there. -/
def Deregisters (s : State) (o : ℕ) (event : Event) (handle : ℕ) : Prop :=
  s.hotPlugHandle o event = some handle ∧ s.registered handle = some (o, event)

/-- The calls of a run so far. -/
structure Balanced (h : List Action) : Prop where
  exits_le : exits h ≤ inits h
  /-- Nothing is left open when no object is live. -/
  equal : (∀ phase ∈ (system.exec h).phases, phase = .destroyed) → exits h = inits h
  deregisters : ∀ p q o event handle, h = p ++ .deregisterCallback o event handle :: q →
    Deregisters (system.exec p) o event handle

/-- The destructor runs only on objects whose `libUSBInit` succeeded. -/
def InitialisedFirst (s : State) : Action → Prop
  | .beginClose o => s.phases[o]? = some (.working true)
  | _ => True

instance (s : State) : ∀ a : Action, Decidable (InitialisedFirst s a)
  | .beginClose o => inferInstanceAs (Decidable (s.phases[o]? = some (.working true)))
  | .construct | .initContext .. | .hasCapability .. | .registerCallback .. | .exitInInit _
  | .deregisterCallback .. | .exitInClose _ => inferInstanceAs (Decidable True)

/-! ## Bookkeeping -/

/-- The object has a use of the context. -/
def Phase.uses : Phase → Bool
  | .constructing => false
  | .working initialised => initialised
  | .destroyed => false
  | _ => true

/-- A callback of the object is registered for the event. -/
def Phase.registers : Phase → Event → Bool
  | .arrivalsRegistered, .deviceArrived => true
  | .working initialised, _ => initialised
  | .closing, _ => true
  | .arrivalsDeregistered, .deviceLeft => true
  | _, _ => false

lemma Phase.uses_of_registers {phase : Phase} {event : Event}
    (h : phase.registers event = true) : phase.uses = true := by
  cases phase <;> cases event <;> simp_all [Phase.registers, Phase.uses]

/-- The calls so far, the uses libusb counts and the phases of the objects fit together. -/
structure Accounted (h : List Action) (s : State) : Prop where
  balance : inits h = exits h + s.contextUses
  uses : s.contextUses = s.phases.countP Phase.uses
  handles : ∀ o phase event, s.phases[o]? = some phase → phase.registers event = true →
    ∃ handle, Deregisters s o event handle

/-- Callbacks of the other objects stay registered when an object moves, if their registrations
are untouched or there is no use of the context left. -/
lemma handles_advance {h : List Action} {s s' : State} (hs : Accounted h s) {o : ℕ}
    {phase : Phase} (hphases : s'.phases = s.phases.set o phase)
    (hown : ∀ event, phase.registers event = true → ∃ handle, Deregisters s' o event handle)
    (hother : ∀ o' event handle, o' ≠ o → Deregisters s o' event handle →
      s'.phases.countP Phase.uses = 0 ∨ Deregisters s' o' event handle) :
    ∀ o phase event, s'.phases[o]? = some phase → phase.registers event = true →
      ∃ handle, Deregisters s' o event handle := by
  intro o' phase' event hphase' hregisters
  by_cases ho : o' = o
  · subst ho
    have hin : o' < s'.phases.length := (List.getElem?_eq_some_iff.mp hphase').1
    rw [hphases, List.length_set] at hin
    rw [hphases, List.getElem?_set_self hin] at hphase'
    obtain rfl := Option.some.inj hphase'
    exact hown event hregisters
  · have hbefore := hphase'
    rw [hphases, List.getElem?_set_ne (Ne.symm ho)] at hbefore
    obtain ⟨handle, hhandle⟩ := hs.handles o' phase' event hbefore hregisters
    rcases hother o' event handle ho hhandle with hnone | hstill
    · have hmem := List.mem_of_getElem? hphase'
      exact absurd (Phase.uses_of_registers hregisters) (List.countP_eq_zero.mp hnone _ hmem)
    · exact ⟨handle, hstill⟩

/-- An object that has a use is counted. -/
lemma contextUses_pos {h : List Action} {s : State} (hs : Accounted h s) {o : ℕ} {phase : Phase}
    (hphase : s.phases[o]? = some phase) (huses : phase.uses = true) : 0 < s.contextUses := by
  rw [hs.uses]
  exact List.countP_pos_iff.mpr ⟨phase, List.mem_of_getElem? hphase, huses⟩

lemma balance_next {h : List Action} {s : State} {a : Action} (hs : Accounted h s)
    (ha : s.Enabled a) : inits (h ++ [a]) = exits (h ++ [a]) + (s.next a).contextUses := by
  have hbalance := hs.balance
  have hinits : inits (h ++ [a]) = inits h + inits [a] := List.countP_append
  have hexits : exits (h ++ [a]) = exits h + exits [a] := List.countP_append
  rw [hinits, hexits]
  cases a with
  | initContext o ok =>
      cases ok with
      | true => simp [inits, exits, State.next, State.advance] at hbalance ⊢; omega
      | false => simpa [inits, exits, State.next, State.advance] using hbalance
  | registerCallback o event handle =>
      cases handle <;> simpa [inits, exits, State.next, State.advance, State.store] using hbalance
  | exitInInit o =>
      have hpos := contextUses_pos hs ha rfl
      simp [inits, exits, State.next, State.advance, State.exitContext] at hbalance ⊢
      omega
  | exitInClose o =>
      have hpos := contextUses_pos hs ha rfl
      simp [inits, exits, State.next, State.advance, State.exitContext] at hbalance ⊢
      omega
  | _ => simpa [inits, exits, State.next, State.advance] using hbalance

/-- An object that moves changes the count by its own use. -/
lemma uses_move {s s' : State} {o : ℕ} {old phase : Phase}
    (huses : s.contextUses = s.phases.countP Phase.uses) (hold : s.phases[o]? = some old)
    (hphases : s'.phases = s.phases.set o phase)
    (hcount : s'.contextUses + old.uses.toNat = s.contextUses + phase.uses.toNat) :
    s'.contextUses = s'.phases.countP Phase.uses := by
  have hmove := countP_set_add (p := Phase.uses) hold phase
  rw [hphases]
  omega

lemma uses_next {h : List Action} {s : State} {a : Action} (hs : Accounted h s)
    (ha : s.Enabled a) (hc : InitialisedFirst s a) :
    (s.next a).contextUses = (s.next a).phases.countP Phase.uses := by
  cases a with
  | construct => simpa [State.next, Phase.uses] using hs.uses
  | initContext o ok => cases ok <;> exact uses_move hs.uses ha rfl rfl
  | hasCapability o ok => cases ok <;> exact uses_move hs.uses ha rfl rfl
  | registerCallback o event handle =>
      cases handle <;> cases event <;> exact uses_move hs.uses ha.1 rfl rfl
  | exitInInit o =>
      have hpos := contextUses_pos hs ha rfl
      exact uses_move hs.uses ha rfl (Nat.sub_add_cancel hpos)
  | beginClose o => exact uses_move hs.uses hc rfl rfl
  | deregisterCallback o event handle => cases event <;> exact uses_move hs.uses ha.1 rfl rfl
  | exitInClose o =>
      have hpos := contextUses_pos hs ha rfl
      exact uses_move hs.uses ha rfl (Nat.sub_add_cancel hpos)

/-- The handle a destructor passes is the one that was stored. -/
lemma deregisters_of_enabled {h : List Action} {s : State} (hs : Accounted h s) {o : ℕ}
    {event : Event} {handle : ℕ} (ha : s.Enabled (.deregisterCallback o event handle)) :
    Deregisters s o event handle := by
  have hregisters : (State.beforeDeregistration event).registers event = true := by
    cases event <;> rfl
  obtain ⟨stored, hstored⟩ := hs.handles o _ event ha.1 hregisters
  have hsame : stored = handle := by
    have hvalue := ha.2
    rwa [hstored.1] at hvalue
  exact hsame ▸ hstored

/-- A new registration does not touch the others. -/
lemma deregisters_store {s : State} {o o' : ℕ} {event event' : Event} {handle handle' : ℕ}
    (hfree : s.registered handle = none) (hne : o' ≠ o ∨ event' ≠ event)
    (h : Deregisters s o' event' handle') : Deregisters (s.store o event handle) o' event' handle' := by
  have hhandle : handle' ≠ handle := by
    rintro rfl
    exact absurd (hfree.symm.trans h.2) (by simp)
  refine ⟨?_, ?_⟩
  · by_cases ho : o' = o
    · have hevent : event' ≠ event := hne.resolve_left (not_not.mpr ho)
      simp only [State.store, ho, Function.update_self, Function.update_of_ne hevent]
      exact ho ▸ h.1
    · simp only [State.store, Function.update_of_ne ho]
      exact h.1
  · simp only [State.store, Function.update_of_ne hhandle]
    exact h.2

lemma deregisters_store_self (s : State) (o : ℕ) (event : Event) (handle : ℕ) :
    Deregisters (s.store o event handle) o event handle := by
  simp [Deregisters, State.store]

/-- Nor does taking one away. -/
lemma deregisters_remove {s : State} {o o' : ℕ} {event event' : Event} {handle handle' : ℕ}
    (hhandle : Deregisters s o event handle) (hne : (o', event') ≠ (o, event))
    (h : Deregisters s o' event' handle') :
    Deregisters { s with registered := Function.update s.registered handle none } o' event'
      handle' := by
  refine ⟨h.1, ?_⟩
  have hdifferent : handle' ≠ handle := by
    rintro rfl
    exact hne (Option.some.inj (h.2.symm.trans hhandle.2))
  simp only [Function.update_of_ne hdifferent]
  exact h.2

/-- `libusb_exit` takes all registrations away, or none. -/
lemma deregisters_exit {s s' : State} (huses : s'.contextUses = s'.phases.countP Phase.uses)
    (hdrop : s'.contextUses = s.contextUses - 1)
    (hregistered : s'.registered = if s.contextUses ≤ 1 then fun _ => none else s.registered)
    (hstored : s'.hotPlugHandle = s.hotPlugHandle) {o : ℕ} {event : Event} {handle : ℕ}
    (h : Deregisters s o event handle) :
    s'.phases.countP Phase.uses = 0 ∨ Deregisters s' o event handle := by
  rcases Nat.lt_or_ge 1 s.contextUses with hmore | hlast
  · rw [if_neg (by omega)] at hregistered
    exact Or.inr ⟨hstored ▸ h.1, hregistered ▸ h.2⟩
  · exact Or.inl (by omega)

lemma handles_next {h : List Action} {s : State} {a : Action} (hs : Accounted h s)
    (ha : s.Enabled a) (hc : InitialisedFirst s a) :
    ∀ o phase event, (s.next a).phases[o]? = some phase → phase.registers event = true →
      ∃ handle, Deregisters (s.next a) o event handle := by
  have huses := uses_next hs ha hc
  cases a with
  | construct =>
      intro o phase event hphase hregisters
      rcases lt_or_ge o s.phases.length with hlt | hge
      · rw [State.next, List.getElem?_append_left hlt] at hphase
        exact hs.handles o phase event hphase hregisters
      · rw [State.next, List.getElem?_append_right hge, List.getElem?_singleton] at hphase
        split_ifs at hphase
        obtain rfl := Option.some.inj hphase
        simp [Phase.registers] at hregisters
  | initContext o ok =>
      cases ok <;> exact handles_advance hs rfl (by simp [Phase.registers])
        fun _ _ _ _ hhandle => Or.inr hhandle
  | hasCapability o ok =>
      cases ok <;> exact handles_advance hs rfl (by simp [Phase.registers])
        fun _ _ _ _ hhandle => Or.inr hhandle
  | registerCallback o event handle =>
      cases handle with
      | none =>
          exact handles_advance hs rfl (by simp [Phase.registers])
            fun _ _ _ _ hhandle => Or.inr hhandle
      | some handle =>
          have hfree : s.registered handle = none := ha.2 handle rfl
          refine handles_advance hs rfl (fun event' hregisters => ?_)
            fun _ _ _ ho hhandle => Or.inr (deregisters_store hfree (Or.inl ho) hhandle)
          by_cases hevent : event' = event
          · exact ⟨handle, hevent ▸ deregisters_store_self s o event' handle⟩
          · -- the callback for arrivals was registered before the one for departures
            have hbefore : (State.beforeRegistration event).registers event' = true := by
              cases event <;> cases event' <;> simp_all [State.beforeRegistration,
                State.afterRegistration, Phase.registers]
            obtain ⟨handle', hhandle'⟩ := hs.handles o _ event' ha.1 hbefore
            exact ⟨handle', deregisters_store hfree (Or.inr hevent) hhandle'⟩
  | exitInInit o =>
      exact handles_advance hs rfl (by simp [Phase.registers])
        fun _ _ _ _ hhandle => deregisters_exit huses rfl rfl rfl hhandle
  | beginClose o =>
      exact handles_advance hs rfl (fun event _ => hs.handles o _ event hc rfl)
        fun _ _ _ _ hhandle => Or.inr hhandle
  | deregisterCallback o event handle =>
      have hhandle := deregisters_of_enabled hs ha
      refine handles_advance hs rfl (fun event' hregisters => ?_)
        fun o' event' _ ho hhandle' =>
          Or.inr (deregisters_remove hhandle (fun heq => ho (Prod.mk.inj heq).1) hhandle')
      have hevent : event' ≠ event ∧ (State.beforeDeregistration event).registers event' = true := by
        cases event <;> cases event' <;> simp_all [State.beforeDeregistration,
          State.afterDeregistration, Phase.registers]
      obtain ⟨handle', hhandle'⟩ := hs.handles o _ event' ha.1 hevent.2
      exact ⟨handle', deregisters_remove hhandle (fun heq => hevent.1 (Prod.mk.inj heq).2) hhandle'⟩
  | exitInClose o =>
      exact handles_advance hs rfl (by simp [Phase.registers])
        fun _ _ _ _ hhandle => deregisters_exit huses rfl rfl rfl hhandle

lemma accounted_of_legal {h : List Action} (hl : (system.restrict InitialisedFirst).Legal h) :
    Accounted h (system.exec h) :=
  System.invariant (S := system.restrict InitialisedFirst) (I := Accounted)
    ⟨rfl, rfl, fun o phase event hphase _ => absurd hphase (by simp [System.restrict, system])⟩
    (fun _ _ _ hs ha =>
      ⟨balance_next hs ha.1, uses_next hs ha.1 ha.2, handles_next hs ha.1 ha.2⟩) hl

/-! ## Balance -/

/-- **Initialisations and shutdowns balance** in a run that destroys only objects whose `libUSBInit`
succeeded. -/
theorem balanced_of_legal {h : List Action} (hl : (system.restrict InitialisedFirst).Legal h) :
    Balanced h where
  exits_le := by
    have hbalance := (accounted_of_legal hl).balance
    omega
  equal hdestroyed := by
    have hs := accounted_of_legal hl
    have hnone : (system.exec h).phases.countP Phase.uses = 0 :=
      List.countP_eq_zero.mpr fun phase hphase => by simp [hdestroyed phase hphase, Phase.uses]
    have hbalance := hs.balance
    have huses := hs.uses
    omega
  deregisters p q o event handle hsplit := by
    subst hsplit
    exact deregisters_of_enabled (accounted_of_legal hl.prefix) hl.enabled_at.1

/-- Two objects, the second constructed before the first is destroyed; registering the second
callback of a third object fails, and that object stays. -/
theorem balanced_overlapping :
    Balanced [.construct, .initContext 0 true, .hasCapability 0 true,
      .registerCallback 0 .deviceArrived (some 1), .registerCallback 0 .deviceLeft (some 2),
      .construct, .initContext 1 true, .hasCapability 1 true, .beginClose 0,
      .registerCallback 1 .deviceArrived (some 3), .deregisterCallback 0 .deviceArrived 1,
      .deregisterCallback 0 .deviceLeft 2, .registerCallback 1 .deviceLeft (some 4), .exitInClose 0,
      .construct, .initContext 2 true, .hasCapability 2 true,
      .registerCallback 2 .deviceArrived (some 1), .registerCallback 2 .deviceLeft none,
      .exitInInit 2, .beginClose 1, .deregisterCallback 1 .deviceArrived 3,
      .deregisterCallback 1 .deviceLeft 4, .exitInClose 1] :=
  balanced_of_legal (by decide)

/-- **libusb is shut down and was never initialised.**  `libusb_init_context` fails, the object is
destroyed all the same: it deregisters two handles that were never stored, and calls `libusb_exit`
once more than the context was initialised. -/
theorem exits_gt_inits :
    ¬ ∀ h, system.Legal h → exits h ≤ inits h := by
  intro hclaim
  have hle := hclaim [.construct, .initContext 0 false, .beginClose 0,
    .deregisterCallback 0 .deviceArrived 0, .deregisterCallback 0 .deviceLeft 0, .exitInClose 0]
    (by decide)
  exact absurd hle (by decide)

/-! ## After a failure -/

/-- The callback for departures has not been registered, and with an object that has failed it never
will be. -/
def Phase.beforeDepartures : Phase → Bool
  | .constructing => true
  | .contextInitialised => true
  | .hotplugCapable => true
  | .arrivalsRegistered => true
  | .exiting => true
  | .working initialised => !initialised
  | _ => false

/-- No handle for departures has been stored before. -/
def Unstored (s : State) : Prop :=
  ∀ o, (∀ phase ∈ s.phases[o]?, phase.beforeDepartures = true) → s.hotPlugHandle o .deviceLeft = none

lemma unstored_move {s s' : State} (hs : Unstored s) {o : ℕ} {old phase : Phase}
    (hold : s.phases[o]? = some old) (hphases : s'.phases = s.phases.set o phase)
    (hback : phase.beforeDepartures = true → old.beforeDepartures = true)
    (hstored : ∀ o', o' ≠ o ∨ phase.beforeDepartures = true →
      s'.hotPlugHandle o' .deviceLeft = s.hotPlugHandle o' .deviceLeft) : Unstored s' := by
  rw [Unstored, hphases]
  refine forall_getElem?_set (P := fun o r => (∀ phase ∈ r, phase.beforeDepartures = true) →
    s'.hotPlugHandle o .deviceLeft = none) hold ?_ ?_
  · intro hbefore
    have hphase := hbefore phase rfl
    rw [hstored o (Or.inr hphase)]
    refine hs o fun old' hold' => ?_
    obtain rfl := Option.some.inj (hold.symm.trans hold')
    exact hback hphase
  · intro o' ho hbefore
    rw [hstored o' (Or.inl ho)]
    exact hs o' hbefore

lemma unstored_next {s : State} {a : Action} (hs : Unstored s) (ha : s.Enabled a) :
    Unstored (s.next a) := by
  cases a with
  | construct =>
      intro o hbefore
      refine hs o fun phase hphase => hbefore phase ?_
      have hin : o < s.phases.length := (List.getElem?_eq_some_iff.mp hphase).1
      rw [State.next, List.getElem?_append_left hin]
      exact hphase
  | initContext o ok =>
      cases ok <;> exact unstored_move hs ha rfl (fun _ => rfl) fun _ _ => rfl
  | hasCapability o ok => exact unstored_move hs ha rfl (fun _ => rfl) fun _ _ => rfl
  | registerCallback o event handle =>
      have hbefore : (State.beforeRegistration event).beforeDepartures = true := by
        cases event <;> rfl
      cases handle with
      | none => exact unstored_move hs ha.1 rfl (fun _ => hbefore) fun _ _ => rfl
      | some handle =>
          refine unstored_move hs ha.1 rfl (fun _ => hbefore) fun o' ho' => ?_
          rcases ho' with ho' | hphase
          · exact congrFun (Function.update_of_ne ho' _ _) _
          · -- only the registration for arrivals leaves the object before the other
            cases event with
            | deviceArrived =>
                simp only [State.next, State.advance, State.store, Function.update_apply]
                split_ifs with ho <;> simp [ho]
            | deviceLeft => simp [State.afterRegistration, Phase.beforeDepartures] at hphase
  | exitInInit o => exact unstored_move hs ha rfl (fun _ => rfl) fun _ _ => rfl
  | beginClose o =>
      rcases ha with ha | ha <;>
        exact unstored_move hs ha rfl (by simp [Phase.beforeDepartures]) fun _ _ => rfl
  | deregisterCallback o event handle =>
      refine unstored_move hs ha.1 rfl ?_ fun _ _ => rfl
      cases event <;> simp [State.afterDeregistration, Phase.beforeDepartures]
  | exitInClose o =>
      exact unstored_move hs ha rfl (by simp [Phase.beforeDepartures]) fun _ _ => rfl

lemma unstored_of_legal {h : List Action} (hl : system.Legal h) : Unstored (system.exec h) :=
  System.invariant (S := system) (I := fun _ s => Unstored s) (fun _ _ => rfl)
    (fun _ _ _ hs ha => unstored_next hs ha) hl

/-- The steps of the destructor up to the callback for departures. -/
def closeSteps (s : State) (o : ℕ) : List Action :=
  [.beginClose o,
    .deregisterCallback o .deviceArrived ((s.hotPlugHandle o .deviceArrived).getD 0),
    .deregisterCallback o .deviceLeft ((s.hotPlugHandle o .deviceLeft).getD 0)]

lemma legalFrom_closeSteps {s : State} {o : ℕ} (hfailed : s.phases[o]? = some (.working false)) :
    system.LegalFrom s (closeSteps s o) := by
  have hin : o < s.phases.length := (List.getElem?_eq_some_iff.mp hfailed).1
  have hvalue : ∀ stored : Option ℕ, stored.getD (stored.getD 0) = stored.getD 0 := by
    intro stored
    cases stored <;> rfl
  refine ⟨Or.inr hfailed, ⟨?_, hvalue _⟩, ⟨?_, hvalue _⟩, trivial⟩
  · exact List.getElem?_set_self hin
  · have hstill : o < (s.phases.set o .closing).length := by simpa using hin
    exact List.getElem?_set_self hstill

/-- **Destroying an object whose `libUSBInit` failed breaks the balance** as soon as its destructor
gets to the callback for departures. -/
theorem unbalanced_of_failed {h : List Action} (hl : system.Legal h) {o : ℕ}
    (hfailed : (system.exec h).phases[o]? = some (.working false)) :
    system.Legal (h ++ closeSteps (system.exec h) o) ∧
      ¬ Balanced (h ++ closeSteps (system.exec h) o) := by
  constructor
  · exact (system.legalFrom_append h _ _).mpr ⟨hl, legalFrom_closeSteps hfailed⟩
  · intro hbalanced
    have hunstored := unstored_of_legal hl o (by simp [hfailed, Phase.beforeDepartures])
    have hstored := (hbalanced.deregisters (h ++ (closeSteps (system.exec h) o).dropLast) [] o
      .deviceLeft (((system.exec h).hotPlugHandle o .deviceLeft).getD 0) (by simp [closeSteps])).1
    have hsame : (system.exec (h ++ (closeSteps (system.exec h) o).dropLast)).hotPlugHandle =
        (system.exec h).hotPlugHandle := by
      rw [System.exec, List.foldl_append]
      rfl
    rw [hsame, hunstored] at hstored
    exact absurd hstored (by simp)

end DefaultContext

end Usb
