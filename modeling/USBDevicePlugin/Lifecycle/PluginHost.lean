import USBDevicePlugin.Core.TransitionSystem

/-!
# The plugin in its shell

`USBDevice`, the part of the plugin that the framework's shell activates and deactivates.
`Initialize` takes a reference on the shell, registers a listener with it, asks it for the
implementation and registers the listener there; `Deinitialize` undoes this, and is also what
`Initialize` calls when there is no implementation.

While the listener is registered, the shell calls it back whenever a remote process is gone.  The
callback compares the connection with the plugin's own and, if they are the same, submits the
plugin's deactivation, for which it needs the shell.

Every statement of the two operations is a step, and the steps of callbacks come in between.

* `LifecycleBalanced` — what is promised of a run.
* **`lifecycleBalanced_of_legal`** — every run keeps it.
-/

namespace Usb

open TransitionSystem

namespace PluginHost

/-! ## The code -/

/-- Where the plugin is in `Initialize` and `Deinitialize`: the statement it has last executed.
`leaving` is the second half of `Deinitialize`, which an `Initialize` without implementation goes to
directly. -/
inductive Pc
  | inactive
  | serviceStored
  | serviceReferenced
  | listenerRegistered
  | connected
  | implObtained
  | implRegistered
  | active
  | deinitializing
  | implUnregistered
  | jsonRpcUnregistered
  | connectionObtained (connection : Bool)
  | implReleased (connection : Bool)
  | implCleared
  | connectionTerminated
  | leaving
  | listenerUnregistered
  | serviceReleased
  | serviceCleared
  deriving DecidableEq, Repr

/-- A call of `Deactivated`: it has been entered with the id of a connection, has found the id to be
the plugin's own or another one, has submitted a deactivation, has returned. -/
inductive Callback
  | entered (id : ℕ)
  | matched
  | unmatched
  | submitted
  | returned
  deriving DecidableEq, Repr

def Callback.inProgress : Callback → Bool
  | .returned => false
  | _ => true

/-- The plugin and what others keep for it: is its listener registered with the shell, which
implementation has the listener in its list, is the JSON-RPC interface registered.  There is one
shell, so `service` says no more than that `_service` is not null. -/
structure State where
  pc : Pc
  service : Bool
  usbDeviceImpl : Option ℕ
  connectionId : ℕ
  listening : Bool
  implListener : Option ℕ
  jsonRpc : Bool
  callbacks : List Callback

/-- The statements, with what others answer.  `connect` is what `Root` does to `_connectionId` before
it returns. -/
inductive Action
  | storeService
  | addRefService
  | registerListener
  | connect (id : ℕ)
  | root (impl : Option ℕ)
  | registerImpl (i : ℕ)
  | registerJsonRpc
  | enterDeinitialization
  | unregisterImpl (i : ℕ)
  | unregisterJsonRpc
  | remoteConnection (connection : Bool)
  | releaseImpl (i : ℕ)
  | clearImpl (connection : Bool)
  | terminateConnection
  | releaseConnection
  | unregisterListener
  | releaseService
  | clearService
  | clearConnectionId
  | deactivated (c id : ℕ)
  | compareId (c id : ℕ)
  | submitDeactivation (c : ℕ)
  | returnDeactivated (c : ℕ)
  deriving DecidableEq, Repr

namespace State

/-- When a step may be taken.  The shell calls back while the listener is registered, with ids that
are not zero, and its `Unregister` waits for the calls in progress. -/
def Enabled (s : State) : Action → Prop
  | .storeService => s.pc = .inactive
  | .addRefService => s.pc = .serviceStored
  | .registerListener => s.pc = .serviceReferenced
  | .connect _ => s.pc = .listenerRegistered
  | .root _ => s.pc = .connected
  | .registerImpl i => s.pc = .implObtained ∧ s.usbDeviceImpl = some i
  | .registerJsonRpc => s.pc = .implRegistered
  | .enterDeinitialization => s.pc = .active
  | .unregisterImpl i => s.pc = .deinitializing ∧ s.usbDeviceImpl = some i
  | .unregisterJsonRpc => s.pc = .implUnregistered
  | .remoteConnection _ => s.pc = .jsonRpcUnregistered
  | .releaseImpl i =>
      (s.pc = .connectionObtained true ∨ s.pc = .connectionObtained false) ∧
        s.usbDeviceImpl = some i
  | .clearImpl connection => s.pc = .implReleased connection
  | .terminateConnection => s.pc = .implCleared
  | .releaseConnection => s.pc = .connectionTerminated
  | .unregisterListener => s.pc = .leaving ∧ ∀ callback ∈ s.callbacks, callback.inProgress = false
  | .releaseService => s.pc = .listenerUnregistered
  | .clearService => s.pc = .serviceReleased
  | .clearConnectionId => s.pc = .serviceCleared
  | .deactivated c id => c = s.callbacks.length ∧ s.listening = true ∧ id ≠ 0
  | .compareId c id => s.callbacks[c]? = some (.entered id)
  | .submitDeactivation c => s.callbacks[c]? = some .matched
  | .returnDeactivated c =>
      s.callbacks[c]? = some .unmatched ∨ s.callbacks[c]? = some .submitted

/-- What a step does. -/
def next (s : State) : Action → State
  | .storeService => { s with pc := .serviceStored, service := true }
  | .addRefService => { s with pc := .serviceReferenced }
  | .registerListener => { s with pc := .listenerRegistered, listening := true }
  | .connect id => { s with pc := .connected, connectionId := id }
  | .root none => { s with pc := .leaving, usbDeviceImpl := none }
  | .root (some i) => { s with pc := .implObtained, usbDeviceImpl := some i }
  | .registerImpl i => { s with pc := .implRegistered, implListener := some i }
  | .registerJsonRpc => { s with pc := .active, jsonRpc := true }
  | .enterDeinitialization => { s with pc := .deinitializing }
  | .unregisterImpl _ => { s with pc := .implUnregistered, implListener := none }
  | .unregisterJsonRpc => { s with pc := .jsonRpcUnregistered, jsonRpc := false }
  | .remoteConnection connection => { s with pc := .connectionObtained connection }
  | .releaseImpl _ => { s with pc := .implReleased (s.pc = .connectionObtained true) }
  | .clearImpl connection =>
      { s with
        pc := if connection then .implCleared else .leaving
        usbDeviceImpl := none }
  | .terminateConnection => { s with pc := .connectionTerminated }
  | .releaseConnection => { s with pc := .leaving }
  | .unregisterListener => { s with pc := .listenerUnregistered, listening := false }
  | .releaseService => { s with pc := .serviceReleased }
  | .clearService => { s with pc := .serviceCleared, service := false }
  | .clearConnectionId => { s with pc := .inactive, connectionId := 0 }
  | .deactivated _ id => { s with callbacks := s.callbacks ++ [.entered id] }
  | .compareId c id =>
      { s with
        callbacks := s.callbacks.set c (if id = s.connectionId then .matched else .unmatched) }
  | .submitDeactivation c => { s with callbacks := s.callbacks.set c .submitted }
  | .returnDeactivated c => { s with callbacks := s.callbacks.set c .returned }

end State

/-- The plugin from its construction on. -/
def system : System State Action where
  init :=
    { pc := .inactive
      service := false
      usbDeviceImpl := none
      connectionId := 0
      listening := false
      implListener := none
      jsonRpc := false
      callbacks := [] }
  Enabled := State.Enabled
  next := State.next

instance (s : State) : ∀ a : Action, Decidable (system.Enabled s a)
  | .storeService | .addRefService | .registerListener | .connect _ | .root _ | .registerJsonRpc
  | .enterDeinitialization | .unregisterJsonRpc | .remoteConnection _ | .clearImpl _ | .terminateConnection
  | .releaseConnection | .releaseService | .clearService | .clearConnectionId | .compareId ..
  | .submitDeactivation _ => inferInstanceAs (Decidable (_ = _))
  | .registerImpl _ | .unregisterImpl _ | .releaseImpl _ | .unregisterListener | .deactivated .. =>
      inferInstanceAs (Decidable (_ ∧ _))
  | .returnDeactivated _ => inferInstanceAs (Decidable (_ ∨ _))

/-! ## What is promised -/

/-- The callback was for the plugin's own connection. -/
def OwnConnection (h : List Action) (c : ℕ) : Prop :=
  ∃ p q id, h = p ++ .compareId c id :: q ∧ id = (system.exec p).connectionId

/-- A run so far. -/
structure LifecycleBalanced (h : List Action) : Prop where
  /-- Between activations, be it after an `Initialize` that failed, the members are as the
  constructor left them. -/
  members : (system.exec h).pc = .inactive →
    (system.exec h).service = false ∧ (system.exec h).usbDeviceImpl = none ∧
      (system.exec h).connectionId = 0
  /-- By then every reference on the shell has been given back, and every registration undone. -/
  shell : (system.exec h).pc = .inactive →
    h.count .addRefService = h.count .releaseService ∧
      h.count .registerListener = h.count .unregisterListener ∧ (system.exec h).listening = false
  /-- An implementation is released when the listener has been taken out of its list. -/
  impl : ∀ p i q, h = p ++ .releaseImpl i :: q →
    (system.exec p).usbDeviceImpl = some i ∧ (system.exec p).implListener = none ∧
      p.count (.registerImpl i) = p.count (.unregisterImpl i)
  /-- Between activations and during one, the JSON-RPC interface is registered if there is an
  implementation. -/
  jsonRpc : (system.exec h).pc = .inactive ∨ (system.exec h).pc = .active →
    ((system.exec h).jsonRpc = true ↔ (system.exec h).usbDeviceImpl ≠ none)
  /-- A callback that submits a deactivation finds the shell. -/
  service : ∀ p c q, h = p ++ .submitDeactivation c :: q → (system.exec p).service = true
  /-- It submits one exactly if the connection is the plugin's own. -/
  deactivation : ∀ c, (system.exec h).callbacks[c]? = some .returned →
    (.submitDeactivation c ∈ h ↔ OwnConnection h c)

/-! ## What each point of the code means -/

namespace Pc

def service : Pc → Bool
  | .inactive | .serviceCleared => false
  | _ => true

/-- The plugin has a reference on the shell. -/
def referenced : Pc → Bool
  | .inactive | .serviceStored | .serviceReleased | .serviceCleared => false
  | _ => true

def listening : Pc → Bool
  | .inactive | .serviceStored | .serviceReferenced | .listenerUnregistered | .serviceReleased
  | .serviceCleared => false
  | _ => true

def usbDeviceImpl : Pc → Bool
  | .implObtained | .implRegistered | .active | .deinitializing | .implUnregistered
  | .jsonRpcUnregistered | .connectionObtained _ | .implReleased _ => true
  | _ => false

def implListener : Pc → Bool
  | .implRegistered | .active | .deinitializing => true
  | _ => false

def jsonRpc : Pc → Bool
  | .active | .deinitializing | .implUnregistered => true
  | _ => false

/-- `_connectionId` has not been set yet. -/
def unconnected : Pc → Bool
  | .inactive | .serviceStored | .serviceReferenced | .listenerRegistered => true
  | _ => false

end Pc

/-- The members are what the code's position says. -/
structure Consistent (s : State) : Prop where
  service : s.service = s.pc.service
  usbDeviceImpl : s.usbDeviceImpl.isSome = s.pc.usbDeviceImpl
  listening : s.listening = s.pc.listening
  implListener : s.implListener = if s.pc.implListener then s.usbDeviceImpl else none
  jsonRpc : s.jsonRpc = s.pc.jsonRpc
  connectionId : s.pc.unconnected = true → s.connectionId = 0
  callbacks : s.listening = false → ∀ callback ∈ s.callbacks, callback.inProgress = false

/-- The steps of callbacks leave the members alone. -/
lemma Consistent.of_callbacks {s : State} (hs : Consistent s) {callbacks : List Callback}
    (hcallbacks : s.listening = false → ∀ callback ∈ callbacks, callback.inProgress = false) :
    Consistent { s with callbacks } :=
  ⟨hs.service, hs.usbDeviceImpl, hs.listening, hs.implListener, hs.jsonRpc, hs.connectionId,
    hcallbacks⟩

/-- A callback in progress means that the listener is registered. -/
lemma Consistent.listening_of_inProgress {s : State} (hs : Consistent s) {c : ℕ}
    {callback : Callback} (hc : s.callbacks[c]? = some callback)
    (hprogress : callback.inProgress = true) : s.listening = true := by
  by_contra hnot
  have hdone := hs.callbacks (by simpa using hnot) callback (List.mem_of_getElem? hc)
  rw [hdone] at hprogress
  exact absurd hprogress (by simp)

lemma consistent_next {s : State} {a : Action} (hs : Consistent s) (ha : s.Enabled a) :
    Consistent (s.next a) := by
  have hset : ∀ {c : ℕ} {callback : Callback}, s.callbacks[c]? = some callback →
      callback.inProgress = true → ∀ callback', Consistent { s with callbacks := s.callbacks.set c callback' } := by
    intro c callback hc hcallback callback'
    refine hs.of_callbacks fun hnot => ?_
    rw [hs.listening_of_inProgress hc hcallback] at hnot
    exact absurd hnot (by simp)
  obtain ⟨hservice, himpl, hlistening, hlistener, hjsonRpc, hconnection, hcallbacks⟩ := hs
  cases a with
  | deactivated c id =>
      refine Consistent.of_callbacks ⟨hservice, himpl, hlistening, hlistener, hjsonRpc, hconnection,
        hcallbacks⟩ fun hnot => ?_
      rw [ha.2.1] at hnot
      exact absurd hnot (by simp)
  | compareId c id => exact hset ha rfl _
  | submitDeactivation c => exact hset ha rfl _
  | returnDeactivated c =>
      rcases ha with ha | ha
      · exact hset ha rfl _
      · exact hset ha rfl _
  | storeService =>
      rw [show s.pc = _ from ha] at hservice himpl hlistening hlistener hjsonRpc hconnection
      exact ⟨rfl, himpl, hlistening, hlistener, hjsonRpc, hconnection, hcallbacks⟩
  | registerListener =>
      rw [show s.pc = _ from ha] at hservice himpl hlistening hlistener hjsonRpc hconnection
      exact ⟨hservice, himpl, rfl, hlistener, hjsonRpc, hconnection, nofun⟩
  | connect id =>
      rw [show s.pc = _ from ha] at hservice himpl hlistening hlistener hjsonRpc hconnection
      exact ⟨hservice, himpl, hlistening, hlistener, hjsonRpc, nofun, hcallbacks⟩
  | addRefService | enterDeinitialization | releaseService | terminateConnection | releaseConnection =>
      rw [show s.pc = _ from ha] at hservice himpl hlistening hlistener hjsonRpc hconnection
      exact ⟨hservice, himpl, hlistening, hlistener, hjsonRpc, hconnection, hcallbacks⟩
  | root impl =>
      rw [show s.pc = _ from ha] at hservice himpl hlistening hlistener hjsonRpc
      cases impl <;> exact ⟨hservice, rfl, hlistening, hlistener, hjsonRpc, nofun, hcallbacks⟩
  | registerImpl i =>
      obtain ⟨hpc, hi⟩ := ha
      rw [hpc] at hservice himpl hlistening hjsonRpc
      exact ⟨hservice, himpl, hlistening, hi.symm, hjsonRpc, nofun, hcallbacks⟩
  | registerJsonRpc =>
      rw [show s.pc = _ from ha] at hservice himpl hlistening hlistener
      exact ⟨hservice, himpl, hlistening, hlistener, rfl, nofun, hcallbacks⟩
  | unregisterImpl i =>
      rw [show s.pc = _ from ha.1] at hservice himpl hlistening hjsonRpc
      exact ⟨hservice, himpl, hlistening, rfl, hjsonRpc, nofun, hcallbacks⟩
  | unregisterJsonRpc =>
      rw [show s.pc = _ from ha] at hservice himpl hlistening hlistener
      exact ⟨hservice, himpl, hlistening, hlistener, rfl, nofun, hcallbacks⟩
  | remoteConnection connection =>
      rw [show s.pc = _ from ha] at hservice himpl hlistening hlistener hjsonRpc
      exact ⟨hservice, himpl, hlistening, hlistener, hjsonRpc, nofun, hcallbacks⟩
  | releaseImpl i =>
      obtain ⟨hpc | hpc, -⟩ := ha <;> rw [hpc] at hservice himpl hlistening hlistener hjsonRpc <;>
        exact ⟨hservice, himpl, hlistening, hlistener, hjsonRpc, nofun, hcallbacks⟩
  | clearImpl connection =>
      rw [show s.pc = _ from ha] at hservice hlistening hlistener hjsonRpc
      cases connection <;> exact ⟨hservice, rfl, hlistening, hlistener, hjsonRpc, nofun, hcallbacks⟩
  | unregisterListener =>
      obtain ⟨hpc, hdone⟩ := ha
      rw [hpc] at hservice himpl hlistener hjsonRpc
      exact ⟨hservice, himpl, rfl, hlistener, hjsonRpc, nofun, fun _ => hdone⟩
  | clearService =>
      rw [show s.pc = _ from ha] at himpl hlistening hlistener hjsonRpc
      exact ⟨rfl, himpl, hlistening, hlistener, hjsonRpc, nofun, hcallbacks⟩
  | clearConnectionId =>
      rw [show s.pc = _ from ha] at hservice himpl hlistening hlistener hjsonRpc
      exact ⟨hservice, himpl, hlistening, hlistener, hjsonRpc, fun _ => rfl, hcallbacks⟩

lemma consistent_of_legal {h : List Action} (hl : system.Legal h) : Consistent (system.exec h) :=
  System.invariant (S := system) (I := fun _ s => Consistent s)
    ⟨rfl, rfl, rfl, rfl, rfl, fun _ => rfl, by simp [system]⟩
    (fun _ _ _ hs ha => consistent_next hs ha) hl

/-! ## Counting -/

/-- Taken and given back, by where the code is. -/
structure Counted (h : List Action) (s : State) : Prop where
  references : h.count .addRefService = h.count .releaseService + s.pc.referenced.toNat
  listening : h.count .registerListener = h.count .unregisterListener + s.pc.listening.toNat
  impl : ∀ i, h.count (.registerImpl i) = h.count (.unregisterImpl i) +
    if s.implListener = some i then 1 else 0

/-- A step is counted if it is the one in question. -/
def made (a b : Action) : ℕ := if a = b then 1 else 0

lemma count_snoc (h : List Action) (a b : Action) :
    (h ++ [a]).count b = h.count b + made a b := by
  simp [List.count_append, List.count_singleton, made]

/-- Reference and registration come and go with the position in the code. -/
lemma made_next {s : State} {a : Action} (ha : s.Enabled a) :
    made a .addRefService + s.pc.referenced.toNat =
        made a .releaseService + (s.next a).pc.referenced.toNat ∧
      made a .registerListener + s.pc.listening.toNat =
        made a .unregisterListener + (s.next a).pc.listening.toNat := by
  cases a with
  | registerImpl i => rw [ha.1]; exact ⟨rfl, rfl⟩
  | unregisterImpl i => rw [ha.1]; exact ⟨rfl, rfl⟩
  | unregisterListener => rw [ha.1]; exact ⟨rfl, rfl⟩
  | releaseImpl i => rcases ha.1 with hpc | hpc <;> rw [hpc] <;> exact ⟨rfl, rfl⟩
  | root impl => rw [show s.pc = _ from ha]; cases impl <;> exact ⟨rfl, rfl⟩
  | clearImpl connection => rw [show s.pc = _ from ha]; cases connection <;> exact ⟨rfl, rfl⟩
  | deactivated | compareId | submitDeactivation | returnDeactivated => exact ⟨rfl, rfl⟩
  | _ => rw [show s.pc = _ from ha]; exact ⟨rfl, rfl⟩

/-- So does the registration with the implementation. -/
lemma made_impl_next {s : State} {a : Action} (hs : Consistent s) (ha : s.Enabled a) (i : ℕ) :
    made a (.registerImpl i) + (if s.implListener = some i then 1 else 0) =
      made a (.unregisterImpl i) + if (s.next a).implListener = some i then 1 else 0 := by
  have hlistener := hs.implListener
  cases a with
  | registerImpl j =>
      rw [ha.1] at hlistener
      rw [show s.implListener = none from hlistener]
      simp [made, State.next]
  | unregisterImpl j =>
      rw [ha.1, ha.2] at hlistener
      rw [show s.implListener = some j from hlistener]
      simp [made, State.next]
  | root impl => cases impl <;> rfl
  | _ => rfl

lemma counted_of_legal {h : List Action} (hl : system.Legal h) : Counted h (system.exec h) := by
  refine System.invariant (S := system) (I := Counted) ⟨rfl, rfl, fun _ => rfl⟩ ?_ hl
  intro h a hlh hs ha
  obtain ⟨hreferences, hlistening⟩ := made_next ha
  refine ⟨?_, ?_, fun i => ?_⟩
  · have hbefore := hs.references
    rw [count_snoc, count_snoc]
    show _ = _ + ((system.exec h).next a).pc.referenced.toNat
    omega
  · have hbefore := hs.listening
    rw [count_snoc, count_snoc]
    show _ = _ + ((system.exec h).next a).pc.listening.toNat
    omega
  · have hbefore := hs.impl i
    have hstep := made_impl_next (consistent_of_legal hlh) ha i
    rw [count_snoc, count_snoc]
    show _ = _ + if ((system.exec h).next a).implListener = some i then 1 else 0
    omega

/-! ## Callbacks -/

lemma ownConnection_snoc {h : List Action} {a : Action} {c : ℕ} :
    OwnConnection (h ++ [a]) c ↔
      OwnConnection h c ∨ ∃ id, a = .compareId c id ∧ id = (system.exec h).connectionId := by
  constructor
  · rintro ⟨p, q, id, hsplit, hid⟩
    rcases List.eq_nil_or_concat q with rfl | ⟨q, b, rfl⟩
    · obtain ⟨rfl, hlast⟩ := List.append_inj' hsplit rfl
      exact Or.inr ⟨id, by simpa using hlast, hid⟩
    · rw [List.concat_eq_append, ← List.cons_append, ← List.append_assoc] at hsplit
      exact Or.inl ⟨p, q, id, List.append_inj_left' hsplit rfl, hid⟩
  · rintro (⟨p, q, id, rfl, hid⟩ | ⟨id, rfl, hid⟩)
    · exact ⟨p, q ++ [a], id, by simp, hid⟩
    · exact ⟨h, [], id, rfl, hid⟩

/-- What has happened to a callback, by where it is. -/
def CallbackRecord (h : List Action) (c : ℕ) : Option Callback → Prop
  | some .matched => OwnConnection h c ∧ .submitDeactivation c ∉ h
  | some .submitted => OwnConnection h c ∧ .submitDeactivation c ∈ h
  | some .returned => .submitDeactivation c ∈ h ↔ OwnConnection h c
  | _ => ¬ OwnConnection h c ∧ .submitDeactivation c ∉ h

/-- The steps of the plugin and of other callbacks leave the record as it is. -/
lemma CallbackRecord.mono {h : List Action} {a : Action} {c : ℕ} {r : Option Callback}
    (hr : CallbackRecord h c r) (hcompare : ∀ id, a ≠ .compareId c id)
    (hsubmit : a ≠ .submitDeactivation c) : CallbackRecord (h ++ [a]) c r := by
  have hown : OwnConnection (h ++ [a]) c ↔ OwnConnection h c := by
    rw [ownConnection_snoc]
    exact or_iff_left fun ⟨id, heq, _⟩ => hcompare id heq
  have hmem : .submitDeactivation c ∈ h ++ [a] ↔ .submitDeactivation c ∈ h := by
    simp [hsubmit.symm]
  rcases r with _ | _ | _ <;> simpa only [CallbackRecord, hown, hmem] using hr

/-- A callback that moves has the record of where it has gone. -/
lemma CallbackRecord.set {h : List Action} {a : Action} {callbacks : List Callback} {c : ℕ}
    {old new : Callback} (hold : callbacks[c]? = some old)
    (hs : ∀ c, CallbackRecord h c callbacks[c]?) (hnew : CallbackRecord (h ++ [a]) c (some new))
    (hcompare : ∀ c' id, c' ≠ c → a ≠ .compareId c' id)
    (hsubmit : ∀ c', c' ≠ c → a ≠ .submitDeactivation c') :
    ∀ c', CallbackRecord (h ++ [a]) c' (callbacks.set c new)[c']? :=
  forall_getElem?_set hold hnew fun c' hc =>
    (hs c').mono (fun id => hcompare c' id hc) (hsubmit c' hc)

lemma callbackRecord_of_legal {h : List Action} (hl : system.Legal h) :
    ∀ c, CallbackRecord h c (system.exec h).callbacks[c]? := by
  have hinit : ∀ c, CallbackRecord [] c (none : Option Callback) := by
    intro c
    refine ⟨?_, by simp⟩
    rintro ⟨p, q, id, hsplit, -⟩
    simp at hsplit
  refine System.invariant (S := system) (I := fun h s => ∀ c, CallbackRecord h c s.callbacks[c]?)
    hinit ?_ hl
  intro h a hlh hs ha
  cases a with
  | deactivated c id =>
      intro c'
      have hrecord := (hs c').mono (a := .deactivated c id) (by simp) (by simp)
      rcases Nat.lt_trichotomy c' (system.exec h).callbacks.length with hlt | rfl | hgt
      · show CallbackRecord _ _ ((system.exec h).callbacks ++ [.entered id])[c']?
        rwa [List.getElem?_append_left hlt]
      · show CallbackRecord _ _ ((system.exec h).callbacks ++ [.entered id])[_]?
        rw [List.getElem?_eq_none (Nat.le_refl _)] at hrecord
        rw [List.getElem?_append_right (Nat.le_refl _), Nat.sub_self]
        exact hrecord
      · show CallbackRecord _ _ ((system.exec h).callbacks ++ [.entered id])[c']?
        rw [List.getElem?_eq_none (by omega)] at hrecord
        rw [List.getElem?_eq_none (by simp; omega)]
        exact hrecord
  | compareId c id =>
      have hc : (system.exec h).callbacks[c]? = some (.entered id) := ha
      obtain ⟨hown, hnone⟩ := hc ▸ hs c
      have hsubmit : .submitDeactivation c ∉ h ++ [.compareId c id] := by simp [hnone]
      refine CallbackRecord.set hc hs ?_ (by simp +contextual [eq_comm]) (by simp)
      split_ifs with hid
      · exact ⟨ownConnection_snoc.mpr (Or.inr ⟨id, rfl, hid⟩), hsubmit⟩
      · refine ⟨fun hnow => ?_, hsubmit⟩
        rcases ownConnection_snoc.mp hnow with hbefore | ⟨id', heq, hid'⟩
        · exact hown hbefore
        · obtain rfl : id = id' := by simpa using heq
          exact hid hid'
  | submitDeactivation c =>
      have hc : (system.exec h).callbacks[c]? = some .matched := ha
      obtain ⟨hown, -⟩ := hc ▸ hs c
      refine CallbackRecord.set hc hs ?_ (by simp) (by simp +contextual [eq_comm])
      exact ⟨ownConnection_snoc.mpr (Or.inl hown), by simp⟩
  | returnDeactivated c =>
      have hown : OwnConnection (h ++ [.returnDeactivated c]) c ↔ OwnConnection h c := by
        rw [ownConnection_snoc]
        simp
      rcases ha with hc | hc
      · obtain ⟨hother, hnone⟩ := hc ▸ hs c
        refine CallbackRecord.set hc hs ?_ (by simp) (by simp)
        simp only [CallbackRecord, hown, hother, iff_false]
        simpa using hnone
      · obtain ⟨hsame, hsubmitted⟩ := hc ▸ hs c
        refine CallbackRecord.set hc hs ?_ (by simp) (by simp)
        simp only [CallbackRecord, hown, hsame, iff_true]
        simpa using hsubmitted
  | root impl => cases impl <;> exact fun c => (hs c).mono (by simp) (by simp)
  | _ => exact fun c => (hs c).mono (by simp) (by simp)

/-! ## Every run -/

/-- A callback in progress finds the listener registered, and so the shell. -/
lemma Consistent.service_of_inProgress {s : State} (hs : Consistent s) {c : ℕ}
    {callback : Callback} (hc : s.callbacks[c]? = some callback)
    (hprogress : callback.inProgress = true) : s.service = true := by
  have hpc := hs.listening.symm.trans (hs.listening_of_inProgress hc hprogress)
  rw [hs.service]
  revert hpc
  cases s.pc <;> simp [Pc.listening, Pc.service]

/-- **Activation and deactivation are balanced on every path.** -/
theorem lifecycleBalanced_of_legal {h : List Action} (hl : system.Legal h) :
    LifecycleBalanced h := by
  have hconsistent := consistent_of_legal hl
  have hcounted := counted_of_legal hl
  -- a step of the run was enabled where it was taken
  have henabled : ∀ {p : List Action} {a : Action} {q : List Action}, h = p ++ a :: q →
      system.Legal p ∧ system.Enabled (system.exec p) a := by
    rintro p a q rfl
    exact And.intro hl.prefix hl.enabled_at
  refine ⟨fun hpc => ?_, fun hpc => ?_, ?_, fun hpc => ?_, ?_, fun c hc => ?_⟩
  · have hservice := hconsistent.service
    have himpl := hconsistent.usbDeviceImpl
    rw [hpc] at hservice himpl
    exact ⟨hservice, by simpa [Pc.usbDeviceImpl] using himpl,
      hconsistent.connectionId (by rw [hpc]; rfl)⟩
  · have hreferences := hcounted.references
    have hlisteners := hcounted.listening
    have hlistening := hconsistent.listening
    rw [hpc] at hreferences hlisteners hlistening
    exact ⟨hreferences, hlisteners, hlistening⟩
  · intro p i q hsplit
    obtain ⟨hlp, hpc, hi⟩ := henabled hsplit
    have hlistener := (consistent_of_legal hlp).implListener
    have hcount := (counted_of_legal hlp).impl i
    have hnone : (system.exec p).implListener = none := by
      rcases hpc with hpc | hpc <;> rw [hpc] at hlistener <;> exact hlistener
    rw [hnone] at hcount
    exact ⟨hi, hnone, hcount⟩
  · have hjsonRpc := hconsistent.jsonRpc
    have himpl := hconsistent.usbDeviceImpl
    rw [← Option.isSome_iff_ne_none, hjsonRpc, himpl]
    rcases hpc with hpc | hpc <;> rw [hpc] <;> exact Iff.rfl
  · intro p c q hsplit
    obtain ⟨hlp, hc⟩ := henabled hsplit
    exact (consistent_of_legal hlp).service_of_inProgress hc rfl
  · have hrecord := callbackRecord_of_legal hl c
    rw [hc] at hrecord
    exact hrecord

/-- An activation without implementation, one with, in which another process goes and then the
plugin's own, and the deactivation. -/
def twoActivations : List Action :=
  [.storeService, .addRefService, .registerListener, .connect 0, .root none, .unregisterListener,
    .releaseService, .clearService, .clearConnectionId,
    .storeService, .addRefService, .registerListener, .connect 7, .root (some 0), .registerImpl 0,
    .registerJsonRpc,
    .deactivated 0 3, .deactivated 1 7, .compareId 0 3, .compareId 1 7, .returnDeactivated 0,
    .submitDeactivation 1, .enterDeinitialization, .returnDeactivated 1,
    .unregisterImpl 0, .unregisterJsonRpc, .remoteConnection true, .releaseImpl 0, .clearImpl true,
    .terminateConnection, .releaseConnection, .unregisterListener, .releaseService, .clearService,
    .clearConnectionId]

theorem lifecycleBalanced_twoActivations : LifecycleBalanced twoActivations :=
  lifecycleBalanced_of_legal (by decide)

end PluginHost

end Usb
