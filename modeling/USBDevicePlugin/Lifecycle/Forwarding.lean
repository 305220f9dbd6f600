import USBDevicePlugin.Core.Refinement
import USBDevicePlugin.Lifecycle.ExactlyOnce
import USBDevicePlugin.Lifecycle.PluginHost
import USBDevicePlugin.Lifecycle.References

/-!
# Events for the clients of the plugin

The plugin is itself a client of its implementation.  `Initialize` registers a notification with it,
`Deinitialize` unregisters it, and all this notification does when it is called is to send the event
on to those who listen at the plugin's JSON-RPC interface.

Here the two are put together: the plugin in its shell, and implementations that other clients use
as well.  The plugin's two calls take place in the implementation, step by step, and the plugin waits
for them to return; meanwhile jobs are dispatched.  The plugin may be activated any number of times,
each time with an implementation of its own or with one it had before.

* `system` — the plugin and the implementations.
* `Forwarded` — who is told what.
* **`forwarded_of_legal`** — every run keeps it.
-/

namespace Usb

open TransitionSystem

namespace Forwarding

/-! ## The composition -/

/-- The plugin's `_usbDeviceNotification`, among the notifications of all clients. -/
def usbDeviceNotification : Notification := 0

/-- The plugin, every implementation, and the call the plugin is waiting for. -/
structure State where
  plugin : PluginHost.State
  impls : ℕ → Delivery.State
  waiting : Option ℕ

/-- A step of the plugin, a step in an implementation, or a step of both: the plugin calls, and a
call of the plugin returns. -/
inductive Action
  | plugin (a : PluginHost.Action)
  | impl (i : ℕ) (a : Delivery.Action)
  | callImpl (i k : ℕ) (kind : RequestKind)
  | implReturned (i k : ℕ) (kind : RequestKind) (status : Status)

/-- The statement of the plugin that makes the call. -/
def pluginCall (i : ℕ) : RequestKind → PluginHost.Action
  | .register => .registerImpl i
  | .unregister => .unregisterImpl i

/-- The statement is one of these two. -/
def IsCall : PluginHost.Action → Prop
  | .registerImpl _ | .unregisterImpl _ => True
  | _ => False

/-- The part of the plugin in a step. -/
def Action.ofPlugin : Action → Option PluginHost.Action
  | .plugin a => some a
  | .implReturned i _ kind _ => some (pluginCall i kind)
  | _ => none

/-- The part of an implementation in a step, and which one it is. -/
def Action.atImpl : Action → Option (ℕ × Delivery.Action)
  | .plugin _ => none
  | .impl i a => some (i, a)
  | .callImpl i k kind => some (i, .call k kind usbDeviceNotification)
  | .implReturned i k kind status => some (i, .returnRequest k kind usbDeviceNotification status)

/-- What an implementation does in a step. -/
def Action.ofImpl (i : ℕ) (e : Action) : Option Delivery.Action :=
  e.atImpl.bind fun p => if p.1 = i then some p.2 else none

/-- The step is at the beginning or the end of a call with the plugin's notification. -/
def OfPlugin : Delivery.Action → Prop
  | .call _ _ n | .returnRequest _ _ n _ => n = usbDeviceNotification
  | _ => False

namespace State

/-- What ties the steps together.  The plugin's calls are made where its code makes them, one at a
time, and go on when they have returned; nobody else has its notification to call with. -/
def Admits (s : State) : Action → Prop
  | .plugin a => ¬ IsCall a
  | .impl _ a => ¬ OfPlugin a
  | .callImpl i _ kind => s.plugin.Enabled (pluginCall i kind) ∧ s.waiting = none
  | .implReturned _ k _ _ => s.waiting = some k

/-- When a step may be taken. -/
def Enabled (s : State) (e : Action) : Prop :=
  (∀ a ∈ e.ofPlugin, s.plugin.Enabled a) ∧ (∀ p ∈ e.atImpl, (s.impls p.1).Enabled p.2) ∧ s.Admits e

/-- What a step does. -/
def next (s : State) (e : Action) : State where
  plugin := e.ofPlugin.elim s.plugin s.plugin.next
  impls := e.atImpl.elim s.impls fun p => Function.update s.impls p.1 ((s.impls p.1).next p.2)
  waiting :=
    match e with
    | .callImpl _ k _ => some k
    | .implReturned .. => none
    | _ => s.waiting

end State

/-- The plugin and the implementations, from the plugin's construction on. -/
def system : System State Action where
  init :=
    { plugin := PluginHost.system.init
      impls := fun _ => Delivery.system.init
      waiting := none }
  Enabled := State.Enabled
  next := State.next

section Decidable

instance : DecidablePred IsCall
  | .registerImpl _ | .unregisterImpl _ => isTrue trivial
  | .storeService | .addRefService | .registerListener | .connect _ | .root _ | .registerJsonRpc
  | .enterDeinitialization | .unregisterJsonRpc | .remoteConnection _ | .releaseImpl _ | .clearImpl _
  | .terminateConnection | .releaseConnection | .unregisterListener | .releaseService | .clearService
  | .clearConnectionId | .deactivated .. | .compareId .. | .submitDeactivation _
  | .returnDeactivated _ => isFalse id

instance : DecidablePred OfPlugin
  | .call _ _ n | .returnRequest _ _ n _ => inferInstanceAs (Decidable (n = usbDeviceNotification))
  | .lockRequest .. | .runRequest .. | .unlockRequest .. | .enterCallback .. | .submit ..
  | .returnCallback _ | .take .. | .lockJob .. | .notify .. | .finish .. => isFalse id

instance (s : PluginHost.State) (a : PluginHost.Action) : Decidable (s.Enabled a) :=
  inferInstanceAs (Decidable (PluginHost.system.Enabled s a))

instance (d : Delivery.State) (a : Delivery.Action) : Decidable (d.Enabled a) :=
  inferInstanceAs (Decidable (Delivery.system.Enabled d a))

instance (s : State) : DecidablePred s.Admits
  | .plugin a => inferInstanceAs (Decidable ¬ IsCall a)
  | .impl _ a => inferInstanceAs (Decidable ¬ OfPlugin a)
  | .callImpl i _ kind =>
      inferInstanceAs (Decidable (s.plugin.Enabled (pluginCall i kind) ∧ s.waiting = none))
  | .implReturned _ k _ _ => inferInstanceAs (Decidable (s.waiting = some k))

instance (s : State) (e : Action) : Decidable (system.Enabled s e) :=
  inferInstanceAs (Decidable ((∀ a ∈ e.ofPlugin, s.plugin.Enabled a) ∧
    (∀ p ∈ e.atImpl, (s.impls p.1).Enabled p.2) ∧ s.Admits e))

end Decidable

/-- What an implementation does in a run. -/
def implSteps (i : ℕ) (h : List Action) : List Delivery.Action := h.filterMap (Action.ofImpl i)

lemma plugin_component :
    Component system PluginHost.system Action.ofPlugin State.plugin where
  init := rfl
  idle {s e} _ hpoint := by
    show e.ofPlugin.elim _ _ = _
    rw [hpoint]
    rfl
  moves {s e d} hen hpoint := by
    refine ⟨hen.1 d hpoint, ?_⟩
    show e.ofPlugin.elim _ _ = _
    rw [hpoint]
    rfl

lemma ofImpl_eq_some {i : ℕ} {e : Action} {a : Delivery.Action} :
    e.ofImpl i = some a ↔ e.atImpl = some (i, a) := by
  cases hat : e.atImpl with
  | none => simp [Action.ofImpl, hat]
  | some p =>
      obtain ⟨i', a'⟩ := p
      simp [Action.ofImpl, hat]

lemma ofImpl_eq_none {i : ℕ} {e : Action} :
    e.ofImpl i = none ↔ ∀ p ∈ e.atImpl, p.1 ≠ i := by
  cases hat : e.atImpl with
  | none => simp [Action.ofImpl, hat]
  | some p => simp [Action.ofImpl, hat]

lemma impl_component (i : ℕ) :
    Component system Delivery.system (Action.ofImpl i) fun s => s.impls i where
  init := rfl
  idle {s e} _ hpoint := by
    show e.atImpl.elim s.impls _ i = s.impls i
    cases hat : e.atImpl with
    | none => rfl
    | some p => exact Function.update_of_ne (ofImpl_eq_none.mp hpoint p hat).symm ..
  moves {s e d} hen hpoint := by
    have hat := ofImpl_eq_some.mp hpoint
    refine ⟨hen.2.1 _ hat, ?_⟩
    show e.atImpl.elim s.impls _ i = _
    rw [hat]
    exact Function.update_self ..

end Forwarding

/-! ## Requests in an implementation -/

namespace Delivery

/-- What a request that is under way asks for. -/
def Request.subject : Request → Option (RequestKind × Notification)
  | .called kind n | .locked kind n | .done kind n _ | .unlocked kind n _ => some (kind, n)
  | .absent | .returned => none

/-- The request has changed the list. -/
def Request.ran : Request → Bool
  | .done .. | .unlocked .. => true
  | _ => false

/-- A request is under way from its call on. -/
lemma subject_next {s : State} {a : Action} (ha : s.Enabled a) {k : ℕ} {kind : RequestKind}
    {n : Notification} (h : ((s.next a).requests k).subject = some (kind, n)) :
    a = .call k kind n ∨ (s.requests k).subject = some (kind, n) := by
  cases a <;> simp only [State.Enabled, State.next, Function.update_apply] at ha h <;>
    grind [Request.subject]

/-- And until it returns. -/
lemma subject_returned (s : State) (k : ℕ) (kind : RequestKind) (n : Notification)
    (status : Status) : ((s.next (.returnRequest k kind n status)).requests k).subject = none := by
  have hreturned : (s.next (.returnRequest k kind n status)).requests k = .returned :=
    Function.update_self ..
  rw [hreturned]
  rfl

/-- It changes the list in one step. -/
lemma ran_next {s : State} {a : Action} (ha : s.Enabled a) {k : ℕ}
    (h : ((s.next a).requests k).ran = true) :
    (s.requests k).ran = true ∨ ∃ kind n status, (s.requests k).subject = some (kind, n) ∧
      a = .runRequest k kind n status := by
  cases a with
  | runRequest k' kind n status =>
      by_cases hk : k = k'
      · subst hk
        exact Or.inr ⟨kind, n, status, by rw [ha.1]; rfl, rfl⟩
      · exact Or.inl (by simpa [State.next, hk] using h)
  | _ =>
      refine Or.inl ?_
      simp only [State.Enabled, State.next, Function.update_apply] at ha h
      grind [Request.ran]

/-- A notification comes and goes by the requests about it. -/
lemma mem_notifications_next {s : State} (hs : s.notifications.Nodup) {a : Action}
    (ha : s.Enabled a) (m : Notification) :
    (∃ k kind status, a = .runRequest k kind m status ∧
        (s.requests k).subject = some (kind, m) ∧
        (m ∈ (s.next a).notifications ↔ kind = .register)) ∨
      (∀ k kind status, a ≠ .runRequest k kind m status) ∧
        (m ∈ (s.next a).notifications ↔ m ∈ s.notifications) := by
  cases a with
  | runRequest k kind n status =>
      have hmem := References.mem_body_iff hs kind n m
      by_cases hn : n = m
      · subst hn
        refine Or.inl ⟨k, kind, status, rfl, by rw [ha.1]; rfl, hmem.trans ?_⟩
        cases kind <;> simp
      · refine Or.inr ⟨by simp [hn], hmem.trans ?_⟩
        simp [hn]
  | _ => exact Or.inr ⟨by simp, Iff.rfl⟩

end Delivery

namespace Forwarding

open Delivery (subject_next subject_returned ran_next mem_notifications_next)

/-! ## What each point of the plugin's code means for the implementation -/

/-- Where the plugin waits for a call. -/
def callPc : RequestKind → PluginHost.Pc
  | .register => .implObtained
  | .unregister => .deinitializing

/-- From the plugin's `Register` on, until its `Unregister` has returned. -/
def between : PluginHost.Pc → Bool
  | .implObtained | .implRegistered | .active | .deinitializing => true
  | _ => false

/-- `Register` has returned and `Unregister` has not been called. -/
def registered : PluginHost.Pc → Bool
  | .implRegistered | .active => true
  | _ => false

lemma enabled_pluginCall {s : PluginHost.State} {i : ℕ} {kind : RequestKind}
    (h : s.Enabled (pluginCall i kind)) : s.pc = callPc kind ∧ s.usbDeviceImpl = some i := by
  cases kind <;> exact h

/-- Between the calls the plugin stays with its implementation, and while it waits it does nothing
else. -/
lemma between_next {s : PluginHost.State} {a : PluginHost.Action} (ha : s.Enabled a)
    (hcall : ¬ IsCall a) (h : between s.pc = true) :
    between (s.next a).pc = true ∧ (s.next a).usbDeviceImpl = s.usbDeviceImpl ∧
      ∀ kind, s.pc = callPc kind → (s.next a).pc = callPc kind := by
  cases a with
  | registerImpl i => exact absurd trivial hcall
  | unregisterImpl i => exact absurd trivial hcall
  | deactivated | compareId | submitDeactivation | returnDeactivated => exact ⟨h, rfl, fun _ => id⟩
  | registerJsonRpc | enterDeinitialization =>
      refine ⟨rfl, rfl, fun kind hpc => ?_⟩
      rw [show s.pc = _ from ha] at hpc
      cases kind <;> simp [callPc] at hpc
  | unregisterListener =>
      rw [ha.1] at h
      exact absurd h (by decide)
  | releaseImpl i =>
      rcases ha.1 with hpc | hpc <;> rw [hpc] at h <;> exact absurd h (by decide)
  | clearImpl connection =>
      rw [show s.pc = _ from ha] at h
      exact absurd h (by simp [between])
  | _ =>
      rw [show s.pc = _ from ha] at h
      exact absurd h (by decide)

lemma registered_next {s : PluginHost.State} {a : PluginHost.Action} (ha : s.Enabled a)
    (hcall : ¬ IsCall a) (h : registered (s.next a).pc = true) :
    registered s.pc = true ∧ (s.next a).usbDeviceImpl = s.usbDeviceImpl := by
  cases a with
  | registerImpl i => exact absurd trivial hcall
  | unregisterImpl i => exact absurd trivial hcall
  | deactivated | compareId | submitDeactivation | returnDeactivated => exact ⟨h, rfl⟩
  | registerJsonRpc => exact ⟨by rw [show s.pc = _ from ha]; rfl, rfl⟩
  | root impl => cases impl <;> exact absurd h (by simp [PluginHost.State.next, registered])
  | clearImpl connection =>
      cases connection <;> exact absurd h (by simp [PluginHost.State.next, registered])
  | _ => exact absurd h (by simp [PluginHost.State.next, registered])

/-- What the plugin is to an implementation: its notification is in the list while it is registered,
and only in the list of the plugin's own implementation. -/
structure ConnectedTo (plugin : PluginHost.State) (waiting : Option ℕ) (i : ℕ) (d : Delivery.State) :
    Prop where
  /-- A request about the notification is the call the plugin is waiting for. -/
  own : ∀ k kind, (d.requests k).subject = some (kind, usbDeviceNotification) →
    waiting = some k ∧ plugin.usbDeviceImpl = some i ∧ plugin.pc = callPc kind
  ran : ∀ k kind, (d.requests k).subject = some (kind, usbDeviceNotification) →
    (d.requests k).ran = true → (usbDeviceNotification ∈ d.notifications ↔ kind = .register)
  between : usbDeviceNotification ∈ d.notifications →
    plugin.usbDeviceImpl = some i ∧ between plugin.pc = true
  registered : plugin.usbDeviceImpl = some i → registered plugin.pc = true →
    usbDeviceNotification ∈ d.notifications

section Step

variable {plugin : PluginHost.State} {waiting : Option ℕ} {i : ℕ} {d : Delivery.State}

/-- A statement of the plugin that is not one of the calls. -/
lemma ConnectedTo.plugin_next (hd : ConnectedTo plugin waiting i d) {a : PluginHost.Action}
    (ha : plugin.Enabled a) (hcall : ¬ IsCall a) :
    ConnectedTo (plugin.next a) waiting i d := by
  refine ⟨fun k kind hsubject => ?_, hd.ran, fun hmem => ?_, fun himpl hreg => ?_⟩
  · obtain ⟨hwaiting, himpl, hpc⟩ := hd.own k kind hsubject
    have hbetween : Forwarding.between plugin.pc = true := by
      rw [hpc]
      cases kind <;> rfl
    obtain ⟨-, hsame, hstays⟩ := between_next ha hcall hbetween
    exact ⟨hwaiting, hsame.trans himpl, hstays kind hpc⟩
  · obtain ⟨himpl, hbetween⟩ := hd.between hmem
    obtain ⟨hstill, hsame, -⟩ := between_next ha hcall hbetween
    exact ⟨hsame.trans himpl, hstill⟩
  · obtain ⟨hbefore, hsame⟩ := registered_next ha hcall hreg
    exact hd.registered (hsame.symm.trans himpl) hbefore

/-- A step in the implementation that is not at the beginning or the end of the plugin's calls. -/
lemma ConnectedTo.impl_next (hd : ConnectedTo plugin waiting i d) (hnodup : d.notifications.Nodup)
    {a : Delivery.Action} (ha : d.Enabled a) (hother : ¬ OfPlugin a) :
    ConnectedTo plugin waiting i (d.next a) := by
  have hsubject : ∀ {k kind}, ((d.next a).requests k).subject = some (kind, usbDeviceNotification) →
      (d.requests k).subject = some (kind, usbDeviceNotification) := by
    intro k kind h
    rcases subject_next ha h with rfl | h
    · exact absurd rfl hother
    · exact h
  have hlist := mem_notifications_next hnodup ha usbDeviceNotification
  refine ⟨fun k kind h => hd.own k kind (hsubject h), fun k kind h hran => ?_, fun hmem => ?_,
    fun himpl hreg => ?_⟩
  · rcases hlist with ⟨k', kind', status, -, hrunning, hmem⟩ | ⟨hnone, hmem⟩
    · -- the request that has just run is the plugin's only one
      obtain rfl : k = k' := Option.some.inj
        ((hd.own k kind (hsubject h)).1.symm.trans (hd.own k' kind' hrunning).1)
      have hsame := (hsubject h).symm.trans hrunning
      rwa [(Prod.mk.inj (Option.some.inj hsame)).1]
    · rcases ran_next ha hran with hran | ⟨kind', n, status, hrunning, rfl⟩
      · exact hmem.trans (hd.ran k kind (hsubject h) hran)
      · obtain ⟨-, rfl⟩ := Prod.mk.inj (Option.some.inj ((hsubject h).symm.trans hrunning))
        exact absurd rfl (hnone k kind' status)
  · rcases hlist with ⟨k, kind, status, -, hrunning, hmem'⟩ | ⟨-, hmem'⟩
    · obtain ⟨-, himpl, hpc⟩ := hd.own k kind hrunning
      refine ⟨himpl, ?_⟩
      rw [hpc]
      cases kind <;> rfl
    · exact hd.between (hmem'.mp hmem)
  · rcases hlist with ⟨k, kind, status, -, hrunning, -⟩ | ⟨-, hmem'⟩
    · obtain ⟨-, -, hpc⟩ := hd.own k kind hrunning
      rw [hpc] at hreg
      cases kind <;> exact absurd hreg (by decide)
    · exact hmem'.mpr (hd.registered himpl hreg)

/-- While the plugin is not waiting, no request about its notification is under way. -/
lemma ConnectedTo.not_subject (hd : ConnectedTo plugin none i d) (k : ℕ) (kind : RequestKind) :
    (d.requests k).subject ≠ some (kind, usbDeviceNotification) := fun h =>
  absurd (hd.own k kind h).1 (by simp)

/-- The plugin calls. -/
lemma ConnectedTo.call_next (hd : ConnectedTo plugin none i d) {k : ℕ} {kind : RequestKind}
    (hplugin : plugin.Enabled (pluginCall i kind))
    (ha : d.Enabled (.call k kind usbDeviceNotification)) :
    ConnectedTo plugin (some k) i (d.next (.call k kind usbDeviceNotification)) := by
  obtain ⟨hpc, himpl⟩ := enabled_pluginCall hplugin
  have hsubject : ∀ {k' kind'}, ((d.next (.call k kind usbDeviceNotification)).requests k').subject =
      some (kind', usbDeviceNotification) → k' = k ∧ kind' = kind := by
    intro k' kind' h
    rcases subject_next ha h with hcall | h
    · cases hcall
      exact ⟨rfl, rfl⟩
    · exact absurd h (hd.not_subject k' kind')
  refine ⟨fun k' kind' h => ?_, fun k' kind' h hran => ?_, hd.between, hd.registered⟩
  · obtain ⟨rfl, rfl⟩ := hsubject h
    exact ⟨rfl, himpl, hpc⟩
  · obtain ⟨rfl, rfl⟩ := hsubject h
    have hcalled : (d.next (.call k' kind' usbDeviceNotification)).requests k' =
        .called kind' usbDeviceNotification := Function.update_self ..
    rw [hcalled] at hran
    exact absurd hran (by simp [Delivery.Request.ran])

/-- Other implementations do not notice that the plugin waits. -/
lemma ConnectedTo.waiting_next (hd : ConnectedTo plugin none i d) (waiting : Option ℕ) :
    ConnectedTo plugin waiting i d :=
  ⟨fun k kind h => absurd h (hd.not_subject k kind), hd.ran, hd.between, hd.registered⟩

/-- A call of the plugin returns. -/
lemma ConnectedTo.return_next {k : ℕ} (hd : ConnectedTo plugin (some k) i d) {kind : RequestKind}
    {status : Status} (hplugin : plugin.Enabled (pluginCall i kind))
    (ha : d.Enabled (.returnRequest k kind usbDeviceNotification status)) :
    ConnectedTo (plugin.next (pluginCall i kind)) none i
      (d.next (.returnRequest k kind usbDeviceNotification status)) := by
  have hunlocked : d.requests k = .unlocked kind usbDeviceNotification status := ha
  have hmem : usbDeviceNotification ∈ d.notifications ↔ kind = .register :=
    hd.ran k kind (by rw [hunlocked]; rfl) (by rw [hunlocked]; rfl)
  have hnone : ∀ k' kind',
      ((d.next (.returnRequest k kind usbDeviceNotification status)).requests k').subject ≠
        some (kind', usbDeviceNotification) := by
    intro k' kind' h
    have hbefore := (subject_next ha h).resolve_left (by simp)
    obtain rfl : k = k' := Option.some.inj (hd.own k' kind' hbefore).1
    rw [subject_returned] at h
    exact absurd h (by simp)
  obtain ⟨-, himpl⟩ := enabled_pluginCall hplugin
  refine ⟨fun k' kind' h => absurd h (hnone k' kind'), fun k' kind' h => absurd h (hnone k' kind'),
    fun hin => ?_, fun _ hreg => ?_⟩
  · obtain rfl := hmem.mp hin
    exact ⟨himpl, rfl⟩
  · cases kind with
    | register => exact hmem.mpr rfl
    | unregister => exact absurd hreg (by simp [pluginCall, PluginHost.State.next, Forwarding.registered])

/-- Nor that its call to one of them returns. -/
lemma ConnectedTo.return_other {i' k : ℕ} (hd : ConnectedTo plugin (some k) i d) (hi : i ≠ i')
    {kind : RequestKind} (hplugin : plugin.Enabled (pluginCall i' kind)) :
    ConnectedTo (plugin.next (pluginCall i' kind)) none i d := by
  obtain ⟨-, himpl⟩ := enabled_pluginCall hplugin
  have hforeign : plugin.usbDeviceImpl ≠ some i := fun h =>
    hi (Option.some.inj (h.symm.trans himpl))
  have hsame : (plugin.next (pluginCall i' kind)).usbDeviceImpl = plugin.usbDeviceImpl := by
    cases kind <;> rfl
  exact ⟨fun k kind h => absurd (hd.own k kind h).2.1 hforeign,
    fun k kind h => absurd (hd.own k kind h).2.1 hforeign,
    fun hmem => absurd (hd.between hmem).1 hforeign,
    fun h => absurd (hsame.symm.trans h) hforeign⟩

end Step

/-- Every implementation a run has to do with. -/
def Connected (s : State) : Prop := ∀ i, ConnectedTo s.plugin s.waiting i (s.impls i)

lemma connected_next {s : State} (hs : Connected s)
    (hnodup : ∀ i, (s.impls i).notifications.Nodup) {e : Action} (he : s.Enabled e) :
    Connected (s.next e) := by
  obtain ⟨hplugin, himpl, hadmits⟩ := he
  cases e with
  | plugin a => exact fun i => (hs i).plugin_next (hplugin a rfl) hadmits
  | impl i a =>
      exact (Function.forall_update_iff s.impls (ConnectedTo s.plugin s.waiting)).mpr
        ⟨(hs i).impl_next (hnodup i) (himpl (i, a) rfl) hadmits, fun i' _ => hs i'⟩
  | callImpl i k kind =>
      obtain ⟨hcall, hwaiting⟩ := hadmits
      have hidle : ∀ i, ConnectedTo s.plugin none i (s.impls i) := fun i => hwaiting ▸ hs i
      exact (Function.forall_update_iff s.impls (ConnectedTo s.plugin (some k))).mpr
        ⟨(hidle i).call_next hcall (himpl _ rfl), fun i' _ => (hidle i').waiting_next _⟩
  | implReturned i k kind status =>
      have hwaits : ∀ i, ConnectedTo s.plugin (some k) i (s.impls i) := fun i => hadmits ▸ hs i
      have hcall := hplugin (pluginCall i kind) rfl
      exact (Function.forall_update_iff s.impls
        (ConnectedTo (s.plugin.next (pluginCall i kind)) none)).mpr
          ⟨(hwaits i).return_next hcall (himpl _ rfl),
            fun i' hi => (hwaits i').return_other hi hcall⟩

lemma impls_eq {h : List Action} (hl : system.Legal h) (i : ℕ) :
    Delivery.system.Legal (implSteps i h) ∧
      (system.exec h).impls i = Delivery.system.exec (implSteps i h) :=
  (impl_component i).run hl

lemma notifications_nodup {h : List Action} (hl : system.Legal h) (i : ℕ) :
    ((system.exec h).impls i).notifications.Nodup := by
  obtain ⟨hlegal, hstate⟩ := impls_eq hl i
  rw [hstate]
  exact Delivery.notifications_nodup hlegal

lemma connected_of_legal {h : List Action} (hl : system.Legal h) : Connected (system.exec h) := by
  refine System.invariant (S := system) (I := fun _ s => Connected s) ?_ ?_ hl
  · intro i
    exact ⟨fun k kind h => absurd h (by simp [system, Delivery.system, Delivery.Request.subject]),
      fun k kind h => absurd h (by simp [system, Delivery.system, Delivery.Request.subject]),
      fun h => absurd h (by simp [system, Delivery.system]),
      fun h => absurd h (by simp [system, PluginHost.system])⟩
  · intro h e hlh hs he
    exact connected_next hs (notifications_nodup hlh) he

/-- Between the calls the plugin has its shell. -/
lemma service_of_between {h : List Action} (hl : system.Legal h)
    (hbetween : between (system.exec h).plugin.pc = true) :
    (system.exec h).plugin.service = true := by
  obtain ⟨hlegal, hstate⟩ := plugin_component.run hl
  have hservice := (PluginHost.consistent_of_legal hlegal).service
  rw [← hstate] at hservice
  rw [hservice]
  revert hbetween
  cases (system.exec h).plugin.pc <;> simp [between, PluginHost.Pc.service]

/-! ## What is sent -/

/-- What `OnDevicePluggedIn` and `OnDevicePluggedOut` of the plugin's notification make of calls: an
event for the clients of the plugin.  Other notifications send nothing. -/
def sentOn (announcements : List Announcement) : List (Method × USBDevice) :=
  (announcements.filter (·.notification = usbDeviceNotification)).map
    fun announcement => (announcement.method, announcement.usbDevice)

/-- The events a job of an implementation has sent to the clients of the plugin. -/
def sentBy (i j : ℕ) (h : List Action) : List (Method × USBDevice) :=
  sentOn (Delivery.callsOf j (implSteps i h))

/-- A run so far. -/
structure Forwarded (h : List Action) : Prop where
  /-- Only the implementation the plugin has sends anything, and only from the plugin's `Register` on
  until its `Unregister` returns; the plugin is in its shell then. -/
  sender : ∀ p q i j job index announcement,
    h = p ++ .impl i (.notify j job index announcement) :: q →
      announcement.notification = usbDeviceNotification →
        (system.exec p).plugin.usbDeviceImpl = some i ∧
          between (system.exec p).plugin.pc = true ∧ (system.exec p).plugin.service = true
  /-- An implementation that is released does not have the plugin's notification any more. -/
  released : ∀ p q i, h = p ++ .plugin (.releaseImpl i) :: q →
    usbDeviceNotification ∉ ((system.exec p).impls i).notifications
  /-- A job dispatched while the plugin is active sends its event, -/
  sent : ∀ p q i j job, h = p ++ .impl i (.lockJob j job) :: q →
    (system.exec p).plugin.usbDeviceImpl = some i → registered (system.exec p).plugin.pc = true →
      (∃ job' index, .impl i (.finish j job' index) ∈ h) →
        sentBy i j h = [(job.event.method, job.usbDevice)]
  /-- one dispatched before or after sends nothing, -/
  silent : ∀ p q i j job, h = p ++ .impl i (.lockJob j job) :: q →
    (system.exec p).plugin.usbDeviceImpl ≠ some i ∨ between (system.exec p).plugin.pc = false →
      sentBy i j h = []
  /-- and none sends two. -/
  once : ∀ i j, (sentBy i j h).length ≤ 1
  /-- What is sent was described by a hotplug callback of the implementation. -/
  described : ∀ i j method usbDevice, (method, usbDevice) ∈ sentBy i j h →
    ∃ c event w, .impl i (.enterCallback c event w) ∈ h ∧ event.method = method ∧
      w.description = (.errorNone, usbDevice)

lemma implSteps_split (i : ℕ) (p q : List Action) (a : Delivery.Action) :
    implSteps i (p ++ .impl i a :: q) = implSteps i p ++ a :: implSteps i q := by
  simp [implSteps, Action.ofImpl, Action.atImpl]

/-- What others do in an implementation is a step of its own. -/
lemma mem_of_mem_implSteps {i : ℕ} {h : List Action} {a : Delivery.Action}
    (hmem : a ∈ implSteps i h) (hother : ¬ OfPlugin a) : .impl i a ∈ h := by
  obtain ⟨e, he, hpoint⟩ := List.mem_filterMap.mp hmem
  have hat := ofImpl_eq_some.mp hpoint
  cases e with
  | plugin a' => simp [Action.atImpl] at hat
  | impl i' a' =>
      obtain ⟨rfl, rfl⟩ := Prod.mk.inj (Option.some.inj hat)
      exact he
  | callImpl i' k kind =>
      obtain ⟨-, rfl⟩ := Prod.mk.inj (Option.some.inj hat)
      exact absurd rfl hother
  | implReturned i' k kind status =>
      obtain ⟨-, rfl⟩ := Prod.mk.inj (Option.some.inj hat)
      exact absurd rfl hother

lemma mem_implSteps {i : ℕ} {h : List Action} {a : Delivery.Action} (hmem : .impl i a ∈ h) :
    a ∈ implSteps i h :=
  List.mem_filterMap.mpr ⟨_, hmem, ofImpl_eq_some.mpr rfl⟩

/-- Of the calls of one job at most one is sent on. -/
lemma sentOn_announce {l : List Notification} (hl : l.Nodup) (job : Job) :
    sentOn (l.map job.announce) =
      if usbDeviceNotification ∈ l then [(job.event.method, job.usbDevice)] else [] := by
  have hfilter : (l.map job.announce).filter (·.notification = usbDeviceNotification) =
      (List.replicate (l.count usbDeviceNotification) usbDeviceNotification).map job.announce := by
    rw [List.filter_map, ← List.filter_eq]
    rfl
  rw [sentOn, hfilter]
  split_ifs with hmem
  · rw [List.count_eq_one_of_mem hl hmem]
    rfl
  · rw [List.count_eq_zero_of_not_mem hmem]
    rfl

lemma sentOn_sublist {announcements announcements' : List Announcement}
    (h : announcements.Sublist announcements') :
    (sentOn announcements).Sublist (sentOn announcements') :=
  (h.filter _).map _

section Run

variable {h p q : List Action} {i j : ℕ} {job : Job}

/-- A job that got the lock: its calls are those of the list it found, as far as it has come. -/
lemma sentBy_of_lockJob (hl : system.Legal (p ++ .impl i (.lockJob j job) :: q)) :
    (sentBy i j (p ++ .impl i (.lockJob j job) :: q)).Sublist
        (sentOn (((system.exec p).impls i).notifications.map job.announce)) ∧
      ((∃ job' index, .impl i (.finish j job' index) ∈ p ++ .impl i (.lockJob j job) :: q) →
        sentBy i j (p ++ .impl i (.lockJob j job) :: q) =
          sentOn (((system.exec p).impls i).notifications.map job.announce)) := by
  have hsplit := implSteps_split i p q (.lockJob j job)
  have hlegal := (impls_eq hl i).1
  rw [hsplit] at hlegal
  obtain ⟨-, hprefix, hfinished⟩ := Delivery.delivered_of_legal hlegal
  rw [sentBy, hsplit, (impls_eq hl.prefix i).2]
  refine ⟨sentOn_sublist hprefix.sublist, ?_⟩
  rintro ⟨job', index, hfinish⟩
  have hmem := mem_implSteps hfinish
  rw [hsplit] at hmem
  rw [hfinished ⟨job', index, hmem⟩]

/-- One that did not get it sends nothing. -/
lemma exists_lockJob_of_sent (hl : system.Legal h) {e : Method × USBDevice}
    (he : e ∈ sentBy i j h) : ∃ job p q, h = p ++ .impl i (.lockJob j job) :: q := by
  by_contra hnone
  have hnever : ∀ job, .lockJob j job ∉ implSteps i h := by
    intro job hmem
    obtain ⟨p, q, hsplit⟩ := List.append_of_mem (mem_of_mem_implSteps hmem (by simp [OfPlugin]))
    exact hnone ⟨job, p, q, hsplit⟩
  rw [sentBy, Delivery.callsOf_eq_nil (impls_eq hl i).1 hnever] at he
  exact absurd he (by simp [sentOn])

end Run

/-- **The clients of the plugin are told what happens while it is active, each event once, and
nothing else**, in every run of the plugin and its implementations. -/
theorem forwarded_of_legal {h : List Action} (hl : system.Legal h) : Forwarded h where
  sender := by
    rintro p q i j job index announcement rfl hown
    have hcalled : ((system.exec p).impls i).Enabled (.notify j job index announcement) :=
      hl.enabled_at.2.1 _ rfl
    obtain ⟨n, hn, hannounce⟩ := Option.map_eq_some_iff.mp hcalled.2
    obtain rfl : n = usbDeviceNotification :=
      (congrArg Announcement.notification hannounce).trans hown
    obtain ⟨himpl, hbetween⟩ :=
      (connected_of_legal hl.prefix i).between (List.mem_of_getElem? hn)
    exact ⟨himpl, hbetween, service_of_between hl.prefix hbetween⟩
  released := by
    rintro p q i rfl hmem
    have hbetween := ((connected_of_legal hl.prefix i).between hmem).2
    rcases (hl.enabled_at.1 (.releaseImpl i) rfl).1 with hpc | hpc <;> rw [hpc] at hbetween <;>
      exact absurd hbetween (by decide)
  sent := by
    rintro p q i j job rfl himpl hreg hfinish
    have hmem := (connected_of_legal hl.prefix i).registered himpl hreg
    rw [(sentBy_of_lockJob hl).2 hfinish, sentOn_announce (notifications_nodup hl.prefix i),
      if_pos hmem]
  silent := by
    rintro p q i j job rfl hoff
    have hmem : usbDeviceNotification ∉ ((system.exec p).impls i).notifications := by
      intro hmem
      obtain ⟨himpl, hbetween⟩ := (connected_of_legal hl.prefix i).between hmem
      rcases hoff with hother | hnot
      · exact hother himpl
      · rw [hbetween] at hnot
        exact absurd hnot (by simp)
    have hsub := (sentBy_of_lockJob hl).1
    rw [sentOn_announce (notifications_nodup hl.prefix i), if_neg hmem] at hsub
    exact List.sublist_nil.mp hsub
  once i j := by
    by_cases hnone : sentBy i j h = []
    · rw [hnone]
      exact Nat.zero_le 1
    · obtain ⟨e, he⟩ := List.exists_mem_of_ne_nil _ hnone
      obtain ⟨job, p, q, rfl⟩ := exists_lockJob_of_sent hl he
      have hle := (sentBy_of_lockJob hl).1.length_le
      rw [sentOn_announce (notifications_nodup hl.prefix i)] at hle
      split_ifs at hle <;> simp only [List.length_singleton, List.length_nil] at hle <;> omega
  described := by
    intro i j method usbDevice he
    obtain ⟨job, p, q, rfl⟩ := exists_lockJob_of_sent hl he
    have hsent := (sentBy_of_lockJob hl).1.subset he
    rw [sentOn_announce (notifications_nodup hl.prefix i)] at hsent
    split_ifs at hsent
    · obtain ⟨rfl, rfl⟩ := Prod.mk.inj (List.mem_singleton.mp hsent)
      have hlegal := (impls_eq hl i).1
      rw [implSteps_split] at hlegal
      obtain ⟨⟨c, hsubmit⟩, -⟩ := Delivery.delivered_of_legal hlegal
      obtain ⟨w, henter, hdesc⟩ := Delivery.description_of_submit hlegal.prefix hsubmit
      refine ⟨c, job.event, w, ?_, rfl, hdesc⟩
      exact List.mem_append_left _ (mem_of_mem_implSteps henter (by simp [OfPlugin]))
    · exact absurd hsent (by simp)

/-- A call of the plugin, from beginning to end. -/
def callSteps (i k : ℕ) (kind : RequestKind) : List Action :=
  [.callImpl i k kind, .impl i (.lockRequest k kind usbDeviceNotification),
    .impl i (.runRequest k kind usbDeviceNotification .errorNone),
    .impl i (.unlockRequest k kind usbDeviceNotification .errorNone),
    .implReturned i k kind .errorNone]

/-- The plugin is activated, the sample disk arrives, and the plugin is deactivated. -/
def activation : List Action :=
  [.plugin .storeService, .plugin .addRefService, .plugin .registerListener, .plugin (.connect 0),
    .plugin (.root (some 3))] ++ callSteps 3 0 .register ++ [.plugin .registerJsonRpc] ++
    (Delivery.callbackSteps 0 0 .deviceArrived Delivery.sampleWorld
      (Delivery.sampleJob .deviceArrived)).map (.impl 3) ++
    [.impl 3 (.take 0 (Delivery.sampleJob .deviceArrived)),
      .impl 3 (.lockJob 0 (Delivery.sampleJob .deviceArrived)), .plugin .enterDeinitialization,
      .callImpl 3 1 .unregister,
      .impl 3 (.notify 0 (Delivery.sampleJob .deviceArrived) 0
        ((Delivery.sampleJob .deviceArrived).announce usbDeviceNotification)),
      .impl 3 (.finish 0 (Delivery.sampleJob .deviceArrived) 1),
      .impl 3 (.lockRequest 1 .unregister usbDeviceNotification),
      .impl 3 (.runRequest 1 .unregister usbDeviceNotification .errorNone),
      .impl 3 (.unlockRequest 1 .unregister usbDeviceNotification .errorNone),
      .implReturned 3 1 .unregister .errorNone, .plugin .unregisterJsonRpc]

theorem forwarded_activation : Forwarded activation := forwarded_of_legal (by decide)

end Forwarding

end Usb
