import USBDevicePlugin.Lifecycle.Delivery

/-!
# References on notifications

The notification list holds raw pointers.  `Register` takes a reference on the notification it
adds, `Unregister` gives it back, and each does its work in one critical section, so the requests
of all clients form one sequence.

The destructor closes libusb and lets the list go.  A list of raw pointers releases nothing.

* `notifications_eq_served` — whatever the interleaving, the list is what the requests leave, one
  after the other.
* `serveAll_balance` — the references held are those on the notifications in the list.
* **`references_balanced_iff`** — all of them are given back exactly when every registration has
  been followed by an `Unregister`.
-/

namespace Usb

open Interaction TransitionSystem

namespace References

/-! ## The code -/

/-- The calls of the object on the reference counts of notifications. -/
inductive Call
  | addRef (n : Notification)
  | release (n : Notification)
  deriving DecidableEq, Repr

/-- Code that works on the notification list. -/
abbrev OnList (α : Type) := Prog Call (List Notification) α

/-- `Register`, between `Lock` and `Unlock`. -/
def register (notification : Notification) : OnList Status := do
  let usbDeviceNotification ← Prog.getStore
  if notification ∈ usbDeviceNotification then pure .errorNone
  else do
    Prog.modifyStore (· ++ [notification])
    Prog.tell (.addRef notification)
    pure .errorNone

/-- `Unregister`, between `Lock` and `Unlock`. -/
def unregister (notification : Notification) : OnList Status := do
  let usbDeviceNotification ← Prog.getStore
  if notification ∈ usbDeviceNotification then do
    Prog.tell (.release notification)
    Prog.modifyStore (·.erase notification)
    pure .errorNone
  else pure .errorGeneral

/-- A call of one of the two. -/
abbrev ListRequest := RequestKind × Notification

def serve : ListRequest → OnList Status
  | (.register, n) => register n
  | (.unregister, n) => unregister n

/-- Requests one after the other. -/
def serveAll : List ListRequest → OnList PUnit
  | [] => pure ⟨⟩
  | request :: requests => do
      let _ ← serve request
      serveAll requests

/-- `~USBDeviceImplementation`, as far as the list is concerned: `libUSBClose` does not look at it,
and then it is destroyed. -/
def destroy : OnList PUnit := Prog.modifyStore fun _ => []

/-- An object from construction to destruction. -/
def lifetime (requests : List ListRequest) : OnList PUnit := do
  serveAll requests
  destroy

/-! ## One request -/

/-- The references a request takes and gives back. -/
def referenceCalls (l : List Notification) : ListRequest → List Call
  | (.register, n) => if n ∈ l then [] else [.addRef n]
  | (.unregister, n) => if n ∈ l then [.release n] else []

lemma serve_run (request : ListRequest) (t : ℕ) (l : List Notification) :
    (serve request).run t l = ⟨(request.1.body l request.2).1, referenceCalls l request,
      (request.1.body l request.2).2⟩ := by
  obtain ⟨kind, n⟩ := request
  cases kind <;> by_cases hn : n ∈ l <;>
    simp [serve, register, unregister, referenceCalls, RequestKind.body, Usb.register,
      Usb.unregister, hn]

/-- Who is in the list after a request. -/
lemma mem_body_iff {l : List Notification} (hl : l.Nodup) (kind : RequestKind)
    (n m : Notification) :
    m ∈ (kind.body l n).2 ↔ (kind, n) = (.register, m) ∨ m ∈ l ∧ (kind, n) ≠ (.unregister, m) := by
  cases kind with
  | register =>
      rw [RequestKind.body, Usb.register]
      split_ifs with hn
      · constructor
        · exact fun hm => Or.inr ⟨hm, by simp⟩
        · rintro (heq | ⟨hm, -⟩)
          · obtain rfl : n = m := by simpa using heq
            exact hn
          · exact hm
      · simp [eq_comm, or_comm]
  | unregister =>
      rw [RequestKind.body, Usb.unregister]
      split_ifs with hn
      · simp [hl.mem_erase_iff, and_comm, eq_comm]
      · constructor
        · exact fun hm => Or.inr ⟨hm, fun heq => hn ((Prod.mk.inj heq).2 ▸ hm)⟩
        · rintro (heq | ⟨hm, -⟩)
          · simp at heq
          · exact hm

/-- How many references the list stands for. -/
def onList (l : List Notification) (m : Notification) : ℕ := if m ∈ l then 1 else 0

lemma serve_balance {l : List Notification} (hl : l.Nodup) (request : ListRequest)
    (m : Notification) :
    (referenceCalls l request).count (.addRef m) + onList l m =
      (referenceCalls l request).count (.release m) +
        onList (request.1.body l request.2).2 m := by
  obtain ⟨kind, n⟩ := request
  have hmem := mem_body_iff hl kind n m
  simp only [onList, hmem]
  by_cases hnm : n = m
  · subst hnm
    cases kind <;> by_cases hn : n ∈ l <;> simp [referenceCalls, hn]
  · cases kind <;> by_cases hn : n ∈ l <;> simp [referenceCalls, hn, hnm]

/-! ## All requests -/

/-- **The references held are those on the notifications in the list.**  The induction is on the
requests left, for any list they may meet. -/
lemma serveAll_balance (m : Notification) :
    ∀ (requests : List ListRequest) (t : ℕ) {l : List Notification}, l.Nodup →
      let r := (serveAll requests).run t l
      r.calls.count (.addRef m) + onList l m = r.calls.count (.release m) + onList r.store m
  | [], _, l, _ => by simp [serveAll]
  | request :: requests, t, l, hl => by
      have hfirst := serve_balance hl request m
      have hrest := serveAll_balance m requests (t + (referenceCalls l request).length)
        (Delivery.body_nodup hl request.1 request.2)
      simp only [serveAll, Prog.bind_run, serve_run, List.count_append]
      simp only at hrest
      omega

/-- Who is in the list in the end: who was registered, or has been there, and has not been
unregistered since. -/
lemma mem_serveAll_iff (m : Notification) :
    ∀ (requests : List ListRequest) (t : ℕ) {l : List Notification}, l.Nodup →
      (m ∈ ((serveAll requests).run t l).store ↔
        (m ∈ l ∧ (.unregister, m) ∉ requests) ∨
          ∃ pre post, requests = pre ++ (.register, m) :: post ∧ (.unregister, m) ∉ post)
  | [], _, l, _ => by simp [serveAll]
  | request :: requests, t, l, hl => by
      have hrest := mem_serveAll_iff m requests (t + (referenceCalls l request).length)
        (Delivery.body_nodup hl request.1 request.2)
      simp only [serveAll, Prog.bind_run, serve_run]
      rw [hrest, mem_body_iff hl]
      constructor
      · rintro (⟨hnow | ⟨hm, hne⟩, hlater⟩ | ⟨pre, post, rfl, hlater⟩)
        · exact Or.inr ⟨[], requests, by rw [← hnow]; rfl, hlater⟩
        · refine Or.inl ⟨hm, ?_⟩
          rw [List.mem_cons, not_or]
          exact ⟨fun heq => hne heq.symm, hlater⟩
        · exact Or.inr ⟨request :: pre, post, rfl, hlater⟩
      · rintro (⟨hm, hnone⟩ | ⟨pre, post, hsplit, hlater⟩)
        · rw [List.mem_cons, not_or] at hnone
          exact Or.inl ⟨Or.inr ⟨hm, fun heq => hnone.1 heq.symm⟩, hnone.2⟩
        · cases pre with
          | nil =>
              obtain ⟨rfl, rfl⟩ := List.cons.inj hsplit
              exact Or.inl ⟨Or.inl rfl, hlater⟩
          | cons x pre =>
              obtain ⟨rfl, rfl⟩ := List.cons.inj hsplit
              exact Or.inr ⟨pre, post, rfl, hlater⟩

lemma serveAll_store :
    ∀ (requests : List ListRequest) (t : ℕ) (l : List Notification),
      ((serveAll requests).run t l).store =
        requests.foldl (fun l request => (request.1.body l request.2).2) l
  | [], _, _ => rfl
  | request :: requests, t, l => by
      simp only [serveAll, Prog.bind_run, serve_run, List.foldl_cons, serveAll_store requests]

/-- The requests of a schedule, in the order of their critical sections. -/
def requestsOf (h : List Delivery.Action) : List ListRequest :=
  h.filterMap fun
    | .runRequest _ kind n _ => some (kind, n)
    | _ => none

/-- The activities of the object, however they are interleaved, share the list that serving the
requests one after the other leaves. -/
lemma notifications_eq_served (h : List Delivery.Action) (t : ℕ) :
    (Delivery.system.exec h).notifications = ((serveAll (requestsOf h)).run t []).store := by
  rw [serveAll_store]
  induction h using List.reverseRecOn with
  | nil => rfl
  | append_singleton h a ih =>
      rw [System.exec_snoc, requestsOf, List.filterMap_append, List.foldl_append]
      rw [requestsOf] at ih
      rw [← ih]
      cases a <;> rfl

/-! ## From construction to destruction -/

/-- **All references are given back exactly when every registration is followed by an
`Unregister`.**  Up to the destructor the object holds one reference for each notification in its
list and no other, whatever the requests. -/
theorem references_balanced_iff (requests : List ListRequest) (t : ℕ) :
    ((∀ pre post, requests = pre ++ post →
      let r := (serveAll pre).run t []
      ∀ n, r.calls.count (.addRef n) = r.calls.count (.release n) + onList r.store n) ∧
      let r := (lifetime requests).run t []
      ∀ n, r.calls.count (.addRef n) = r.calls.count (.release n)) ↔
      ∀ pre n post, requests = pre ++ (.register, n) :: post → (.unregister, n) ∈ post := by
  have hheld : ∀ pre n, ((serveAll pre).run t []).calls.count (.addRef n) =
      ((serveAll pre).run t []).calls.count (.release n) +
        onList ((serveAll pre).run t []).store n := by
    intro pre n
    have hbalance := serveAll_balance n pre t List.nodup_nil
    simpa [onList] using hbalance
  have hlist : ∀ n, (((serveAll requests).run t []).calls.count (.addRef n) =
      ((serveAll requests).run t []).calls.count (.release n)) ↔
        n ∉ ((serveAll requests).run t []).store := by
    intro n
    have hbalance := hheld requests n
    by_cases hn : n ∈ ((serveAll requests).run t []).store
    · simp only [onList, hn, if_true] at hbalance
      simp only [hn, not_true, iff_false]
      omega
    · simpa [onList, hn] using hbalance
  have hcalls : ((lifetime requests).run t []).calls = ((serveAll requests).run t []).calls := by
    simp [lifetime, destroy]
  constructor
  · rintro ⟨-, hend⟩ pre n post hsplit
    by_contra hnever
    refine (hlist n).mp (hcalls ▸ hend n) ?_
    exact (mem_serveAll_iff n requests t List.nodup_nil).mpr (Or.inr ⟨pre, post, hsplit, hnever⟩)
  · intro hfollowed
    refine ⟨fun pre _ _ n => hheld pre n, fun n => ?_⟩
    rw [hcalls, hlist, mem_serveAll_iff n requests t List.nodup_nil]
    rintro (⟨hn, -⟩ | ⟨pre, post, hsplit, hnever⟩)
    · simp at hn
    · exact hnever (hfollowed pre n post hsplit)

/-- **A client that never unregisters is never released.**  One notification is registered and the
object is destroyed: one `AddRef`, no `Release`. -/
theorem references_kept :
    let r := (lifetime [(.register, 7)]).run 0 []
    r.calls = [.addRef 7] ∧ ¬ ∀ n, r.calls.count (.addRef n) = r.calls.count (.release n) :=
  ⟨by decide, fun hall => absurd (hall 7) (by decide)⟩

end References

end Usb
