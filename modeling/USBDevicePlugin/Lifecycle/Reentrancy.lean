import Mathlib.Data.Set.Finite.Basic
import USBDevicePlugin.Core.NodeList
import USBDevicePlugin.Lifecycle.References

/-!
# Listeners that call back

`Dispatch` with listeners that call `Register` and `Unregister` from inside their callbacks.  The
lock is recursive, so on the dispatching thread these calls go through, and change the list that the
loop of `Dispatch` has an iterator on.

* `Survives` — what is promised of a dispatch.
* **`survives_iff`** — it is kept exactly when no listener unregisters itself in its callback and
  the listeners do not go on adding entries for ever.
* `values_dispatch` — the list with iterators on it and the plain list of the other modules agree.
* `called_of_quiet` — listeners that leave the list alone are called one after the other.
* `movingEachOther_endless` — two listeners that keep each other ahead of the loop.
* **`dispatch_calls`** — who is called by a dispatch that its listeners change.
-/

namespace Usb

open LinkedList References

namespace Reentrancy

/-! ## The list -/

/-- `_usbDeviceNotification`, a `std::list`.  No notification is in it twice. -/
structure NotificationList extends NodeList Notification where
  nodup : toNodeList.values.Nodup

namespace NotificationList

/-- `Register`. -/
def register (l : NotificationList) (notification : Notification) : NotificationList :=
  if hnew : notification ∈ l.values then l
  else
    { toNodeList := l.pushBack notification
      nodup := by
        rw [NodeList.values_pushBack]
        exact List.Nodup.append l.nodup (List.nodup_singleton _) (by simpa using hnew) }

/-- `Unregister`: the element that `std::find` points at is erased. -/
def unregister (l : NotificationList) (notification : Notification) : NotificationList :=
  match l.nodes.find? fun x => x.2 = notification with
  | some itr =>
      { toNodeList := l.erase itr.1
        nodup := l.nodup.sublist (List.filter_sublist.map _) }
  | none => l

def serve (l : NotificationList) : ListRequest → NotificationList
  | (.register, n) => l.register n
  | (.unregister, n) => l.unregister n

def serveAll (l : NotificationList) (requests : List ListRequest) : NotificationList :=
  requests.foldl serve l

end NotificationList

/-! ## The loop -/

/-- What a listener does in its callback: the requests it makes, given the notifications that have
been called so far, itself the last. -/
abbrev Listeners := List Notification → List ListRequest

/-- The loop between two iterations. -/
structure Loop where
  usbDeviceNotification : NotificationList
  index : Cursor
  called : List Notification

namespace Loop

/-- One iteration.  Both branches of `Dispatch` are this loop; they differ in the method that is
called.  Reading or advancing an iterator whose element is gone is undefined, and the loop is given
up there. -/
def step (listeners : Listeners) (s : Loop) : Loop :=
  match s.index with
  | .node id =>
      match s.usbDeviceNotification.read id with
      | some n =>
          let called := s.called ++ [n]
          let usbDeviceNotification := s.usbDeviceNotification.serveAll (listeners called)
          { usbDeviceNotification, index := usbDeviceNotification.advance id, called }
      | none => { s with index := .dangling }
  | _ => s

/-- The notification that the next iteration calls. -/
def callee (s : Loop) : Option Notification :=
  match s.index with
  | .node id => s.usbDeviceNotification.read id
  | _ => none

/-- The requests it makes. -/
def requests (listeners : Listeners) (s : Loop) : List ListRequest :=
  match s.callee with
  | some n => listeners (s.called ++ [n])
  | none => []

end Loop

/-- The loop of `Dispatch` after so many iterations. -/
def dispatch (listeners : Listeners) (l : NotificationList) : ℕ → Loop
  | 0 => { usbDeviceNotification := l, index := l.begin, called := [] }
  | k + 1 => (dispatch listeners l k).step listeners

/-! ## What is promised -/

/-- A dispatch to these listeners. -/
structure Survives (listeners : Listeners) (l : NotificationList) : Prop where
  valid : ∀ k, (dispatch listeners l k).index ≠ .dangling
  ends : {n | ∃ k, (.register, n) ∈ (dispatch listeners l k).requests listeners}.Finite →
    ∃ k, (dispatch listeners l k).index = .past
  once : ∀ n ∈ l.values,
    (∀ k, (.unregister, n) ∉ (dispatch listeners l k).requests listeners) →
      ∃! k, (dispatch listeners l k).callee = some n

/-- The next iteration adds an entry: it registers a notification that is not in the list then. -/
def Loop.Adds (listeners : Listeners) (s : Loop) : Prop :=
  ∃ pre n post, s.requests listeners = pre ++ (.register, n) :: post ∧
    n ∉ (s.usbDeviceNotification.serveAll pre).values

/-! ## Requests -/

namespace NotificationList

/-- An entry has its own place. -/
lemma eq_of_mem {l : NotificationList} {id id' : ℕ} {n : Notification} (h : (id, n) ∈ l.nodes)
    (h' : (id', n) ∈ l.nodes) : id = id' :=
  (Prod.mk.inj (List.inj_on_of_nodup_map l.nodup h h' rfl)).1

lemma mem_values_iff {l : NotificationList} {n : Notification} :
    n ∈ l.values ↔ ∃ id, (id, n) ∈ l.nodes := by
  simp [NodeList.values]

lemma nodes_register (l : NotificationList) (n : Notification) :
    (l.register n).nodes = if n ∈ l.values then l.nodes else l.nodes ++ [(l.fresh, n)] := by
  rw [register]
  split_ifs <;> rfl

/-- The element found is the one with the notification. -/
lemma nodes_unregister (l : NotificationList) (n : Notification) :
    (l.unregister n).nodes = l.nodes.filter fun x => x.2 ≠ n := by
  rw [unregister]
  cases hfind : l.nodes.find? fun x => x.2 = n with
  | none =>
      have hnone := List.find?_eq_none.mp hfind
      refine (List.filter_eq_self.mpr fun x hx => ?_).symm
      simpa using hnone x hx
  | some itr =>
      obtain rfl : itr.2 = n := by simpa using List.find?_some hfind
      have hmem := List.mem_of_find?_eq_some hfind
      refine List.filter_congr fun x hx => ?_
      have hsame : x.1 = itr.1 ↔ x.2 = itr.2 := by
        constructor
        · intro hid
          have hx' : (itr.1, x.2) ∈ l.nodes := by rw [← hid]; exact hx
          exact NodeList.eq_of_mem hx' hmem
        · intro hn
          exact eq_of_mem (n := itr.2) (by rw [← hn]; exact hx) hmem
      simp [hsame]

/-- Which elements are there after a request. -/
lemma mem_nodes_serve {l : NotificationList} {request : ListRequest} {id : ℕ} {m : Notification} :
    (id, m) ∈ (l.serve request).nodes ↔
      (id, m) ∈ l.nodes ∧ request ≠ (.unregister, m) ∨
        request = (.register, m) ∧ m ∉ l.values ∧ id = l.fresh := by
  obtain ⟨kind, n⟩ := request
  cases kind with
  | register =>
      rw [serve, nodes_register]
      split_ifs with hn
      · constructor
        · exact fun hmem => Or.inl ⟨hmem, by simp⟩
        · rintro (⟨hmem, -⟩ | ⟨heq, hm, -⟩)
          · exact hmem
          · exact absurd ((Prod.mk.inj heq).2 ▸ hn) hm
      · rw [List.mem_append, List.mem_singleton]
        constructor
        · rintro (hmem | heq)
          · exact Or.inl ⟨hmem, by simp⟩
          · obtain ⟨rfl, rfl⟩ := Prod.mk.inj heq
            exact Or.inr ⟨rfl, hn, rfl⟩
        · rintro (⟨hmem, -⟩ | ⟨heq, -, rfl⟩)
          · exact Or.inl hmem
          · obtain rfl := (Prod.mk.inj heq).2
            exact Or.inr rfl
  | unregister => simp [serve, nodes_unregister, @eq_comm _ m n]

/-- The list of elements changes as the list that the other activities of the object share. -/
lemma values_serve (l : NotificationList) (request : ListRequest) :
    (l.serve request).values = (request.1.body l.values request.2).2 := by
  obtain ⟨kind, n⟩ := request
  cases kind with
  | register =>
      rw [serve, NodeList.values, nodes_register, RequestKind.body, Usb.register]
      split_ifs with hn
      · rfl
      · simp [NodeList.values]
  | unregister =>
      have hvalues : (l.unregister n).values = l.values.erase n := by
        rw [l.nodup.erase_eq_filter, NodeList.values, nodes_unregister, NodeList.values,
          List.filter_map]
        refine congrArg (List.map Prod.snd) (List.filter_congr fun x _ => ?_)
        simp [bne, beq_eq_decide]
      rw [serve, RequestKind.body, Usb.unregister, hvalues]
      split_ifs with hn
      · rfl
      · exact List.erase_of_not_mem hn

lemma values_serveAll (l : NotificationList) (requests : List ListRequest) :
    (l.serveAll requests).values =
      requests.foldl (fun values request => (request.1.body values request.2).2) l.values := by
  induction requests generalizing l with
  | nil => rfl
  | cons request requests ih =>
      rw [serveAll, List.foldl_cons, List.foldl_cons, ← values_serve]
      exact ih (l.serve request)

/-- Only the registration of a notification that is not there needs a new element. -/
lemma fresh_register (l : NotificationList) (n : Notification) :
    (l.register n).fresh = if n ∈ l.values then l.fresh else l.fresh + 1 := by
  rw [register]
  split_ifs <;> rfl

lemma fresh_unregister (l : NotificationList) (n : Notification) :
    (l.unregister n).fresh = l.fresh := by
  rw [unregister]
  cases l.nodes.find? fun x => x.2 = n <;> rfl

lemma fresh_le_serve (l : NotificationList) (request : ListRequest) :
    l.fresh ≤ (l.serve request).fresh := by
  obtain ⟨kind, n⟩ := request
  cases kind with
  | register =>
      rw [serve, fresh_register]
      split_ifs
      · exact le_rfl
      · exact Nat.le_succ _
  | unregister => exact le_of_eq (l.fresh_unregister n).symm

lemma fresh_serve {l : NotificationList} {request : ListRequest}
    (hnew : ∀ n, request = (.register, n) → n ∈ l.values) :
    (l.serve request).fresh = l.fresh := by
  obtain ⟨kind, n⟩ := request
  cases kind with
  | register => rw [serve, fresh_register, if_pos (hnew n rfl)]
  | unregister => exact l.fresh_unregister n

/-! ### A callback's requests -/

lemma fresh_le_serveAll (l : NotificationList) (requests : List ListRequest) :
    l.fresh ≤ (l.serveAll requests).fresh := by
  induction requests generalizing l with
  | nil => exact le_rfl
  | cons request requests ih => exact le_trans (l.fresh_le_serve request) (ih _)

/-- An entry that nobody takes out stays where it is. -/
lemma mem_serveAll_of_kept {l : NotificationList} {requests : List ListRequest} {id : ℕ}
    {n : Notification} (hmem : (id, n) ∈ l.nodes) (hkept : (.unregister, n) ∉ requests) :
    (id, n) ∈ (l.serveAll requests).nodes := by
  induction requests generalizing l with
  | nil => exact hmem
  | cons request requests ih =>
      rw [List.mem_cons, not_or] at hkept
      exact ih (mem_nodes_serve.mpr (Or.inl ⟨hmem, fun heq => hkept.1 heq.symm⟩)) hkept.2

/-- An element that is gone does not come back. -/
lemma not_contains_serveAll {l : NotificationList} {requests : List ListRequest} {id : ℕ}
    (hgone : ¬ l.Contains id) (hold : id < l.fresh) : ¬ (l.serveAll requests).Contains id := by
  induction requests generalizing l with
  | nil => exact hgone
  | cons request requests ih =>
      refine ih ?_ (Nat.lt_of_lt_of_le hold (l.fresh_le_serve request))
      rintro ⟨m, hm⟩
      rcases mem_nodes_serve.mp hm with ⟨hmem, -⟩ | ⟨-, -, rfl⟩
      · exact hgone ⟨m, hmem⟩
      · exact absurd hold (lt_irrefl _)

/-- **The element of a notification that is unregistered is gone**, registered again or not. -/
lemma not_contains_serveAll_of_unregister {l : NotificationList} {requests : List ListRequest}
    {id : ℕ} {n : Notification} (hmem : (id, n) ∈ l.nodes)
    (hunregister : (.unregister, n) ∈ requests) : ¬ (l.serveAll requests).Contains id := by
  induction requests generalizing l with
  | nil => simp at hunregister
  | cons request requests ih =>
      by_cases hfirst : request = (.unregister, n)
      · subst hfirst
        refine not_contains_serveAll (l := l.serve (.unregister, n)) ?_ ?_
        · rintro ⟨m, hm⟩
          rcases mem_nodes_serve.mp hm with ⟨hm, hne⟩ | ⟨heq, -⟩
          · exact hne (by rw [NodeList.eq_of_mem hm hmem])
          · simp at heq
        · exact Nat.lt_of_lt_of_le (l.lt_fresh _ hmem) (l.fresh_le_serve _)
      · have hlater := (List.mem_cons.mp hunregister).resolve_left (Ne.symm hfirst)
        exact ih (mem_nodes_serve.mpr (Or.inl ⟨hmem, hfirst⟩)) hlater

lemma fresh_serveAll {l : NotificationList} {requests : List ListRequest}
    (hnew : ∀ pre n post, requests = pre ++ (.register, n) :: post →
      n ∈ (l.serveAll pre).values) : (l.serveAll requests).fresh = l.fresh := by
  induction requests generalizing l with
  | nil => rfl
  | cons request requests ih =>
      have hfirst : (l.serve request).fresh = l.fresh :=
        fresh_serve fun n heq => hnew [] n requests (by rw [heq]; rfl)
      rw [← hfirst]
      exact ih fun pre n post hsplit => hnew (request :: pre) n post (by rw [hsplit]; rfl)

end NotificationList

/-! ## Iterations -/

variable {listeners : Listeners} {l : NotificationList} {k : ℕ}

lemma step_node {s : Loop} {id : ℕ} {n : Notification} (hindex : s.index = .node id)
    (hmem : (id, n) ∈ s.usbDeviceNotification.nodes) :
    s.step listeners =
      { usbDeviceNotification := s.usbDeviceNotification.serveAll (listeners (s.called ++ [n]))
        index := (s.usbDeviceNotification.serveAll (listeners (s.called ++ [n]))).advance id
        called := s.called ++ [n] } := by
  simp only [Loop.step, hindex, NodeList.read_eq_some_iff.mpr hmem]

lemma step_past {s : Loop} (hindex : s.index = .past) : s.step listeners = s := by
  simp only [Loop.step, hindex]

/-- An iteration serves the requests of its callback. -/
lemma list_succ : (dispatch listeners l (k + 1)).usbDeviceNotification =
    (dispatch listeners l k).usbDeviceNotification.serveAll
      ((dispatch listeners l k).requests listeners) := by
  rw [dispatch, Loop.step, Loop.requests, Loop.callee]
  cases (dispatch listeners l k).index with
  | node id =>
      cases hread : (dispatch listeners l k).usbDeviceNotification.read id with
      | some n => simp [hread]
      | none => simp [hread, NotificationList.serveAll]
  | past => rfl
  | dangling => rfl

/-- **The elements under a dispatch are the plain list under its requests**, one after the other. -/
lemma values_dispatch : ∀ k, (dispatch listeners l k).usbDeviceNotification.values =
    ((List.range k).flatMap fun j => (dispatch listeners l j).requests listeners).foldl
      (fun values request => (request.1.body values request.2).2) l.values
  | 0 => rfl
  | k + 1 => by
      rw [list_succ, NotificationList.values_serveAll, values_dispatch k, List.range_succ,
        List.flatMap_append, List.foldl_append]
      simp

/-- **The loop is a traversal** of the list that the listeners change. -/
lemma traversal_dispatch (listeners : Listeners) (l : NotificationList) :
    Traversal (fun k => (dispatch listeners l k).usbDeviceNotification.toNodeList)
      fun k => (dispatch listeners l k).index where
  start := rfl
  step k id hk := by
    rintro ⟨n, hn⟩
    rw [show dispatch listeners l (k + 1) = _ from step_node hk hn]
  stay k hk := by
    cases hindex : (dispatch listeners l k).index with
    | node id => exact absurd hindex (hk id)
    | past | dangling => simp only [dispatch, Loop.step, hindex]

lemma callee_eq_some_iff {s : Loop} {n : Notification} :
    s.callee = some n ↔ ∃ id, s.index = .node id ∧ (id, n) ∈ s.usbDeviceNotification.nodes := by
  rw [Loop.callee]
  cases s.index with
  | node id => simp [NodeList.read_eq_some_iff]
  | past => simp
  | dangling => simp

/-- There are no requests after the loop. -/
lemma requests_eq_nil {s : Loop} (h : s.index = .past) : s.requests listeners = [] := by
  simp [Loop.requests, Loop.callee, h]

/-! ## Every dispatch -/

/-- The iterator is kept through an iteration if the callback does not unregister its own
notification. -/
lemma contains_succ_iff {id : ℕ} {n : Notification}
    (hmem : (id, n) ∈ (dispatch listeners l k).usbDeviceNotification.nodes) :
    (dispatch listeners l (k + 1)).usbDeviceNotification.Contains id ↔
      (.unregister, n) ∉ (dispatch listeners l k).requests listeners := by
  rw [list_succ]
  constructor
  · intro hcontains hunregister
    exact NotificationList.not_contains_serveAll_of_unregister hmem hunregister hcontains
  · exact fun hkept => ⟨n, NotificationList.mem_serveAll_of_kept hmem hkept⟩

lemma valid_iff : (∀ k, (dispatch listeners l k).index ≠ .dangling) ↔
    ∀ k n, (dispatch listeners l k).callee = some n →
      (.unregister, n) ∉ (dispatch listeners l k).requests listeners := by
  have htraversal := traversal_dispatch listeners l
  rw [htraversal.never_dangling_iff]
  constructor
  · intro hkept k n hcallee
    obtain ⟨id, hindex, hmem⟩ := callee_eq_some_iff.mp hcallee
    exact (contains_succ_iff hmem).mp (hkept k id hindex)
  · intro hkept k id hindex
    obtain ⟨n, hmem⟩ := htraversal.contains hindex
    exact (contains_succ_iff hmem).mpr (hkept k n (callee_eq_some_iff.mpr ⟨id, hindex, hmem⟩))

lemma fresh_mono : Monotone fun k => (dispatch listeners l k).usbDeviceNotification.fresh := by
  refine monotone_nat_of_le_succ fun k => ?_
  rw [list_succ]
  exact NotificationList.fresh_le_serveAll _ _

lemma fresh_succ (hnone : ¬ (dispatch listeners l k).Adds listeners) :
    (dispatch listeners l (k + 1)).usbDeviceNotification.fresh =
      (dispatch listeners l k).usbDeviceNotification.fresh := by
  rw [list_succ]
  refine NotificationList.fresh_serveAll fun pre n post hsplit => ?_
  by_contra hn
  exact hnone ⟨pre, n, post, hsplit, hn⟩

/-- The loop ends if there is an iteration after which no entry is added. -/
lemma exists_past (hvalid : ∀ k, (dispatch listeners l k).index ≠ .dangling) {last : ℕ}
    (hlast : ∀ k ≥ last, ¬ (dispatch listeners l k).Adds listeners) :
    ∃ k, (dispatch listeners l k).index = .past := by
  have hafter : ∀ k ≥ last, (dispatch listeners l k).usbDeviceNotification.fresh =
      (dispatch listeners l last).usbDeviceNotification.fresh := by
    intro k hk
    induction k, hk using Nat.le_induction with
    | base => rfl
    | succ k hk ih => exact (fresh_succ (hlast k hk)).trans ih
  have hbound : ∀ k, (dispatch listeners l k).usbDeviceNotification.fresh ≤
      (dispatch listeners l last).usbDeviceNotification.fresh := by
    intro k
    rcases le_total last k with hk | hk
    · exact le_of_eq (hafter k hk)
    · exact fresh_mono hk
  exact (traversal_dispatch listeners l).exists_past hvalid hbound

/-- After the loop, nothing is added. -/
lemma not_adds_of_past (hpast : (dispatch listeners l k).index = .past) :
    ∀ j ≥ k, ¬ (dispatch listeners l j).Adds listeners := by
  have hstill : ∀ j ≥ k, (dispatch listeners l j).index = .past := by
    intro j hj
    induction j, hj using Nat.le_induction with
    | base => exact hpast
    | succ j hj ih => exact ((traversal_dispatch listeners l).stay j (by simp [ih])).trans ih
  rintro j hj ⟨pre, n, post, hsplit, -⟩
  rw [requests_eq_nil (hstill j hj)] at hsplit
  simp at hsplit

/-- **Who stays registered is called once.** -/
lemma existsUnique_callee (hvalid : ∀ k, (dispatch listeners l k).index ≠ .dangling)
    {n : Notification} (hn : n ∈ l.values)
    (hstays : ∀ k, (.unregister, n) ∉ (dispatch listeners l k).requests listeners) :
    ∃! k, (dispatch listeners l k).callee = some n := by
  obtain ⟨id, hid⟩ := NotificationList.mem_values_iff.mp hn
  have hmem : ∀ k, (id, n) ∈ (dispatch listeners l k).usbDeviceNotification.nodes := by
    intro k
    induction k with
    | zero => exact hid
    | succ k ih =>
        rw [list_succ]
        exact NotificationList.mem_serveAll_of_kept ih (hstays k)
  have hcallee : ∀ k, (dispatch listeners l k).callee = some n ↔
      (dispatch listeners l k).index = .node id := by
    intro k
    rw [callee_eq_some_iff]
    constructor
    · rintro ⟨id', hindex, hmem'⟩
      rw [hindex, NotificationList.eq_of_mem hmem' (hmem k)]
    · exact fun hindex => ⟨id, hindex, hmem k⟩
  simp only [hcallee]
  exact (traversal_dispatch listeners l).existsUnique_cursor hvalid fun k => ⟨n, hmem k⟩

/-- **Dispatch survives its listeners exactly when** none unregisters itself in its callback and, if
they register finitely many notifications only, there comes an iteration after which they add no
entry. -/
theorem survives_iff (listeners : Listeners) (l : NotificationList) :
    Survives listeners l ↔
      (∀ k n, (dispatch listeners l k).callee = some n →
        (.unregister, n) ∉ (dispatch listeners l k).requests listeners) ∧
      ({n | ∃ k, (.register, n) ∈ (dispatch listeners l k).requests listeners}.Finite →
        ∃ last, ∀ k ≥ last, ¬ (dispatch listeners l k).Adds listeners) := by
  constructor
  · intro hsurvives
    refine ⟨valid_iff.mp hsurvives.valid, fun hfinite => ?_⟩
    obtain ⟨k, hpast⟩ := hsurvives.ends hfinite
    exact ⟨k, not_adds_of_past hpast⟩
  · rintro ⟨hkept, hlast⟩
    have hvalid := valid_iff.mpr hkept
    refine ⟨hvalid, fun hfinite => ?_, fun n hn hstays => existsUnique_callee hvalid hn hstays⟩
    obtain ⟨last, hnone⟩ := hlast hfinite
    exact exists_past hvalid hnone

/-- **Listeners that leave the list alone are called one after the other.** -/
theorem called_of_quiet (l : NotificationList) (k : ℕ) :
    (dispatch (fun _ => []) l k).called = l.values.take k := by
  have hlist : ∀ k, (dispatch (fun _ => []) l k).usbDeviceNotification = l := by
    intro k
    induction k with
    | zero => rfl
    | succ k ih =>
        rw [list_succ, ih, Loop.requests]
        cases (dispatch (fun _ => []) l k).callee <;> rfl
  have hloop : (dispatch (fun _ => []) l k).index = NodeList.firstOf (l.nodes.drop k) ∧
      (dispatch (fun _ => []) l k).called = l.values.take k := by
    induction k with
    | zero => exact ⟨rfl, rfl⟩
    | succ k ih =>
        obtain ⟨hindex, hcalled⟩ := ih
        have hdrop : l.nodes.drop (k + 1) = (l.nodes.drop k).drop 1 := by simp
        cases hrest : l.nodes.drop k with
        | nil =>
            rw [hrest] at hindex hdrop
            have hlength : l.values.length ≤ k := by
              simpa [NodeList.values] using List.drop_eq_nil_iff.mp hrest
            rw [dispatch, step_past hindex, hindex, hcalled, hdrop,
              List.take_of_length_le hlength, List.take_of_length_le (Nat.le_succ_of_le hlength)]
            exact ⟨rfl, rfl⟩
        | cons x rest =>
            rw [hrest] at hindex hdrop
            have hnodes : l.nodes = l.nodes.take k ++ x :: rest := by
              rw [← hrest, List.take_append_drop]
            have hx : (x.1, x.2) ∈ (dispatch (fun _ => []) l k).usbDeviceNotification.nodes := by
              rw [hlist k, hnodes]
              simp
            have hvalue : l.values[k]? = some x.2 := by
              have hget : (l.nodes.drop k)[0]? = some x := by rw [hrest]; rfl
              rw [List.getElem?_drop, Nat.add_zero] at hget
              simp [NodeList.values, hget]
            rw [dispatch, step_node hindex hx, hcalled, hlist k, hdrop, List.take_add_one, hvalue]
            exact ⟨NodeList.advance_of_nodes_eq hnodes, rfl⟩
  exact hloop.2

/-! ## Listeners that do not survive -/

/-- The list of a new object. -/
def NotificationList.empty : NotificationList where
  nodes := []
  fresh := 0
  increasing := List.Pairwise.nil
  lt_fresh := by simp
  nodup := List.nodup_nil

/-- **A listener unregisters itself** on being called: the loop advances an iterator whose element
has been erased. -/
theorem not_survives_self : ¬ ∀ listeners l, Survives listeners l := by
  intro hclaim
  have hvalid := (hclaim (fun _ => [(.unregister, 7)])
    (NotificationList.empty.serveAll [(.register, 7)])).valid 1
  exact hvalid rfl

/-- Two listeners, each of which moves the other to the end of the list. -/
def movingEachOther : Listeners := fun called =>
  if called.getLast? = some 0 then [(.unregister, 1), (.register, 1)]
  else [(.unregister, 0), (.register, 0)]

/-- Where they have come to: one is at the iterator, the other before it or after it. -/
def Moving (s : Loop) : Prop :=
  ∃ i j n m, (n = 0 ∧ m = 1 ∨ n = 1 ∧ m = 0) ∧ s.index = .node i ∧
    (s.usbDeviceNotification.nodes = [(i, n), (j, m)] ∨
      s.usbDeviceNotification.nodes = [(j, m), (i, n)])

/-- An element before the iterator or after it can be moved behind the iterator's. -/
lemma nodes_move {l : NotificationList} {i j : ℕ} {n m : Notification} (hnm : n ≠ m)
    (hnodes : l.nodes = [(i, n), (j, m)] ∨ l.nodes = [(j, m), (i, n)]) :
    (l.serveAll [(.unregister, m), (.register, m)]).nodes = [(i, n), (l.fresh, m)] := by
  have hrest : (l.unregister m).nodes = [(i, n)] := by
    rw [NotificationList.nodes_unregister]
    rcases hnodes with hnodes | hnodes <;> simp [hnodes, hnm]
  show ((l.unregister m).register m).nodes = _
  rw [NotificationList.nodes_register, if_neg, hrest, l.fresh_unregister]
  · rfl
  · simp [NodeList.values, hrest, hnm.symm]

lemma moving_step {s : Loop} (hs : Moving s) : Moving (s.step movingEachOther) := by
  obtain ⟨i, j, n, m, hnm, hindex, hnodes⟩ := hs
  have hmem : (i, n) ∈ s.usbDeviceNotification.nodes := by
    rcases hnodes with hnodes | hnodes <;> simp [hnodes]
  have hrequests : movingEachOther (s.called ++ [n]) = [(.unregister, m), (.register, m)] := by
    rcases hnm with ⟨rfl, rfl⟩ | ⟨rfl, rfl⟩ <;> simp [movingEachOther]
  have hne : n ≠ m := by rcases hnm with ⟨rfl, rfl⟩ | ⟨rfl, rfl⟩ <;> simp
  have hmoved := nodes_move hne hnodes
  rw [step_node hindex hmem, hrequests]
  refine ⟨_, i, m, n, hnm.symm.imp And.symm And.symm, ?_, Or.inr hmoved⟩
  exact NodeList.advance_of_nodes_eq (show _ = [] ++ _ from hmoved)

/-- **They are called for ever**, and are only two. -/
theorem movingEachOther_endless (k : ℕ) :
    ∃ id, (dispatch movingEachOther
      (NotificationList.empty.serveAll [(.register, 0), (.register, 1)]) k).index = .node id := by
  have hmoving : Moving (dispatch movingEachOther
      (NotificationList.empty.serveAll [(.register, 0), (.register, 1)]) k) := by
    induction k with
    | zero => exact ⟨0, 1, 0, 1, Or.inl ⟨rfl, rfl⟩, rfl, Or.inl rfl⟩
    | succ k ih => exact moving_step ih
  obtain ⟨i, _, _, _, _, hindex, _⟩ := hmoving
  exact ⟨i, hindex⟩

/-! ## Who is called -/

/-- What a callback finds in the list was there before, or is new. -/
lemma NotificationList.mem_or_fresh_le {l : NotificationList} {requests : List ListRequest} {id : ℕ}
    {n : Notification} (hmem : (id, n) ∈ (l.serveAll requests).nodes) :
    (id, n) ∈ l.nodes ∨ l.fresh ≤ id := by
  induction requests generalizing l with
  | nil => exact Or.inl hmem
  | cons request requests ih =>
      rcases ih hmem with hserved | hfresh
      · rcases mem_nodes_serve.mp hserved with ⟨hbefore, -⟩ | ⟨-, -, rfl⟩
        · exact Or.inl hbefore
        · exact Or.inr le_rfl
      · exact Or.inr (le_trans (l.fresh_le_serve request) hfresh)

/-- In one of these iterations the notification is unregistered. -/
def UnregisteredIn (listeners : Listeners) (l : NotificationList) (n : Notification) (j k : ℕ) : Prop :=
  ∃ i, j ≤ i ∧ i < k ∧ (.unregister, n) ∈ (dispatch listeners l i).requests listeners

/-- An element stays until its notification is unregistered. -/
lemma mem_nodes_of_kept {j id : ℕ} {n : Notification} (hjk : j ≤ k)
    (hmem : (id, n) ∈ (dispatch listeners l j).usbDeviceNotification.nodes)
    (hkept : ¬ UnregisteredIn listeners l n j k) :
    (id, n) ∈ (dispatch listeners l k).usbDeviceNotification.nodes := by
  induction k, hjk using Nat.le_induction with
  | base => exact hmem
  | succ k hjk ih =>
      have hbefore := ih fun ⟨i, hji, hik, hunregister⟩ =>
        hkept ⟨i, hji, Nat.lt_succ_of_lt hik, hunregister⟩
      rw [list_succ]
      exact NotificationList.mem_serveAll_of_kept hbefore fun hunregister =>
        hkept ⟨k, hjk, Nat.lt_succ_self k, hunregister⟩

/-- An element that is old enough has been there all the time. -/
lemma mem_nodes_of_old {j id : ℕ} {n : Notification} (hjk : j ≤ k)
    (hold : id < (dispatch listeners l j).usbDeviceNotification.fresh)
    (hmem : (id, n) ∈ (dispatch listeners l k).usbDeviceNotification.nodes) :
    (id, n) ∈ (dispatch listeners l j).usbDeviceNotification.nodes := by
  induction k, hjk using Nat.le_induction with
  | base => exact hmem
  | succ k hjk ih =>
      rw [list_succ] at hmem
      rcases NotificationList.mem_or_fresh_le hmem with hbefore | hfresh
      · exact ih hbefore
      · exact absurd (Nat.lt_of_lt_of_le hold (fresh_mono hjk)) (Nat.not_lt.mpr hfresh)

/-- What an iteration adds comes after the iterator. -/
lemma contains_or_ahead {id : ℕ}
    (hid : (dispatch listeners l (k + 1)).usbDeviceNotification.Contains id) :
    (dispatch listeners l k).usbDeviceNotification.Contains id ∨
      ∃ current, (dispatch listeners l k).index = .node current ∧ current < id := by
  obtain ⟨n, hmem⟩ := hid
  rw [list_succ] at hmem
  rcases NotificationList.mem_or_fresh_le hmem with hbefore | hfresh
  · exact Or.inl ⟨n, hbefore⟩
  · cases hindex : (dispatch listeners l k).index with
    | node current =>
        obtain ⟨m, hm⟩ := (traversal_dispatch listeners l).contains hindex
        have hold := (dispatch listeners l k).usbDeviceNotification.lt_fresh _ hm
        exact Or.inr ⟨current, rfl, Nat.lt_of_lt_of_le hold hfresh⟩
    | past | dangling =>
        have hnone : (dispatch listeners l k).requests listeners = [] := by
          simp [Loop.requests, Loop.callee, hindex]
        rw [hnone] at hmem
        exact Or.inl ⟨n, hmem⟩

/-- **Who a dispatch tells**, whatever its listeners do to the list, as long as none unregisters
itself in its callback: a notification is called twice only if it has been unregistered in between,
and when the loop ends, the list holds exactly those that were called and have not been unregistered
since.  Whoever was registered on the way and is still there has been called too. -/
theorem dispatch_calls (hself : ∀ k n, (dispatch listeners l k).callee = some n →
      (.unregister, n) ∉ (dispatch listeners l k).requests listeners) :
    (∀ j k n, j < k → (dispatch listeners l j).callee = some n →
      (dispatch listeners l k).callee = some n → UnregisteredIn listeners l n j k) ∧
    ∀ k, (dispatch listeners l k).index = .past → ∀ n,
      n ∈ (dispatch listeners l k).usbDeviceNotification.values ↔
        ∃ j < k, (dispatch listeners l j).callee = some n ∧ ¬ UnregisteredIn listeners l n j k := by
  have htraversal := traversal_dispatch listeners l
  have hvalid := valid_iff.mpr hself
  constructor
  · intro j k n hjk hj hk
    obtain ⟨id, hindex, hmem⟩ := callee_eq_some_iff.mp hj
    obtain ⟨id', hindex', hmem'⟩ := callee_eq_some_iff.mp hk
    by_contra hkept
    have hlt := htraversal.lt_of_lt hindex hindex' hjk
    have hsame := NotificationList.eq_of_mem (mem_nodes_of_kept (Nat.le_of_lt hjk) hmem hkept) hmem'
    omega
  · intro k hpast n
    rw [NotificationList.mem_values_iff]
    constructor
    · rintro ⟨id, hmem⟩
      rcases htraversal.visited_or_ahead_of_contains hvalid (fun _ _ => contains_or_ahead)
        ⟨n, hmem⟩ with ⟨j, hjk, hindex⟩ | ⟨current, hindex, -⟩
      · obtain ⟨m, hm⟩ := htraversal.contains hindex
        have hold := (dispatch listeners l j).usbDeviceNotification.lt_fresh _ hm
        have hthere : ∀ i, j ≤ i → i ≤ k →
            (id, n) ∈ (dispatch listeners l i).usbDeviceNotification.nodes := fun i hji hik =>
          mem_nodes_of_old hik (Nat.lt_of_lt_of_le hold (fresh_mono hji)) hmem
        refine ⟨j, hjk, callee_eq_some_iff.mpr ⟨id, hindex, hthere j le_rfl (Nat.le_of_lt hjk)⟩, ?_⟩
        rintro ⟨i, hji, hik, hunregister⟩
        -- the element would be gone after this iteration
        refine NotificationList.not_contains_serveAll_of_unregister
          (hthere i hji (Nat.le_of_lt hik)) hunregister ⟨n, ?_⟩
        have hnext := hthere (i + 1) (Nat.le_succ_of_le hji) hik
        rwa [list_succ] at hnext
      · rw [hpast] at hindex
        exact Cursor.noConfusion hindex
    · rintro ⟨j, hjk, hcallee, hkept⟩
      obtain ⟨id, -, hmem⟩ := callee_eq_some_iff.mp hcallee
      exact ⟨id, mem_nodes_of_kept (Nat.le_of_lt hjk) hmem hkept⟩

/-- The first listener brings in a third and takes out the second. -/
def replacing : Listeners := fun called =>
  if called = [1] then [(.register, 3), (.unregister, 2)] else []

theorem dispatch_calls_replacing :
    let l := NotificationList.empty.serveAll [(.register, 1), (.register, 2)]
    (∀ j k n, j < k → (dispatch replacing l j).callee = some n →
      (dispatch replacing l k).callee = some n → UnregisteredIn replacing l n j k) ∧
    ∀ k, (dispatch replacing l k).index = .past → ∀ n,
      n ∈ (dispatch replacing l k).usbDeviceNotification.values ↔
        ∃ j < k, (dispatch replacing l j).callee = some n ∧ ¬ UnregisteredIn replacing l n j k := by
  refine dispatch_calls fun k n hcallee hunregister => ?_
  simp only [Loop.requests, hcallee, replacing] at hunregister
  split_ifs at hunregister with hfirst
  · obtain rfl : n = 2 := by simpa using hunregister
    have hlast := congrArg List.getLast? hfirst
    simp at hlast
  · simp at hunregister

example : (dispatch replacing (NotificationList.empty.serveAll [(.register, 1), (.register, 2)])
    3).called = [1, 3] := by decide

end Reentrancy

end Usb
