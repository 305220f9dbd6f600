import USBDevicePlugin.Core.Refinement
import USBDevicePlugin.Lifecycle.Order

/-!
# The notification object, all at once

`Register`, `Unregister` and `Dispatch` take many steps each, and those of several activities are
interleaved.  Nobody can tell: everything that can be observed is as if each of them happened in one
step, some time between its beginning and its end.

* `Notifier`, `notifier` — the object in which they do.
* `linearization` — the steps at which they happen: a request when it changes the list, a job when
  it gets the lock.
* **`delivery_linearizable`** — the object at work refines the one in which everything happens at
  once, and respects the order of what did not overlap.
-/

namespace Usb

open TransitionSystem

namespace Delivery

/-! ## The object in which everything happens at once -/

/-- The notifications registered, and all calls they got. -/
structure Notifier where
  registered : List Notification
  heard : List Announcement

/-- A request with its status, or the delivery of an event to everybody. -/
inductive Atomic
  | request (k : ℕ) (kind : RequestKind) (n : Notification) (status : Status)
  | broadcast (j : ℕ) (job : Job)
  deriving DecidableEq, Repr

/-- The specification: a request has the effect and the status of its body, a delivery calls all
registered notifications in their order. -/
def notifier : System Notifier Atomic where
  init := { registered := [], heard := [] }
  Enabled
    | s, .request _ kind n status => (kind.body s.registered n).1 = status
    | _, .broadcast _ _ => True
  next
    | s, .request _ kind n _ => { s with registered := (kind.body s.registered n).2 }
    | s, .broadcast _ job => { s with heard := s.heard ++ s.registered.map job.announce }

/-- Who does it. -/
def Atomic.actor : Atomic → Owner
  | .request k _ _ _ => .request k
  | .broadcast j _ => .job j

/-- The steps at which something happens. -/
def Action.point : Action → Option Atomic
  | .runRequest k kind n status => some (.request k kind n status)
  | .lockJob j job => some (.broadcast j job)
  | _ => none

/-- What happened in a run, in this order. -/
def linearization (h : List Action) : List Atomic := h.filterMap Action.point

/-- The calls the job inside the lock has yet to make. -/
def State.outstanding (s : State) : List Announcement :=
  match s.adminLock with
  | some (.job j) => match s.jobs j with
    | .dispatching job index => (s.notifications.drop index).map job.announce
    | _ => []
  | _ => []

/-! ## The object at work refines it -/

lemma callsMade_append (h h' : List Action) : callsMade (h ++ h') = callsMade h ++ callsMade h' :=
  List.filterMap_append ..

section Outstanding

variable {s : State}

lemma outstanding_of_not_job (h : ∀ j, s.adminLock ≠ some (.job j)) : s.outstanding = [] := by
  unfold State.outstanding
  split
  · next j hlock => exact absurd hlock (h j)
  · rfl

lemma outstanding_of_job {j : ℕ} {job : Job} {index : ℕ} (hlock : s.adminLock = some (.job j))
    (hj : s.jobs j = .dispatching job index) :
    s.outstanding = (s.notifications.drop index).map job.announce := by
  simp only [State.outstanding, hlock, hj]

lemma outstanding_lockJob (s : State) (j : ℕ) (job : Job) :
    (s.next (.lockJob j job)).outstanding = s.notifications.map job.announce := by
  have hdispatching : (s.next (.lockJob j job)).jobs j = .dispatching job 0 :=
    Function.update_self ..
  rw [outstanding_of_job rfl hdispatching]
  rfl

/-- A step of a job outside the lock. -/
lemma outstanding_update {j : ℕ} {r : JobState} (hj : (s.jobs j).holds = false)
    (hr : r.holds = false) (callbacks : ℕ → Callback) (submitted : ℕ) :
    State.outstanding { s with
      callbacks := callbacks, jobs := Function.update s.jobs j r, submitted := submitted } =
        s.outstanding := by
  unfold State.outstanding
  rcases s.adminLock with _ | _ | j'
  · rfl
  · rfl
  · by_cases hjj : j' = j
    · subst hjj
      simp only [Function.update_self]
      cases hs : s.jobs j' <;> cases r <;> simp_all [JobState.holds]
    · simp only [Function.update_of_ne hjj]

/-- The steps in between: what is called is no longer outstanding. -/
lemma outstanding_next (hexclusive : Exclusive s) {a : Action} (ha : s.Enabled a)
    (habsent : ∀ j, s.submitted ≤ j → s.jobs j = .absent) (hpoint : a.point = none) :
    s.outstanding = callsMade [a] ++ (s.next a).outstanding ∧
      (s.next a).notifications = s.notifications := by
  cases a with
  | runRequest k kind n status => simp [Action.point] at hpoint
  | lockJob j job => simp [Action.point] at hpoint
  | lockRequest k kind n =>
      refine ⟨?_, rfl⟩
      rw [outstanding_of_not_job (by simp [ha.2]), outstanding_of_not_job (by simp [State.next])]
      rfl
  | unlockRequest k kind n status =>
      have hdone : s.requests k = .done kind n status := ha
      have hlock := hexclusive.request k (by rw [hdone]; rfl)
      refine ⟨?_, rfl⟩
      rw [outstanding_of_not_job (by simp [hlock]), outstanding_of_not_job (by simp [State.next])]
      rfl
  | submit c j job =>
      have hj : s.jobs j = .absent := habsent j ha.2.ge
      exact ⟨(outstanding_update (by rw [hj]; rfl) rfl _ _).symm, rfl⟩
  | take j job =>
      have hj : s.jobs j = .queued job := ha
      exact ⟨(outstanding_update (by rw [hj]; rfl) rfl _ _).symm, rfl⟩
  | notify j job index announcement =>
      obtain ⟨hj, hget⟩ := ha
      have hlock := hexclusive.job j (by rw [hj]; rfl)
      obtain ⟨n, hn, rfl⟩ := Option.map_eq_some_iff.mp hget
      obtain ⟨hlt, rfl⟩ := List.getElem?_eq_some_iff.mp hn
      refine ⟨?_, rfl⟩
      rw [outstanding_of_job hlock hj, List.drop_eq_getElem_cons hlt,
        outstanding_of_job (s := s.next (.notify j job index (job.announce s.notifications[index])))
          hlock (Function.update_self ..)]
      rfl
  | finish j job index =>
      obtain ⟨hj, hlength⟩ := ha
      have hlock := hexclusive.job j (by rw [hj]; rfl)
      refine ⟨?_, rfl⟩
      rw [outstanding_of_job hlock hj, List.drop_eq_nil_of_le hlength,
        outstanding_of_not_job (by simp [State.next])]
      rfl
  | _ => exact ⟨rfl, rfl⟩

end Outstanding

/-- The lists are the same, and so are the calls once the job inside the lock is through. -/
def Agrees (h : List Action) (s : State) (t : Notifier) : Prop :=
  t.registered = s.notifications ∧ t.heard = callsMade h ++ s.outstanding

/-- Step by step: at a point the atomic object does the same, in between nothing changes. -/
lemma delivery_refines : Refinement system notifier Action.point Agrees where
  init := ⟨rfl, rfl⟩
  hidden := by
    rintro h a t hl ha hpoint ⟨hlist, hheard⟩
    have habsent := fun j => ((numbered_of_legal hl).absent j).mpr
    obtain ⟨hcalls, hsame⟩ := outstanding_next (exclusive_of_legal hl) ha habsent hpoint
    refine ⟨hlist.trans hsame.symm, ?_⟩
    rw [callsMade_append, List.append_assoc, hheard, hcalls]
    rfl
  visible := by
    rintro h a t d hl ha hpoint ⟨hlist, hheard⟩
    cases a with
    | runRequest k kind n status =>
        obtain rfl := Option.some.inj hpoint
        have hlock := (exclusive_of_legal hl).request k (by rw [ha.1]; rfl)
        rw [outstanding_of_not_job (by simp [hlock]), List.append_nil] at hheard
        have hstatus : (kind.body t.registered n).1 = status := by
          rw [hlist]
          exact ha.2
        refine ⟨hstatus, congrArg (fun l => (kind.body l n).2) hlist, ?_⟩
        rw [callsMade_append, outstanding_of_not_job fun j hj => by cases hlock.symm.trans hj]
        show t.heard = _
        simpa [callsMade] using hheard
    | lockJob j job =>
        obtain rfl := Option.some.inj hpoint
        have hfree : (system.exec h).adminLock = none := ha.2
        rw [outstanding_of_not_job (by simp [hfree]), List.append_nil] at hheard
        refine ⟨trivial, hlist, ?_⟩
        have hout : (system.next (system.exec h) (.lockJob j job)).outstanding =
            (system.exec h).notifications.map job.announce := outstanding_lockJob ..
        rw [callsMade_append, hout]
        simp [notifier, hheard, hlist, callsMade]
    | _ => simp [Action.point] at hpoint

/-! ## Before and after -/

/-- What a request has done, by where it is: nothing before it runs, and one thing then. -/
def AtomicRecord (h : List Action) (k : ℕ) : Request → Prop
  | .absent | .called _ _ | .locked _ _ => ∀ x ∈ linearization h, x.actor ≠ .request k
  | .done kind n status | .unlocked kind n status => .request k kind n status ∈ linearization h
  | .returned => True

lemma linearization_append (h h' : List Action) :
    linearization (h ++ h') = linearization h ++ linearization h' := List.filterMap_append ..

lemma AtomicRecord.mono {h : List Action} {k : ℕ} {r : Request} (hr : AtomicRecord h k r)
    {a : Action} (ha : ∀ kind n status, a ≠ .runRequest k kind n status) :
    AtomicRecord (h ++ [a]) k r := by
  have hother : ∀ x ∈ linearization [a], x.actor ≠ .request k := by
    rintro x hx hactor
    cases a with
    | runRequest k' kind n status =>
        obtain rfl : x = .request k' kind n status := by simpa [linearization, Action.point] using hx
        obtain rfl : k' = k := by simpa [Atomic.actor] using hactor
        exact ha kind n status rfl
    | lockJob j job =>
        obtain rfl : x = .broadcast j job := by simpa [linearization, Action.point] using hx
        simp [Atomic.actor] at hactor
    | _ => simp [linearization, Action.point] at hx
  unfold AtomicRecord at hr ⊢
  rw [linearization_append]
  split at hr <;> grind

lemma atomicRecord_of_legal {h : List Action} (hl : system.Legal h) :
    ∀ k, AtomicRecord h k ((system.exec h).requests k) := by
  refine System.invariant (S := system) (I := fun h s => ∀ k, AtomicRecord h k (s.requests k))
    (fun _ => by simp [system, AtomicRecord, linearization]) ?_ hl
  intro h a _ hs ha
  have hupdate : ∀ k₀ r, AtomicRecord (h ++ [a]) k₀ r →
      (∀ k ≠ k₀, ∀ kind n status, a ≠ .runRequest k kind n status) → ∀ k,
      AtomicRecord (h ++ [a]) k (Function.update (system.exec h).requests k₀ r k) :=
    fun k₀ r hr hother => (Function.forall_update_iff _
      fun k r => AtomicRecord (h ++ [a]) k r).mpr ⟨hr, fun k hk => (hs k).mono (hother k hk)⟩
  have hmono : (∀ k kind n status, a ≠ .runRequest k kind n status) →
      ∀ k, AtomicRecord (h ++ [a]) k ((system.exec h).requests k) :=
    fun hother k => (hs k).mono (hother k)
  cases a with
  | call k kind n =>
      have hk : (system.exec h).requests k = .absent := ha
      exact hupdate k _ (hk ▸ hmono (by simp) k :) (by simp)
  | lockRequest k kind n =>
      exact hupdate k _ (ha.1 ▸ hmono (by simp) k :) (by simp)
  | runRequest k kind n status =>
      refine hupdate k _ ?_ (by grind)
      simp [AtomicRecord, linearization, Action.point]
  | unlockRequest k kind n status =>
      have hk : (system.exec h).requests k = .done kind n status := ha
      exact hupdate k _ (hk ▸ hmono (by simp) k :) (by simp)
  | returnRequest k kind n status => exact hupdate k _ trivial (by simp)
  | _ => exact hmono (by simp)

lemma broadcast_mem_linearization {h : List Action} {j : ℕ} {job : Job} :
    .broadcast j job ∈ linearization h ↔ .lockJob j job ∈ h := by
  rw [linearization, List.mem_filterMap]
  constructor
  · rintro ⟨a, ha, hpoint⟩
    cases a with
    | lockJob j' job' =>
        obtain ⟨rfl, rfl⟩ := Atomic.broadcast.inj (Option.some.inj hpoint)
        exact ha
    | _ => simp [Action.point] at hpoint
  · exact fun ha => ⟨_, ha, rfl⟩

/-- The step begins what happens later: a request is called, a worker takes a job. -/
def Action.Begins : Action → Atomic → Prop
  | .call k kind n, .request k' kind' n' _ => k' = k ∧ kind' = kind ∧ n' = n
  | .take j job, .broadcast j' job' => j' = j ∧ job' = job
  | _, _ => False

/-- The step completes what has happened before: a request returns, a job is finished. -/
def Action.Completes : Action → Atomic → Prop
  | .returnRequest k kind n status, .request k' kind' n' status' =>
      k' = k ∧ kind' = kind ∧ n' = n ∧ status' = status
  | .finish j job _, .broadcast j' job' => j' = j ∧ job' = job
  | _, _ => False

/-- What is completed has happened. -/
lemma mem_of_completes {p q : List Action} {a : Action} {x : Atomic}
    (hl : system.Legal (p ++ a :: q)) (hx : a.Completes x) : x ∈ linearization p := by
  have ha := hl.enabled_at
  unfold Action.Completes at hx
  split at hx
  · next k kind n status k' kind' n' status' =>
      obtain ⟨rfl, rfl, rfl, rfl⟩ := hx
      have hk : (system.exec p).requests k' = .unlocked kind' n' status' := ha
      exact (hk ▸ atomicRecord_of_legal hl.prefix k' :)
  · next j job index j' job' =>
      obtain ⟨rfl, rfl⟩ := hx
      have hrecord := jobRecord_of_legal hl.prefix j'
      rw [ha.1] at hrecord
      obtain ⟨p', q', rfl, -⟩ := hrecord
      exact broadcast_mem_linearization.mpr (by simp)
  · exact hx.elim

/-- What begins has not. -/
lemma not_mem_of_begins {p q : List Action} {b : Action} {y : Atomic}
    (hl : system.Legal (p ++ b :: q)) (hy : b.Begins y) : y ∉ linearization p := by
  have hb := hl.enabled_at
  unfold Action.Begins at hy
  split at hy
  · next k kind n k' kind' n' status =>
      obtain ⟨rfl, rfl, rfl⟩ := hy
      have hk : (system.exec p).requests k' = .absent := hb
      have hnone : ∀ x ∈ linearization p, x.actor ≠ .request k' :=
        (hk ▸ atomicRecord_of_legal hl.prefix k' :)
      exact fun hmem => hnone _ hmem rfl
  · next j job j' job' =>
      obtain ⟨rfl, rfl⟩ := hy
      have hj : (system.exec p).jobs j' = .queued job' := hb
      have hrecord := jobRecord_of_legal hl.prefix j'
      rw [hj] at hrecord
      exact fun hmem => hrecord.2.lockJob job' (broadcast_mem_linearization.mp hmem)
  · exact hy.elim

/-- Everybody does one thing. -/
lemma linearization_nodup {h : List Action} (hl : system.Legal h) :
    ((linearization h).map Atomic.actor).Nodup := by
  refine System.invariant (S := system)
    (I := fun h _ => ((linearization h).map Atomic.actor).Nodup) List.nodup_nil ?_ hl
  intro h a hlh hs ha
  have hsnoc : ∀ x : Atomic, (∀ y ∈ linearization h, y.actor ≠ x.actor) →
      ((linearization h ++ [x]).map Atomic.actor).Nodup := by
    intro x hnew
    rw [List.map_append, List.nodup_append]
    refine ⟨hs, List.nodup_singleton _, fun actor hactor actor' hactor' => ?_⟩
    obtain ⟨y, hy, rfl⟩ := List.mem_map.mp hactor
    rw [List.map_singleton, List.mem_singleton] at hactor'
    exact hactor' ▸ hnew y hy
  rw [linearization_append]
  cases a with
  | runRequest k kind n status =>
      have hrecord := atomicRecord_of_legal hlh k
      rw [ha.1] at hrecord
      exact hsnoc _ hrecord
  | lockJob j job =>
      have hrecord := jobRecord_of_legal hlh j
      rw [ha.1] at hrecord
      refine hsnoc (.broadcast j job) fun y hy hactor => ?_
      cases y with
      | request k kind n status => simp [Atomic.actor] at hactor
      | broadcast j' job' =>
          obtain rfl : j' = j := by simpa [Atomic.actor] using hactor
          exact hrecord.2.lockJob job' (broadcast_mem_linearization.mp hy)
  | _ => exact (List.append_nil (linearization h)).symm ▸ hs

/-- What happened in a run is a run of the object in which everything happens at once, in an order
that nobody can tell from the real one. -/
structure Linearizable (h : List Action) : Prop where
  /-- It is one; in particular, each request returned the status it returns there. -/
  legal : notifier.Legal (linearization h)
  /-- It leaves the same list, -/
  registered : (notifier.exec (linearization h)).registered = (system.exec h).notifications
  /-- and the same calls, except that a job inside the lock may have some yet to make. -/
  heard : (notifier.exec (linearization h)).heard = callsMade h ++ (system.exec h).outstanding
  /-- Every request and every job happens at most once, -/
  once : ((linearization h).map Atomic.actor).Nodup
  /-- has happened when it is over, -/
  completed : ∀ a x, a ∈ h → a.Completes x → x ∈ linearization h
  /-- and if it was over before another one began, it happened first. -/
  order : ∀ a b x y, Precedes a b h → a.Completes x → b.Begins y → y ∈ linearization h →
    Precedes x y (linearization h)

/-- **`Register`, `Unregister` and `Dispatch` are linearizable**, in every run of the object. -/
theorem delivery_linearizable {h : List Action} (hl : system.Legal h) : Linearizable h where
  legal := (delivery_refines.run hl).1
  registered := (delivery_refines.run hl).2.1
  heard := (delivery_refines.run hl).2.2
  once := linearization_nodup hl
  completed := by
    intro a x ha hx
    obtain ⟨p, q, rfl⟩ := List.append_of_mem ha
    rw [linearization_append]
    exact List.mem_append_left _ (mem_of_completes hl hx)
  order := by
    rintro a b x y ⟨p, q, r, rfl⟩ hx hy hmem
    have hx' : x ∈ linearization (p ++ a :: q) := by
      rw [linearization_append]
      exact List.mem_append_left _ (mem_of_completes hl.prefix hx)
    rw [linearization_append] at hmem ⊢
    have hy' := (List.mem_append.mp hmem).resolve_left (not_mem_of_begins hl hy)
    obtain ⟨p₁, p₂, hp⟩ := List.append_of_mem hx'
    obtain ⟨r₁, r₂, hr⟩ := List.append_of_mem hy'
    exact ⟨p₁, p₂ ++ r₁, r₂, by rw [hp, hr]; simp⟩

/-- Notification 7 is registered while two workers are at work. -/
theorem delivery_linearizable_sampleDisk :
    Linearizable (comeAndGo ++ dispatchSteps 1 .deviceLeft ++ dispatchSteps 0 .deviceArrived) :=
  delivery_linearizable (by decide)

end Delivery

end Usb
