import Mathlib.Data.List.Nodup
import Mathlib.Logic.Function.Basic
import USBDevicePlugin.Core.Script
import USBDevicePlugin.Core.TransitionSystem

/-!
# Threads and one lock

Programs run by threads of their own, call by call and in any order, on one store.  A program either
never touches the store, or does all its work between taking and releasing a lock that all programs
share.

Such programs do not notice each other.  Each of them does what it does alone, in an environment made
of the outcomes it met; and those that take the lock leave the store as if they had run one after the
other, in the order in which they took it.

* `Mutex`, `critical`, `Guarded` — the lock, a program under it, and what is asked of a program.
* `system` — the threads.
* `Serial` — one after the other.
* **`serialized_of_legal`** — the invariant; `serial_of_legal` is what it says while the lock is free.
* **`callsOf_prefix`** — what one thread is seen to do.
* **`lockOrder_of_precedes`** — a thread that returned before another one started comes first.
-/

namespace Threads

open Interaction TransitionSystem

variable {ι Ω κ σ α : Type}

/-! ## The programs -/

/-- The two calls that take and release the lock. -/
structure Mutex (κ : Type) where
  acquire : κ
  release : κ
  ne : acquire ≠ release

/-- A call that has nothing to do with the lock. -/
def Mutex.Inside (m : Mutex κ) : Script.CallSpec Ω κ σ :=
  fun _ _ record _ => ∀ b, record b ≠ m.acquire ∧ record b ≠ m.release

/-- One that has nothing to do with the store either. -/
def Mutex.Outside (m : Mutex κ) : Script.CallSpec Ω κ σ :=
  fun _ answer record effect =>
    (∀ b, record b ≠ m.acquire ∧ record b ≠ m.release) ∧
      (∀ s s' o, answer s o = answer s' o) ∧ ∀ b s, effect b s = s

lemma Mutex.Outside.inside {m : Mutex κ} (β : Type) (answer : σ → Ω → β) (record : β → κ)
    (effect : β → σ → σ) (h : m.Outside β answer record effect) :
    m.Inside β answer record effect := h.1

lemma Mutex.Outside.keeps {m : Mutex κ} (β : Type) (answer : σ → Ω → β) (record : β → κ)
    (effect : β → σ → σ) (h : m.Outside β answer record effect) : ∀ b s, effect b s = s := h.2.2

/-- A call that only tells the environment something. -/
def signal (c : κ) (rest : Script Ω κ σ α) : Script Ω κ σ α :=
  .call (fun _ _ => PUnit.unit) (fun _ => c) (fun _ s => s) fun _ => rest

/-- The end of a critical section. -/
def leave (m : Mutex κ) (a : α) : Script Ω κ σ α := signal m.release (.done a)

/-- A program under the lock. -/
def critical (m : Mutex κ) (body : Script Ω κ σ α) : Script Ω κ σ α :=
  signal m.acquire (body.bind (leave m))

/-- The program leaves the store alone, or works under the lock. -/
inductive Guarded (m : Mutex κ) : Script Ω κ σ α → Prop
  | outside {sc : Script Ω κ σ α} (h : sc.All m.Outside) : Guarded m sc
  | critical {body : Script Ω κ σ α} (h : body.All m.Inside) : Guarded m (critical m body)

lemma critical_prog (m : Mutex κ) (body : Script Ω κ σ α) (env : ℕ → Ω) :
    (critical m body).prog env = (do
      Prog.tell m.acquire
      let a ← body.prog env
      Prog.tell m.release
      pure a) := by
  refine congrArg Prog.mk (funext fun t => funext fun s => ?_)
  simp only [Script.prog, Script.prog_bind, leave, signal, Prog.bind_run, Prog.tell_run,
    Prog.pure_run, List.length_singleton, List.singleton_append, List.append_nil]

/-- A script of this kind for a program that may ask its environment. -/
structure Sheltered (m : Mutex κ) (f : (ℕ → Ω) → Prog κ σ α) where
  script : Script Ω κ σ α
  prog_eq : ∀ env, f env = script.prog env
  guarded : Guarded m script

namespace Sheltered

variable {m : Mutex κ} {f : (ℕ → Ω) → Prog κ σ α}

def outside (h : Scripted m.Outside f) : Sheltered m f := ⟨h.script, h.prog_eq, .outside h.all⟩

def congr {g : (ℕ → Ω) → Prog κ σ α} (h : ∀ env, f env = g env) (hg : Sheltered m g) :
    Sheltered m f :=
  ⟨hg.script, fun env => (h env).trans (hg.prog_eq env), hg.guarded⟩

/-- A program under the lock; what it yields may be looked at before the lock is released. -/
def critical {β : Type} (h : Scripted m.Inside f) (g : α → β) :
    Sheltered m fun env => (do
      Prog.tell m.acquire
      let a ← f env
      Prog.tell m.release
      pure (g a)) where
  script := Threads.critical m (h.script.bind fun a => .done (g a))
  prog_eq env := by
    rw [critical_prog, h.prog_eq]
    refine congrArg Prog.mk (funext fun t => funext fun s => ?_)
    simp only [Script.prog_bind, Prog.bind_run, Prog.tell_run, Prog.pure_run, Script.prog,
      List.length_singleton, List.append_nil]
  guarded := .critical (h.all.bind fun _ => trivial)

end Sheltered

/-! ## The threads -/

/-- A thread: what is left of its program, or what it returned. -/
inductive Thread (Ω κ σ α : Type) : Type 1
  | absent
  | running (rest : Script Ω κ σ α)
  | returned (value : α)

/-- The call a thread makes next, against an outcome. -/
def Thread.record (store : σ) (o : Ω) : Thread Ω κ σ α → Option κ
  | .running (.call answer record _ _) => some (record (answer store o))
  | _ => none

/-- The value with which its program is over. -/
def Thread.value : Thread Ω κ σ α → Option α
  | .running (.done a) => some a
  | _ => none

/-- What it returned, or is about to. -/
def Thread.result : Thread Ω κ σ α → Option α
  | .running (.done a) => some a
  | .returned a => some a
  | _ => none

structure State (Ω κ σ α : Type) : Type 1 where
  store : σ
  lock : Option ℕ
  threads : ℕ → Thread Ω κ σ α

/-- A thread starts one of the programs, makes its next call, or returns.  The outcome of a call is
part of the step. -/
inductive Action (ι Ω κ α : Type)
  | start (i : ℕ) (op : ι)
  | call (i : ℕ) (outcome : Ω) (record : κ)
  | finish (i : ℕ) (value : α)

namespace State

/-- When a step may be taken: the lock is taken by one thread at a time. -/
def Enabled (m : Mutex κ) (s : State Ω κ σ α) : Action ι Ω κ α → Prop
  | .start i _ => match s.threads i with
    | .absent => True
    | _ => False
  | .call i o c => (s.threads i).record s.store o = some c ∧ (c = m.acquire → s.lock = none)
  | .finish i a => (s.threads i).value = some a

/-- What a step does. -/
def next [DecidableEq κ] (m : Mutex κ) (program : ι → Script Ω κ σ α) (s : State Ω κ σ α) :
    Action ι Ω κ α → State Ω κ σ α
  | .start i op => { s with threads := Function.update s.threads i (.running (program op)) }
  | .call i o c =>
      match s.threads i with
      | .running (.call answer _ effect next) =>
          { store := effect (answer s.store o) s.store
            lock := if c = m.acquire then some i else if c = m.release then none else s.lock
            threads := Function.update s.threads i (.running (next (answer s.store o))) }
      | _ => s
  | .finish i a => { s with threads := Function.update s.threads i (.returned a) }

end State

lemma State.absent_of_enabled (m : Mutex κ) {st : State Ω κ σ α} {i : ℕ} (op : ι)
    (hen : st.Enabled m (.start i op : Action ι Ω κ α)) : st.threads i = .absent := by
  cases hi : st.threads i with
  | absent => rfl
  | _ => simp [State.Enabled, hi] at hen

variable [DecidableEq κ]

/-- The threads, none of which has started. -/
def system (m : Mutex κ) (program : ι → Script Ω κ σ α) (init : σ) :
    System (State Ω κ σ α) (Action ι Ω κ α) where
  init := { store := init, lock := none, threads := fun _ => .absent }
  Enabled := State.Enabled m
  next := State.next m program

instance [DecidableEq α] (m : Mutex κ) (program : ι → Script Ω κ σ α) (init : σ)
    (s : State Ω κ σ α) : ∀ a : Action ι Ω κ α, Decidable ((system m program init).Enabled s a)
  | .start i _ => match h : s.threads i with
    | .absent => isTrue (by simp [system, State.Enabled, h])
    | .running _ => isFalse (by simp [system, State.Enabled, h])
    | .returned _ => isFalse (by simp [system, State.Enabled, h])
  | .call .. => inferInstanceAs (Decidable (_ ∧ _))
  | .finish .. => inferInstanceAs (Decidable (_ = _))

/-! ## What a schedule says -/

/-- The outcomes a thread has met. -/
def outcomesOf (i : ℕ) (h : List (Action ι Ω κ α)) : List Ω :=
  h.filterMap fun
    | .call j o _ => if j = i then some o else none
    | _ => none

/-- The calls it has made. -/
def callsOf (i : ℕ) (h : List (Action ι Ω κ α)) : List κ :=
  h.filterMap fun
    | .call j _ c => if j = i then some c else none
    | _ => none

/-- The threads that have taken the lock, in this order. -/
def lockOrder (m : Mutex κ) (h : List (Action ι Ω κ α)) : List ℕ :=
  h.filterMap fun
    | .call i _ c => if c = m.acquire then some i else none
    | _ => none

/-- The program a thread was started on. -/
def StartedAs (h : List (Action ι Ω κ α)) (i : ℕ) (op : ι) : Prop :=
  .start i op ∈ h ∧ ∀ op', .start i op' ∈ h → op' = op

/-- The program a thread was started on, if it was. -/
def opOf (i : ℕ) (h : List (Action ι Ω κ α)) : Option ι :=
  h.findSome? fun
    | .start j op => if j = i then some op else none
    | _ => none

omit [DecidableEq κ] in
lemma StartedAs.opOf_eq {h : List (Action ι Ω κ α)} {i : ℕ} {op : ι} (hop : StartedAs h i op) :
    opOf i h = some op := by
  obtain ⟨op', hop'⟩ : ∃ op', opOf i h = some op' := by
    rw [← Option.isSome_iff_exists, opOf, List.findSome?_isSome_iff]
    exact ⟨_, hop.1, by simp⟩
  obtain ⟨a, ha, hstart⟩ := List.exists_of_findSome?_eq_some hop'
  rw [hop']
  cases a with
  | start j op'' =>
      obtain ⟨rfl, rfl⟩ : j = i ∧ op'' = op' := by simpa using hstart
      rw [hop.2 _ ha]
  | _ => simp at hstart

omit [DecidableEq κ] in
lemma callsOf_append (i : ℕ) (h h' : List (Action ι Ω κ α)) :
    callsOf i (h ++ h') = callsOf i h ++ callsOf i h' := List.filterMap_append ..

lemma lockOrder_append (m : Mutex κ) (h h' : List (Action ι Ω κ α)) :
    lockOrder m (h ++ h') = lockOrder m h ++ lockOrder m h' := List.filterMap_append ..

lemma mem_callsOf_of_mem_lockOrder {m : Mutex κ} {h : List (Action ι Ω κ α)} {i : ℕ}
    (hi : i ∈ lockOrder m h) : m.acquire ∈ callsOf i h := by
  obtain ⟨a, ha, hlock⟩ := List.mem_filterMap.mp hi
  cases a with
  | call j o c =>
      obtain ⟨rfl, rfl⟩ : c = m.acquire ∧ j = i := by simpa using hlock
      exact List.mem_filterMap.mpr ⟨_, ha, by simp⟩
  | _ => simp at hlock

/-- The step is none of the thread's. -/
def Foreign (a : Action ι Ω κ α) (i : ℕ) : Prop :=
  match a with
  | .start j _ => j ≠ i
  | .call j _ _ => j ≠ i
  | .finish j _ => j ≠ i

omit [DecidableEq κ] in
lemma Foreign.outcomesOf_eq {a : Action ι Ω κ α} {i : ℕ} (ha : Foreign a i)
    (h : List (Action ι Ω κ α)) : outcomesOf i (h ++ [a]) = outcomesOf i h := by
  cases a <;> simp_all [outcomesOf, Foreign]

omit [DecidableEq κ] in
lemma Foreign.callsOf_eq {a : Action ι Ω κ α} {i : ℕ} (ha : Foreign a i)
    (h : List (Action ι Ω κ α)) : callsOf i (h ++ [a]) = callsOf i h := by
  cases a <;> simp_all [callsOf, Foreign]

omit [DecidableEq κ] in
lemma StartedAs.snoc {h : List (Action ι Ω κ α)} {i : ℕ} {op : ι} (hs : StartedAs h i op)
    {a : Action ι Ω κ α} (ha : ∀ op', a ≠ .start i op') : StartedAs (h ++ [a]) i op := by
  refine ⟨List.mem_append_left _ hs.1, fun op' hop' => hs.2 op' ?_⟩
  rcases List.mem_append.mp hop' with hmem | hmem
  · exact hmem
  · exact absurd (List.mem_singleton.mp hmem).symm (ha op')

omit [DecidableEq κ] in
lemma Foreign.ne_start {a : Action ι Ω κ α} {i : ℕ} (ha : Foreign a i) (op : ι) :
    a ≠ .start i op := by
  rintro rfl
  exact ha rfl

lemma Foreign.threads_eq {a : Action ι Ω κ α} {i : ℕ} (ha : Foreign a i) (m : Mutex κ)
    (program : ι → Script Ω κ σ α) (s : State Ω κ σ α) :
    (s.next m program a).threads i = s.threads i := by
  cases a with
  | start j op => exact Function.update_of_ne (Ne.symm ha) ..
  | call j o c =>
      simp only [State.next]
      split
      · exact Function.update_of_ne (Ne.symm ha) ..
      · rfl
  | finish j v => exact Function.update_of_ne (Ne.symm ha) ..

/-! ## One after the other -/

/-- Steps of the store, one for each element of the list. -/
inductive Serial (step : ℕ → σ → σ → Prop) (init : σ) : List ℕ → σ → Prop
  | nil : Serial step init [] init
  | snoc {l : List ℕ} {s s' : σ} {i : ℕ} (h : Serial step init l s) (hi : step i s s') :
      Serial step init (l ++ [i]) s'

omit [DecidableEq κ] in
lemma Serial.mono {step step' : ℕ → σ → σ → Prop} {init s : σ} {l : List ℕ}
    (h : Serial step init l s) (hstep : ∀ i ∈ l, ∀ s s', step i s s' → step' i s s') :
    Serial step' init l s := by
  induction h with
  | nil => exact .nil
  | snoc _ hi ih =>
      refine .snoc (ih fun j hj => hstep j (List.mem_append_left _ hj)) ?_
      exact hstep _ (List.mem_append_right _ (List.mem_singleton.mpr rfl)) _ _ hi

omit [DecidableEq κ] in
lemma Serial.exists_of_mem {step : ℕ → σ → σ → Prop} {init s : σ} {l : List ℕ}
    (h : Serial step init l s) {i : ℕ} (hi : i ∈ l) : ∃ s s', step i s s' := by
  induction h with
  | nil => simp at hi
  | snoc _ hlast ih =>
      rcases List.mem_append.mp hi with hi | hi
      · exact ih hi
      · obtain rfl := List.mem_singleton.mp hi
        exact ⟨_, _, hlast⟩

/-! ## What is known of a thread -/

section Known

variable (m : Mutex κ) (program : ι → Script Ω κ σ α) (h : List (Action ι Ω κ α))

/-- A thread without the lock has not begun its work, or has no use for the lock; a program of this
kind runs alike on every store. -/
inductive Unlocked (i : ℕ) : Thread Ω κ σ α → Prop
  | absent (hstart : ∀ op, .start i op ∉ h) (hout : outcomesOf i h = [])
      (hcalls : callsOf i h = []) : Unlocked i .absent
  | waiting {op : ι} {body : Script Ω κ σ α} (hop : StartedAs h i op)
      (hprogram : program op = critical m body) (hbody : body.All m.Inside)
      (hout : outcomesOf i h = []) (hcalls : callsOf i h = []) :
      Unlocked i (.running (critical m body))
  | outside {op : ι} {rest : Script Ω κ σ α} (hop : StartedAs h i op) (hrest : rest.All m.Outside)
      (hplays : ∀ s, Plays (program op) s (outcomesOf i h) rest (callsOf i h) s) :
      Unlocked i (.running rest)
  | ended {op : ι} {a : α} (hop : StartedAs h i op)
      (hplays : ∀ s, Plays (program op) s (outcomesOf i h) (.done a) (callsOf i h) s) :
      Unlocked i (.returned a)

/-- A thread ran alone: its program turns the store `s` into `s'` against the outcomes it met, and
it is over. -/
def Ran (threads : ℕ → Thread Ω κ σ α) (i : ℕ) (s s' : σ) : Prop :=
  ∃ op a, StartedAs h i op ∧
    Plays (program op) s (outcomesOf i h) (.done a) (callsOf i h) s' ∧
      (threads i = .running (.done a) ∨ threads i = .returned a)

omit [DecidableEq κ] in
/-- Said of the program instead of the script: this is how it runs alone. -/
lemma Ran.run {program : ι → Script Ω κ σ α} {h : List (Action ι Ω κ α)}
    {threads : ℕ → Thread Ω κ σ α} {i : ℕ} {s s' : σ} (hi : Ran program h threads i s s') :
    ∃ op a, StartedAs h i op ∧ (threads i).result = some a ∧
      ∀ env, Meets env 0 (outcomesOf i h) →
        ((program op).prog env).run 0 s = ⟨a, callsOf i h, s'⟩ := by
  obtain ⟨op, a, hop, hplays, hover⟩ := hi
  refine ⟨op, a, hop, by rcases hover with hover | hover <;> rw [hover, Thread.result], ?_⟩
  intro env hmeets
  simpa [Script.prog] using hplays.run hmeets

/-- A thread took the lock when the store was `s₀`, and still has it. -/
def Owns (st : State Ω κ σ α) (i : ℕ) (s₀ : σ) : Prop :=
  ∃ (op : ι) (body : Script Ω κ σ α), StartedAs h i op ∧ body.All m.Inside ∧
    st.threads i = .running (body.bind (leave m)) ∧
    Plays (program op) s₀ (outcomesOf i h) (body.bind (leave m)) (callsOf i h) st.store

end Known

section Steps

variable {m : Mutex κ} {program : ι → Script Ω κ σ α} {h : List (Action ι Ω κ α)}
  {a : Action ι Ω κ α} {i : ℕ}

/-! ## Other threads' steps -/

omit [DecidableEq κ] in
lemma Unlocked.foreign (ha : Foreign a i) {th : Thread Ω κ σ α}
    (hi : Unlocked m program h i th) : Unlocked m program (h ++ [a]) i th := by
  cases hi with
  | absent hstart hout hcalls =>
      refine .absent (fun op hop => ?_) (by rwa [ha.outcomesOf_eq]) (by rwa [ha.callsOf_eq])
      rcases List.mem_append.mp hop with hop | hop
      · exact hstart op hop
      · exact ha.ne_start op (List.mem_singleton.mp hop).symm
  | waiting hop hprogram hbody hout hcalls =>
      exact .waiting (hop.snoc ha.ne_start) hprogram hbody (by rwa [ha.outcomesOf_eq])
        (by rwa [ha.callsOf_eq])
  | outside hop hrest hplays =>
      refine .outside (hop.snoc ha.ne_start) hrest ?_
      rwa [ha.outcomesOf_eq, ha.callsOf_eq]
  | ended hop hplays =>
      refine .ended (hop.snoc ha.ne_start) ?_
      rwa [ha.outcomesOf_eq, ha.callsOf_eq]

lemma Owns.foreign (ha : Foreign a i) {st : State Ω κ σ α} {s₀ : σ} (hi : Owns m program h st i s₀)
    (hstore : (st.next m program a).store = st.store) :
    Owns m program (h ++ [a]) (st.next m program a) i s₀ := by
  obtain ⟨op, body, hop, hbody, hrest, hplays⟩ := hi
  refine ⟨op, body, hop.snoc ha.ne_start, hbody, (ha.threads_eq m program st).trans hrest, ?_⟩
  rwa [ha.outcomesOf_eq, ha.callsOf_eq, hstore]

/-- A thread that ran is through, whatever happens next: all it can still do is return. -/
lemma Ran.step {st : State Ω κ σ α} {s s' : σ} (hen : st.Enabled m a)
    (hi : Ran program h st.threads i s s') :
    Ran program (h ++ [a]) (st.next m program a).threads i s s' := by
  obtain ⟨op, v, hop, hplays, hover⟩ := hi
  by_cases ha : Foreign a i
  · refine ⟨op, v, hop.snoc ha.ne_start, ?_, ?_⟩
    · rwa [ha.outcomesOf_eq, ha.callsOf_eq]
    · rwa [ha.threads_eq]
  · cases a with
    | start j op' =>
        obtain rfl : j = i := not_not.mp ha
        rcases hover with hover | hover <;> simp [State.Enabled, hover] at hen
    | call j o c =>
        obtain rfl : j = i := not_not.mp ha
        rcases hover with hover | hover <;> simp [State.Enabled, Thread.record, hover] at hen
    | finish j v' =>
        obtain rfl : j = i := not_not.mp ha
        rcases hover with hover | hover
        · obtain rfl : v = v' := by simpa [State.Enabled, Thread.value, hover] using hen
          refine ⟨op, v, hop.snoc (by simp), ?_, Or.inr (by simp [State.next])⟩
          simpa [outcomesOf, callsOf] using hplays
        · simp [State.Enabled, Thread.value, hover] at hen

omit [DecidableEq κ] in
/-- It has started, and makes no more calls. -/
lemma Ran.ended {st : State Ω κ σ α} {s s' : σ} (hi : Ran program h st.threads i s s') :
    (∀ o c, ¬ (st.threads i).record st.store o = some c) ∧ st.threads i ≠ .absent := by
  obtain ⟨op, v, -, -, hover | hover⟩ := hi <;> simp [hover, Thread.record]

end Steps

/-! ## The invariant -/

/-- Up to here the threads with the lock ran one after the other, except that the last of them may
still be at it; the other threads have left the store alone. -/
structure Serialized (m : Mutex κ) (program : ι → Script Ω κ σ α) (init : σ)
    (h : List (Action ι Ω κ α)) (st : State Ω κ σ α) : Prop where
  unlocked : ∀ i, i ∉ lockOrder m h → Unlocked m program h i (st.threads i)
  nodup : (lockOrder m h).Nodup
  free : st.lock = none → Serial (Ran program h st.threads) init (lockOrder m h) st.store
  held : ∀ i, st.lock = some i → ∃ l s₀, lockOrder m h = l ++ [i] ∧
    Serial (Ran program h st.threads) init l s₀ ∧ Owns m program h st i s₀

section Serialized

variable {m : Mutex κ} {program : ι → Script Ω κ σ α} {init : σ} {h : List (Action ι Ω κ α)}
  {st : State Ω κ σ α} {i : ℕ}

omit [DecidableEq κ] in
lemma Owns.running {s₀ : σ} (hi : Owns m program h st i s₀) :
    ∃ rest, st.threads i = .running rest ∧ ∀ a, rest ≠ .done a := by
  obtain ⟨op, body, -, -, hrest, -⟩ := hi
  exact ⟨_, hrest, by cases body <;> simp [Script.bind, leave, signal]⟩

omit [DecidableEq κ] in
lemma Owns.result {s₀ : σ} (hi : Owns m program h st i s₀) : (st.threads i).result = none := by
  obtain ⟨rest, hrest, hne⟩ := hi.running
  cases rest with
  | done a => exact absurd rfl (hne a)
  | call _ _ _ _ => simp [hrest, Thread.result]

/-- A thread that starts has not taken the lock before. -/
lemma Serialized.not_mem_of_absent (inv : Serialized m program init h st)
    (hi : st.threads i = .absent) : i ∉ lockOrder m h := by
  intro hmem
  cases hlock : st.lock with
  | none =>
      obtain ⟨s, s', hran⟩ := (inv.free hlock).exists_of_mem hmem
      exact hran.ended.2 hi
  | some j =>
      obtain ⟨l, s₀, hl, hserial, howns⟩ := inv.held j hlock
      rw [hl, List.mem_append, List.mem_singleton] at hmem
      rcases hmem with hmem | rfl
      · obtain ⟨s, s', hran⟩ := hserial.exists_of_mem hmem
        exact hran.ended.2 hi
      · obtain ⟨rest, hrest, -⟩ := howns.running
        simp [hi] at hrest

/-- A thread that makes a call is the one inside, if it has taken the lock at all. -/
lemma Serialized.owner_of_record (inv : Serialized m program init h st) {o : Ω} {c : κ}
    (hi : (st.threads i).record st.store o = some c) (hmem : i ∈ lockOrder m h) :
    st.lock = some i := by
  cases hlock : st.lock with
  | none =>
      obtain ⟨s, s', hran⟩ := (inv.free hlock).exists_of_mem hmem
      exact absurd hi (hran.ended.1 o c)
  | some j =>
      obtain ⟨l, s₀, hl, hserial, -⟩ := inv.held j hlock
      rw [hl, List.mem_append, List.mem_singleton] at hmem
      rcases hmem with hmem | rfl
      · obtain ⟨s, s', hran⟩ := hserial.exists_of_mem hmem
        exact absurd hi (hran.ended.1 o c)
      · rfl

/-- The one inside does not return. -/
lemma Serialized.ne_owner_of_value (inv : Serialized m program init h st) {a : α}
    (hi : (st.threads i).value = some a) : st.lock ≠ some i := by
  intro hlock
  obtain ⟨l, s₀, -, -, howns⟩ := inv.held i hlock
  obtain ⟨rest, hrest, hne⟩ := howns.running
  cases rest with
  | done a' => exact hne a' rfl
  | call _ _ _ _ => simp [Thread.value, hrest] at hi

/-- What came before the present owner stays. -/
lemma Serial.step {a : Action ι Ω κ α} (hen : st.Enabled m a) {l : List ℕ} {s : σ}
    (hserial : Serial (Ran program h st.threads) init l s) :
    Serial (Ran program (h ++ [a]) (st.next m program a).threads) init l s :=
  hserial.mono fun _ _ _ _ hran => hran.step hen

lemma serialized_init (m : Mutex κ) (program : ι → Script Ω κ σ α) (init : σ) :
    Serialized m program init ([] : List (Action ι Ω κ α)) (system m program init).init where
  unlocked _ _ := .absent (by simp) rfl rfl
  nodup := List.nodup_nil
  free _ := .nil
  held i hlock := by simp [system] at hlock

/-- A step that neither takes nor releases the lock, nor changes the store. -/
lemma Serialized.of_quiet (inv : Serialized m program init h st) {a : Action ι Ω κ α}
    (hen : st.Enabled m a) (horder : lockOrder m (h ++ [a]) = lockOrder m h)
    (hstore : (st.next m program a).store = st.store)
    (hlock : (st.next m program a).lock = st.lock)
    (howner : ∀ i, st.lock = some i → Foreign a i)
    (hself : ∀ i, ¬ Foreign a i → i ∉ lockOrder m h →
      Unlocked m program (h ++ [a]) i ((st.next m program a).threads i)) :
    Serialized m program init (h ++ [a]) (st.next m program a) where
  unlocked i hi := by
    rw [horder] at hi
    by_cases ha : Foreign a i
    · rw [ha.threads_eq]
      exact (inv.unlocked i hi).foreign ha
    · exact hself i ha hi
  nodup := horder ▸ inv.nodup
  free hfree := by
    rw [horder, hstore]
    exact (inv.free (hlock ▸ hfree)).step hen
  held i hi := by
    rw [hlock] at hi
    obtain ⟨l, s₀, hl, hserial, howns⟩ := inv.held i hi
    exact ⟨l, s₀, horder.trans hl, hserial.step hen, howns.foreign (howner i hi) hstore⟩

/-! ## One step -/

omit [DecidableEq κ] in
lemma not_foreign_start {op : ι} {j : ℕ} : ¬ Foreign (.start i op : Action ι Ω κ α) j ↔ i = j :=
  not_not

omit [DecidableEq κ] in
lemma not_foreign_call {o : Ω} {c : κ} {j : ℕ} :
    ¬ Foreign (.call i o c : Action ι Ω κ α) j ↔ i = j := not_not

omit [DecidableEq κ] in
lemma not_foreign_finish {a : α} {j : ℕ} :
    ¬ Foreign (.finish i a : Action ι Ω κ α) j ↔ i = j := not_not

lemma Serialized.start (hguarded : ∀ op, Guarded m (program op))
    (inv : Serialized m program init h st) {op : ι} (hen : st.Enabled m (.start i op : Action ι Ω κ α)) :
    Serialized m program init (h ++ [.start i op]) (st.next m program (.start i op)) := by
  have habsent := State.absent_of_enabled m op hen
  have hnot := inv.not_mem_of_absent habsent
  refine inv.of_quiet hen (by simp [lockOrder]) rfl rfl ?_ ?_
  · rintro j hlock rfl
    obtain ⟨l, s₀, hl, -⟩ := inv.held _ hlock
    exact hnot (by simp [hl])
  · intro j hj _
    obtain rfl := not_foreign_start.mp hj
    have hbefore := inv.unlocked i hnot
    rw [habsent] at hbefore
    cases hbefore with
    | absent hstart hout hcalls =>
        have hop : StartedAs (h ++ [.start i op]) i op := by
          refine ⟨by simp, fun op' hop' => ?_⟩
          rcases List.mem_append.mp hop' with hop' | hop'
          · exact absurd hop' (hstart op')
          · exact (Action.start.inj (List.mem_singleton.mp hop')).2
        have hout' : outcomesOf i (h ++ [.start i op]) = [] := by simpa [outcomesOf] using hout
        have hcalls' : callsOf i (h ++ [.start i op]) = [] := by simpa [callsOf] using hcalls
        have hguard := hguarded op
        simp only [State.next, Function.update_self]
        generalize hprogram : program op = sc at hguard
        cases hguard with
        | outside hall =>
            refine .outside hop hall fun s => ?_
            rw [hout', hcalls', hprogram]
            exact .start
        | critical hbody => exact .waiting hop hprogram hbody hout' hcalls'

lemma Serialized.finish (inv : Serialized m program init h st) {a : α}
    (hen : st.Enabled m (.finish i a : Action ι Ω κ α)) :
    Serialized m program init (h ++ [.finish i a]) (st.next m program (.finish i a)) := by
  have hvalue : (st.threads i).value = some a := hen
  have hnot := inv.ne_owner_of_value hvalue
  refine inv.of_quiet hen (by simp [lockOrder]) rfl rfl ?_ ?_
  · rintro j hlock rfl
    exact hnot hlock
  · intro j hj hmem
    obtain rfl := not_foreign_finish.mp hj
    have hbefore := inv.unlocked i hmem
    simp only [State.next, Function.update_self]
    generalize st.threads i = th at hvalue hbefore
    cases hbefore with
    | absent hstart hout hcalls => simp [Thread.value] at hvalue
    | waiting hop hprogram hbody hout hcalls => simp [Thread.value, critical, signal] at hvalue
    | ended hop hplays => simp [Thread.value] at hvalue
    | @outside op rest hop hrest hplays =>
        obtain rfl : rest = .done a := by
          cases rest <;> simp [Thread.value] at hvalue
          rw [hvalue]
        refine .ended (hop.snoc (by simp)) fun s => ?_
        simpa [outcomesOf, callsOf] using hplays s

section Call

variable {β : Type} {answer : σ → Ω → β} {record : β → κ} {effect : β → σ → σ}
  {next : β → Script Ω κ σ α} {o : Ω}

lemma State.next_call (hi : st.threads i = .running (.call answer record effect next)) :
    st.next m program (.call i o (record (answer st.store o))) =
      { store := effect (answer st.store o) st.store
        lock := if record (answer st.store o) = m.acquire then some i
          else if record (answer st.store o) = m.release then none else st.lock
        threads := Function.update st.threads i (.running (next (answer st.store o))) } := by
  simp only [State.next, hi]

omit [DecidableEq κ] in
lemma outcomesOf_call (c : κ) :
    outcomesOf i (h ++ [.call i o c]) = outcomesOf i h ++ [o] := by simp [outcomesOf]

omit [DecidableEq κ] in
lemma callsOf_call (c : κ) : callsOf i (h ++ [.call i o c]) = callsOf i h ++ [c] := by
  simp [callsOf]

lemma lockOrder_call (c : κ) : lockOrder m (h ++ [.call i o c]) =
    lockOrder m h ++ if c = m.acquire then [i] else [] := by
  by_cases hc : c = m.acquire <;> simp [lockOrder, hc]

/-- Other threads, in a step of `i` that is a call. -/
lemma Serialized.unlocked_of_call (inv : Serialized m program init h st) {c : κ} {j : ℕ}
    (hj : j ≠ i) (hmem : j ∉ lockOrder m h) :
    Unlocked m program (h ++ [.call i o c]) j ((st.next m program (.call i o c)).threads j) := by
  have ha : Foreign (.call i o c : Action ι Ω κ α) j := Ne.symm hj
  rw [ha.threads_eq]
  exact (inv.unlocked j hmem).foreign ha

/-- A call that has nothing to do with lock and store. -/
lemma Serialized.outside (inv : Serialized m program init h st) {op : ι}
    (hen : st.Enabled m (.call i o (record (answer st.store o)) : Action ι Ω κ α))
    (hi : st.threads i = .running (.call answer record effect next)) (hop : StartedAs h i op)
    (hmem : i ∉ lockOrder m h) (hrest : (Script.call answer record effect next).All m.Outside)
    (hplays : ∀ s, Plays (program op) s (outcomesOf i h) (.call answer record effect next)
      (callsOf i h) s) :
    Serialized m program init (h ++ [.call i o (record (answer st.store o))])
      (st.next m program (.call i o (record (answer st.store o)))) := by
  obtain ⟨⟨hne, hsame, hkeep⟩, hnext⟩ := hrest
  obtain ⟨hacquire, hrelease⟩ := hne (answer st.store o)
  refine inv.of_quiet hen ?_ ?_ ?_ ?_ ?_
  · simp [lockOrder_call, hacquire]
  · simp [State.next_call hi, hkeep]
  · simp [State.next_call hi, hacquire, hrelease]
  · rintro j hlock rfl
    obtain ⟨l, s₀, hl, -⟩ := inv.held _ hlock
    exact hmem (by simp [hl])
  · intro j hj _
    obtain rfl := not_foreign_call.mp hj
    rw [State.next_call hi]
    simp only [Function.update_self]
    refine .outside (hop.snoc (by simp)) (hnext _) fun s => ?_
    rw [outcomesOf_call, callsOf_call, hsame st.store s o]
    have hcall := (hplays s).call o
    rwa [hkeep] at hcall

/-- The lock is taken. -/
lemma Serialized.acquire (inv : Serialized m program init h st) {op : ι} {body : Script Ω κ σ α}
    (hfree : st.lock = none) (hi : st.threads i = .running (critical m body))
    (hop : StartedAs h i op) (hprogram : program op = critical m body)
    (hbody : body.All m.Inside) (hmem : i ∉ lockOrder m h) (hout : outcomesOf i h = [])
    (hcalls : callsOf i h = []) (hen : st.Enabled m (.call i o m.acquire : Action ι Ω κ α)) :
    Serialized m program init (h ++ [.call i o m.acquire])
      (st.next m program (.call i o m.acquire)) := by
  have hnext : st.next m program (.call i o m.acquire) =
      { store := st.store, lock := some i
        threads := Function.update st.threads i (.running (body.bind (leave m))) } := by
    rw [critical, signal] at hi
    exact (State.next_call hi).trans (by simp)
  have horder : lockOrder m (h ++ [.call i o m.acquire]) = lockOrder m h ++ [i] := by
    simp [lockOrder_call]
  refine ⟨fun j hj => ?_, ?_, fun hlock => ?_, fun j hj => ?_⟩
  · simp only [horder, List.mem_append, List.mem_singleton, not_or] at hj
    exact inv.unlocked_of_call hj.2 hj.1
  · rw [horder]
    exact List.nodup_append.mpr ⟨inv.nodup, List.nodup_singleton i, by
      rintro j hj k hk rfl
      exact hmem (List.mem_singleton.mp hk ▸ hj)⟩
  · simp [hnext] at hlock
  · obtain rfl : i = j := by simpa [hnext] using hj
    refine ⟨lockOrder m h, st.store, horder, (inv.free hfree).step hen, op, body,
      hop.snoc (by simp), hbody, by simp [hnext], ?_⟩
    rw [outcomesOf_call, callsOf_call, hout, hcalls, hprogram, hnext]
    have hstart : Plays (critical m body) st.store [] (critical m body) [] st.store := .start
    exact hstart.call o

/-- The thread with the lock goes on. -/
lemma Serialized.inside (inv : Serialized m program init h st) {op : ι} {body' : β → Script Ω κ σ α}
    (hlock : st.lock = some i) (hop : StartedAs h i op)
    (hbody : (Script.call answer record effect body').All m.Inside)
    (hi : st.threads i = .running ((Script.call answer record effect body').bind (leave m)))
    {l : List ℕ} {s₀ : σ} (hl : lockOrder m h = l ++ [i])
    (hserial : Serial (Ran program h st.threads) init l s₀)
    (hplays : Plays (program op) s₀ (outcomesOf i h)
      ((Script.call answer record effect body').bind (leave m)) (callsOf i h) st.store)
    (hen : st.Enabled m (.call i o (record (answer st.store o)) : Action ι Ω κ α)) :
    Serialized m program init (h ++ [.call i o (record (answer st.store o))])
      (st.next m program (.call i o (record (answer st.store o)))) := by
  obtain ⟨hne, hbody'⟩ := hbody
  obtain ⟨hacquire, hrelease⟩ := hne (answer st.store o)
  have hnext : st.next m program (.call i o (record (answer st.store o))) =
      { store := effect (answer st.store o) st.store, lock := some i
        threads := Function.update st.threads i
          (.running ((body' (answer st.store o)).bind (leave m))) } := by
    rw [Script.bind] at hi
    exact (State.next_call hi).trans (by simp [hacquire, hrelease, hlock])
  have horder : lockOrder m (h ++ [.call i o (record (answer st.store o))]) = lockOrder m h := by
    simp [lockOrder_call, hacquire]
  refine ⟨fun j hj => ?_, horder ▸ inv.nodup, fun hfree => ?_, fun j hj => ?_⟩
  · rw [horder] at hj
    refine inv.unlocked_of_call ?_ hj
    rintro rfl
    exact hj (by simp [hl])
  · simp [hnext] at hfree
  · obtain rfl : i = j := by simpa [hnext] using hj
    refine ⟨l, s₀, horder.trans hl, hserial.step hen, op, body' (answer st.store o),
      hop.snoc (by simp), hbody' _, by simp [hnext], ?_⟩
    rw [outcomesOf_call, callsOf_call, hnext]
    exact hplays.call o

/-- The thread with the lock gives it back; now it has run. -/
lemma Serialized.release (inv : Serialized m program init h st) {op : ι} {a : α}
    (hop : StartedAs h i op) (hi : st.threads i = .running (leave m a)) {l : List ℕ} {s₀ : σ}
    (hl : lockOrder m h = l ++ [i]) (hserial : Serial (Ran program h st.threads) init l s₀)
    (hplays : Plays (program op) s₀ (outcomesOf i h) (leave m a) (callsOf i h) st.store)
    (hen : st.Enabled m (.call i o m.release : Action ι Ω κ α)) :
    Serialized m program init (h ++ [.call i o m.release])
      (st.next m program (.call i o m.release)) := by
  have hnext : st.next m program (.call i o m.release) =
      { store := st.store, lock := none
        threads := Function.update st.threads i (.running (.done a)) } := by
    rw [leave, signal] at hi
    exact (State.next_call hi).trans (by simp [m.ne.symm])
  have horder : lockOrder m (h ++ [.call i o m.release]) = lockOrder m h := by
    simp [lockOrder_call, m.ne.symm]
  refine ⟨fun j hj => ?_, horder ▸ inv.nodup, fun _ => ?_, fun j hj => ?_⟩
  · rw [horder] at hj
    refine inv.unlocked_of_call ?_ hj
    rintro rfl
    exact hj (by simp [hl])
  · rw [horder, hl]
    refine .snoc (hserial.step hen) ⟨op, a, hop.snoc (by simp), ?_, Or.inl (by simp [hnext])⟩
    rw [outcomesOf_call, callsOf_call, hnext]
    exact hplays.call o
  · simp [hnext] at hj

end Call

lemma Serialized.call (inv : Serialized m program init h st) {o : Ω} {c : κ}
    (hen : st.Enabled m (.call i o c : Action ι Ω κ α)) :
    Serialized m program init (h ++ [.call i o c]) (st.next m program (.call i o c)) := by
  have hrecord : (st.threads i).record st.store o = some c := hen.1
  by_cases hmem : i ∈ lockOrder m h
  · have hlock := inv.owner_of_record hrecord hmem
    obtain ⟨l, s₀, hl, hserial, op, body, hop, hbody, hi, hplays⟩ := inv.held i hlock
    cases body with
    | done a =>
        obtain rfl : m.release = c := by
          simpa [Thread.record, hi, leave, signal] using hrecord
        exact inv.release hop hi hl hserial hplays hen
    | call answer record effect body' =>
        obtain rfl : record (answer st.store o) = c := by
          simpa [Thread.record, hi, Script.bind] using hrecord
        exact inv.inside hlock hop hbody hi hl hserial hplays hen
  · have hbefore := inv.unlocked i hmem
    generalize hi : st.threads i = th at hrecord hbefore
    cases hbefore with
    | absent hstart hout hcalls => simp [Thread.record] at hrecord
    | ended hop hplays => simp [Thread.record] at hrecord
    | @waiting op body hop hprogram hbody hout hcalls =>
        obtain rfl : m.acquire = c := by simpa [Thread.record, critical, signal] using hrecord
        exact inv.acquire (hen.2 rfl) hi hop hprogram hbody hmem hout hcalls hen
    | @outside op rest hop hrest hplays =>
        cases rest with
        | done a => simp [Thread.record] at hrecord
        | call answer record effect next =>
            obtain rfl : record (answer st.store o) = c := by simpa [Thread.record] using hrecord
            exact inv.outside hen hi hop hmem hrest hplays

end Serialized

/-! ## Whole runs -/

section Runs

variable {m : Mutex κ} {program : ι → Script Ω κ σ α} {init : σ} {h : List (Action ι Ω κ α)}

/-- **The invariant holds of every run.** -/
theorem serialized_of_legal (hguarded : ∀ op, Guarded m (program op))
    (hl : (system m program init).Legal h) :
    Serialized m program init h ((system m program init).exec h) := by
  refine System.invariant (S := system m program init) (I := Serialized m program init)
    (serialized_init m program init) (fun h a _ inv hen => ?_) hl
  cases a with
  | start i op => exact inv.start hguarded hen
  | call i o c => exact inv.call hen
  | finish i v => exact inv.finish hen

/-- Whenever the lock is free, the store is what the threads that had it make of the initial one if
they run one after the other. -/
lemma serial_of_legal (hguarded : ∀ op, Guarded m (program op))
    (hl : (system m program init).Legal h) (hfree : ((system m program init).exec h).lock = none) :
    Serial (Ran program h ((system m program init).exec h).threads) init (lockOrder m h)
      ((system m program init).exec h).store :=
  (serialized_of_legal hguarded hl).free hfree

/-- What a thread has done so far is how its program begins when it runs alone. -/
theorem callsOf_prefix (hguarded : ∀ op, Guarded m (program op)) (o : Ω)
    (hl : (system m program init).Legal h) {i : ℕ} (hi : callsOf i h ≠ []) :
    ∃ op env s, StartedAs h i op ∧ callsOf i h <+: (((program op).prog env).run 0 s).calls := by
  have inv := serialized_of_legal hguarded hl
  have hplayed : ∀ {op rest s s'}, StartedAs h i op →
      Plays (program op) s (outcomesOf i h) rest (callsOf i h) s' →
        ∃ op env s, StartedAs h i op ∧ callsOf i h <+: (((program op).prog env).run 0 s).calls := by
    intro op rest s s' hop hplays
    refine ⟨op, meeting o (outcomesOf i h), s, hop, ?_⟩
    rw [hplays.run (meets_meeting o _)]
    exact List.prefix_append _ _
  have hran : ∀ {l s}, Serial (Ran program h ((system m program init).exec h).threads) init l s →
      i ∈ l → ∃ op env s, StartedAs h i op ∧
        callsOf i h <+: (((program op).prog env).run 0 s).calls := by
    intro l s hserial hmem
    obtain ⟨s, s', op, a, hop, hplays, -⟩ := hserial.exists_of_mem hmem
    exact hplayed hop hplays
  by_cases hlocked : i ∈ lockOrder m h
  · cases hlock : ((system m program init).exec h).lock with
    | none => exact hran (inv.free hlock) hlocked
    | some j =>
        obtain ⟨l, s, hl', hserial, op, body, hop, -, -, hplays⟩ := inv.held j hlock
        rw [hl', List.mem_append, List.mem_singleton] at hlocked
        rcases hlocked with hmem | rfl
        · exact hran hserial hmem
        · exact hplayed hop hplays
  · have hunlocked := inv.unlocked i hlocked
    generalize ((system m program init).exec h).threads i = th at hunlocked
    cases hunlocked with
    | absent _ _ hcalls => exact absurd hcalls hi
    | waiting _ _ _ _ hcalls => exact absurd hcalls hi
    | outside hop _ hplays => exact hplayed hop (hplays init)
    | ended hop hplays => exact hplayed hop (hplays init)

/-- A thread that has returned does nothing more. -/
lemma returned_stays {p q : List (Action ι Ω κ α)} (hl : (system m program init).Legal (p ++ q))
    {i : ℕ} {a : α} (hi : ((system m program init).exec p).threads i = .returned a) :
    ((system m program init).exec (p ++ q)).threads i = .returned a ∧
      callsOf i (p ++ q) = callsOf i p := by
  induction q using List.reverseRecOn with
  | nil => simpa using hi
  | append_singleton q b ih =>
      rw [← List.append_assoc] at hl ⊢
      obtain ⟨hl, hen⟩ := (System.legal_snoc _ _ _).mp hl
      obtain ⟨hreturned, hcalls⟩ := ih hl
      have hb : Foreign b i := by
        by_contra hb
        cases b with
        | start j op =>
            obtain rfl := not_foreign_start.mp hb
            have habsent := State.absent_of_enabled m op hen
            rw [hreturned] at habsent
            cases habsent
        | call j o c =>
            obtain rfl := not_foreign_call.mp hb
            have hrecord := hen.1
            rw [hreturned] at hrecord
            cases hrecord
        | finish j v =>
            obtain rfl := not_foreign_finish.mp hb
            have hvalue : (((system m program init).exec (p ++ q)).threads j).value = some v := hen
            rw [hreturned] at hvalue
            cases hvalue
      rw [System.exec_snoc, hb.callsOf_eq]
      exact ⟨(hb.threads_eq m program _).trans hreturned, hcalls⟩

/-- **The order is the real one**: of two threads with the lock, one that had returned before the
other started comes first. -/
theorem lockOrder_of_precedes (hguarded : ∀ op, Guarded m (program op))
    (hl : (system m program init).Legal h) {i j : ℕ} {a : α} {op : ι}
    (hprecedes : Precedes (.finish i a) (.start j op) h) (hi : i ∈ lockOrder m h)
    (hj : j ∈ lockOrder m h) : List.Sublist [i, j] (lockOrder m h) := by
  obtain ⟨p, q, r, rfl⟩ := hprecedes
  have hsplit : p ++ Action.finish i a :: q ++ Action.start j op :: r =
      (p ++ .finish i a :: q) ++ .start j op :: r := by simp
  rw [hsplit, lockOrder_append] at hi hj ⊢
  rw [hsplit] at hl
  have hbefore := hl.prefix
  have hreturned : ((system m program init).exec (p ++ .finish i a :: q)).threads i =
      .returned a := by
    have hp : p ++ Action.finish i a :: q = (p ++ [.finish i a]) ++ q := by simp
    rw [hp] at hbefore ⊢
    refine (returned_stays hbefore ?_).1
    simp [system, State.next]
  have habsent := State.absent_of_enabled m op hl.enabled_at
  have hi' : i ∈ lockOrder m (p ++ .finish i a :: q) := by
    refine (List.mem_append.mp hi).resolve_right fun hlate => ?_
    have hcalls := (returned_stays hl hreturned).2
    rw [callsOf_append, List.append_right_eq_self] at hcalls
    simpa [hcalls] using mem_callsOf_of_mem_lockOrder hlate
  have hj' := (List.mem_append.mp hj).resolve_left
    ((serialized_of_legal hguarded hbefore).not_mem_of_absent habsent)
  exact (List.singleton_sublist.mpr hi').append (List.singleton_sublist.mpr hj')

end Runs

end Threads
