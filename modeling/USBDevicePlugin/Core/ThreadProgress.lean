import Mathlib.Data.DFinsupp.WellFounded
import USBDevicePlugin.Core.Progress
import USBDevicePlugin.Core.Threads

/-!
# Threads come to an end

Every call of a script leaves less of it, though there may be no bound on how much is left: the
answer can be the length of a list yet to be worked through.  With finitely many threads the whole
becomes less with every step of any of them.  None of them is stuck either: the one with the lock is
not waiting for it, and if nobody has it, everyone can go on.

* `Less` — what a step leaves of a thread; `wellFounded_less`.
* `drains_threads` — with every step there is less to do for the threads that have started.
* `exists_call_of_lock`, `exists_step` — somebody can make a step, and the one with the lock can.
* **`threads_finish`** — left alone, they all return.
-/

namespace Threads

open Interaction TransitionSystem

variable {ι Ω κ σ α : Type}

/-! ## Less and less -/

/-- What is left after a step. -/
inductive Less : Thread Ω κ σ α → Thread Ω κ σ α → Prop
  | call {β : Type} (answer : σ → Ω → β) (record : β → κ) (effect : β → σ → σ)
      (next : β → Script Ω κ σ α) (b : β) :
      Less (.running (next b)) (.running (.call answer record effect next))
  | finish (a : α) : Less (.returned a) (.running (.done a))

/-- The induction is on what is left of the script. -/
lemma wellFounded_less : WellFounded (Less (Ω := Ω) (κ := κ) (σ := σ) (α := α)) := by
  have hreturned : ∀ a : α, Acc Less (.returned a : Thread Ω κ σ α) := fun a => ⟨_, nofun⟩
  refine ⟨fun r => ?_⟩
  cases r with
  | absent => exact ⟨_, nofun⟩
  | returned a => exact hreturned a
  | running sc =>
      induction sc with
      | done a =>
          refine ⟨_, fun r hr => ?_⟩
          cases hr with
          | finish => exact hreturned a
      | call answer record effect next ih =>
          refine ⟨_, fun r hr => ?_⟩
          cases hr with
          | call _ _ _ _ b => exact ih b

lemma not_less_absent {r : Thread Ω κ σ α} : ¬ Less r .absent := nofun

/-- A step that starts no thread. -/
def Action.Own : Action ι Ω κ α → Prop
  | .start .. => False
  | _ => True

section

variable [DecidableEq κ] {m : Mutex κ} {program : ι → Script Ω κ σ α} {st : State Ω κ σ α}

omit [DecidableEq κ] in
lemma exists_forall_foreign (a : Action ι Ω κ α) : ∃ i, ∀ j, j ≠ i → Foreign a j := by
  cases a <;> exact ⟨_, fun _ => Ne.symm⟩

/-- One thread moves, the others stay. -/
lemma exists_less (program : ι → Script Ω κ σ α) {a : Action ι Ω κ α} (hown : a.Own)
    (hen : st.Enabled m a) : ∃ i, Less ((st.next m program a).threads i) (st.threads i) ∧
      ∀ j, j ≠ i → (st.next m program a).threads j = st.threads j := by
  obtain ⟨i, hforeign⟩ := exists_forall_foreign a
  refine ⟨i, ?_, fun j hj => (hforeign j hj).threads_eq m program st⟩
  cases a with
  | start j op => exact hown.elim
  | call j o c =>
      obtain rfl : i = j := by_contra fun hj => hforeign j (Ne.symm hj) rfl
      have hrecord := hen.1
      cases hi : st.threads i with
      | running sc =>
          cases sc with
          | done a => simp [hi, Thread.record] at hrecord
          | call answer record effect next =>
              simp only [State.next, hi, Function.update_self]
              exact .call answer record effect next _
      | _ => simp [hi, Thread.record] at hrecord
  | finish j v =>
      obtain rfl : i = j := by_contra fun hj => hforeign j (Ne.symm hj) rfl
      have hvalue : (st.threads i).value = some v := hen
      cases hi : st.threads i with
      | running sc =>
          cases sc with
          | done a =>
              obtain rfl : a = v := by simpa [hi, Thread.value] using hvalue
              simp only [State.next, Function.update_self]
              exact .finish a
          | call _ _ _ _ => simp [hi, Thread.value] at hvalue
      | _ => simp [hi, Thread.value] at hvalue

end

/-- The threads there are have these numbers. -/
def Below (n : ℕ) (st : State Ω κ σ α) : Prop := ∀ i, n ≤ i → st.threads i = .absent

/-- What is left to them. -/
def left (n : ℕ) (st : State Ω κ σ α) : Fin n → Thread Ω κ σ α := fun i => st.threads i

/-- The threads one by one, the first that differs decides. -/
def LessLeft (n : ℕ) : (Fin n → Thread Ω κ σ α) → (Fin n → Thread Ω κ σ α) → Prop :=
  Pi.Lex (· < ·) fun {_} => Less

lemma wellFounded_lessLeft (n : ℕ) :
    WellFounded (LessLeft n : (Fin n → Thread Ω κ σ α) → (Fin n → Thread Ω κ σ α) → Prop) :=
  Pi.Lex.wellFounded _ fun _ => wellFounded_less

variable [DecidableEq κ] {m : Mutex κ} {program : ι → Script Ω κ σ α} {init : σ}
  {st : State Ω κ σ α} {h : List (Action ι Ω κ α)}

/-- A state of some run. -/
def Reached (m : Mutex κ) (program : ι → Script Ω κ σ α) (init : σ) (st : State Ω κ σ α) : Prop :=
  ∃ h, (system m program init).Legal h ∧ (system m program init).exec h = st

theorem drains_threads (n : ℕ) :
    (system m program init).Drains Action.Own (fun st => Below n st ∧ Reached m program init st)
      (LessLeft n) (left n) := by
  rintro _ a ⟨hst, h, hl, rfl⟩ hown hen
  obtain ⟨i, hless, hsame⟩ := exists_less program hown hen
  have hi : i < n := by
    by_contra hi
    rw [hst i (not_lt.mp hi)] at hless
    exact not_less_absent hless
  refine ⟨⟨fun j hj => (hsame j (by omega)).trans (hst j hj), h ++ [a],
    (System.legal_snoc _ h a).mpr ⟨hl, hen⟩, System.exec_snoc _ h a⟩, ⟨i, hi⟩, fun j hj => ?_, hless⟩
  exact hsame j fun heq => hj.ne (Fin.ext heq)

/-- Only threads that were started are there. -/
lemma exists_below (hl : (system m program init).Legal h) :
    ∃ n, Below n ((system m program init).exec h) := by
  refine System.invariant (S := system m program init) (I := fun _ st => ∃ n, Below n st)
    ⟨0, fun _ _ => rfl⟩ ?_ hl
  intro h a _ hst _
  obtain ⟨n, hn⟩ := hst
  obtain ⟨i, hforeign⟩ := exists_forall_foreign a
  refine ⟨max n (i + 1), fun j hj => ?_⟩
  exact ((hforeign j (by omega)).threads_eq m program _).trans (hn j (by omega))

/-! ## Nobody is stuck -/

/-- Everybody has returned, and the lock is free. -/
structure Settled (st : State Ω κ σ α) : Prop where
  free : st.lock = none
  threads : ∀ i, st.threads i = .absent ∨ ∃ a, st.threads i = .returned a

/-- Inside the lock, the next call can be made whatever its outcome. -/
lemma Serialized.exists_call_of_lock (inv : Serialized m program init h st) {i : ℕ}
    (hlock : st.lock = some i) (o : Ω) : ∃ c, st.Enabled m (.call i o c : Action ι Ω κ α) := by
  obtain ⟨l, s₀, -, -, op, body, -, hbody, hi, -⟩ := inv.held i hlock
  cases body with
  | done a =>
      refine ⟨m.release, ?_, fun h => absurd h.symm m.ne⟩
      rw [hi]
      rfl
  | call answer record effect next =>
      have hne := (hbody.1 (answer st.store o)).1
      refine ⟨record (answer st.store o), ?_, fun h => absurd h hne⟩
      rw [hi]
      rfl

/-- Unless everybody has returned, somebody can return or make a call, whatever its outcome. -/
theorem Serialized.exists_step (inv : Serialized m program init h st) (hnot : ¬ Settled st)
    (o : Ω) : ∃ i, (∃ a, st.Enabled m (.finish i a : Action ι Ω κ α)) ∨
      ∃ c, st.Enabled m (.call i o c : Action ι Ω κ α) := by
  cases hlock : st.lock with
  | some i => exact ⟨i, Or.inr (inv.exists_call_of_lock hlock o)⟩
  | none =>
      obtain ⟨i, hi⟩ : ∃ i, ¬ (st.threads i = .absent ∨ ∃ a, st.threads i = .returned a) := by
        by_contra hall
        exact hnot ⟨hlock, fun i => not_not.mp fun hi => hall ⟨i, hi⟩⟩
      refine ⟨i, ?_⟩
      cases hthread : st.threads i with
      | absent => exact absurd (Or.inl hthread) hi
      | returned a => exact absurd (Or.inr ⟨a, hthread⟩) hi
      | running sc =>
          cases sc with
          | done a => exact Or.inl ⟨a, by simp [State.Enabled, hthread, Thread.value]⟩
          | call answer record effect next =>
              exact Or.inr ⟨record (answer st.store o), by simp [hthread, Thread.record],
                fun _ => hlock⟩

/-- **Left alone, the threads come to an end**: no schedule without new threads goes on for ever,
and some such schedule settles everything. -/
theorem threads_finish (o : Ω) (hguarded : ∀ op, Guarded m (program op))
    (hl : (system m program init).Legal h) :
    (∀ f : ℕ → Action ι Ω κ α, (∀ n, (f n).Own) →
      ∃ n, ¬ (system m program init).Legal (h ++ (List.range n).map f)) ∧
    ∃ h', (system m program init).Legal (h ++ h') ∧ (∀ a ∈ h', a.Own) ∧
      Settled ((system m program init).exec (h ++ h')) := by
  obtain ⟨n, hn⟩ := exists_below hl
  have hreached : Reached m program init ((system m program init).exec h) := ⟨h, hl, rfl⟩
  constructor
  · intro f hown
    obtain ⟨k, hk⟩ := exists_not_legal (wellFounded_lessLeft n) (drains_threads n) f hown _
      ⟨hn, hreached⟩
    exact ⟨k, fun hlegal => hk ((System.legalFrom_append _ h _ _).mp hlegal).2⟩
  · have hprogress : ∀ st, Below n st ∧ Reached m program init st → ¬ Settled st →
        ∃ a : Action ι Ω κ α, a.Own ∧ (system m program init).Enabled st a := by
      rintro _ ⟨-, h, hl, rfl⟩ hnot
      obtain ⟨i, ⟨a, ha⟩ | ⟨c, hc⟩⟩ :=
        (serialized_of_legal hguarded hl).exists_step hnot o
      · exact ⟨.finish i a, trivial, ha⟩
      · exact ⟨.call i o c, trivial, hc⟩
    obtain ⟨h', hl', hown, hsettled⟩ := exists_settling (wellFounded_lessLeft n) (drains_threads n)
      hprogress _ ⟨hn, hreached⟩
    refine ⟨h', (System.legalFrom_append _ h _ _).mpr ⟨hl, hl'⟩, hown, ?_⟩
    rwa [System.exec, List.foldl_append]

end Threads
