import Mathlib.Data.List.Basic
import Mathlib.Data.List.Induction
import Mathlib.Logic.Relation

/-!
# Transition systems driven by schedules

A concurrent component is modelled here as a deterministic step function together with a guard
saying which actions a state allows.  All nondeterminism — which thread moves next, what the
environment answers — sits in the *schedule*, the list of actions taken so far.  A run is then
nothing but a legal schedule, the state it reaches is computed from it (`exec`), and the schedule
itself is the history that properties such as "exactly once" or "in this order" talk about.

* `System` — initial state, guard and effect.
* `exec`, `Legal` — the state a schedule reaches, and what it takes for a schedule to be a run.
* **`invariant`** — the induction over runs: an assertion about history and state that holds at the
  start and survives every enabled action holds of every run.
* `restrict` — the same system under a scheduling assumption.
* `exists_step_of_change` — whatever differs between two points of a run was changed by some action
  in between.
* `Precedes` — the order of two actions in a schedule.
* `countP_set_add`, `forall_getElem?_set` — counting the parties of a kind, and what is known of
  each, when one of them moves.
* `Deadlocked` — parties that wait for each other in a circle; `not_deadlocked_of_rank` excludes it.
-/

namespace TransitionSystem

variable {σ ε : Type*}

/-- A guarded transition system: `Enabled s e` says that action `e` may be taken in `s`, and
`next s e` is the state it leads to. -/
structure System (σ ε : Type*) where
  init : σ
  Enabled : σ → ε → Prop
  next : σ → ε → σ

/-! ## Two actions of a schedule -/

/-- `a` is taken somewhere before `b` in the schedule. -/
def Precedes (a b : ε) (h : List ε) : Prop :=
  ∃ p q r, h = p ++ a :: q ++ b :: r

lemma Precedes.sublist {a b : ε} {h : List ε} (hab : Precedes a b h) : List.Sublist [a, b] h := by
  obtain ⟨p, q, r, rfl⟩ := hab
  have ha : List.Sublist [a] (p ++ a :: q) := List.singleton_sublist.mpr (by simp)
  have hb : List.Sublist [b] (b :: r) := List.singleton_sublist.mpr (by simp)
  exact ha.append hb

/-- Cutting a schedule at two different actions puts one of them before the other. -/
lemma precedes_or_precedes {a b : ε} (hab : a ≠ b) {h : List ε} (ha : a ∈ h) (hb : b ∈ h) :
    Precedes a b h ∨ Precedes b a h := by
  obtain ⟨p, q, rfl⟩ := List.append_of_mem ha
  rcases List.mem_append.mp hb with hbp | hbq
  · obtain ⟨p₁, p₂, rfl⟩ := List.append_of_mem hbp
    exact Or.inr ⟨p₁, p₂, q, by simp⟩
  · rcases List.mem_cons.mp hbq with rfl | hbq
    · exact absurd rfl hab
    · obtain ⟨q₁, q₂, rfl⟩ := List.append_of_mem hbq
      exact Or.inl ⟨p, q₁, q₂, by simp⟩

/-! ## Parties kept in a list -/

/-- A party that changes its state changes the number of parties in such a state by its own. -/
lemma countP_set_add {p : σ → Bool} {l : List σ} {i : ℕ} {a : σ} (ha : l[i]? = some a) (b : σ) :
    (l.set i b).countP p + (p a).toNat = l.countP p + (p b).toNat := by
  obtain ⟨hlt, rfl⟩ := List.getElem?_eq_some_iff.mp ha
  have hle := List.boole_getElem_le_countP (p := p) hlt
  have hset := List.countP_set (p := p) (a := b) hlt
  rw [hset]
  cases hleft : p l[i] <;> cases hjoined : p b <;>
    simp only [hleft, if_true, if_false, Bool.false_eq_true, Bool.toNat_true, Bool.toNat_false]
      at hle ⊢ <;>
    omega

/-- What is known of every party, once one of them has moved. -/
lemma forall_getElem?_set {P : ℕ → Option σ → Prop} {l : List σ} {i : ℕ} {a b : σ}
    (ha : l[i]? = some a) (hmoved : P i (some b)) (hother : ∀ j, j ≠ i → P j l[j]?) :
    ∀ j, P j (l.set i b)[j]? := by
  intro j
  by_cases hj : j = i
  · subst hj
    rw [List.getElem?_set_self (List.getElem?_eq_some_iff.mp ha).1]
    exact hmoved
  · rw [List.getElem?_set_ne (Ne.symm hj)]
    exact hother j hj

/-! ## Parties that wait for each other -/

/-- Some party waits for itself, be it through others. -/
def Deadlocked {ρ : Type*} (waits : ρ → ρ → Prop) : Prop := ∃ p, Relation.TransGen waits p p

/-- Nobody does if waiting is always for a party of lower rank. -/
lemma not_deadlocked_of_rank {ρ : Type*} {waits : ρ → ρ → Prop} (rank : ρ → ℕ)
    (hrank : ∀ p q, waits p q → rank q < rank p) : ¬ Deadlocked waits := by
  rintro ⟨p, hp⟩
  have hlower : ∀ q, Relation.TransGen waits p q → rank q < rank p := by
    intro q hq
    induction hq with
    | single hfirst => exact hrank _ _ hfirst
    | tail _ hlast ih => exact Nat.lt_trans (hrank _ _ hlast) ih
  exact Nat.lt_irrefl _ (hlower p hp)

namespace System

variable (S : System σ ε)

/-! ## Runs -/

/-- The state a schedule leads to. -/
def exec (h : List ε) : σ := h.foldl S.next S.init

/-- Every action of the schedule is enabled when its turn comes, starting from `s`. -/
def LegalFrom : σ → List ε → Prop
  | _, [] => True
  | s, e :: h => S.Enabled s e ∧ LegalFrom (S.next s e) h

/-- The schedule is a run of the system. -/
def Legal (h : List ε) : Prop := S.LegalFrom S.init h

instance decidableLegalFrom [∀ s e, Decidable (S.Enabled s e)] :
    ∀ (s : σ) (h : List ε), Decidable (S.LegalFrom s h)
  | _, [] => isTrue trivial
  | s, e :: h =>
      have := decidableLegalFrom (S.next s e) h
      inferInstanceAs (Decidable (S.Enabled s e ∧ S.LegalFrom (S.next s e) h))

instance decidableLegal [∀ s e, Decidable (S.Enabled s e)] (h : List ε) : Decidable (S.Legal h) :=
  S.decidableLegalFrom S.init h

@[simp] lemma exec_nil : S.exec [] = S.init := rfl

@[simp] lemma exec_snoc (h : List ε) (e : ε) : S.exec (h ++ [e]) = S.next (S.exec h) e := by
  simp [exec]

lemma legalFrom_append (h h' : List ε) (s : σ) :
    S.LegalFrom s (h ++ h') ↔ S.LegalFrom s h ∧ S.LegalFrom (h.foldl S.next s) h' := by
  induction h generalizing s with
  | nil => simp [LegalFrom]
  | cons e h ih => simp [LegalFrom, ih, and_assoc]

@[simp] lemma legal_nil : S.Legal [] := trivial

@[simp] lemma legal_snoc (h : List ε) (e : ε) :
    S.Legal (h ++ [e]) ↔ S.Legal h ∧ S.Enabled (S.exec h) e := by
  simp [Legal, exec, legalFrom_append, LegalFrom]

variable {S}

lemma Legal.prefix {h h' : List ε} (hl : S.Legal (h ++ h')) : S.Legal h :=
  ((S.legalFrom_append h h' S.init).mp hl).1

/-- An action of a run was enabled in the state the run had reached. -/
lemma Legal.enabled_at {p q : List ε} {e : ε} (hl : S.Legal (p ++ e :: q)) :
    S.Enabled (S.exec p) e :=
  (((S.legalFrom_append p (e :: q) S.init).mp hl).2).1

/-- **Induction over runs.**  The assertion may mention the schedule as well as the state, so that
it can relate what has happened to what the state remembers of it. -/
theorem invariant {I : List ε → σ → Prop} (hinit : I [] S.init)
    (hstep : ∀ h e, S.Legal h → I h (S.exec h) → S.Enabled (S.exec h) e →
      I (h ++ [e]) (S.next (S.exec h) e)) :
    ∀ {h : List ε}, S.Legal h → I h (S.exec h) := by
  intro h
  induction h using List.reverseRecOn with
  | nil => exact fun _ => hinit
  | append_singleton h e ih =>
      intro hl
      obtain ⟨hlh, hen⟩ := (S.legal_snoc h e).mp hl
      rw [exec_snoc]
      exact hstep h e hlh (ih hlh) hen

/-- If a state property fails at one point of a run and holds later, some action in between made it
true. -/
theorem exists_step_of_change {P : σ → Prop} (p : List ε) :
    ∀ {q : List ε}, ¬ P (S.exec p) → P (S.exec (p ++ q)) →
      ∃ q₁ e q₂, q = q₁ ++ e :: q₂ ∧ ¬ P (S.exec (p ++ q₁)) ∧ P (S.next (S.exec (p ++ q₁)) e) := by
  intro q hp
  induction q using List.reverseRecOn with
  | nil => intro hq; exact absurd (by simpa using hq) hp
  | append_singleton q e ih =>
      intro hq
      by_cases hmid : P (S.exec (p ++ q))
      · obtain ⟨q₁, e', q₂, rfl, hn, hy⟩ := ih hmid
        exact ⟨q₁, e', q₂ ++ [e], by simp, hn, hy⟩
      · refine ⟨q, e, [], rfl, hmid, ?_⟩
        rw [← List.append_assoc, exec_snoc] at hq
        exact hq

/-! ## Scheduling assumptions -/

/-- The same system, with actions allowed only where `c` permits them. -/
def restrict (S : System σ ε) (c : σ → ε → Prop) : System σ ε where
  init := S.init
  Enabled s e := S.Enabled s e ∧ c s e
  next := S.next

instance decidableEnabledRestrict (S : System σ ε) (c : σ → ε → Prop)
    [∀ s e, Decidable (S.Enabled s e)] [∀ s e, Decidable (c s e)] (s : σ) (e : ε) :
    Decidable ((S.restrict c).Enabled s e) :=
  inferInstanceAs (Decidable (S.Enabled s e ∧ c s e))

@[simp] lemma exec_restrict (S : System σ ε) (c : σ → ε → Prop) (h : List ε) :
    (S.restrict c).exec h = S.exec h := rfl

lemma Legal.of_restrict {c : σ → ε → Prop} {h : List ε} (hl : (S.restrict c).Legal h) :
    S.Legal h := by
  induction h using List.reverseRecOn with
  | nil => exact S.legal_nil
  | append_singleton h e ih =>
      obtain ⟨hlh, hen⟩ := ((S.restrict c).legal_snoc h e).mp hl
      exact (S.legal_snoc h e).mpr ⟨ih hlh, hen.1⟩

end System

end TransitionSystem
