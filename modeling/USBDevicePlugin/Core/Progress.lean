import Mathlib.Algebra.Order.BigOperators.Group.Finset
import Mathlib.Algebra.Order.Ring.Nat
import USBDevicePlugin.Core.TransitionSystem

/-!
# Getting done

Steps from outside bring work into a system, its own steps do it.  If every own step makes less of
what is left, a system that is left alone comes to rest; if moreover some own step can be taken
whenever there is work left, it is done when it rests.

* **`length_le_of_pays`** — the length of a run is bounded by the work at the start and by what its
  steps have brought.
* `length_le_of_drains` — the number of own steps in a row is bounded by the work at the start.
* **`exists_not_legal`** — where work is not a number, they still do not go on for ever.
* **`exists_settling`** — own steps lead from every state to one in which everything is done.
* `sum_update_add` — the work of many parties, when one of them moves.
-/

namespace TransitionSystem

variable {σ ε : Type*}

/-- Within the states `I`, every step does some work, and brings what `cost` says at most. -/
def System.Pays (S : System σ ε) (I : σ → Prop) (work : σ → ℕ) (cost : ε → ℕ) : Prop :=
  ∀ s e, I s → S.Enabled s e → I (S.next s e) ∧ work (S.next s e) + 1 ≤ work s + cost e

/-- Within the states `I`, every step of the kind `own` leaves less work, where `less` says so. -/
def System.Drains {ρ : Type*} (S : System σ ε) (own : ε → Prop) (I : σ → Prop)
    (less : ρ → ρ → Prop) (work : σ → ρ) : Prop :=
  ∀ s e, I s → own e → S.Enabled s e → I (S.next s e) ∧ less (work (S.next s e)) (work s)

variable {S : System σ ε} {own : ε → Prop} {I : σ → Prop}

theorem length_le_of_pays {work : σ → ℕ} {cost : ε → ℕ} (hpays : S.Pays I work cost) (h : List ε)
    {s : σ} (hs : I s) (hl : S.LegalFrom s h) :
    h.length + work (h.foldl S.next s) ≤ work s + (h.map cost).sum := by
  induction h generalizing s with
  | nil => simp
  | cons e h ih =>
      obtain ⟨hen, hl⟩ := hl
      obtain ⟨hnext, hpaid⟩ := hpays s e hs hen
      have hrest := ih hnext hl
      rw [List.foldl_cons, List.length_cons, List.map_cons, List.sum_cons]
      omega

lemma length_le_of_drains {work : σ → ℕ} (hdrains : S.Drains own I (· < ·) work) (h : List ε)
    {s : σ} (hs : I s) (hl : S.LegalFrom s h) (hown : ∀ e ∈ h, own e) :
    h.length + work (h.foldl S.next s) ≤ work s := by
  induction h generalizing s with
  | nil => simp
  | cons e h ih =>
      obtain ⟨hen, hl⟩ := hl
      obtain ⟨hnext, hless⟩ := hdrains s e hs (hown e (by simp)) hen
      have hrest := ih hnext hl fun e' he' => hown e' (List.mem_cons_of_mem e he')
      rw [List.foldl_cons, List.length_cons]
      omega

section WellFounded

variable {ρ : Type*} {less : ρ → ρ → Prop} {work : σ → ρ}

/-- An endless schedule is left at some point. -/
theorem exists_not_legal (hwf : WellFounded less) (hdrains : S.Drains own I less work)
    (f : ℕ → ε) (hown : ∀ n, own (f n)) (s : σ) (hs : I s) :
    ∃ n, ¬ S.LegalFrom s ((List.range n).map f) := by
  -- the induction is on the work left
  induction hwork : work s using hwf.induction generalizing s f with
  | _ w ih =>
      by_cases hen : S.Enabled s (f 0)
      · obtain ⟨hnext, hless⟩ := hdrains s (f 0) hs (hown 0) hen
        obtain ⟨n, hn⟩ := ih _ (hwork ▸ hless) (fun n => f (n + 1)) (fun n => hown (n + 1)) _ hnext
          rfl
        refine ⟨n + 1, fun hl => hn ?_⟩
        rw [List.range_succ_eq_map, List.map_cons, List.map_map] at hl
        exact hl.2
      · exact ⟨1, fun hl => hen hl.1⟩

theorem exists_settling (hwf : WellFounded less) (hdrains : S.Drains own I less work)
    {done : σ → Prop} (hprogress : ∀ s, I s → ¬ done s → ∃ e, own e ∧ S.Enabled s e) (s : σ)
    (hs : I s) : ∃ h, S.LegalFrom s h ∧ (∀ e ∈ h, own e) ∧ done (h.foldl S.next s) := by
  induction hwork : work s using hwf.induction generalizing s with
  | _ w ih =>
      by_cases hdone : done s
      · exact ⟨[], trivial, by simp, hdone⟩
      · obtain ⟨e, hown, hen⟩ := hprogress s hs hdone
        obtain ⟨hnext, hless⟩ := hdrains s e hs hown hen
        obtain ⟨h, hl, hall, hend⟩ := ih _ (hwork ▸ hless) _ hnext rfl
        refine ⟨e :: h, ⟨hen, hl⟩, fun e' he' => ?_, hend⟩
        rcases List.mem_cons.mp he' with rfl | he'
        · exact hown
        · exact hall e' he'

end WellFounded

/-- One party moves, and the sum changes by its own. -/
lemma sum_update_add {ρ : Type*} {s : Finset ℕ} {i : ℕ} (hi : i ∈ s) (f : ℕ → ρ) (r : ρ)
    (w : ρ → ℕ) :
    ∑ x ∈ s, w (Function.update f i r x) + w (f i) = ∑ x ∈ s, w (f x) + w r := by
  have hrest : ∑ x ∈ s.erase i, w (Function.update f i r x) = ∑ x ∈ s.erase i, w (f x) :=
    Finset.sum_congr rfl fun x hx => by rw [Function.update_of_ne (Finset.ne_of_mem_erase hx)]
  rw [← Finset.add_sum_erase s _ hi, ← Finset.add_sum_erase s (fun x => w (f x)) hi, hrest,
    Function.update_self]
  omega

end TransitionSystem
