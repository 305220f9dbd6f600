import USBDevicePlugin.Core.TransitionSystem

/-!
# Refinement at points

An operation that takes several steps may, for everybody who looks at it from outside, happen at one
of them.  The other steps are invisible.  A system *refines* another one if its runs, reduced to
these points, are runs of the other.

* `Refinement` — what one step has to do: one at a point is a step of the abstract system, any other
  keeps the states related.
* **`Refinement.run`** — what whole runs do.
* `Component` — the part of a composed system that is itself a system; **`Component.run`** — what it does
  in a run of the whole is a run of its own.
-/

namespace TransitionSystem

variable {σ τ ε δ : Type*}

/-- `S` refines `A`: `point` says which steps count, and as what; `R` relates the history and the
state of a run of `S` to a state of `A`. -/
structure Refinement (S : System σ ε) (A : System τ δ) (point : ε → Option δ)
    (R : List ε → σ → τ → Prop) : Prop where
  init : R [] S.init A.init
  hidden : ∀ {h e t}, S.Legal h → S.Enabled (S.exec h) e → point e = none → R h (S.exec h) t →
    R (h ++ [e]) (S.next (S.exec h) e) t
  visible : ∀ {h e t d}, S.Legal h → S.Enabled (S.exec h) e → point e = some d →
    R h (S.exec h) t → A.Enabled t d ∧ R (h ++ [e]) (S.next (S.exec h) e) (A.next t d)

/-- **A run, reduced to its points, is a run of the abstract system**, and ends in a related
state. -/
theorem Refinement.run {S : System σ ε} {A : System τ δ} {point : ε → Option δ}
    {R : List ε → σ → τ → Prop} (href : Refinement S A point R) {h : List ε} (hl : S.Legal h) :
    A.Legal (h.filterMap point) ∧ R h (S.exec h) (A.exec (h.filterMap point)) := by
  refine System.invariant (S := S)
    (I := fun h s => A.Legal (h.filterMap point) ∧ R h s (A.exec (h.filterMap point)))
    ⟨A.legal_nil, href.init⟩ ?_ hl
  rintro h e hlh ⟨hlegal, hrel⟩ hen
  rw [List.filterMap_append]
  cases hpoint : point e with
  | none =>
      have hsame : List.filterMap point [e] = [] := by simp [hpoint]
      rw [hsame, List.append_nil]
      exact ⟨hlegal, href.hidden hlh hen hpoint hrel⟩
  | some d =>
      have hnew : List.filterMap point [e] = [d] := by simp [hpoint]
      obtain ⟨hen', hrel'⟩ := href.visible hlh hen hpoint hrel
      rw [hnew, System.exec_snoc]
      exact ⟨(A.legal_snoc _ _).mpr ⟨hlegal, hen'⟩, hrel'⟩

/-! ## Systems put together -/

/-- `A` is a component of `S`: `view` is its part of the state, and `point` says which steps it takes
part in, and with which of its own.  A step with others is one of each. -/
structure Component (S : System σ ε) (A : System τ δ) (point : ε → Option δ) (view : σ → τ) :
    Prop where
  init : view S.init = A.init
  idle : ∀ {s e}, S.Enabled s e → point e = none → view (S.next s e) = view s
  moves : ∀ {s e d}, S.Enabled s e → point e = some d →
    A.Enabled (view s) d ∧ view (S.next s e) = A.next (view s) d

/-- **What a component does in a run is a run of the component.** -/
theorem Component.run {S : System σ ε} {A : System τ δ} {point : ε → Option δ} {view : σ → τ}
    (hcomp : Component S A point view) {h : List ε} (hl : S.Legal h) :
    A.Legal (h.filterMap point) ∧ view (S.exec h) = A.exec (h.filterMap point) := by
  have href : Refinement S A point fun _ s t => view s = t := by
    refine ⟨hcomp.init, ?_, ?_⟩
    · rintro h e t - hen hpoint rfl
      exact hcomp.idle hen hpoint
    · rintro h e t d - hen hpoint rfl
      exact hcomp.moves hen hpoint
  exact href.run hl

end TransitionSystem
