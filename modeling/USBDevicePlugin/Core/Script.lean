import USBDevicePlugin.Core.Interaction

/-!
# Programs call by call

A `Prog` is run in one go.  Where several of them are under way at the same time, one has to know
what is left of each after every call, and a function does not say.  A `Script` is the same program
as a tree: it is over, or it makes its next call, and the answer selects what comes after.

A call reads the store, asks the environment, and changes the store, all at once: the environment's
answer and the effect that goes with it belong together.

* `Script.prog` — the program a script stands for.
* `Script.prog_confined` — a run depends on the environment at the instants it takes, and on nothing
  else.
* `Plays` — part of a script, against the outcomes it met one after the other.
* **`Plays.run`** — a part that was played is how a run of the program begins.
* `Scripted P f` — a script for the program `f env` in every environment, all of whose calls are as
  `P` says.  There is one rule for each way of building a program.
-/

namespace Interaction

variable {Ω κ σ α β γ : Type}

/-- Nothing but these instants: before and after them, the environment is as at the first and as at
the last one. -/
def confined (env : ℕ → Ω) (start length : ℕ) : ℕ → Ω :=
  fun t => env (max start (min t (start + length - 1)))

lemma confined_start (env : ℕ → Ω) (start length : ℕ) : confined env start length start = env start :=
  congrArg env (by omega)

/-- A program as a tree: `Ω` is what the environment is at one instant, `κ` what is recorded of a
call. -/
inductive Script (Ω κ σ α : Type) : Type 1
  | done (value : α)
  | call {β : Type} (answer : σ → Ω → β) (record : β → κ) (effect : β → σ → σ)
      (next : β → Script Ω κ σ α)

namespace Script

/-- The program a script stands for. -/
def prog (env : ℕ → Ω) : Script Ω κ σ α → Prog κ σ α
  | .done a => ⟨fun _ s => ⟨a, [], s⟩⟩
  | .call answer record effect next => ⟨fun t s =>
      let b := answer s (env t)
      let r := ((next b).prog env).run (t + 1) (effect b s)
      ⟨r.value, record b :: r.calls, r.store⟩⟩

/-- One script after the other. -/
def bind : Script Ω κ σ α → (α → Script Ω κ σ β) → Script Ω κ σ β
  | .done a, f => f a
  | .call answer record effect next, f => .call answer record effect fun b => (next b).bind f

@[simp] lemma done_bind (a : α) (f : α → Script Ω κ σ β) : (done a).bind f = f a := rfl

lemma prog_bind (env : ℕ → Ω) (sc : Script Ω κ σ α) (f : α → Script Ω κ σ β) (t : ℕ) (s : σ) :
    ((sc.bind f).prog env).run t s = (sc.prog env >>= fun a => (f a).prog env).run t s := by
  induction sc generalizing t s with
  | done a => simp [bind, prog]
  | call answer record effect next ih =>
      simp only [bind, prog, ih, Prog.bind_run, List.cons_append, List.length_cons]
      rw [Nat.add_right_comm t 1]
      rfl

/-- Two environments that agree on the instants of a run give the same run. -/
lemma prog_congr {env env' : ℕ → Ω} (sc : Script Ω κ σ α) (t : ℕ) (s : σ)
    (h : ∀ i < ((sc.prog env).run t s).calls.length, env' (t + i) = env (t + i)) :
    (sc.prog env').run t s = (sc.prog env).run t s := by
  induction sc generalizing t s with
  | done a => rfl
  | call answer record effect next ih =>
      have hnow : env' t = env t := h 0 (by simp [prog])
      have hlater := ih (answer s (env t)) (t + 1) (effect (answer s (env t)) s) fun i hi => by
        have hi' := h (i + 1) (by simpa [prog] using hi)
        rwa [Nat.add_right_comm t 1 i]
      simp only [prog, hnow, hlater]

/-- A run sees nothing of the environment but the instants it takes. -/
lemma prog_confined (sc : Script Ω κ σ α) (env : ℕ → Ω) (t : ℕ) (s : σ) :
    (sc.prog (confined env t ((sc.prog env).run t s).calls.length)).run t s =
      (sc.prog env).run t s :=
  sc.prog_congr t s fun i hi => congrArg env (by omega)

/-- What may be said of a single call. -/
abbrev CallSpec (Ω κ σ : Type) : Type 1 :=
  ∀ β : Type, (σ → Ω → β) → (β → κ) → (β → σ → σ) → Prop

/-- All calls a script can come to are as said. -/
def All (P : CallSpec Ω κ σ) : Script Ω κ σ α → Prop
  | .done _ => True
  | .call (β := β) answer record effect next => P β answer record effect ∧ ∀ b, (next b).All P

lemma All.bind {P : CallSpec Ω κ σ} {sc : Script Ω κ σ α} {f : α → Script Ω κ σ β}
    (hsc : sc.All P) (hf : ∀ a, (f a).All P) : (sc.bind f).All P := by
  induction sc with
  | done a => exact hf a
  | call answer record effect next ih => exact ⟨hsc.1, fun b => ih b (hsc.2 b)⟩

lemma All.mono {P Q : CallSpec Ω κ σ} (h : ∀ β answer record effect, P β answer record effect →
    Q β answer record effect) {sc : Script Ω κ σ α} (hsc : sc.All P) : sc.All Q := by
  induction sc with
  | done a => trivial
  | call answer record effect next ih => exact ⟨h _ _ _ _ hsc.1, fun b => ih b (hsc.2 b)⟩

/-- If no call touches the store, the program does not. -/
lemma All.store_eq {P : CallSpec Ω κ σ} {sc : Script Ω κ σ α} (hsc : sc.All P)
    (hkeep : ∀ β answer record effect, P β answer record effect → ∀ b s, effect b s = s)
    (env : ℕ → Ω) (t : ℕ) (s : σ) : ((sc.prog env).run t s).store = s := by
  induction sc generalizing t s with
  | done a => rfl
  | call answer record effect next ih =>
      simp only [prog, ih _ (hsc.2 _)]
      exact hkeep _ _ _ _ hsc.1 _ _

end Script

/-! ## Playing a script -/

/-- Starting on the store `s`, and meeting these outcomes at its calls, the script has come to
`rest`, has made these calls and has left this store. -/
inductive Plays (sc : Script Ω κ σ α) (s : σ) : List Ω → Script Ω κ σ α → List κ → σ → Prop
  | start : Plays sc s [] sc [] s
  | call {outcomes : List Ω} {β : Type} {answer : σ → Ω → β} {record : β → κ} {effect : β → σ → σ}
      {next : β → Script Ω κ σ α} {calls : List κ} {s' : σ}
      (h : Plays sc s outcomes (.call answer record effect next) calls s') (o : Ω) :
      Plays sc s (outcomes ++ [o]) (next (answer s' o)) (calls ++ [record (answer s' o)])
        (effect (answer s' o) s')

/-- From the instant `t` on, the environment is what was met. -/
def Meets (env : ℕ → Ω) (t : ℕ) (outcomes : List Ω) : Prop :=
  ∀ i o, outcomes[i]? = some o → env (t + i) = o

/-- The environment of these outcomes, which stays as it is after the last. -/
def meeting (o : Ω) (outcomes : List Ω) : ℕ → Ω := fun t => outcomes.getD t o

lemma meets_meeting (o : Ω) (outcomes : List Ω) : Meets (meeting o outcomes) 0 outcomes := by
  intro i o' hi
  simp [meeting, hi]

section Plays

variable {sc rest : Script Ω κ σ α} {s s' : σ} {outcomes : List Ω} {calls : List κ}

/-- **A part that was played is how a run begins**: in every environment that answers as it did, the
program makes these calls and goes on with the rest. -/
theorem Plays.run (h : Plays sc s outcomes rest calls s') {env : ℕ → Ω} {t : ℕ}
    (hmeets : Meets env t outcomes) :
    (sc.prog env).run t s =
      let r := (rest.prog env).run (t + outcomes.length) s'
      ⟨r.value, calls ++ r.calls, r.store⟩ := by
  induction h with
  | start => rfl
  | @call outcomes β answer record effect next calls s' h o ih =>
      have hnow : env (t + outcomes.length) = o := hmeets outcomes.length o (by simp)
      have hbefore : Meets env t outcomes := by
        intro i o' hi
        have hlt : i < outcomes.length := (List.getElem?_eq_some_iff.mp hi).1
        exact hmeets i o' (by rw [List.getElem?_append_left hlt, hi])
      rw [ih hbefore]
      simp only [Script.prog, hnow, List.length_append, List.length_singleton, List.append_assoc,
        List.singleton_append, Nat.add_assoc]

end Plays

/-! ## Scripts of programs -/

/-- A script for a program that may ask its environment, all calls of which are as `P` says. -/
structure Scripted (P : Script.CallSpec Ω κ σ) (f : (ℕ → Ω) → Prog κ σ α) where
  script : Script Ω κ σ α
  prog_eq : ∀ env, f env = script.prog env
  all : script.All P

namespace Scripted

variable {P Q : Script.CallSpec Ω κ σ}

lemma store_eq {f : (ℕ → Ω) → Prog κ σ α} (hf : Scripted P f)
    (hkeep : ∀ β answer record effect, P β answer record effect → ∀ b s, effect b s = s)
    (env : ℕ → Ω) (t : ℕ) (s : σ) : ((f env).run t s).store = s := by
  rw [hf.prog_eq]
  exact hf.all.store_eq hkeep env t s

/-- Another way to write the same program. -/
def congr {f g : (ℕ → Ω) → Prog κ σ α} (h : ∀ env, f env = g env) (hg : Scripted P g) :
    Scripted P f :=
  ⟨hg.script, fun env => (h env).trans (hg.prog_eq env), hg.all⟩

def mono {f : (ℕ → Ω) → Prog κ σ α}
    (h : ∀ β answer record effect, P β answer record effect → Q β answer record effect)
    (hf : Scripted P f) : Scripted Q f :=
  ⟨hf.script, hf.prog_eq, hf.all.mono h⟩

protected def pure (a : α) : Scripted P fun _ => (Pure.pure a : Prog κ σ α) :=
  ⟨.done a, fun _ => rfl, trivial⟩

/-- A single call. -/
def call (answer : σ → Ω → β) (record : β → κ) (effect : β → σ → σ)
    (h : P β answer record effect) :
    Scripted P fun env => (⟨fun t s =>
      ⟨answer s (env t), [record (answer s (env t))], effect (answer s (env t)) s⟩⟩ :
        Prog κ σ β) :=
  ⟨.call answer record effect .done, fun _ => rfl, h, fun _ => trivial⟩

/-- A call that has nothing to do with the store. -/
def ask (answer : Ω → β) (record : β → κ) (h : P β (fun _ => answer) record fun _ s => s) :
    Scripted P fun env => (Prog.ask (fun t => answer (env t)) record : Prog κ σ β) :=
  call (fun _ => answer) record (fun _ s => s) h

def tell (c : κ) (h : P PUnit (fun _ _ => ⟨⟩) (fun _ => c) fun _ s => s) :
    Scripted P fun _ => (Prog.tell c : Prog κ σ PUnit) :=
  ask (fun _ => PUnit.unit) (fun _ => c) h

/-- Sequential composition. -/
def bind {f : (ℕ → Ω) → Prog κ σ α} {g : (ℕ → Ω) → α → Prog κ σ β} (hf : Scripted P f)
    (hg : ∀ a, Scripted P fun env => g env a) : Scripted P fun env => f env >>= g env where
  script := hf.script.bind fun a => (hg a).script
  prog_eq env := by
    have hnext : g env = fun a => ((hg a).script).prog env := funext fun a => (hg a).prog_eq env
    rw [hf.prog_eq env, hnext]
    refine congrArg Prog.mk (funext fun t => funext fun s => ?_)
    exact (Script.prog_bind env hf.script (fun a => (hg a).script) t s).symm
  all := hf.all.bind fun a => (hg a).all

def ite {c : Prop} [Decidable c] {f g : (ℕ → Ω) → Prog κ σ α} (hf : c → Scripted P f)
    (hg : ¬ c → Scripted P g) : Scripted P fun env => if c then f env else g env :=
  if h : c then (hf h).congr fun _ => if_pos h else (hg h).congr fun _ => if_neg h

/-- A loop. -/
def foldlM {f : (ℕ → Ω) → β → γ → Prog κ σ β} (hf : ∀ b a, Scripted P fun env => f env b a) :
    ∀ (l : List γ) (b : β), Scripted P fun env => l.foldlM (f env) b
  | [], b => .pure b
  | a :: l, b => .bind (hf b a) fun b' => foldlM hf l b'

end Scripted

end Interaction
