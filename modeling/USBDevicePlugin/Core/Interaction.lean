import Mathlib.Data.List.Basic
import Mathlib.Control.Basic

/-!
# Programs that talk to the outside

A sequential component is modelled as a computation that makes *calls* to an environment it does
not control.  A program is run at a time — the number of calls made before — and on a store; it
yields a value, the calls it made, in order, and the new store.  What the environment answers may
depend on the time, so a statement about every environment covers every sequence of answers, two
different answers to the same question included.

That a program only ever appends to the record of calls is built into the type: `Prog` hands out
the calls made and never sees the earlier ones.

* `Prog`, `ask`, `modifyStore` — programs and their two primitive steps.
* `Emits P` — every call the program makes satisfies `P`.
* `Returns v` — the program yields `v` at every time and on every store.
* `foldlM_snoc_run` — the last round of a loop.
* `foldlM_run_of_single` — a loop that skips every element but one.
* `replay` — the calls of a program on an account of the resources held.
* `Leads`, `Balanced` — what a program makes of an account; nothing, in the end.

`Emits`, `Returns`, `Leads` and `Balanced` have one rule for each way of building a program.
-/

namespace Interaction

universe u

variable {κ : Type*} {σ α β γ : Type u}

/-- What a program yields: a value, the calls made and the store left behind. -/
structure Result (κ : Type*) (σ α : Type u) where
  value : α
  calls : List κ
  store : σ

/-- A program: run at a time and on a store. -/
structure Prog (κ : Type*) (σ α : Type u) where
  run : ℕ → σ → Result κ σ α

namespace Prog

/-- The program that makes no call. -/
protected def pure (a : α) : Prog κ σ α := ⟨fun _ s => ⟨a, [], s⟩⟩

/-- Sequential composition: the second program runs after the calls of the first. -/
protected def bind (m : Prog κ σ α) (f : α → Prog κ σ β) : Prog κ σ β where
  run t s :=
    let r := m.run t s
    let r' := (f r.value).run (t + r.calls.length) r.store
    ⟨r'.value, r.calls ++ r'.calls, r'.store⟩

instance : Monad (Prog κ σ) where
  pure := Prog.pure
  bind := Prog.bind

/-- One call: the environment's answer at this time, recorded as `mk` says. -/
def ask (answer : ℕ → α) (mk : α → κ) : Prog κ σ α := ⟨fun t s => ⟨answer t, [mk (answer t)], s⟩⟩

/-- One call that tells the environment something and waits for no answer. -/
def tell (c : κ) : Prog κ σ PUnit := ask (fun _ => ⟨⟩) (fun _ => c)

/-- Read the store. -/
def getStore : Prog κ σ σ := ⟨fun _ s => ⟨s, [], s⟩⟩

/-- Change the store. -/
def modifyStore (f : σ → σ) : Prog κ σ PUnit := ⟨fun _ s => ⟨⟨⟩, [], f s⟩⟩

/-! ## What each step yields -/

section Run

variable (t : ℕ) (s : σ)

@[simp] lemma pure_run (a : α) : (pure a : Prog κ σ α).run t s = ⟨a, [], s⟩ := rfl

@[simp] lemma bind_run (m : Prog κ σ α) (f : α → Prog κ σ β) :
    (m >>= f).run t s =
      let r := m.run t s
      let r' := (f r.value).run (t + r.calls.length) r.store
      ⟨r'.value, r.calls ++ r'.calls, r'.store⟩ := rfl

@[simp] lemma ask_run (answer : ℕ → α) (mk : α → κ) :
    (ask answer mk : Prog κ σ α).run t s = ⟨answer t, [mk (answer t)], s⟩ := rfl

@[simp] lemma tell_run (c : κ) : (tell c : Prog κ σ PUnit).run t s = ⟨⟨⟩, [c], s⟩ := rfl

@[simp] lemma getStore_run : (getStore : Prog κ σ σ).run t s = ⟨s, [], s⟩ := rfl

@[simp] lemma modifyStore_run (f : σ → σ) :
    (modifyStore f : Prog κ σ PUnit).run t s = ⟨⟨⟩, [], f s⟩ := rfl

end Run

/-! ## Which calls are made -/

/-- Every call `m` makes, whenever it runs, satisfies `P`. -/
def Emits (P : κ → Prop) (m : Prog κ σ α) : Prop := ∀ t s, ∀ c ∈ (m.run t s).calls, P c

section Emits

variable {P : κ → Prop} {m : Prog κ σ α}

lemma Emits.pure (a : α) : Emits P (Pure.pure a : Prog κ σ α) := by
  intro t s c hc
  simp at hc

lemma Emits.bind {f : α → Prog κ σ β} (hm : Emits P m) (hf : ∀ a, Emits P (f a)) :
    Emits P (m >>= f) := by
  intro t s c hc
  rcases List.mem_append.mp hc with h | h
  · exact hm t s c h
  · exact hf _ _ _ c h

lemma Emits.ask {answer : ℕ → α} {mk : α → κ} (h : ∀ a, P (mk a)) :
    Emits P (ask answer mk : Prog κ σ α) := by
  intro t s c hc
  rw [List.mem_singleton.mp hc]
  exact h _

lemma Emits.tell {c : κ} (h : P c) : Emits P (tell c : Prog κ σ PUnit) := Emits.ask fun _ => h

lemma Emits.mono {Q : κ → Prop} (hm : Emits P m) (h : ∀ c, P c → Q c) : Emits Q m :=
  fun t s c hc => h c (hm t s c hc)

lemma Emits.foldlM {f : β → γ → Prog κ σ β} (hf : ∀ b a, Emits P (f b a)) :
    ∀ (l : List γ) (b : β), Emits P (l.foldlM f b)
  | [], b => Emits.pure b
  | a :: l, b => Emits.bind (hf b a) fun b' => Emits.foldlM hf l b'

end Emits

/-! ## Programs whose value does not depend on when they run -/

/-- `m` yields `v` at every time and on every store. -/
def Returns (m : Prog κ σ α) (v : α) : Prop := ∀ t s, (m.run t s).value = v

section Returns

variable {m : Prog κ σ α} {v : α}

lemma Returns.pure (a : α) : Returns (Pure.pure a : Prog κ σ α) a := fun _ _ => rfl

lemma Returns.bind {f : α → Prog κ σ β} {w : β} (hm : Returns m v) (hf : Returns (f v) w) :
    Returns (m >>= f) w := by
  intro t s
  simp only [bind_run, hm t s]
  exact hf _ _

lemma Returns.foldlM {f : β → γ → Prog κ σ β} {g : β → γ → β}
    (hf : ∀ b a, Returns (f b a) (g b a)) :
    ∀ (l : List γ) (b : β), Returns (l.foldlM f b) (l.foldl g b)
  | [], b => Returns.pure b
  | a :: l, b => Returns.bind (hf b a) (Returns.foldlM hf l (g b a))

end Returns

/-! ## Loops -/

section Loop

variable {f : β → γ → Prog κ σ β}

/-- The last round begins when the rounds before are over. -/
lemma foldlM_snoc_run (a : γ) : ∀ (l : List γ) (b : β) (t : ℕ) (s : σ),
    ((l ++ [a]).foldlM f b).run t s =
      let r := (l.foldlM f b).run t s
      let last := (f r.value a).run (t + r.calls.length) r.store
      ⟨last.value, r.calls ++ last.calls, last.store⟩
  | [], b, t, s => by simp
  | x :: l, b, t, s => by
      have ih := foldlM_snoc_run a l
      simp only [List.cons_append, List.foldlM_cons, bind_run, ih, List.length_append,
        List.append_assoc, Nat.add_assoc]

/-- A loop that skips every element. -/
lemma foldlM_run_of_skip {l : List γ} (hskip : ∀ a ∈ l, ∀ b, f b a = Pure.pure b) (b : β) (t : ℕ)
    (s : σ) : (l.foldlM f b).run t s = ⟨b, [], s⟩ := by
  induction l with
  | nil => rfl
  | cons a l ih =>
      rw [List.foldlM_cons, hskip a (by simp), bind_run, pure_run]
      simp [ih fun a' ha' => hskip a' (by simp [ha'])]

/-- A loop that skips every element but one does what the body does at that one. -/
lemma foldlM_run_of_single (a : γ) (post : List γ) :
    ∀ (pre : List γ) (_ : ∀ x ∈ pre ++ post, ∀ b, f b x = Pure.pure b) (b : β) (t : ℕ) (s : σ),
      ((pre ++ a :: post).foldlM f b).run t s = (f b a).run t s
  | [], hskip, b, t, s => by
      have hpost := fun b' t' s' => foldlM_run_of_skip hskip b' t' s'
      simp only [List.nil_append] at hpost
      simp [hpost]
  | x :: pre, hskip, b, t, s => by
      have ih := foldlM_run_of_single a post pre
        (fun y hy => hskip y (List.mem_cons_of_mem x hy)) b t s
      rw [List.cons_append, List.foldlM_cons, hskip x (by simp), bind_run, pure_run]
      simp [ih]

end Loop

/-! ## Resources -/

section Replay

variable {ρ : Type*} (account : κ → ρ → Option ρ)

/-- Replay calls on an account of the resources held; `none` when a call gives back something that
is not held, or takes something that may not be taken twice. -/
def replay (r : ρ) (calls : List κ) : Option ρ := calls.foldlM (fun r c => account c r) r

@[simp] lemma replay_nil (r : ρ) : replay account r [] = some r := rfl

@[simp] lemma replay_cons (r : ρ) (c : κ) (calls : List κ) :
    replay account r (c :: calls) = (account c r).bind fun r' => replay account r' calls := rfl

lemma replay_append (r : ρ) (calls calls' : List κ) :
    replay account r (calls ++ calls') =
      (replay account r calls).bind fun r' => replay account r' calls' := by
  simp [replay, List.foldlM_append, Option.bind_eq_bind]

end Replay

/-! ## Pre- and postconditions on the account -/

section Leads

variable {ρ : Type*} (account : κ → ρ → Option ρ)

/-- Run on the account `r`, `m` makes calls that may be made, and ends with a value and an account
that satisfy `Q`. -/
def Leads (m : Prog κ σ α) (r : ρ) (Q : α → ρ → Prop) : Prop :=
  ∀ t s, ∃ r', replay account r (m.run t s).calls = some r' ∧ Q (m.run t s).value r'

/-- `m` gives back whatever it takes. -/
def Balanced (m : Prog κ σ α) : Prop := ∀ r, Leads account m r fun _ r' => r' = r

variable {account} {m : Prog κ σ α} {r : ρ} {Q : α → ρ → Prop}

lemma Leads.pure {a : α} (h : Q a r) : Leads account (Pure.pure a : Prog κ σ α) r Q :=
  fun _ _ => ⟨r, rfl, h⟩

lemma Leads.ask {answer : ℕ → α} {mk : α → κ}
    (h : ∀ a, ∃ r', account (mk a) r = some r' ∧ Q a r') :
    Leads account (ask answer mk : Prog κ σ α) r Q := by
  intro t s
  obtain ⟨r', hr', hQ⟩ := h (answer t)
  exact ⟨r', by simp [hr'], hQ⟩

lemma Leads.bind {f : α → Prog κ σ β} {Q' : β → ρ → Prop} (hm : Leads account m r Q)
    (hf : ∀ a r', Q a r' → Leads account (f a) r' Q') : Leads account (m >>= f) r Q' := by
  intro t s
  obtain ⟨r', hr', hQ⟩ := hm t s
  obtain ⟨r'', hr'', hQ'⟩ :=
    hf _ r' hQ (t + (m.run t s).calls.length) (m.run t s).store
  exact ⟨r'', by simp [replay_append, hr', hr''], hQ'⟩

lemma Balanced.pure (a : α) : Balanced account (Pure.pure a : Prog κ σ α) :=
  fun _ => Leads.pure rfl

lemma Balanced.ask {answer : ℕ → α} {mk : α → κ} (h : ∀ a r, account (mk a) r = some r) :
    Balanced account (ask answer mk : Prog κ σ α) :=
  fun r => Leads.ask fun a => ⟨r, h a r, rfl⟩

lemma Balanced.tell {c : κ} (h : ∀ r, account c r = some r) :
    Balanced account (tell c : Prog κ σ PUnit) := Balanced.ask fun _ => h

/-- A balanced program in front changes nothing. -/
lemma Leads.of_balanced {f : α → Prog κ σ β} {Q' : β → ρ → Prop} (hm : Balanced account m)
    (hf : ∀ a, Leads account (f a) r Q') : Leads account (m >>= f) r Q' :=
  (hm r).bind fun a _ hr' => hr' ▸ hf a

lemma Balanced.bind {f : α → Prog κ σ β} (hm : Balanced account m)
    (hf : ∀ a, Balanced account (f a)) : Balanced account (m >>= f) :=
  fun r => Leads.of_balanced hm fun a => hf a r

lemma Balanced.foldlM {f : β → γ → Prog κ σ β} (hf : ∀ b a, Balanced account (f b a)) :
    ∀ (l : List γ) (b : β), Balanced account (l.foldlM f b)
  | [], b => Balanced.pure b
  | a :: l, b => Balanced.bind (hf b a) fun b' => Balanced.foldlM hf l b'

/-- What one call takes, the rest gives back. -/
lemma Balanced.acquire {answer : ℕ → α} {mk : α → κ} {f : α → Prog κ σ β}
    (h : ∀ a r, ∃ r', account (mk a) r = some r' ∧ Leads account (f a) r' fun _ r'' => r'' = r) :
    Balanced account (Prog.ask answer mk >>= f) := by
  intro r
  refine Leads.bind (Q := fun a r' => account (mk a) r = some r') (Leads.ask fun a => ?_) ?_
  · obtain ⟨r', hr', -⟩ := h a r
    exact ⟨r', hr', hr'⟩
  · intro a r' hr'
    obtain ⟨r'', hr'', hleads⟩ := h a r
    obtain rfl := Option.some.inj (hr'.symm.trans hr'')
    exact hleads

/-- The other half of it: a balanced program, and then the call that gives back. -/
lemma Leads.release {f : α → Prog κ σ β} {c : κ} {r' : ρ} (hm : Balanced account m)
    (hc : account c r = some r') (hf : ∀ a, Balanced account (f a)) :
    Leads account (m >>= fun a => tell c >>= fun _ => f a) r fun _ r'' => r'' = r' := by
  refine Leads.of_balanced hm fun a => ?_
  refine Leads.bind (Q := fun _ r₂ => r₂ = r') (Leads.ask fun _ => ⟨r', hc, rfl⟩) fun _ r₂ hr₂ => ?_
  exact hr₂ ▸ hf a r'

lemma Balanced.replay_eq (hm : Balanced account m) (r : ρ) (t : ℕ) (s : σ) :
    replay account r (m.run t s).calls = some r := by
  obtain ⟨r', hr', rfl⟩ := hm r t s
  exact hr'

end Leads

end Prog

end Interaction
