import Mathlib.Data.List.Pairwise
import Mathlib.Order.Lattice

/-!
# Linked lists and iterators

Lists whose elements have an identity, as the nodes of a linked list do.  Elements are appended at
the end and erased anywhere.  An erased element is never the same as a later one, even if the value
is, so that a cursor can be left behind on an element that is gone.

Nodes are numbered in the order in which they are created, and as they are only appended the numbers
increase along the list.

A **traversal** is a loop with a cursor over a list that others change between its steps.

* `NodeList.advance_node`, `NodeList.advance_past` — where a cursor goes.
* `Traversal.never_dangling_iff` — it is left behind only if its own element is erased.
* `Traversal.existsUnique_cursor` — an element that stays is visited once.
* `Traversal.exists_past` — the loop ends once no more elements are appended.
-/

namespace LinkedList

/-- Values at numbered nodes. -/
structure NodeList (α : Type*) where
  nodes : List (ℕ × α)
  fresh : ℕ
  increasing : nodes.Pairwise fun x y => x.1 < y.1
  lt_fresh : ∀ x ∈ nodes, x.1 < fresh

/-- An iterator: at a node, past the last one, or left behind on a node that has been erased. -/
inductive Cursor
  | node (id : ℕ)
  | past
  | dangling
  deriving DecidableEq, Repr

namespace NodeList

variable {α : Type*}

/-! ## Operations -/

/-- Is the node in the list? -/
def Contains (l : NodeList α) (id : ℕ) : Prop := ∃ a, (id, a) ∈ l.nodes

def values (l : NodeList α) : List α := l.nodes.map Prod.snd

def pushBack (l : NodeList α) (a : α) : NodeList α where
  nodes := l.nodes ++ [(l.fresh, a)]
  fresh := l.fresh + 1
  increasing := by
    refine List.pairwise_append.mpr ⟨l.increasing, List.pairwise_singleton _ _, ?_⟩
    intro x hx y hy
    rw [List.mem_singleton] at hy
    exact hy ▸ l.lt_fresh x hx
  lt_fresh := by
    intro x hx
    rcases List.mem_append.mp hx with hx | hx
    · exact Nat.lt_succ_of_lt (l.lt_fresh x hx)
    · rw [List.mem_singleton] at hx
      exact hx ▸ Nat.lt_succ_self _

def erase (l : NodeList α) (id : ℕ) : NodeList α where
  nodes := l.nodes.filter fun x => x.1 ≠ id
  fresh := l.fresh
  increasing := l.increasing.filter _
  lt_fresh x hx := l.lt_fresh x (List.mem_filter.mp hx).1

/-- The value at a node. -/
def read (l : NodeList α) (id : ℕ) : Option α := (l.nodes.find? fun x => x.1 = id).map Prod.snd

/-- The first of some nodes. -/
def firstOf : List (ℕ × α) → Cursor
  | [] => .past
  | x :: _ => .node x.1

/-- The node after the given one. -/
def successor (id : ℕ) : List (ℕ × α) → Cursor
  | [] => .dangling
  | x :: rest => if x.1 = id then firstOf rest else successor id rest

def begin (l : NodeList α) : Cursor := firstOf l.nodes

def advance (l : NodeList α) (id : ℕ) : Cursor := successor id l.nodes

@[simp] lemma values_pushBack (l : NodeList α) (a : α) : (l.pushBack a).values = l.values ++ [a] := by
  simp [values, pushBack]

/-! ## Reading and advancing -/

/-- A node has one value. -/
lemma eq_of_mem {l : NodeList α} {id : ℕ} {a b : α} (ha : (id, a) ∈ l.nodes)
    (hb : (id, b) ∈ l.nodes) : a = b := by
  by_contra hne
  have hdifferent : l.nodes.Pairwise fun x y => x.1 ≠ y.1 := l.increasing.imp Nat.ne_of_lt
  have : Std.Symm fun x y : ℕ × α => x.1 ≠ y.1 := ⟨fun _ _ => Ne.symm⟩
  exact hdifferent.forall ha hb (by simpa using hne) rfl

lemma read_eq_some_iff {l : NodeList α} {id : ℕ} {a : α} :
    l.read id = some a ↔ (id, a) ∈ l.nodes := by
  constructor
  · intro hread
    obtain ⟨x, hx, rfl⟩ := Option.map_eq_some_iff.mp hread
    have hid : x.1 = id := by simpa using List.find?_some hx
    exact hid ▸ List.mem_of_find?_eq_some hx
  · intro ha
    cases hx : l.nodes.find? fun x => x.1 = id with
    | none =>
        have hnone := List.find?_eq_none.mp hx _ ha
        simp at hnone
    | some x =>
        have hid : x.1 = id := by simpa using List.find?_some hx
        have hmem : (id, x.2) ∈ l.nodes := hid ▸ List.mem_of_find?_eq_some hx
        rw [read, hx, Option.map_some, eq_of_mem hmem ha]

lemma contains_of_firstOf {l : List (ℕ × α)} {id : ℕ} (h : firstOf l = .node id) :
    ∃ a, (id, a) ∈ l := by
  cases l with
  | nil => simp [firstOf] at h
  | cons x rest =>
      obtain rfl : x.1 = id := by simpa [firstOf] using h
      exact ⟨x.2, List.mem_cons_self⟩

lemma contains_of_begin {l : NodeList α} {id : ℕ} (h : l.begin = .node id) : l.Contains id :=
  contains_of_firstOf h

/-- The list begins with the oldest of its nodes. -/
lemma begin_le {l : NodeList α} {id : ℕ} (h : l.Contains id) :
    ∃ first, l.begin = .node first ∧ first ≤ id := by
  obtain ⟨a, ha⟩ := h
  have hincreasing := l.increasing
  rw [begin]
  cases hnodes : l.nodes with
  | nil => simp [hnodes] at ha
  | cons x rest =>
      rw [hnodes] at ha hincreasing
      refine ⟨x.1, rfl, ?_⟩
      rcases List.mem_cons.mp ha with rfl | ha
      · exact le_rfl
      · exact le_of_lt (List.rel_of_pairwise_cons hincreasing ha)

lemma begin_ne_dangling (l : NodeList α) : l.begin ≠ .dangling := by
  rw [begin]
  cases l.nodes <;> simp [firstOf]

lemma successor_eq_dangling_iff {l : List (ℕ × α)} {id : ℕ} :
    successor id l = .dangling ↔ ¬ ∃ a, (id, a) ∈ l := by
  induction l with
  | nil => simp [successor]
  | cons x rest ih =>
      rw [successor]
      split_ifs with hid
      · have hfirst : firstOf rest ≠ .dangling := by cases rest <;> simp [firstOf]
        simp only [hfirst, false_iff, not_not]
        exact ⟨x.2, hid ▸ List.mem_cons_self⟩
      · rw [ih]
        refine not_congr (exists_congr fun a => ?_)
        rw [List.mem_cons, or_iff_right]
        rintro rfl
        exact hid rfl

/-- **A cursor that is advanced is left behind exactly if its node has been erased.** -/
lemma advance_eq_dangling_iff {l : NodeList α} {id : ℕ} :
    l.advance id = .dangling ↔ ¬ l.Contains id :=
  successor_eq_dangling_iff

lemma successor_spec (id : ℕ) : ∀ {l : List (ℕ × α)}, l.Pairwise (fun x y => x.1 < y.1) →
    match successor id l with
    | .node next => (∃ a, (next, a) ∈ l) ∧ id < next ∧ ∀ x ∈ l, id < x.1 → next ≤ x.1
    | .past => ∀ x ∈ l, x.1 ≤ id
    | .dangling => True
  | [], _ => trivial
  | x :: rest, hincreasing => by
      obtain ⟨hx, hrest⟩ := List.pairwise_cons.mp hincreasing
      rw [successor]
      split_ifs with hid
      · subst hid
        cases rest with
        | nil => simp [firstOf]
        | cons y rest =>
            refine ⟨⟨y.2, by simp⟩, hx y List.mem_cons_self, ?_⟩
            intro z hz hlt
            rcases List.mem_cons.mp hz with rfl | hz
            · exact absurd hlt (lt_irrefl _)
            · rcases List.mem_cons.mp hz with rfl | hz
              · exact le_rfl
              · exact le_of_lt (List.rel_of_pairwise_cons hrest hz)
      · have ih := successor_spec id hrest
        -- the node is further on, so the one before it is older
        have holder : successor id rest ≠ .dangling → x.1 < id := by
          intro hne
          obtain ⟨a, ha⟩ := not_not.mp fun hnot => hne (successor_eq_dangling_iff.mpr hnot)
          exact hx _ ha
        cases hnext : successor id rest with
        | node next =>
            rw [hnext] at ih holder
            obtain ⟨⟨a, ha⟩, hlt, hleast⟩ := ih
            refine ⟨⟨a, List.mem_cons_of_mem _ ha⟩, hlt, fun z hz hzlt => ?_⟩
            rcases List.mem_cons.mp hz with rfl | hz
            · exact absurd hzlt (lt_asymm (holder (by simp)))
            · exact hleast z hz hzlt
        | past =>
            rw [hnext] at ih holder
            intro z hz
            rcases List.mem_cons.mp hz with rfl | hz
            · exact le_of_lt (holder (by simp))
            · exact ih z hz
        | dangling => trivial

/-- Advancing leads to the next younger node. -/
lemma advance_node {l : NodeList α} {id next : ℕ} (h : l.advance id = .node next) :
    l.Contains next ∧ id < next ∧ ∀ other, l.Contains other → id < other → next ≤ other := by
  have hspec := successor_spec id l.increasing
  rw [show successor id l.nodes = .node next from h] at hspec
  exact ⟨hspec.1, hspec.2.1, fun other ⟨a, ha⟩ hlt => hspec.2.2 _ ha hlt⟩

/-- It leads past the last node if there is none. -/
lemma advance_past {l : NodeList α} {id other : ℕ} (h : l.advance id = .past)
    (hother : l.Contains other) : other ≤ id := by
  have hspec := successor_spec id l.increasing
  rw [show successor id l.nodes = .past from h] at hspec
  obtain ⟨a, ha⟩ := hother
  exact hspec _ ha

lemma successor_append {id : ℕ} {pre rest : List (ℕ × α)} {x : ℕ × α} (hid : x.1 = id)
    (hpre : ∀ y ∈ pre, y.1 < id) : successor id (pre ++ x :: rest) = firstOf rest := by
  induction pre with
  | nil => simp [successor, hid]
  | cons y pre ih =>
      rw [List.cons_append, successor, if_neg (Nat.ne_of_lt (hpre y List.mem_cons_self))]
      exact ih fun z hz => hpre z (List.mem_cons_of_mem y hz)

/-- It leads to what comes next in the list. -/
lemma advance_of_nodes_eq {l : NodeList α} {pre rest : List (ℕ × α)} {x : ℕ × α}
    (h : l.nodes = pre ++ x :: rest) : l.advance x.1 = firstOf rest := by
  have hincreasing := l.increasing
  rw [h] at hincreasing
  rw [advance, h]
  refine successor_append rfl fun y hy => ?_
  exact (List.pairwise_append.mp hincreasing).2.2 y hy x List.mem_cons_self

end NodeList

/-! ## Traversals -/

/-- A loop over a list: the list and the cursor after each of its steps.  The cursor is advanced in
the list as it is by then. -/
structure Traversal {α : Type*} (list : ℕ → NodeList α) (cursor : ℕ → Cursor) : Prop where
  start : cursor 0 = (list 0).begin
  step : ∀ k id, cursor k = .node id → (list k).Contains id →
    cursor (k + 1) = (list (k + 1)).advance id
  stay : ∀ k, (∀ id, cursor k ≠ .node id) → cursor (k + 1) = cursor k

namespace Traversal

variable {α : Type*} {list : ℕ → NodeList α} {cursor : ℕ → Cursor}

/-- What is at the cursor is in the list. -/
lemma contains (h : Traversal list cursor) {k id : ℕ} (hk : cursor k = .node id) :
    (list k).Contains id := by
  induction k generalizing id with
  | zero => exact NodeList.contains_of_begin (h.start ▸ hk)
  | succ k ih =>
      cases hbefore : cursor k with
      | node before =>
          rw [h.step k before hbefore (ih hbefore)] at hk
          exact (NodeList.advance_node hk).1
      | past => rw [h.stay k (by simp [hbefore]), hbefore] at hk; exact Cursor.noConfusion hk
      | dangling => rw [h.stay k (by simp [hbefore]), hbefore] at hk; exact Cursor.noConfusion hk

lemma next (h : Traversal list cursor) {k id : ℕ} (hk : cursor k = .node id) :
    cursor (k + 1) = (list (k + 1)).advance id :=
  h.step k id hk (h.contains hk)

/-- A cursor that is at a node has been at nodes all the time. -/
lemma exists_node_of_le (h : Traversal list cursor) {j k id : ℕ} (hk : cursor k = .node id)
    (hjk : j ≤ k) : ∃ before, cursor j = .node before := by
  induction k generalizing id with
  | zero => exact ⟨id, Nat.le_zero.mp hjk ▸ hk⟩
  | succ k ih =>
      rcases Nat.le_succ_iff.mp hjk with hle | rfl
      · by_cases hnode : ∃ before, cursor k = .node before
        · obtain ⟨before, hbefore⟩ := hnode
          exact ih hbefore hle
        · rw [h.stay k (not_exists.mp hnode)] at hk
          exact absurd ⟨id, hk⟩ hnode
      · exact ⟨id, hk⟩

/-- The nodes visited get younger. -/
lemma lt_of_lt (h : Traversal list cursor) {j k id id' : ℕ} (hj : cursor j = .node id)
    (hk : cursor k = .node id') (hjk : j < k) : id < id' := by
  induction k generalizing id' with
  | zero => exact absurd hjk (Nat.not_lt_zero j)
  | succ k ih =>
      obtain ⟨before, hbefore⟩ := h.exists_node_of_le hk (Nat.le_succ k)
      have hstep : before < id' := by
        rw [h.next hbefore] at hk
        exact (NodeList.advance_node hk).2.1
      rcases Nat.lt_succ_iff_lt_or_eq.mp hjk with hlt | rfl
      · exact lt_trans (ih hbefore hlt) hstep
      · obtain rfl : id = before := Cursor.node.inj (hj.symm.trans hbefore)
        exact hstep

/-- So they are at least as young as the number of steps. -/
lemma le_of_node (h : Traversal list cursor) {k id : ℕ} (hk : cursor k = .node id) : k ≤ id := by
  induction k generalizing id with
  | zero => exact Nat.zero_le id
  | succ k ih =>
      obtain ⟨before, hbefore⟩ := h.exists_node_of_le hk (Nat.le_succ k)
      exact Nat.lt_of_le_of_lt (ih hbefore) (h.lt_of_lt hbefore hk (Nat.lt_succ_self k))

/-- **The cursor is never left behind exactly if its own node is never erased.** -/
theorem never_dangling_iff (h : Traversal list cursor) :
    (∀ k, cursor k ≠ .dangling) ↔ ∀ k id, cursor k = .node id → (list (k + 1)).Contains id := by
  constructor
  · intro hnever k id hk
    by_contra hgone
    exact hnever (k + 1) ((h.next hk).trans (NodeList.advance_eq_dangling_iff.mpr hgone))
  · intro hkept k
    induction k with
    | zero => rw [h.start]; exact NodeList.begin_ne_dangling _
    | succ k ih =>
        by_cases hnode : ∃ id, cursor k = .node id
        · obtain ⟨id, hk⟩ := hnode
          rw [h.next hk, Ne, NodeList.advance_eq_dangling_iff, not_not]
          exact hkept k id hk
        · rw [h.stay k (not_exists.mp hnode)]
          exact ih

/-- The cursor does not jump over a node that is there when it is advanced. -/
lemma ahead_succ (h : Traversal list cursor) (hnever : ∀ k, cursor k ≠ .dangling)
    {k current id : ℕ} (hk : cursor k = .node current) (hlt : current < id)
    (hid : (list (k + 1)).Contains id) : ∃ next, cursor (k + 1) = .node next ∧ next ≤ id := by
  have hnext := h.next hk
  cases hcursor : cursor (k + 1) with
  | node next =>
      rw [hcursor] at hnext
      exact ⟨next, rfl, (NodeList.advance_node hnext.symm).2.2 id hid hlt⟩
  | past =>
      rw [hcursor] at hnext
      exact absurd (NodeList.advance_past hnext.symm hid) (Nat.not_le.mpr hlt)
  | dangling => exact absurd hcursor (hnever (k + 1))

/-- Until it is visited, a node that stays is ahead of the cursor. -/
lemma visited_or_ahead (h : Traversal list cursor) (hnever : ∀ k, cursor k ≠ .dangling) {id : ℕ}
    (hstays : ∀ k, (list k).Contains id) (k : ℕ) :
    (∃ j < k, cursor j = .node id) ∨ ∃ current, cursor k = .node current ∧ current ≤ id := by
  induction k with
  | zero =>
      obtain ⟨first, hfirst, hle⟩ := NodeList.begin_le (hstays 0)
      exact Or.inr ⟨first, h.start.trans hfirst, hle⟩
  | succ k ih =>
      rcases ih with ⟨j, hj, hvisited⟩ | ⟨current, hk, hle⟩
      · exact Or.inl ⟨j, Nat.lt_succ_of_lt hj, hvisited⟩
      · rcases Nat.eq_or_lt_of_le hle with rfl | hlt
        · exact Or.inl ⟨k, Nat.lt_succ_self k, hk⟩
        · exact Or.inr (h.ahead_succ hnever hk hlt (hstays (k + 1)))

/-- So is any node of the list, if those that are added come after the cursor. -/
lemma visited_or_ahead_of_contains (h : Traversal list cursor) (hnever : ∀ k, cursor k ≠ .dangling)
    (hnew : ∀ k id, (list (k + 1)).Contains id →
      (list k).Contains id ∨ ∃ current, cursor k = .node current ∧ current < id)
    {k id : ℕ} (hid : (list k).Contains id) :
    (∃ j < k, cursor j = .node id) ∨ ∃ current, cursor k = .node current ∧ current ≤ id := by
  induction k with
  | zero =>
      obtain ⟨first, hfirst, hle⟩ := NodeList.begin_le hid
      exact Or.inr ⟨first, h.start.trans hfirst, hle⟩
  | succ k ih =>
      rcases hnew k id hid with hbefore | ⟨current, hk, hlt⟩
      · rcases ih hbefore with ⟨j, hj, hvisited⟩ | ⟨current, hk, hle⟩
        · exact Or.inl ⟨j, Nat.lt_succ_of_lt hj, hvisited⟩
        · rcases Nat.eq_or_lt_of_le hle with rfl | hlt
          · exact Or.inl ⟨k, Nat.lt_succ_self k, hk⟩
          · exact Or.inr (h.ahead_succ hnever hk hlt hid)
      · exact Or.inr (h.ahead_succ hnever hk hlt hid)

/-- **A node that stays is visited exactly once.** -/
theorem existsUnique_cursor (h : Traversal list cursor) (hnever : ∀ k, cursor k ≠ .dangling)
    {id : ℕ} (hstays : ∀ k, (list k).Contains id) : ∃! k, cursor k = .node id := by
  rcases h.visited_or_ahead hnever hstays (id + 1) with ⟨k, -, hk⟩ | ⟨current, hcurrent, hle⟩
  · refine ⟨k, hk, fun j hj => ?_⟩
    rcases Nat.lt_trichotomy j k with hlt | heq | hgt
    · exact absurd (h.lt_of_lt hj hk hlt) (lt_irrefl id)
    · exact heq
    · exact absurd (h.lt_of_lt hk hj hgt) (lt_irrefl id)
  · exact absurd (h.le_of_node hcurrent) (Nat.not_le.mpr (Nat.lt_succ_of_le hle))

/-- **The loop ends** if from some step on no node is created. -/
theorem exists_past (h : Traversal list cursor) (hnever : ∀ k, cursor k ≠ .dangling) {bound : ℕ}
    (hfresh : ∀ k, (list k).fresh ≤ bound) : ∃ k, cursor k = .past := by
  refine ⟨bound, ?_⟩
  cases hcursor : cursor bound with
  | node id =>
      obtain ⟨a, ha⟩ := h.contains hcursor
      have hold : id < bound := Nat.lt_of_lt_of_le ((list bound).lt_fresh _ ha) (hfresh bound)
      exact absurd (h.le_of_node hcursor) (Nat.not_le.mpr hold)
  | past => rfl
  | dangling => exact absurd hcursor (hnever bound)

end Traversal

end LinkedList
