import Mathlib.Data.List.Infix
import Mathlib.Data.List.Perm.Basic

/-!
# Searching

Two searches that stop at the first hit.

**In a list.**  What `List.find?` returns depends on the order of the list, unless no two different
elements have the property (`find?_eq_of_perm`, `exists_perm_find?`).

**Towards the root.**  A path is the list of its components; a walk looks at the path, its parent, and
so on, up to a number of directories, and ends at the first that passes a test.  The test may fail to
answer, and then the walk ends as well.

* `ancestors` — the path and its parents, the root last.
* `IsNearest` — the first of them to pass the test.
* **`walk_eq_some_iff`** — the walk finds the nearest.
* **`isNearest_iff`** — which is the deepest, if the test always answers.
* **`visited_prefix`** — what it looks at on the way; nothing else matters (`walk_congr`).
-/

namespace Search

variable {α : Type*}

/-! ## In a list -/

/-- **When the order does not matter.** -/
theorem find?_eq_of_perm {p : α → Bool} {l l' : List α} (hperm : l.Perm l')
    (hunique : ∀ a ∈ l, ∀ b ∈ l, p a = true → p b = true → a = b) : l.find? p = l'.find? p := by
  cases hl' : l'.find? p with
  | none =>
      rw [List.find?_eq_none] at hl' ⊢
      exact fun a ha => hl' a (hperm.mem_iff.mp ha)
  | some b =>
      have hb := hperm.mem_iff.mpr (List.mem_of_find?_eq_some hl')
      have hpb := List.find?_some hl'
      cases hl : l.find? p with
      | none => exact absurd hpb (List.find?_eq_none.mp hl b hb)
      | some a => rw [hunique a (List.mem_of_find?_eq_some hl) b hb (List.find?_some hl) hpb]

/-- When it does: every element with the property is found in some order. -/
lemma exists_perm_find? {p : α → Bool} {l : List α} {a : α} (ha : a ∈ l) (hpa : p a = true) :
    ∃ l' : List α, l'.Perm l ∧ l'.find? p = some a := by
  obtain ⟨pre, post, rfl⟩ := List.append_of_mem ha
  exact ⟨a :: (pre ++ post), List.perm_middle.symm, List.find?_cons_of_pos hpa⟩

/-- The only element with the property is found. -/
lemma find?_eq_some {p : α → Bool} {l : List α} {a : α} (ha : a ∈ l) (hpa : p a = true)
    (hunique : ∀ b ∈ l, p b = true → b = a) : l.find? p = some a := by
  cases hl : l.find? p with
  | none => exact absurd hpa (List.find?_eq_none.mp hl a ha)
  | some b => rw [hunique b (List.mem_of_find?_eq_some hl) (List.find?_some hl)]

/-- What all that find something agree on is found. -/
lemma findSome?_eq_some {β : Type*} {f : α → Option β} {l : List α} {a : α} {b : β} (ha : a ∈ l)
    (hb : f a = some b) (hunique : ∀ a' ∈ l, ∀ b', f a' = some b' → b' = b) :
    l.findSome? f = some b := by
  cases hl : l.findSome? f with
  | none => simp [List.findSome?_eq_none_iff.mp hl a ha] at hb
  | some b' =>
      obtain ⟨a', ha', hb'⟩ := List.exists_of_findSome?_eq_some hl
      rw [hunique a' ha' b' hb']

/-! ## Ancestors -/

/-- A path and its parents, the root last. -/
def ancestors (path : List α) : List (List α) := path.inits.reverse

@[simp] lemma ancestors_nil : ancestors ([] : List α) = [[]] := rfl

lemma ancestors_of_ne_nil {path : List α} (h : path ≠ []) :
    ancestors path = path :: ancestors path.dropLast := by
  obtain ⟨last, hpath⟩ : ∃ last, path = path.dropLast ++ [last] :=
    ⟨path.getLast h, (List.dropLast_append_getLast h).symm⟩
  generalize path.dropLast = parent at hpath ⊢
  subst hpath
  simp [ancestors, List.inits_append]

/-- Nothing above the root, and nothing beside the way there. -/
lemma mem_ancestors {dir path : List α} : dir ∈ ancestors path ↔ dir <+: path := by
  simp [ancestors]

/-- Each is shorter than the one before. -/
lemma pairwise_ancestors (path : List α) :
    (ancestors path).Pairwise fun dir dir' => dir'.length < dir.length := by
  induction path using List.reverseRecOn with
  | nil => simp
  | append_singleton parent last ih =>
      rw [ancestors_of_ne_nil (by simp), List.dropLast_concat, List.pairwise_cons]
      refine ⟨fun dir hdir => ?_, ih⟩
      have hle := (mem_ancestors.mp hdir).length_le
      rw [List.length_append, List.length_singleton]
      omega

/-- The nearest so many of them are those not too far up. -/
lemma mem_take_ancestors : ∀ {depth : ℕ} {path dir : List α},
    dir ∈ (ancestors path).take depth ↔ dir <+: path ∧ path.length < dir.length + depth
  | 0, path, dir => by
      simp only [List.take_zero, List.not_mem_nil, false_iff, not_and, not_lt]
      exact fun h => h.length_le
  | depth + 1, path, dir => by
      by_cases hroot : path = []
      · subst hroot
        rw [ancestors_nil, List.take_succ_cons, List.take_nil, List.mem_singleton, List.prefix_nil,
          List.length_nil]
        exact ⟨fun h => ⟨h, by omega⟩, And.left⟩
      · have ih : dir ∈ (ancestors path.dropLast).take depth ↔ _ := mem_take_ancestors
        have hlength : path.dropLast.length = path.length - 1 := List.length_dropLast
        have hpos := List.length_pos_iff.mpr hroot
        rw [ancestors_of_ne_nil hroot, List.take_succ_cons, List.mem_cons, ih]
        constructor
        · rintro (rfl | ⟨hup, hlt⟩)
          · exact ⟨List.prefix_rfl, by omega⟩
          · exact ⟨hup.trans (List.dropLast_prefix path), by omega⟩
        · rintro ⟨hup, hlt⟩
          by_cases heq : dir = path
          · exact Or.inl heq
          · have hshorter : dir.length < path.length :=
              lt_of_le_of_ne hup.length_le fun h => heq (hup.eq_of_length h)
            refine Or.inr ⟨?_, by omega⟩
            exact List.prefix_of_prefix_length_le hup (List.dropLast_prefix path) (by omega)

/-! ## Towards the root -/

section Walk

variable (test : List α → Option Bool)

/-- Walk towards the root, looking at so many directories at most. -/
def walk : ℕ → List α → Option (List α)
  | 0, _ => none
  | depth + 1, dir =>
      match test dir with
      | none => none
      | some true => some dir
      | some false => if dir.isEmpty then none else walk depth dir.dropLast

/-- The directories the walk looks at. -/
def visited : ℕ → List α → List (List α)
  | 0, _ => []
  | depth + 1, dir =>
      dir ::
        match test dir with
        | some false => if dir.isEmpty then [] else visited depth dir.dropLast
        | _ => []

/-- Among the path and its parents, not more than so many, this is the first to pass the test. -/
def IsNearest (depth : ℕ) (path dir : List α) : Prop :=
  ∃ nearer farther, (ancestors path).take depth = nearer ++ dir :: farther ∧
    test dir = some true ∧ ∀ dir' ∈ nearer, test dir' = some false

variable {test}

/-- **The walk looks at the path and its parents in turn.** -/
theorem visited_prefix : ∀ (depth : ℕ) (path : List α),
    visited test depth path <+: (ancestors path).take depth
  | 0, path => by simp [visited]
  | depth + 1, path => by
      have hempty : ([] : List (List α)) <+: (ancestors path.dropLast).take depth := List.nil_prefix
      by_cases hroot : path = []
      · subst hroot
        cases htest : test [] with
        | none => simp [visited, htest]
        | some holds => cases holds <;> simp [visited, htest]
      · rw [visited, ancestors_of_ne_nil hroot, List.take_succ_cons, List.prefix_cons_inj]
        split
        · simpa [hroot] using visited_prefix depth path.dropLast
        · exact hempty

/-- The walk depends on what it looks at, and on nothing else. -/
lemma walk_congr {test' : List α → Option Bool} : ∀ {depth : ℕ} {path : List α},
    (∀ dir ∈ visited test depth path, test' dir = test dir) →
      walk test' depth path = walk test depth path
  | 0, _, _ => rfl
  | depth + 1, path, hsame => by
      have hpath : test' path = test path := hsame path (List.mem_cons_self ..)
      rw [walk, walk, hpath]
      cases htest : test path with
      | none => rfl
      | some holds =>
          cases holds with
          | true => rfl
          | false =>
              by_cases hroot : path = []
              · simp [hroot]
              · have ih : walk test' depth path.dropLast = walk test depth path.dropLast := by
                  refine walk_congr fun dir hdir => hsame dir ?_
                  rw [visited, htest]
                  exact List.mem_cons_of_mem _ (by simpa [hroot] using hdir)
                simp only [ih]

/-- The nearest is the path itself, or the nearest seen from its parent. -/
lemma isNearest_succ_iff {depth : ℕ} {path dir : List α} :
    IsNearest test (depth + 1) path dir ↔
      test path = some true ∧ dir = path ∨
        test path = some false ∧ path ≠ [] ∧ IsNearest test depth path.dropLast dir := by
  have hsplit : ∃ rest, (ancestors path).take (depth + 1) = path :: rest ∧
      (path = [] → rest = []) ∧ (path ≠ [] → rest = (ancestors path.dropLast).take depth) := by
    by_cases hroot : path = []
    · exact ⟨[], by simp [hroot], fun _ => rfl, fun h => absurd hroot h⟩
    · exact ⟨_, by rw [ancestors_of_ne_nil hroot, List.take_succ_cons], fun h => absurd h hroot,
        fun _ => rfl⟩
  obtain ⟨rest, htake, hnil, hrest⟩ := hsplit
  unfold IsNearest
  rw [htake]
  constructor
  · rintro ⟨nearer, farther, heq, hdir, hnearer⟩
    cases nearer with
    | nil =>
        obtain ⟨rfl, -⟩ := List.cons.inj heq
        exact Or.inl ⟨hdir, rfl⟩
    | cons first nearer =>
        obtain ⟨rfl, htail⟩ := List.cons.inj heq
        have hroot : path ≠ [] := by
          intro hroot
          simp [hnil hroot] at htail
        refine Or.inr ⟨hnearer path (List.mem_cons_self ..), hroot, nearer, farther, ?_, hdir, ?_⟩
        · rw [← hrest hroot, htail]
          rfl
        · exact fun dir' hdir' => hnearer dir' (List.mem_cons_of_mem path hdir')
  · rintro (⟨hpath, rfl⟩ | ⟨hpath, hroot, nearer, farther, heq, hdir, hnearer⟩)
    · exact ⟨[], rest, rfl, hpath, by simp⟩
    · refine ⟨path :: nearer, farther, by rw [hrest hroot, heq]; rfl, hdir, ?_⟩
      rintro dir' hdir'
      rcases List.mem_cons.mp hdir' with rfl | hdir'
      · exact hpath
      · exact hnearer dir' hdir'

/-- **The walk finds the nearest.** -/
theorem walk_eq_some_iff : ∀ {depth : ℕ} {path dir : List α},
    walk test depth path = some dir ↔ IsNearest test depth path dir
  | 0, path, dir => by simp [walk, IsNearest]
  | depth + 1, path, dir => by
      have ih : walk test depth path.dropLast = some dir ↔ IsNearest test depth path.dropLast dir :=
        walk_eq_some_iff
      rw [isNearest_succ_iff, walk, ← ih]
      cases test path with
      | none => simp
      | some holds =>
          cases holds with
          | true => simp [eq_comm]
          | false => by_cases hroot : path = [] <;> simp [hroot]

/-- None is deeper than the nearest. -/
lemma IsNearest.length_le {depth : ℕ} {path dir : List α} (h : IsNearest test depth path dir)
    {dir' : List α} (hdir' : dir' ∈ (ancestors path).take depth) (htest : test dir' = some true) :
    dir'.length ≤ dir.length := by
  obtain ⟨nearer, farther, heq, -, hnearer⟩ := h
  have hpairwise := (pairwise_ancestors path).sublist (List.take_sublist depth _)
  rw [heq] at hdir' hpairwise
  rcases List.mem_append.mp hdir' with hmem | hmem
  · simp [hnearer dir' hmem] at htest
  · rcases List.mem_cons.mp hmem with rfl | hmem
    · exact le_rfl
    · have hcons := (List.pairwise_append.mp hpairwise).2.1
      exact (List.rel_of_pairwise_cons hcons hmem).le

lemma IsNearest.mem {depth : ℕ} {path dir : List α} (h : IsNearest test depth path dir) :
    dir ∈ (ancestors path).take depth := by
  obtain ⟨nearer, farther, heq, -, -⟩ := h
  simp [heq]

lemma IsNearest.holds {depth : ℕ} {path dir : List α} (h : IsNearest test depth path dir) :
    test dir = some true := by
  obtain ⟨_, _, _, htest, -⟩ := h
  exact htest

/-- If the test always answers, the walk ends without a find only where there is nothing to find. -/
lemma exists_isNearest (htotal : ∀ dir, test dir ≠ none) :
    ∀ {depth : ℕ} {path dir : List α}, dir ∈ (ancestors path).take depth → test dir = some true →
      ∃ nearest, IsNearest test depth path nearest
  | 0, path, dir, hdir, _ => by simp at hdir
  | depth + 1, path, dir, hdir, hholds => by
      cases htest : test path with
      | none => exact absurd htest (htotal path)
      | some holds =>
          cases holds with
          | true => exact ⟨path, isNearest_succ_iff.mpr (Or.inl ⟨htest, rfl⟩)⟩
          | false =>
              have hne : dir ≠ path := by
                rintro rfl
                simp [htest] at hholds
              by_cases hroot : path = []
              · subst hroot
                simp [hne] at hdir
              · rw [ancestors_of_ne_nil hroot, List.take_succ_cons] at hdir
                obtain ⟨nearest, hnearest⟩ := exists_isNearest htotal
                  ((List.mem_cons.mp hdir).resolve_left hne) hholds
                exact ⟨nearest, isNearest_succ_iff.mpr (Or.inr ⟨htest, hroot, hnearest⟩)⟩

/-- **If the test always answers, the nearest is the deepest to pass it.** -/
theorem isNearest_iff (htotal : ∀ dir, test dir ≠ none) {depth : ℕ} {path dir : List α} :
    IsNearest test depth path dir ↔
      dir ∈ (ancestors path).take depth ∧ test dir = some true ∧
        ∀ dir' ∈ (ancestors path).take depth, test dir' = some true → dir'.length ≤ dir.length := by
  constructor
  · intro hnearest
    exact ⟨hnearest.mem, hnearest.holds, fun dir' hdir' htest' => hnearest.length_le hdir' htest'⟩
  · rintro ⟨hdir, htest, hdeepest⟩
    obtain ⟨nearest, hnearest⟩ := exists_isNearest htotal hdir htest
    -- two directories on the way to the same path, neither of them deeper than the other
    have hle := hnearest.length_le hdir htest
    have hge := hdeepest nearest hnearest.mem hnearest.holds
    have hprefix := mem_ancestors.mp (List.mem_of_mem_take hdir)
    have hprefix' := mem_ancestors.mp (List.mem_of_mem_take hnearest.mem)
    have hnested := List.prefix_of_prefix_length_le hprefix hprefix' hle
    have heq : dir = nearest := hnested.eq_of_length_le hge
    rwa [heq]

end Walk

end Search
