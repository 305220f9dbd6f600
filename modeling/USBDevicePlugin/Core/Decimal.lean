import Mathlib.Data.Nat.Digits.Defs

/-!
# Decimal numbers in text

Two ways to put numbers next to each other so that they can be told apart again.

**Padding.**  The rendering `printf` gives a natural number under `%0kd`: its decimal digits,
filled up on the left with zeros to at least `k` characters.  Reading the characters back as a
number undoes it, padding or not, so the rendering is injective; and as long as the number fits,
the width is exactly `k`, so such numbers can be joined without losing the place where one ends and
the next begins.

**Separators.**  Numbers of any width with a character between them that is no digit: splitting at
that character gives the numbers back (`readJoined_joined`).
-/

namespace Decimal

/-! ## Padding -/

/-- The characters of `n` under `%0kd`. -/
def padded (k n : ℕ) : List Char := (Nat.toDigits 10 n).leftpad k '0'

/-- Leading zeros do not change the number. -/
lemma ofDigitChars_replicate_zero (m : ℕ) (l : List Char) :
    Nat.ofDigitChars 10 (List.replicate m '0' ++ l) 0 = Nat.ofDigitChars 10 l 0 := by
  induction m with
  | zero => rfl
  | succ m ih => simpa [List.replicate_succ, Nat.ofDigitChars] using ih

/-- Reading a padded number back gives the number. -/
lemma ofDigitChars_padded (k n : ℕ) : Nat.ofDigitChars 10 (padded k n) 0 = n := by
  rw [padded, List.leftpad, ofDigitChars_replicate_zero, Nat.ofDigitChars_ten_toDigits]

lemma padded_injective (k : ℕ) : Function.Injective (padded k) := by
  intro m n h
  rw [← ofDigitChars_padded k m, h, ofDigitChars_padded]

/-- A number of at most `k` digits takes exactly `k` characters. -/
lemma length_padded {k n : ℕ} (hk : 0 < k) (hn : n < 10 ^ k) : (padded k n).length = k := by
  have hlen : (Nat.toDigits 10 n).length ≤ k := Nat.toDigits_length 10 n k hk hn
  simp only [padded, List.leftpad, List.length_append, List.length_replicate]
  omega

/-- Two numbers side by side, the first of fixed width, are recovered from the text. -/
lemma padded_append_inj {k m n m' n' : ℕ} {sep : List Char} (hk : 0 < k) (hm : m < 10 ^ k)
    (hm' : m' < 10 ^ k) (h : padded k m ++ sep ++ padded k n = padded k m' ++ sep ++ padded k n') :
    m = m' ∧ n = n' := by
  have hlen : (padded k m).length = (padded k m').length := by
    rw [length_padded hk hm, length_padded hk hm']
  rw [List.append_assoc, List.append_assoc] at h
  obtain ⟨hfst, hrest⟩ := List.append_inj h hlen
  exact ⟨padded_injective k hfst, padded_injective k (List.append_cancel_left hrest)⟩

/-! ## Separators -/

/-- Decimal numbers with a separator between them. -/
def joined (sep : Char) (ns : List ℕ) : List Char := [sep].intercalate (ns.map (Nat.toDigits 10))

/-- Split at each separator, and read the pieces. -/
def readJoined (sep : Char) (text : List Char) : List ℕ :=
  (text.splitOn sep).map fun piece => Nat.ofDigitChars 10 piece 0

/-- The text before the first separator, and the text behind it. -/
def splitFirst (sep : Char) (text : List Char) : List Char × List Char :=
  (text.takeWhile (· ≠ sep), (text.dropWhile (· ≠ sep)).tail)

lemma not_mem_toDigits {c : Char} (hc : c.isDigit = false) (n : ℕ) : c ∉ Nat.toDigits 10 n := by
  intro hmem
  have hdigit := Nat.isDigit_of_mem_toDigits (by decide) (by decide) hmem
  simp [hc] at hdigit

/-- **Reading the numbers back.** -/
theorem readJoined_joined {sep : Char} (hsep : sep.isDigit = false) {ns : List ℕ} (hne : ns ≠ []) :
    readJoined sep (joined sep ns) = ns := by
  have hpieces : ∀ piece ∈ ns.map (Nat.toDigits 10), sep ∉ piece := by
    intro piece hpiece
    obtain ⟨n, -, rfl⟩ := List.mem_map.mp hpiece
    exact not_mem_toDigits hsep n
  rw [readJoined, joined, List.splitOn_intercalate sep hpieces (by simpa using hne), List.map_map]
  simp [Function.comp_def, Nat.ofDigitChars_ten_toDigits]

lemma splitFirst_append {sep : Char} {before : List Char} (h : sep ∉ before) (after : List Char) :
    splitFirst sep (before ++ sep :: after) = (before, after) := by
  have hbefore : ∀ c ∈ before, decide (c ≠ sep) = true := by
    intro c hc
    exact decide_eq_true fun heq => h (heq ▸ hc)
  simp only [splitFirst, List.takeWhile_append_of_pos hbefore, List.dropWhile_append_of_pos hbefore]
  simp

/-- The first number, and each of the others behind its separator. -/
lemma joined_cons (sep : Char) (n : ℕ) :
    ∀ ns : List ℕ, joined sep (n :: ns) =
      Nat.toDigits 10 n ++ ns.flatMap fun m => sep :: Nat.toDigits 10 m
  | [] => by simp [joined]
  | m :: ns => by
      have ih := joined_cons sep m ns
      simp only [joined, List.map_cons] at ih ⊢
      rw [List.intercalate_cons_cons, ih]
      simp

/-- Numbers of at most `k` digits, each behind its separator, take at most `k + 1` characters
each. -/
lemma length_separated_le {k : ℕ} (hk : 0 < k) (sep : Char) :
    ∀ ns : List ℕ, (∀ n ∈ ns, n < 10 ^ k) →
      (ns.flatMap fun n => sep :: Nat.toDigits 10 n).length ≤ (k + 1) * ns.length
  | [], _ => by simp
  | n :: ns, h => by
      have hn : (Nat.toDigits 10 n).length ≤ k := Nat.toDigits_length 10 n k hk (h n (by simp))
      have ih := length_separated_le hk sep ns fun m hm => h m (List.mem_cons_of_mem n hm)
      rw [List.flatMap_cons, List.length_append, List.length_cons, List.length_cons, Nat.mul_succ]
      omega

/-- Joined, the first of them takes one less. -/
lemma length_joined_lt {k : ℕ} (hk : 0 < k) (sep : Char) {ns : List ℕ} (hne : ns ≠ [])
    (h : ∀ n ∈ ns, n < 10 ^ k) : (joined sep ns).length < (k + 1) * ns.length := by
  obtain ⟨n, rest, rfl⟩ := List.exists_cons_of_ne_nil hne
  have hn : (Nat.toDigits 10 n).length ≤ k := Nat.toDigits_length 10 n k hk (h n (by simp))
  have hrest := length_separated_le hk sep rest fun m hm => h m (List.mem_cons_of_mem n hm)
  rw [joined_cons, List.length_append, List.length_cons, Nat.mul_succ]
  omega

end Decimal
