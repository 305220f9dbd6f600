import Mathlib.Data.UInt

/-!
# Little-endian words in a byte buffer

Descriptors and other wire formats keep 16-bit numbers as two bytes, the low one first.  `word`
reads such a number anywhere in a buffer, `wordBytes` is how it is written, and a table of words
that follows a header is read back word by word, whatever comes after it.
-/

namespace LittleEndian

/-- The word at position `i`; bytes beyond the end count as zero. -/
def word (buf : List UInt8) (i : ℕ) : UInt16 :=
  (buf.getD i 0).toUInt16 ||| ((buf.getD (i + 1) 0).toUInt16 <<< 8)

/-- The two bytes of a word. -/
def wordBytes (x : UInt16) : List UInt8 := [x.toUInt8, (x >>> 8).toUInt8]

/-- Putting the two bytes together gives the word. -/
lemma or_shiftLeft_eq (x : UInt16) :
    x.toUInt8.toUInt16 ||| ((x >>> 8).toUInt8.toUInt16 <<< 8) = x := by
  have hx := x.toNat_lt
  have hor : x.toNat % 256 ||| x.toNat / 256 * 256 = x.toNat := by
    have hsum := Nat.two_pow_add_eq_or_of_lt (i := 8) (b := x.toNat % 256) (by omega) (x.toNat / 256)
    rw [Nat.or_comm, Nat.mul_comm, ← hsum]
    omega
  have hhigh : x.toNat / 256 % 256 * 256 % 65536 = x.toNat / 256 * 256 := by omega
  apply UInt16.toNat_inj.mp
  simp only [UInt16.toNat_or, UInt8.toNat_toUInt16, UInt16.toNat_toUInt8, UInt16.toNat_shiftLeft,
    UInt16.toNat_shiftRight]
  simpa [Nat.shiftRight_eq_div_pow, Nat.shiftLeft_eq, hhigh] using hor

/-- A word at the start of a buffer. -/
lemma word_wordBytes_append (x : UInt16) (rest : List UInt8) :
    word (wordBytes x ++ rest) 0 = x := or_shiftLeft_eq x

/-- Positions behind a header are counted from its end. -/
lemma word_append (header buf : List UInt8) (i : ℕ) :
    word (header ++ buf) (header.length + i) = word buf i := by
  have hget : ∀ j, (header ++ buf).getD (header.length + j) 0 = buf.getD j 0 := by
    intro j
    rw [List.getD_eq_getElem?_getD, List.getElem?_append_right (by omega), Nat.add_sub_cancel_left,
      List.getD_eq_getElem?_getD]
  rw [word, Nat.add_assoc, hget, hget, word]

/-- **Reading a table back.** -/
theorem word_table (rest : List UInt8) :
    ∀ (xs : List UInt16) {k : ℕ} (hk : k < xs.length),
      word (xs.flatMap wordBytes ++ rest) (2 * k) = xs[k]
  | x :: xs, 0, _ => by
      rw [List.flatMap_cons, List.append_assoc]
      exact word_wordBytes_append x _
  | x :: xs, k + 1, hk => by
      have ih := word_table rest xs (k := k) (by simpa using hk)
      have hpos : 2 * (k + 1) = (wordBytes x).length + 2 * k := by simp [wordBytes]; omega
      rw [List.flatMap_cons, List.append_assoc, hpos, word_append, ih, List.getElem_cons_succ]

lemma length_table (xs : List UInt16) : (xs.flatMap wordBytes).length = 2 * xs.length := by
  induction xs with
  | nil => rfl
  | cons x xs ih => simp [wordBytes, ih]; omega

end LittleEndian
