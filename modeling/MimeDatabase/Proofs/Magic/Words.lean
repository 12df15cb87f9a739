import Mathlib.Data.Nat.Digits.Defs
import MimeDatabase.Magic.Matching

/-!
# Words and numbers of bytes

Reversing the words of a byte string is a permutation of its indices: `getElem?_swapWords` says
where each byte comes from, and `wordIndex_wordIndex` that the permutation is its own inverse, so
that it can be moved from one side of a comparison to the other.

Bytes may also be compared as one big-endian number. Byte strings of one length are told by their
numbers (`bigEndian_injective`), and taking the bits of a mask goes byte by byte (`bigEndian_and`).
-/

namespace MimeDatabase.Magic

/-! ## Reversing words -/

/-- Where a byte goes when the words of `size` bytes are reversed. -/
def wordIndex (size i : Nat) : Nat := size * (i / size) + (size - 1 - i % size)

section WordIndex

variable {size n i : Nat}

theorem wordIndex_lt (h : size ∣ n) (hi : i < n) : wordIndex size i < n := by
  obtain ⟨words, rfl⟩ := h
  have hsize : 0 < size := Nat.pos_of_mul_pos_right (Nat.zero_lt_of_lt hi)
  have hword : i / size + 1 ≤ words := (Nat.div_lt_iff_lt_mul hsize).mpr (by rwa [Nat.mul_comm])
  have hend : size * (i / size + 1) ≤ size * words := Nat.mul_le_mul_left size hword
  rw [Nat.mul_succ] at hend
  unfold wordIndex
  omega

/-- To reverse the bytes of each word twice is to leave them. -/
theorem wordIndex_wordIndex (h : size ∣ n) (hi : i < n) :
    wordIndex size (wordIndex size i) = i := by
  have hsize : 0 < size := Nat.pos_of_dvd_of_pos h (Nat.zero_lt_of_lt hi)
  have hplace : i % size < size := Nat.mod_lt i hsize
  have hmirror : size - 1 - i % size < size := by omega
  unfold wordIndex
  rw [Nat.mul_add_div hsize, Nat.mul_add_mod, Nat.div_eq_of_lt hmirror, Nat.mod_eq_of_lt hmirror,
    Nat.add_zero]
  have hsplit := Nat.div_add_mod i size
  omega

end WordIndex

/-- Reversing the words of bytes that are whole words moves each byte to its word index. -/
theorem getElem?_swapWords {size : Nat} {bytes : List UInt8} {i : Nat} (h : size ∣ bytes.length)
    (hi : i < bytes.length) : (swapWords size bytes)[i]? = bytes[wordIndex size i]? := by
  induction bytes using swapWords.induct size generalizing i with
  | case1 bytes hnone =>
    exfalso
    rcases hnone with rfl | rfl
    · rw [Nat.eq_zero_of_zero_dvd h] at hi
      exact Nat.not_lt_zero i hi
    · exact Nat.not_lt_zero i hi
  | case2 bytes hsome ih =>
    have hsize : 0 < size := Nat.pos_of_ne_zero fun h0 => hsome (Or.inl h0)
    have hword : size ≤ bytes.length := Nat.le_of_dvd (Nat.zero_lt_of_lt hi) h
    have hlength : (bytes.take size).reverse.length = size := by
      rw [List.length_reverse, List.length_take, Nat.min_eq_left hword]
    rw [swapWords, dif_neg hsome]
    by_cases hfirst : i < size
    · -- a byte of the first word
      have hindex : wordIndex size i = size - 1 - i := by
        unfold wordIndex
        rw [Nat.div_eq_of_lt hfirst, Nat.mod_eq_of_lt hfirst, Nat.mul_zero, Nat.zero_add]
      rw [List.getElem?_append_left (by omega), List.getElem?_reverse (by simp; omega), hindex,
        List.length_take, Nat.min_eq_left hword, List.getElem?_take_of_lt (by omega)]
    · -- a byte of a later word, counted from the second word on
      have hindex : wordIndex size i = size + wordIndex size (i - size) := by
        have hi' : i = (i - size) + size := by omega
        unfold wordIndex
        rw [hi', Nat.add_div_right _ hsize, Nat.add_mod_right, Nat.add_sub_cancel, Nat.mul_succ]
        omega
      have hrest : size ∣ (bytes.drop size).length := by
        rw [List.length_drop]
        exact Nat.dvd_sub h (Nat.dvd_refl size)
      rw [List.getElem?_append_right (by omega), hlength,
        ih hrest (by rw [List.length_drop]; omega), List.getElem?_drop, hindex]

/-! ## Bytes as one number -/

/-- The number that bytes spell, the first byte the highest. -/
def bigEndian (bytes : List UInt8) : Nat := Nat.ofDigits 256 (bytes.reverse.map UInt8.toNat)

/-- Bytes of one length are told apart by the number that they are. -/
theorem bigEndian_injective {as bs : List UInt8} (hlength : as.length = bs.length)
    (h : bigEndian as = bigEndian bs) : as = bs := by
  have hlt : ∀ cs : List UInt8, ∀ d ∈ cs.reverse.map UInt8.toNat, d < 256 := by
    intro cs d hd
    obtain ⟨c, -, rfl⟩ := List.mem_map.mp hd
    exact c.toNat_lt
  have hdigits := Nat.ofDigits_inj_of_len_eq (by decide) (by simp [hlength]) (hlt as) (hlt bs) h
  exact List.reverse_inj.mp ((List.map_inj_right fun _ _ hab => UInt8.toNat_inj.mp hab).mp hdigits)

/-- The bits that two numbers share are those that the last bytes share and those that the rest
shares. -/
theorem and_ofDigits (a b m n : Nat) (ha : a < 256) (hb : b < 256) :
    (a + 256 * m) &&& (b + 256 * n) = (a &&& b) + 256 * (m &&& n) := by
  have hbit : ∀ {low : Nat} (high j : Nat), low < 256 →
      (low + 256 * high).testBit j = if j < 8 then low.testBit j else high.testBit (j - 8) := by
    intro low high j hlow
    rw [Nat.add_comm]
    exact Nat.testBit_two_pow_mul_add high (i := 8) hlow j
  apply Nat.eq_of_testBit_eq
  intro j
  rw [Nat.testBit_and, hbit m j ha, hbit n j hb, hbit _ j (Nat.lt_of_le_of_lt Nat.and_le_left ha)]
  by_cases hj : j < 8
  · simp only [hj, if_true, Nat.testBit_and]
  · simp only [hj, if_false, Nat.testBit_and]

/-- The number of masked bytes is the masked number. -/
theorem bigEndian_and {as bs : List UInt8} (hlength : as.length = bs.length) :
    bigEndian as &&& bigEndian bs = bigEndian (as.zipWith (· &&& ·) bs) := by
  have hlittle : ∀ as bs : List UInt8, as.length = bs.length →
      Nat.ofDigits 256 (as.map UInt8.toNat) &&& Nat.ofDigits 256 (bs.map UInt8.toNat) =
        Nat.ofDigits 256 ((as.zipWith (· &&& ·) bs).map UInt8.toNat) := by
    intro as
    induction as with
    | nil =>
      intro bs hbs
      rw [List.length_eq_zero_iff.mp hbs.symm]
      rfl
    | cons a as ih =>
      intro bs hbs
      cases bs with
      | nil => cases hbs
      | cons b bs =>
        rw [List.map_cons, List.map_cons, List.zipWith_cons_cons, List.map_cons, Nat.ofDigits_cons,
          Nat.ofDigits_cons, Nat.ofDigits_cons, and_ofDigits _ _ _ _ a.toNat_lt b.toNat_lt,
          ih bs (Nat.succ.inj hbs), UInt8.toNat_and]
  unfold bigEndian
  rw [hlittle _ _ (by simp [hlength]), List.reverse_zipWith hlength]

end MimeDatabase.Magic
