import MimeDatabase.Proofs.Text.Lower
import MimeDatabase.Text.Canonical

/-!
# What single characters decompose into

Decomposition ends after one step: no part of a character can be decomposed
(`decomposeChar_of_mem`). Composition is a step backwards: a character that is composed from two
others decomposes into what the first of them does, and then the second
(`decomposeChar_composePair`). Syllables are dealt with by arithmetic. For the rest both are facts
about the tables (`tables_checked`); the first is checked on sets of codes, held as the bits of
numbers.

A separator of paths is part of no other character (`IsSeparator.eq_of_mem`). A character `joins`
the one before it if it is the second of some pair; none below U+0300 does.
-/

namespace MimeDatabase.Text

open MimeDatabase.Text.Table

/-! ## Entries of the tables -/

/-- The decompositions of all blocks. -/
def decompositionEntries : List Decomposition := decompositions.flatMap (·.entries)

/-- The compositions of all blocks. -/
def compositionEntries : List Composition := compositions.flatMap (·.entries)

theorem mem_flatMap_of_find?_blockFor {α : Type} {blocks : List (Block α)} {code : Nat}
    {p : α → Bool} {e : α} (h : (blockFor blocks code).find? p = some e) :
    e ∈ blocks.flatMap (·.entries) := by
  have hmem := List.mem_of_find?_eq_some h
  unfold blockFor at hmem
  split at hmem
  next => exact absurd hmem List.not_mem_nil
  next b hb => exact List.mem_flatMap.mpr ⟨b, List.mem_of_find?_eq_some hb, hmem⟩

/-! ## Sets of codes -/

/-- The codes of the characters that can be decomposed: those of the table, and the syllables. -/
def decomposableBits : Nat :=
  allBits (decompositionEntries.map fun d => codeBits d.code 1 1) ||| (2 ^ 11172 - 1) <<< 0xAC00

/-- The codes of the characters that others decompose into: those of the table, and the letters that
syllables are made of. -/
def partBits : Nat :=
  allBits ((decompositionEntries.flatMap (·.parts)).map fun n => codeBits n 1 1) |||
    codeBits 0x1100 1 0x100

/-- The codes of the two separators of paths. -/
def separatorBits : Nat := codeBits 0x2F 1 1 ||| codeBits 0x5C 1 1

/-- What is found by going through the tables: no part is decomposed or a separator, nothing
decomposes into nothing, and compositions take back steps of decompositions, with a second character
that is no letter of ASCII. -/
theorem tables_checked :
    partBits &&& (decomposableBits ||| separatorBits) = 0 ∧
      (∀ d ∈ decompositionEntries, d.parts ≠ []) ∧
      ∀ p ∈ compositionEntries, 0x300 ≤ p.second ∧
        decomposeChar (Char.ofNat p.whole) =
          decomposeChar (Char.ofNat p.first) ++ [Char.ofNat p.second] := by
  decide +kernel

theorem testBit_codeBits_self (code : Nat) : (codeBits code 1 1).testBit code = true :=
  testBit_codeBits code 1 Nat.one_pos

/-- Whether some character decomposes into others of which this code is one. -/
def IsPartCode (n : Nat) : Prop := partBits.testBit n = true

/-- The parts of every entry are part codes. -/
theorem isPartCode_of_mem {d : Decomposition} (hd : d ∈ decompositionEntries) {n : Nat}
    (hn : n ∈ d.parts) : IsPartCode n := by
  rw [IsPartCode, partBits, Nat.testBit_or, Bool.or_eq_true]
  exact Or.inl (testBit_allBits (List.mem_map_of_mem (List.mem_flatMap.mpr ⟨d, hd, hn⟩))
    (testBit_codeBits_self n))

theorem isPartCode_of_lt {n : Nat} (hlow : 0x1100 ≤ n) (hhigh : n < 0x1200) : IsPartCode n := by
  have hbit := testBit_codeBits 0x1100 1 (show n - 0x1100 < 0x100 by omega)
  rw [Nat.mul_one, Nat.add_sub_cancel' hlow] at hbit
  rw [IsPartCode, partBits, Nat.testBit_or, hbit, Bool.or_true]

/-- No part is decomposed on, and none is a separator. -/
theorem IsPartCode.testBit_eq_false {n : Nat} (h : IsPartCode n) :
    decomposableBits.testBit n = false ∧ separatorBits.testBit n = false := by
  have hand := congrArg (·.testBit n) tables_checked.1
  simp only [Nat.testBit_and, Nat.zero_testBit, Nat.testBit_or] at hand
  rw [show partBits.testBit n = true from h, Bool.true_and, Bool.or_eq_false_iff] at hand
  exact hand

/-- The codes of all entries are decomposable. -/
theorem testBit_decomposableBits_of_mem {d : Decomposition} (hd : d ∈ decompositionEntries) :
    decomposableBits.testBit d.code = true := by
  rw [decomposableBits, Nat.testBit_or, Bool.or_eq_true]
  exact Or.inl (testBit_allBits (List.mem_map_of_mem hd) (testBit_codeBits_self d.code))

theorem testBit_decomposableBits_of_syllable {n : Nat} (hlow : 0xAC00 ≤ n) (hhigh : n < 0xD7A4) :
    decomposableBits.testBit n = true := by
  rw [decomposableBits, Nat.testBit_or, Nat.testBit_shiftLeft, Nat.testBit_two_pow_sub_one,
    decide_eq_true (show n ≥ 0xAC00 from hlow), decide_eq_true (show n - 0xAC00 < 11172 by omega),
    Bool.and_self, Bool.or_true]

/-! ## Decomposition -/

/-- Characters before the first entry are not decomposed. -/
theorem decomposeChar_of_lt {c : Char} (h : c.toNat < 0xC0) : decomposeChar c = [c] := by
  rw [decomposeChar]
  exact if_pos h

/-- How a character decomposes: not at all, as a syllable, or by the table. -/
theorem decomposeChar_cases (c : Char) :
    decomposeChar c = [c] ∨
      (0xAC00 ≤ c.toNat ∧ c.toNat < 0xD7A4 ∧
        decomposeChar c = decomposeSyllable (c.toNat - 0xAC00)) ∨
      ∃ d ∈ decompositionEntries, d.code = c.toNat ∧
        decomposeChar c = d.parts.map Char.ofNat := by
  unfold decomposeChar
  dsimp only
  split
  next => exact Or.inl rfl
  next =>
    split
    next hsyllable =>
      rw [Bool.and_eq_true, decide_eq_true_eq, decide_eq_true_eq] at hsyllable
      exact Or.inr (Or.inl ⟨hsyllable.1, hsyllable.2, rfl⟩)
    next =>
      split
      next => exact Or.inl rfl
      next d hd =>
        have hcode := List.find?_some (p := fun d : Decomposition => d.code == c.toNat) hd
        exact Or.inr (Or.inr ⟨d, mem_flatMap_of_find?_blockFor hd, eq_of_beq hcode, rfl⟩)

/-- The letters of a syllable. -/
theorem exists_of_mem_decomposeSyllable {index : Nat} (hindex : index < 11172) {c : Char}
    (hc : c ∈ decomposeSyllable index) : ∃ n, 0x1100 ≤ n ∧ n < 0x1200 ∧ c = Char.ofNat n := by
  have hlead : index / 588 < 19 := by omega
  unfold decomposeSyllable at hc
  dsimp only at hc
  split at hc
  next =>
    simp only [List.mem_cons, List.not_mem_nil, or_false] at hc
    rcases hc with rfl | rfl
    · exact ⟨_, by omega, by omega, rfl⟩
    · exact ⟨_, by omega, by omega, rfl⟩
  next =>
    simp only [List.mem_cons, List.not_mem_nil, or_false] at hc
    rcases hc with rfl | rfl | rfl
    · exact ⟨_, by omega, by omega, rfl⟩
    · exact ⟨_, by omega, by omega, rfl⟩
    · exact ⟨_, by omega, by omega, rfl⟩

/-- The parts of a character that is decomposed are found in the table of parts. -/
theorem decomposeChar_eq_self_or (c : Char) :
    decomposeChar c = [c] ∨ ∀ p ∈ decomposeChar c, ∃ n, IsPartCode n ∧ p = Char.ofNat n := by
  rcases decomposeChar_cases c with hself | ⟨hlow, hhigh, heq⟩ | ⟨d, hd, -, heq⟩
  · exact Or.inl hself
  · refine Or.inr fun p hp => ?_
    rw [heq] at hp
    obtain ⟨n, hn, hn', rfl⟩ := exists_of_mem_decomposeSyllable (by omega) hp
    exact ⟨n, isPartCode_of_lt hn hn', rfl⟩
  · refine Or.inr fun p hp => ?_
    rw [heq] at hp
    obtain ⟨n, hn, rfl⟩ := List.mem_map.mp hp
    exact ⟨n, isPartCode_of_mem hd hn, rfl⟩

theorem toNat_ofNat_eq_or (n : Nat) : (Char.ofNat n).toNat = n ∨ (Char.ofNat n).toNat = 0 := by
  rw [Char.toNat_ofNat]
  split
  next => exact Or.inl rfl
  next => exact Or.inr rfl

/-- A part cannot be decomposed. -/
theorem IsPartCode.decomposeChar_ofNat {n : Nat} (h : IsPartCode n) :
    decomposeChar (Char.ofNat n) = [Char.ofNat n] := by
  rcases toNat_ofNat_eq_or n with hn | hzero
  · have hnot := h.testBit_eq_false.1
    rcases decomposeChar_cases (Char.ofNat n) with hself | ⟨hlow, hhigh, -⟩ | ⟨d, hd, hcode, -⟩
    · exact hself
    · rw [hn] at hlow hhigh
      rw [testBit_decomposableBits_of_syllable hlow hhigh] at hnot
      exact absurd hnot (by decide)
    · rw [hn] at hcode
      rw [← hcode, testBit_decomposableBits_of_mem hd] at hnot
      exact absurd hnot (by decide)
  · exact decomposeChar_of_lt (by omega)

/-- What a character decomposes into cannot be decomposed further. -/
theorem decomposeChar_of_mem {c p : Char} (hp : p ∈ decomposeChar c) : decomposeChar p = [p] := by
  rcases decomposeChar_eq_self_or c with hself | hparts
  · rw [hself, List.mem_singleton] at hp
    rw [hp, hself]
  · obtain ⟨n, hn, rfl⟩ := hparts p hp
    exact hn.decomposeChar_ofNat

/-- Every character is decomposed into something. -/
theorem decomposeChar_ne_nil (c : Char) : decomposeChar c ≠ [] := by
  rcases decomposeChar_cases c with hself | ⟨-, -, heq⟩ | ⟨d, hd, -, heq⟩
  · rw [hself]
    exact List.cons_ne_nil c []
  · rw [heq, decomposeSyllable]
    split
    next => exact List.cons_ne_nil _ _
    next => exact List.cons_ne_nil _ _
  · rw [heq]
    exact mt List.map_eq_nil_iff.mp (tables_checked.2.1 d hd)

/-! ## Composition -/

/-- Hangul syllables are decomposed by arithmetic. -/
theorem decomposeChar_of_syllable {c : Char} (hlow : 0xAC00 ≤ c.toNat) (hhigh : c.toNat < 0xD7A4) :
    decomposeChar c = decomposeSyllable (c.toNat - 0xAC00) := by
  rw [decomposeChar, if_neg (by omega), if_pos (by simp [hlow, hhigh])]

theorem toNat_ofNat_of_lt {n : Nat} (h : n < 0xD800) : (Char.ofNat n).toNat = n := by
  rw [Char.toNat_ofNat, if_pos (Or.inl h)]

/-- What is composed of two characters decomposes into what the first one does, and the second. -/
theorem decomposeChar_composePair {a b w : Char} (h : composePair a b = some w) :
    decomposeChar w = decomposeChar a ++ [b] := by
  unfold composePair at h
  dsimp only at h
  split at h
  next hletters =>
    -- two letters make a syllable without a third one
    simp only [Bool.and_eq_true, decide_eq_true_eq] at hletters
    obtain ⟨⟨⟨hlead, hlead'⟩, hvowel⟩, hvowel'⟩ := hletters
    have hfirst : decomposeChar a = [a] := by
      rw [← Char.ofNat_toNat a]
      exact (isPartCode_of_lt hlead (by omega)).decomposeChar_ofNat
    obtain rfl := Option.some.inj h
    have hcode := toNat_ofNat_of_lt
      (n := 0xAC00 + ((a.toNat - 0x1100) * 21 + (b.toNat - 0x1161)) * 28) (by omega)
    rw [hfirst, decomposeChar_of_syllable (by omega) (by omega), hcode, Nat.add_sub_cancel_left,
      decomposeSyllable, if_pos (Nat.mul_mod_left _ 28)]
    have hlead_eq : 0x1100 + ((a.toNat - 0x1100) * 21 + (b.toNat - 0x1161)) * 28 / 588 =
        a.toNat := by omega
    have hvowel_eq : 0x1161 + ((a.toNat - 0x1100) * 21 + (b.toNat - 0x1161)) * 28 % 588 / 28 =
        b.toNat := by omega
    rw [hlead_eq, hvowel_eq, Char.ofNat_toNat, Char.ofNat_toNat]
    rfl
  next =>
    split at h
    next hsyllable =>
      -- a third letter is added to the two of a syllable without one
      simp only [Bool.and_eq_true, decide_eq_true_eq, beq_iff_eq] at hsyllable
      obtain ⟨⟨⟨⟨hlow, hhigh⟩, hopen⟩, hthird⟩, hthird'⟩ := hsyllable
      obtain rfl := Option.some.inj h
      have hcode := toNat_ofNat_of_lt (n := a.toNat + (b.toNat - 0x11A7)) (by omega)
      rw [decomposeChar_of_syllable hlow hhigh, decomposeChar_of_syllable (by omega) (by omega),
        hcode, decomposeSyllable, decomposeSyllable, if_neg (by omega), if_pos hopen]
      have hlead_eq : (a.toNat + (b.toNat - 0x11A7) - 0xAC00) / 588 =
          (a.toNat - 0xAC00) / 588 := by omega
      have hvowel_eq : (a.toNat + (b.toNat - 0x11A7) - 0xAC00) % 588 / 28 =
          (a.toNat - 0xAC00) % 588 / 28 := by omega
      have hthird_eq : 0x11A7 + (a.toNat + (b.toNat - 0x11A7) - 0xAC00) % 28 = b.toNat := by omega
      rw [hlead_eq, hvowel_eq, hthird_eq, Char.ofNat_toNat]
      rfl
    next =>
      obtain ⟨p, hp, rfl⟩ := Option.map_eq_some_iff.mp h
      have hcodes := List.find?_some
        (p := fun p : Composition => p.first == a.toNat && p.second == b.toNat) hp
      simp only [Bool.and_eq_true, beq_iff_eq] at hcodes
      rw [(tables_checked.2.2 p (mem_flatMap_of_find?_blockFor hp)).2, hcodes.1, hcodes.2,
        Char.ofNat_toNat, Char.ofNat_toNat]

/-! ## Joining -/

/-- Whether a character can be composed with one before it. -/
def joins (c : Char) : Bool :=
  (0x1161 ≤ c.toNat && c.toNat < 0x1176) || (0x11A7 < c.toNat && c.toNat < 0x11C3) ||
    compositionEntries.any (·.second == c.toNat)

/-- A character that joins nothing is not composed with what it follows. -/
theorem composePair_eq_none {c : Char} (h : joins c = false) (a : Char) :
    composePair a c = none := by
  simp only [joins, Bool.or_eq_false_iff, List.any_eq_false, beq_iff_eq] at h
  obtain ⟨⟨hvowel, hthird⟩, hsecond⟩ := h
  have hnone : (blockFor compositions a.toNat).find?
      (fun p => p.first == a.toNat && p.second == c.toNat) = none := by
    rw [Option.eq_none_iff_forall_ne_some]
    intro p hp
    have hcodes := List.find?_some
      (p := fun p : Composition => p.first == a.toNat && p.second == c.toNat) hp
    simp only [Bool.and_eq_true, beq_iff_eq] at hcodes
    exact hsecond p (mem_flatMap_of_find?_blockFor hp) hcodes.2
  unfold composePair
  dsimp only
  rw [if_neg (by grind), if_neg (by grind), hnone, Option.map_none]

theorem joins_of_lt {c : Char} (h : c.toNat < 0x300) : joins c = false := by
  have hsecond : compositionEntries.any (·.second == c.toNat) = false := by
    rw [List.any_eq_false]
    intro p hp hcode
    have hge := (tables_checked.2.2 p hp).1
    rw [beq_iff_eq] at hcode
    omega
  simp only [joins, hsecond, Bool.or_false, Bool.or_eq_false_iff, Bool.and_eq_false_iff,
    decide_eq_false_iff_not]
  omega

/-! ## Separators -/

/-- The characters that separate the components of a path. -/
def IsSeparator (c : Char) : Prop := c = '/' ∨ c = '\\'

instance (c : Char) : Decidable (IsSeparator c) := inferInstanceAs (Decidable (_ ∨ _))

/-- Separators are not decomposed. -/
theorem IsSeparator.decomposeChar_eq_self {c : Char} (h : IsSeparator c) :
    decomposeChar c = [c] := by
  rcases h with rfl | rfl
  · exact decomposeChar_of_lt (by decide)
  · exact decomposeChar_of_lt (by decide)

/-- Only a separator decomposes into one. -/
theorem IsSeparator.eq_of_mem {sep c : Char} (h : IsSeparator sep) (hmem : sep ∈ decomposeChar c) :
    sep = c := by
  rcases decomposeChar_eq_self_or c with hself | hparts
  · rwa [hself, List.mem_singleton] at hmem
  · obtain ⟨n, hn, rfl⟩ := hparts sep hmem
    have hbit : separatorBits.testBit (Char.ofNat n).toNat = true := by
      rcases h with heq | heq
      · rw [heq]
        decide
      · rw [heq]
        decide
    rcases toNat_ofNat_eq_or n with hcode | hzero
    · rw [hcode, hn.testBit_eq_false.2] at hbit
      exact absurd hbit (by decide)
    · rw [hzero] at hbit
      exact absurd hbit (by decide)

end MimeDatabase.Text
