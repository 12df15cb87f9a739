import Mathlib
import MimeDatabase.Proofs.Text.Cut
import MimeDatabase.Text.Case

/-!
# Lower case and white space

A lower-case text is its own lower case (`lower_lower`), and lower-casing brings no white space into
a text. Both come down to the characters that the case table maps to: none of them is mapped on, and
none is white space. The table is too long to compare every character with every entry, so its
codes are gathered as the bits of two numbers, of which `image_bits_checked` says that they have
no bit in common.
-/

namespace MimeDatabase.Text

open MimeDatabase.Text.Table

/-! ## Sets of codes -/

/-- The codes `first, first + step, …`, as many as asked for, as the bits of a number. -/
def codeBits (first step : Nat) : Nat → Nat
  | 0 => 0
  | count + 1 => 1 <<< first ||| codeBits (first + step) step count

/-- The bits of some numbers together. -/
def allBits (sets : List Nat) : Nat := sets.foldr (· ||| ·) 0

/-- The codes of a run are bits of its number. -/
theorem testBit_codeBits (first step : Nat) {k count : Nat} (hk : k < count) :
    (codeBits first step count).testBit (first + k * step) = true := by
  induction count generalizing first k with
  | zero => exact absurd hk (Nat.not_lt_zero k)
  | succ count ih =>
    rw [codeBits, Nat.testBit_or, Bool.or_eq_true]
    cases k with
    | zero =>
      left
      rw [Nat.zero_mul, Nat.add_zero, Nat.one_shiftLeft]
      exact Nat.testBit_two_pow_self
    | succ k =>
      right
      rw [Nat.succ_mul, Nat.add_comm (k * step), ← Nat.add_assoc]
      exact ih (first + step) (Nat.lt_of_succ_lt_succ hk)

theorem testBit_allBits {sets : List Nat} {bits code : Nat} (hmem : bits ∈ sets)
    (hbit : bits.testBit code = true) : (allBits sets).testBit code = true := by
  induction sets with
  | nil => exact absurd hmem List.not_mem_nil
  | cons s sets ih =>
    show (s ||| allBits sets).testBit code = true
    rw [Nat.testBit_or, Bool.or_eq_true]
    rcases List.mem_cons.mp hmem with rfl | hrest
    · exact Or.inl hbit
    · exact Or.inr (ih hrest)

/-- The number of code points of a run. -/
def Table.CaseRun.count (r : CaseRun) : Nat := (r.last - r.first) / r.step + 1

/-- A run covers its code points by their place in it. -/
theorem Table.CaseRun.exists_of_covers {r : CaseRun} {code : Nat} (h : r.covers code = true) :
    ∃ k < r.count, code = r.first + k * r.step := by
  simp only [covers, Bool.and_eq_true, decide_eq_true_eq, beq_iff_eq] at h
  obtain ⟨⟨hfirst, hlast⟩, hstep⟩ := h
  refine ⟨(code - r.first) / r.step, ?_, ?_⟩
  · exact Nat.lt_succ_of_le (Nat.div_le_div_right (Nat.sub_le_sub_right hlast r.first))
  · rw [Nat.div_mul_cancel (Nat.dvd_of_mod_eq_zero hstep)]
    omega

/-! ## The images of the case table -/

/-- White space, as ranges of codes. -/
def blankRanges : List CodeRange :=
  [⟨9, 13⟩, ⟨28, 32⟩, ⟨0x85, 0x85⟩, ⟨0xA0, 0xA0⟩, ⟨0x1680, 0x1680⟩, ⟨0x2000, 0x200A⟩,
   ⟨0x2028, 0x2029⟩, ⟨0x202F, 0x202F⟩, ⟨0x205F, 0x205F⟩, ⟨0x3000, 0x3000⟩]

/-- The codes that have a lower case of their own. -/
def upperCodeBits : Nat :=
  allBits (lowerRuns.map (fun r => codeBits r.first r.step r.count) ++
    lowerSpecials.map fun s => codeBits s.1 1 1)

/-- The codes that are white space, and those that are no characters. -/
def blankCodeBits : Nat :=
  allBits ((⟨0xD800, 0xDFFF⟩ :: blankRanges).map fun r =>
    codeBits r.first 1 (r.last - r.first + 1))

/-- The codes that the runs of the table map to. -/
def imageCodeBits : Nat := allBits (lowerRuns.map fun r => codeBits r.image r.step r.count)

/-- The bits of a number below a power of two lie below its exponent. -/
theorem lt_of_testBit {bits n limit : Nat} (hbit : bits.testBit n = true)
    (hbits : bits < 2 ^ limit) : n < limit :=
  (Nat.pow_lt_pow_iff_right Nat.one_lt_two).mp
    (Nat.lt_of_le_of_lt (Nat.ge_two_pow_of_testBit hbit) hbits)

/-- No image is mapped on, white space or no character. -/
theorem image_bits_checked :
    imageCodeBits &&& (upperCodeBits ||| blankCodeBits) = 0 ∧ imageCodeBits < 2 ^ 0x110000 := by
  decide +kernel

/-- Whether the runs of the table map to a code. -/
def IsImageCode (n : Nat) : Prop := imageCodeBits.testBit n = true

/-- What the table maps to is an image. -/
theorem isImageCode_of_image? {code n : Nat} (h : image? lowerRuns code = some n) :
    IsImageCode n := by
  obtain ⟨r, hr, rfl⟩ := Option.map_eq_some_iff.mp h
  have hcovers : r.covers code = true := List.find?_some (p := fun r : CaseRun => r.covers code) hr
  obtain ⟨k, hk, hcode⟩ := CaseRun.exists_of_covers hcovers
  have himage : r.imageOf code = r.image + k * r.step := by
    rw [CaseRun.imageOf, hcode, Nat.add_sub_cancel_left]
  rw [IsImageCode, himage]
  exact testBit_allBits (List.mem_map_of_mem (List.mem_of_find?_eq_some hr))
    (testBit_codeBits r.image r.step hk)

namespace IsImageCode

variable {n : Nat} (h : IsImageCode n)
include h

/-- An image is neither mapped on nor white space. -/
theorem testBit_eq_false : upperCodeBits.testBit n = false ∧ blankCodeBits.testBit n = false := by
  have hand := congrArg (·.testBit n) image_bits_checked.1
  simp only [Nat.testBit_and, Nat.zero_testBit, Nat.testBit_or] at hand
  rw [show imageCodeBits.testBit n = true from h, Bool.true_and, Bool.or_eq_false_iff] at hand
  exact hand

/-- No run covers an image. -/
theorem image?_eq_none : image? lowerRuns n = none := by
  rw [image?, Option.map_eq_none_iff, List.find?_eq_none]
  intro r hr hcovers
  obtain ⟨k, hk, hcode⟩ := CaseRun.exists_of_covers hcovers
  have hbit : upperCodeBits.testBit n = true := by
    rw [hcode]
    exact testBit_allBits (List.mem_append_left _ (List.mem_map_of_mem hr))
      (testBit_codeBits r.first r.step hk)
  rw [h.testBit_eq_false.1] at hbit
  exact Bool.false_ne_true hbit

theorem lookup_eq_none : lowerSpecials.lookup n = none := by
  rw [List.lookup_eq_none_iff]
  intro s hs
  rw [bne_iff_ne]
  intro hcode
  have hbit : upperCodeBits.testBit n = true := by
    have hmem : codeBits s.1 1 1 ∈ lowerSpecials.map fun s => codeBits s.1 1 1 :=
      List.mem_map.mpr ⟨s, hs, rfl⟩
    rw [hcode]
    exact testBit_allBits (List.mem_append_right _ hmem) (testBit_codeBits s.1 1 Nat.one_pos)
  rw [h.testBit_eq_false.1] at hbit
  exact Bool.false_ne_true hbit

theorem notMem_range {r : CodeRange} (hr : r ∈ (⟨0xD800, 0xDFFF⟩ : CodeRange) :: blankRanges) :
    ¬ (r.first ≤ n ∧ n ≤ r.last) := by
  rintro ⟨hfirst, hlast⟩
  have hk : n - r.first < r.last - r.first + 1 := by omega
  have hbit := testBit_codeBits r.first 1 hk
  rw [Nat.mul_one, Nat.add_sub_cancel' hfirst] at hbit
  have hblank : blankCodeBits.testBit n = true := testBit_allBits (List.mem_map_of_mem hr) hbit
  rw [h.testBit_eq_false.2] at hblank
  exact Bool.false_ne_true hblank

/-- An image is the code of a character. -/
theorem toNat_ofNat : (Char.ofNat n).toNat = n := by
  have hlt : n < 0x110000 := lt_of_testBit h image_bits_checked.2
  have hsurrogate := h.notMem_range List.mem_cons_self
  have hvalid : n.isValidChar := by
    rcases Nat.lt_or_ge n 0xD800 with hlow | hhigh
    · exact Or.inl hlow
    · exact Or.inr ⟨by simp only at hsurrogate; omega, hlt⟩
  rw [Char.ofNat, dif_pos hvalid]
  rfl

/-- The ranges of white space are those of `isBlank`. -/
theorem isBlank_eq_false : isBlank (Char.ofNat n) = false := by
  have hr := fun r hr => h.notMem_range (r := r) (List.mem_cons_of_mem _ hr)
  simp only [blankRanges, List.forall_mem_cons] at hr
  rw [isBlank, h.toNat_ofNat]
  simp only [Bool.or_eq_false_iff, Bool.and_eq_false_iff, decide_eq_false_iff_not,
    beq_eq_false_iff_ne]
  omega

/-- An image is its own lower case. -/
theorem lowerChar_eq_self : lowerChar (Char.ofNat n) = [Char.ofNat n] := by
  rw [lowerChar, h.toNat_ofNat, mapCase, h.toNat_ofNat, h.image?_eq_none]
  simp only [h.lookup_eq_none]
  split
  · -- the capital letters of ASCII have images, so this is none of them
    have hcapital : ¬ (0x41 ≤ n ∧ n ≤ 0x5A) := by
      rintro ⟨hfirst, hlast⟩
      have hcovers := List.find?_eq_none.mp (Option.map_eq_none_iff.mp h.image?_eq_none)
        ⟨0x41, 0x5A, 1, 0x61⟩ (by decide)
      simp only [CaseRun.covers, Bool.and_eq_true, decide_eq_true_eq, beq_iff_eq] at hcovers
      exact hcovers ⟨⟨hfirst, hlast⟩, Nat.mod_one _⟩
    rw [Char.toLower, dif_neg]
    rintro ⟨hfirst, hlast⟩
    have hval := h.toNat_ofNat
    exact hcapital ⟨hval ▸ hfirst, hval ▸ hlast⟩
  · rfl

end IsImageCode

/-! ## Single characters -/

theorem lowerChar_ascii : ∀ n < 0x80,
    lowerChar (Char.ofNat n).toLower = [(Char.ofNat n).toLower] ∧
      isBlank (Char.ofNat n).toLower = isBlank (Char.ofNat n) := by
  decide +kernel

/-- Small letters are lower case and no white space. -/
theorem lowerChar_of_isLower {c : Char} (h : c.isLower = true) :
    lowerChar c = [c] ∧ isBlank c = false := by
  have hbounds : 97 ≤ c.toNat ∧ c.toNat ≤ 122 := by
    simp only [Char.isLower, Bool.and_eq_true, decide_eq_true_eq, ge_iff_le,
      UInt32.le_iff_toNat_le] at h
    exact h
  have hself : c.toLower = c := by
    rw [Char.toLower, dif_neg]
    rintro ⟨-, hlast⟩
    have hcapital : c.toNat ≤ 90 := hlast
    omega
  constructor
  · rw [lowerChar, if_pos (by omega), hself]
  · simp only [isBlank, Bool.or_eq_false_iff, Bool.and_eq_false_iff, decide_eq_false_iff_not,
      beq_eq_false_iff_ne]
    omega

theorem lowerChar_specials : ∀ s ∈ lowerSpecials, ∀ n ∈ s.2,
    lowerChar (Char.ofNat n) = [Char.ofNat n] ∧ isBlank (Char.ofNat n) = false := by
  decide +kernel

/-- Every character has a lower case. -/
theorem lowerChar_ne_nil (c : Char) : lowerChar c ≠ [] := by
  unfold lowerChar
  split
  · exact List.cons_ne_nil _ _
  · exact mapCase_ne_nil _ _ _

/-- The images of a character are lower case, and none is white space unless the character is. -/
theorem lowerChar_of_mem {c d : Char} (h : d ∈ lowerChar c) :
    lowerChar d = [d] ∧ (isBlank c = false → isBlank d = false) := by
  by_cases hascii : c.toNat < 0x80
  · have hc := lowerChar_ascii c.toNat hascii
    rw [Char.ofNat_toNat] at hc
    rw [lowerChar, if_pos hascii, List.mem_singleton] at h
    exact h ▸ ⟨hc.1, fun hblank => hc.2.trans hblank⟩
  · have hmap : lowerChar c = mapCase lowerRuns lowerSpecials c := by rw [lowerChar, if_neg hascii]
    have hmem := h
    rw [hmap, mapCase] at hmem
    split at hmem
    · next n hn =>
      have himage := isImageCode_of_image? hn
      rw [List.mem_singleton.mp hmem]
      exact ⟨himage.lowerChar_eq_self, fun _ => himage.isBlank_eq_false⟩
    · next hnone =>
      split at hmem
      · next n ns hlookup =>
        obtain ⟨_, _, hl, _⟩ := List.lookup_eq_some_iff.mp hlookup
        have hspecial : (c.toNat, n :: ns) ∈ lowerSpecials := by
          rw [hl]
          exact List.mem_append_right _ List.mem_cons_self
        rw [← List.map_cons] at hmem
        obtain ⟨m, hm, rfl⟩ := List.mem_map.mp hmem
        obtain ⟨hself, hblank⟩ := lowerChar_specials _ hspecial m hm
        exact ⟨hself, fun _ => hblank⟩
      · next hlookup =>
        have hself : lowerChar c = [c] := by
          rw [hmap, mapCase, hnone]
          dsimp only
          split
          · next n ns hsome => exact absurd hsome (hlookup n ns)
          · rfl
        rw [List.mem_singleton.mp hmem]
        exact ⟨hself, id⟩

/-! ## Texts -/

/-- The lower case of a character at a place in a text. -/
def lowerAt (afterCased : Bool) (c : Char) (rest : List Char) : List Char :=
  if c.toNat = 0x3A3 then
    if afterCased && !startsCased rest then [Char.ofNat 0x3C2] else [Char.ofNat 0x3C3]
  else lowerChar c

theorem lowerAfter_cons (afterCased : Bool) (c : Char) (cs : List Char) :
    lowerAfter afterCased (c :: cs) =
      lowerAt afterCased c cs ++
        lowerAfter (if isCaseIgnorable c then afterCased else isCased c) cs := rfl

theorem lowerAt_ne_nil (afterCased : Bool) (c : Char) (rest : List Char) :
    lowerAt afterCased c rest ≠ [] := by
  unfold lowerAt
  split
  · split <;> exact List.cons_ne_nil _ _
  · exact lowerChar_ne_nil c

theorem lowerChar_sigma : ∀ n ∈ [0x3C2, 0x3C3],
    lowerChar (Char.ofNat n) = [Char.ofNat n] ∧ isBlank (Char.ofNat n) = false := by
  decide +kernel

/-- What a character becomes is not lower-cased on, and no white space unless it was. -/
theorem lowerAt_of_mem {afterCased : Bool} {c d : Char} {rest : List Char}
    (h : d ∈ lowerAt afterCased c rest) :
    lowerChar d = [d] ∧ (isBlank c = false → isBlank d = false) := by
  unfold lowerAt at h
  split at h
  · have hsigma : ∃ n ∈ [0x3C2, 0x3C3], d = Char.ofNat n := by
      split at h
      · exact ⟨0x3C2, by decide, List.mem_singleton.mp h⟩
      · exact ⟨0x3C3, by decide, List.mem_singleton.mp h⟩
    obtain ⟨n, hn, rfl⟩ := hsigma
    exact ⟨(lowerChar_sigma n hn).1, fun _ => (lowerChar_sigma n hn).2⟩
  · exact lowerChar_of_mem h

theorem mem_lowerAfter {afterCased : Bool} {cs : List Char} {d : Char}
    (h : d ∈ lowerAfter afterCased cs) :
    lowerChar d = [d] ∧ ((∀ c ∈ cs, isBlank c = false) → isBlank d = false) := by
  induction cs generalizing afterCased with
  | nil => exact absurd h List.not_mem_nil
  | cons c cs ih =>
    rw [lowerAfter_cons, List.mem_append] at h
    rcases h with himage | hrest
    · obtain ⟨hself, hblank⟩ := lowerAt_of_mem himage
      exact ⟨hself, fun hall => hblank (hall c List.mem_cons_self)⟩
    · obtain ⟨hself, hblank⟩ := ih hrest
      exact ⟨hself, fun hall => hblank fun c hc => hall c (List.mem_cons_of_mem _ hc)⟩

/-- A text of lower-case characters is left as it is; no capital sigma is among them. -/
theorem lowerAfter_eq_self {cs : List Char} (h : ∀ c ∈ cs, lowerChar c = [c])
    (afterCased : Bool) : lowerAfter afterCased cs = cs := by
  induction cs generalizing afterCased with
  | nil => rfl
  | cons c cs ih =>
    have hc : lowerChar c = [c] := h c List.mem_cons_self
    have hsigma : c.toNat ≠ 0x3A3 := by
      intro hcode
      rw [← Char.ofNat_toNat c, hcode] at hc
      exact absurd hc (by decide +kernel)
    rw [lowerAfter_cons, lowerAt, if_neg hsigma, hc,
      ih (fun d hd => h d (List.mem_cons_of_mem c hd)), List.singleton_append]

/-- A text in lower case is its own lower case. -/
theorem lower_lower (cs : List Char) : lower (lower cs) = lower cs :=
  lowerAfter_eq_self (fun _ hd => (mem_lowerAfter hd).1) false

/-! ## White space at the ends -/

/-- The last characters of the lower case are an image of the last character. -/
theorem exists_lowerAfter_concat (afterCased : Bool) (cs : List Char) (c : Char) :
    ∃ front cased, lowerAfter afterCased (cs ++ [c]) = front ++ lowerAt cased c [] := by
  induction cs generalizing afterCased with
  | nil => exact ⟨[], afterCased, lowerAfter_cons afterCased c [] |>.trans (List.append_nil _)⟩
  | cons d cs ih =>
    obtain ⟨front, cased, hrest⟩ := ih (if isCaseIgnorable d then afterCased else isCased d)
    rw [List.cons_append, lowerAfter_cons, hrest, ← List.append_assoc]
    exact ⟨_, cased, rfl⟩

theorem IsTrimmed.lower {cs : List Char} (h : IsTrimmed cs) : IsTrimmed (lower cs) := by
  constructor
  · intro d hd
    cases cs with
    | nil => exact absurd hd (Option.not_mem_none d)
    | cons c cs =>
      rw [Text.lower, lowerAfter_cons, List.head?_append_of_ne_nil _ (lowerAt_ne_nil _ c cs)] at hd
      exact (lowerAt_of_mem (List.mem_of_mem_head? hd)).2 (h.1 c rfl)
  · intro d hd
    rcases List.eq_nil_or_concat' cs with rfl | ⟨front, c, rfl⟩
    · exact absurd hd (Option.not_mem_none d)
    · obtain ⟨front', cased, hlower⟩ := exists_lowerAfter_concat false front c
      rw [Text.lower, hlower, List.getLast?_append_of_ne_nil _ (lowerAt_ne_nil cased c [])] at hd
      exact (lowerAt_of_mem (List.mem_of_mem_getLast? hd)).2 (h.2 c List.getLast?_concat)

end MimeDatabase.Text
