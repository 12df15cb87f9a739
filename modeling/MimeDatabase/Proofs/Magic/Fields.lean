import MimeDatabase.Magic.Grammar
import MimeDatabase.Proofs.Text.Cut

/-!
# Reading back single fields

A field is found again by its reader, whatever follows it: the digits of a number spell the number
(`spellsNumber_digitsOf`), text before a delimiter ends at the delimiter (`takeUntil?_append`), and
a field of a known length may hold any bytes (`takeExactly?_append`). Each field is cut off exactly,
so the reader of the next field starts where that field does.
-/

namespace MimeDatabase.Magic

/-! ## Numbers -/

theorem byteOf_toNat {c : Char} (h : c.toNat < 256) : (byteOf c).toNat = c.toNat := by
  unfold byteOf
  rw [Nat.toUInt8_eq, UInt8.toNat_ofNat']
  omega

/-- The characters that spell a number are ASCII digits. -/
theorem digit_bounds {n : Nat} {c : Char} (h : c ∈ Nat.toDigits 10 n) :
    48 ≤ c.toNat ∧ c.toNat ≤ 57 := by
  have hc := Nat.isDigit_of_mem_toDigits (by decide) (by decide) h
  simp only [Char.isDigit, Bool.and_eq_true, decide_eq_true_eq, UInt32.le_iff_toNat_le] at hc
  exact hc

/-- The bytes of digits are those from 48 to 57. -/
theorem isDigitByte_iff {b : UInt8} : isDigitByte b = true ↔ 48 ≤ b.toNat ∧ b.toNat ≤ 57 := by
  simp only [isDigitByte, Bool.and_eq_true, decide_eq_true_eq, UInt8.le_iff_toNat_le]
  exact Iff.rfl

theorem isDigitByte_of_mem_digitsOf {n : Nat} {b : UInt8} (h : b ∈ digitsOf n) :
    isDigitByte b = true := by
  obtain ⟨c, hc, rfl⟩ := List.mem_map.mp h
  have hb := digit_bounds hc
  rw [isDigitByte_iff, byteOf_toNat (by omega)]
  exact hb

/-- Every number has a digit. -/
theorem digitsOf_ne_nil (n : Nat) : digitsOf n ≠ [] := by
  intro h
  exact Nat.toDigits_ne_nil (List.map_eq_nil_iff.mp h)

/-- A byte that is no digit does not occur among the digits of a number. -/
theorem notMem_digitsOf {b : UInt8} (h : isDigitByte b = false) (n : Nat) : b ∉ digitsOf n := by
  intro hb
  rw [isDigitByte_of_mem_digitsOf hb] at h
  exact absurd h (by decide)

/-- A number is read back from its digits. -/
theorem numberOfBytes_digitsOf (n : Nat) : numberOfBytes (digitsOf n) = n := by
  unfold numberOfBytes digitsOf
  have hmap : ((Nat.toDigits 10 n).map byteOf).map (fun b => b.toNat - 48) =
      (Nat.toDigits 10 n).map fun c => c.toNat - 48 := by
    rw [List.map_map]
    refine List.map_congr_left fun c hc => ?_
    have hb := digit_bounds hc
    show (byteOf c).toNat - 48 = c.toNat - 48
    rw [byteOf_toNat (by omega)]
  rw [hmap, Text.numberOf, List.foldl_map]
  exact (Nat.ofDigitChars_eq_foldl).symm.trans Nat.ofDigitChars_ten_toDigits

/-- A number that is not too long is spelled by its digits. -/
theorem spellsNumber_digitsOf {n : Nat} (h : (digitsOf n).length ≤ Text.digitLimit) :
    SpellsNumber (digitsOf n) n :=
  ⟨digitsOf_ne_nil n, h, fun _ => isDigitByte_of_mem_digitsOf, numberOfBytes_digitsOf n⟩

/-! ## Text before a delimiter -/

/-- A text without the delimiter is taken up to it. -/
theorem takeUntil?_append {delimiter : UInt8} {text rest : List UInt8}
    (hd : delimiter ∉ text) (hn : newline ∉ text) :
    takeUntil? delimiter (text ++ delimiter :: rest) = some (text, rest) := by
  induction text with
  | nil => rw [List.nil_append, takeUntil?, if_pos rfl]
  | cons b text ih =>
    rw [List.mem_cons, not_or] at hd hn
    rw [List.cons_append, takeUntil?, if_neg (Ne.symm hd.1), if_neg (Ne.symm hn.1),
      ih hd.2 hn.2]
    rfl

/-- The line at the front of a text, and what follows it. -/
theorem lineText_append {line : List UInt8} (rest : List UInt8) (h : newline ∉ line) :
    lineText (line ++ newline :: rest) = line ∧ afterLine (line ++ newline :: rest) = rest := by
  induction line with
  | nil => simp [lineText, afterLine]
  | cons b line ih =>
    rw [List.mem_cons, not_or] at h
    have hb : (b != newline) = true := by simpa using Ne.symm h.1
    constructor
    · rw [lineText, List.cons_append, List.takeWhile_cons_of_pos (p := (· != newline)) hb]
      exact congrArg (List.cons b) (ih h.2).1
    · rw [List.cons_append, afterLine, if_neg (Ne.symm h.1)]
      exact (ih h.2).2

/-! ## Fields of a known length, and runs -/

/-- A chunk of the right length is taken from what it is followed by. -/
theorem takeExactly?_append {chunk rest : List UInt8} {count : Nat} (h : chunk.length = count) :
    takeExactly? count (chunk ++ rest) = some (chunk, rest) :=
  takeExactly?_eq_some_iff.mpr ⟨rfl, h⟩

/-- The two bytes of a length spell it. -/
theorem wordOf_writeLength {n : Nat} (h : n < 65536) :
    wordOf (n / 256).toUInt8 (n % 256).toUInt8 = n := by
  simp only [wordOf, Nat.toUInt8_eq, UInt8.toNat_ofNat']
  omega

theorem wordOf_lt (high low : UInt8) : wordOf high low < 65536 := by
  have hhigh := high.toNat_lt
  have hlow := low.toNat_lt
  unfold wordOf
  omega

/-- Two bytes are those of the length that they spell. -/
theorem writeLength_wordOf (high low : UInt8) : writeLength (wordOf high low) = [high, low] := by
  have hhigh := high.toNat_lt
  have hlow := low.toNat_lt
  simp only [writeLength, wordOf, List.cons.injEq, and_true, ← UInt8.toNat_inj, Nat.toUInt8_eq,
    UInt8.toNat_ofNat']
  omega

/-- A run of elements that satisfy `p` ends where the first one that does not begins. -/
theorem span_append {α : Type} (p : α → Bool) (front rest : List α)
    (hf : ∀ x ∈ front, p x = true) (hr : ∀ x ∈ rest.head?, p x = false) :
    (front ++ rest).takeWhile p = front ∧ (front ++ rest).dropWhile p = rest := by
  rw [List.takeWhile_append_of_pos hf, List.dropWhile_append_of_pos hf]
  cases rest with
  | nil => exact ⟨List.append_nil front, rfl⟩
  | cons b rest =>
    have hb : ¬ p b = true := by rw [hr b rfl]; decide
    rw [List.takeWhile_cons_of_neg hb, List.dropWhile_cons_of_neg hb, List.append_nil]
    exact ⟨rfl, rfl⟩

/-! ## Headers -/

/-- A text of ASCII characters is read back from its bytes. -/
theorem asciiText?_map_byteOf {cs : List Char} (h : ∀ c ∈ cs, c.toNat < 128) :
    asciiText? (cs.map byteOf) = some (String.ofList cs) := by
  have hall : (cs.map byteOf).all (· < 0x80) = true := by
    rw [List.all_eq_true]
    intro b hb
    obtain ⟨c, hc, rfl⟩ := List.mem_map.mp hb
    have hlt := h c hc
    rw [decide_eq_true_eq, UInt8.lt_iff_toNat_lt, byteOf_toNat (by omega)]
    exact hlt
  have hmap : (cs.map byteOf).map (fun b => Char.ofNat b.toNat) = cs := by
    rw [List.map_map]
    refine (List.map_congr_left fun c hc => ?_).trans (List.map_id cs)
    have hlt := h c hc
    show Char.ofNat (byteOf c).toNat = c
    rw [byteOf_toNat (by omega), Char.ofNat_toNat]
  unfold asciiText?
  rw [hall, if_pos rfl, hmap]

end MimeDatabase.Magic
