import MimeDatabase.Text.Cut
import MimeDatabase.Text.Digit
import MimeDatabase.Text.Numeral
import MimeDatabase.Text.Quoted

/-!
# Fields of a magic file

Cutting fields off the front of a byte string: up to a delimiter on the same line, a number of
digits, or a fixed number of bytes. Nothing is lost: field, delimiter and rest are the input again.
-/

namespace MimeDatabase.Magic

/-- The byte of an ASCII character. -/
def byteOf (c : Char) : UInt8 := c.toNat.toUInt8

/-- The byte that ends a line. -/
def newline : UInt8 := byteOf '\n'

/-- Whether a byte is a decimal digit. -/
def isDigitByte (b : UInt8) : Bool := byteOf '0' ≤ b && b ≤ byteOf '9'

/-- The number that digits spell. -/
def numberOfBytes (digits : List UInt8) : Nat :=
  Text.numberOf (digits.map fun b => b.toNat - 48)

/-- What is before a delimiter and what follows it; `none` if the line or the data ends first. -/
def takeUntil? (delimiter : UInt8) : List UInt8 → Option (List UInt8 × List UInt8)
  | [] => none
  | b :: bs =>
    if b = delimiter then some ([], bs)
    else if b = newline then none
    else (takeUntil? delimiter bs).map fun (text, rest) => (b :: text, rest)

/-- A field and its delimiter are the beginning of the text. -/
theorem eq_of_takeUntil? {delimiter : UInt8} {bs text rest : List UInt8}
    (h : takeUntil? delimiter bs = some (text, rest)) : bs = text ++ delimiter :: rest := by
  induction bs generalizing text with
  | nil => simp [takeUntil?] at h
  | cons b bs ih =>
    rw [takeUntil?] at h
    split at h
    · next hb =>
      simp only [Option.some.injEq, Prod.mk.injEq] at h
      rw [← h.1, ← h.2, hb, List.nil_append]
    · split at h
      · simp at h
      · obtain ⟨⟨t, r⟩, hr, he⟩ := Option.map_eq_some_iff.1 h
        simp only [Prod.mk.injEq] at he
        rw [← he.1, List.cons_append, ih (by rw [hr, he.2])]

theorem takeUntil?_length {delimiter : UInt8} {bs text rest : List UInt8}
    (h : takeUntil? delimiter bs = some (text, rest)) : rest.length < bs.length := by
  rw [eq_of_takeUntil? h]
  simp
  omega

/-- What follows the end of the line. -/
def afterLine : List UInt8 → List UInt8
  | [] => []
  | b :: bs => if b = newline then bs else afterLine bs

theorem afterLine_length (bs : List UInt8) : (afterLine bs).length ≤ bs.length := by
  induction bs with
  | nil => simp [afterLine]
  | cons b bs ih =>
    rw [afterLine]
    split
    · exact Nat.le_succ bs.length
    · exact Nat.le_trans ih (Nat.le_succ bs.length)

theorem afterLine_lt {bs : List UInt8} (h : bs ≠ []) : (afterLine bs).length < bs.length := by
  cases bs with
  | nil => exact absurd rfl h
  | cons b bs =>
    rw [afterLine]
    split
    · exact Nat.lt_succ_self bs.length
    · exact Nat.lt_succ_of_le (afterLine_length bs)

/-- The line at the front of a byte string, without its end. -/
def lineText (bs : List UInt8) : List UInt8 := bs.takeWhile (· != newline)

/-- A fixed number of bytes and the rest; `none` if there are not as many. -/
def takeExactly? (count : Nat) (bs : List UInt8) : Option (List UInt8 × List UInt8) :=
  if count ≤ bs.length then some (bs.take count, bs.drop count) else none

/-- A chunk is taken if it is the beginning of the text and of the right length. -/
theorem takeExactly?_eq_some_iff {count : Nat} {bs chunk rest : List UInt8} :
    takeExactly? count bs = some (chunk, rest) ↔ bs = chunk ++ rest ∧ chunk.length = count := by
  unfold takeExactly?
  constructor
  · intro h
    split at h
    · next hc =>
      simp only [Option.some.injEq, Prod.mk.injEq] at h
      rw [← h.1, ← h.2]
      exact ⟨(List.take_append_drop count bs).symm, List.length_take_of_le hc⟩
    · simp at h
  · rintro ⟨rfl, rfl⟩
    simp

/-! ## Numbers -/

/-- The numbers of a magic file. -/
inductive NumberField where
  | priority
  | indent
  | offset
  | offsetEnd
  | wordSize
  | rangeLength
  deriving DecidableEq, Repr

/-- What a number is called in messages. -/
def NumberField.name : NumberField → String
  | priority => "priority"
  | indent => "indent"
  | offset => "offset"
  | offsetEnd => "offset range end"
  | wordSize => "word size"
  | rangeLength => "range length"

/-- Why a text is not a number. -/
inductive NumberFault where
  /-- The text is empty or holds something else than digits. -/
  | notDigits (field : NumberField) (text : List UInt8)
  /-- The text has more digits than numbers may have. -/
  | tooLong (digits : Nat)
  deriving DecidableEq, Repr

/-- The text of a fault. -/
def NumberFault.message : NumberFault → String
  | notDigits field text =>
    "non-numeric " ++ field.name ++ " " ++ String.ofList (Text.quotedBytes text)
  | tooLong digits =>
    "Exceeds the limit (" ++ toString Text.digitLimit ++
      " digits) for integer string conversion: value has " ++ toString digits ++
      " digits; use sys.set_int_max_str_digits() to increase the limit"

/-- The number that a text of digits spells. -/
def readNumber (field : NumberField) (text : List UInt8) : Except NumberFault Nat :=
  if text.isEmpty || !text.all isDigitByte then .error (.notDigits field text)
  else if text.length > Text.digitLimit then .error (.tooLong text.length)
  else .ok (numberOfBytes text)

/-- The digits of a number. -/
def digitsOf (n : Nat) : List UInt8 := (Nat.toDigits 10 n).map byteOf

end MimeDatabase.Magic
