import MimeDatabase.Text.Quoted

/-!
# UTF-8

Reading bytes as UTF-8. A sequence that is not well formed is replaced by one replacement character
for each longest stretch that could have begun a character.
-/

namespace MimeDatabase.Text

/-- The replacement character. -/
def replacement : Char := Char.ofNat 0xFFFD

/-- What a lead byte announces: the number of bytes that follow, the bounds of the first of them,
and the bits that the lead byte itself carries. -/
structure Lead where
  following : Nat
  low : UInt8
  high : UInt8
  bits : Nat

/-- The characters that a byte can begin. A byte below 0x80 is a character of its own. -/
def lead? (b : UInt8) : Option Lead :=
  if b < 0x80 then some ⟨0, 0, 0, b.toNat⟩
  else if 0xC2 ≤ b && b ≤ 0xDF then some ⟨1, 0x80, 0xBF, b.toNat - 0xC0⟩
  else if b = 0xE0 then some ⟨2, 0xA0, 0xBF, 0⟩
  else if b = 0xED then some ⟨2, 0x80, 0x9F, 13⟩
  else if 0xE1 ≤ b && b ≤ 0xEF then some ⟨2, 0x80, 0xBF, b.toNat - 0xE0⟩
  else if b = 0xF0 then some ⟨3, 0x90, 0xBF, 0⟩
  else if 0xF1 ≤ b && b ≤ 0xF3 then some ⟨3, 0x80, 0xBF, b.toNat - 0xF0⟩
  else if b = 0xF4 then some ⟨3, 0x80, 0x8F, 4⟩
  else none

/-- Why bytes are not UTF-8. -/
inductive Utf8Fault where
  /-- A byte that cannot begin a character. -/
  | badLead (byte : UInt8)
  /-- A character that is broken off after `length` bytes by a byte that cannot continue it. -/
  | badContinuation (byte : UInt8) (length : Nat)
  /-- A character that is broken off after `length` bytes by the end of the data. -/
  | truncated (byte : UInt8) (length : Nat)
  deriving DecidableEq, Repr

/-- The number of bytes that the fault spans. -/
def Utf8Fault.length : Utf8Fault → Nat
  | badLead _ => 1
  | badContinuation _ n => n
  | truncated _ n => n

/-- Reads the bytes that follow a lead byte: the character's code point or, at the first byte that
does not fit, the number of bytes read and whether the data ended there; and the rest. -/
def readFollowing (code : Nat) (taken : Nat) (low high : UInt8) :
    Nat → List UInt8 → Except (Nat × Bool) Nat × List UInt8
  | 0, bs => (.ok code, bs)
  | _ + 1, [] => (.error (taken, true), [])
  | n + 1, b :: bs =>
    if low ≤ b && b ≤ high then
      readFollowing (code * 64 + (b.toNat - 0x80)) (taken + 1) 0x80 0xBF n bs
    else (.error (taken, false), b :: bs)

theorem readFollowing_length (code taken : Nat) (low high : UInt8) (n : Nat) (bs : List UInt8) :
    (readFollowing code taken low high n bs).2.length ≤ bs.length := by
  induction n generalizing code taken low high bs with
  | zero => simp [readFollowing]
  | succ n ih =>
    cases bs with
    | nil => simp [readFollowing]
    | cons b bs =>
      rw [readFollowing]
      split
      · have := ih (code * 64 + (b.toNat - 0x80)) (taken + 1) 0x80 0xBF bs
        simp
        omega
      · simp

/-- The first character of a byte string that is not empty, or the fault it begins with, and the
rest. -/
def firstUtf8 (b : UInt8) (bs : List UInt8) : Except Utf8Fault Char × List UInt8 :=
  match lead? b with
  | none => (.error (.badLead b), bs)
  | some l =>
    match readFollowing l.bits 1 l.low l.high l.following bs with
    | (.ok code, rest) => (.ok (Char.ofNat code), rest)
    | (.error (taken, true), rest) => (.error (.truncated b taken), rest)
    | (.error (taken, false), rest) => (.error (.badContinuation b taken), rest)

theorem firstUtf8_length (b : UInt8) (bs : List UInt8) :
    (firstUtf8 b bs).2.length ≤ bs.length := by
  unfold firstUtf8
  split
  · simp
  · next l _ =>
    have := readFollowing_length l.bits 1 l.low l.high l.following bs
    split <;> simp_all

/-- The characters of a byte string, or the fault that stands in the place of each. -/
def scanUtf8 : List UInt8 → List (Except Utf8Fault Char)
  | [] => []
  | b :: bs =>
    have := firstUtf8_length b bs
    (firstUtf8 b bs).1 :: scanUtf8 (firstUtf8 b bs).2
termination_by bs => bs.length
decreasing_by simp; omega

/-- The text of a byte string, with a replacement character for every fault. -/
def decodeUtf8 (bs : List UInt8) : List Char :=
  (scanUtf8 bs).map fun
    | .ok c => c
    | .error _ => replacement

/-- The bytes of a text. -/
def encodeUtf8 (s : String) : List UInt8 := s.toUTF8.toList

/-- The characters before the first fault, and the fault. -/
def firstFault? : List (Except Utf8Fault Char) → Option (List Char × Utf8Fault)
  | [] => none
  | .error f :: _ => some ([], f)
  | .ok c :: rest => (firstFault? rest).map fun (cs, f) => (c :: cs, f)

/-- The first fault of a byte string, and the position it begins at, in bytes. -/
structure Utf8Error where
  fault : Utf8Fault
  position : Nat
  deriving DecidableEq, Repr

/-- The byte that a fault begins with. -/
def Utf8Fault.byte : Utf8Fault → UInt8
  | badLead b => b
  | badContinuation b _ => b
  | truncated b _ => b

/-- The text of a fault. -/
def Utf8Fault.reason : Utf8Fault → String
  | badLead _ => "invalid start byte"
  | badContinuation .. => "invalid continuation byte"
  | truncated .. => "unexpected end of data"

/-- The text of an error: a single byte is shown, several are only counted. -/
def Utf8Error.message (e : Utf8Error) : String :=
  let last := e.position + e.fault.length - 1
  "'utf-8' codec can't decode " ++
    (if e.fault.length = 1 then
      "byte 0x" ++ String.ofList (hex 2 e.fault.byte.toNat) ++ " in position " ++
        toString e.position
    else "bytes in position " ++ toString e.position ++ "-" ++ toString last) ++
    ": " ++ e.fault.reason

/-- The text of a byte string that is UTF-8, or its first fault. -/
def utf8? (bs : List UInt8) : Except Utf8Error (List Char) :=
  match firstFault? (scanUtf8 bs) with
  | some (before, fault) =>
    .error ⟨fault, before.foldl (fun n c => n + c.utf8Size) 0⟩
  | none => .ok (decodeUtf8 bs)

end MimeDatabase.Text
