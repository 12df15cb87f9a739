import MimeDatabase.Text.Quoted

/-!
# Texts of one byte per character

Writing a text with one byte for each character, which is possible for the first 256 characters
only.
-/

namespace MimeDatabase.Text

/-- The first stretch of characters that have no byte: its position, its first character and its
length. -/
structure LatinFault where
  position : Nat
  first : Char
  length : Nat
  deriving DecidableEq, Repr

/-- Whether a character has no byte. -/
def isWide (c : Char) : Bool := 0x100 ≤ c.toNat

/-- The text of a fault. -/
def LatinFault.message (f : LatinFault) : String :=
  let place :=
    if f.length = 1 then
      let escape :=
        if f.first.toNat < 0x10000 then '\\' :: 'u' :: hex 4 f.first.toNat
        else '\\' :: 'U' :: hex 8 f.first.toNat
      "character '" ++ String.ofList escape ++ "' in position " ++ toString f.position
    else
      "characters in position " ++ toString f.position ++ "-" ++
        toString (f.position + f.length - 1)
  "'latin-1' codec can't encode " ++ place ++ ": ordinal not in range(256)"

/-- The bytes of a text, or the first stretch of characters without bytes. -/
def encodeLatin (cs : List Char) : Except LatinFault (List UInt8) :=
  match cs.dropWhile (!isWide ·) with
  | [] => .ok (cs.map fun c => c.toNat.toUInt8)
  | c :: rest =>
    .error ⟨(cs.takeWhile (!isWide ·)).length, c, ((c :: rest).takeWhile isWide).length⟩

end MimeDatabase.Text
