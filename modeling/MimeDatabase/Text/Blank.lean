import MimeDatabase.Text.Cut

/-!
# White space

Which characters count as white space, and the two things done with it: trimming the ends of a
text and cutting a text into words, which are never empty.
-/

namespace MimeDatabase.Text

/-- White space: the separators of Unicode, the ASCII controls from tab to carriage return, the
four information separators and the next-line control. -/
def isBlank (c : Char) : Bool :=
  let n := c.toNat
  (9 ≤ n && n ≤ 13) || (28 ≤ n && n ≤ 32) || n == 0x85 || n == 0xA0 || n == 0x1680 ||
    (0x2000 ≤ n && n ≤ 0x200A) || n == 0x2028 || n == 0x2029 || n == 0x202F || n == 0x205F ||
    n == 0x3000

/-- A text without the white space at its ends. -/
def trim (cs : List Char) : List Char := stripBy isBlank cs

/-- The runs of characters that are not white space. -/
def words (cs : List Char) : List (List Char) :=
  (splitBy isBlank cs).filter (fun w => !w.isEmpty)

end MimeDatabase.Text
