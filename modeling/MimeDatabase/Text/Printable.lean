import MimeDatabase.Text.Table.Unprintable

/-!
# Printable characters

Which characters are shown as themselves when a text is quoted.
-/

namespace MimeDatabase.Text

/-- Whether a character has a printed form: it is assigned and is no control, format or private-use
character and no separator but the space. -/
def isPrintable (c : Char) : Bool :=
  if c.toNat < 0x7F then 0x20 ≤ c.toNat else !Table.member c.toNat Table.unprintable

end MimeDatabase.Text
