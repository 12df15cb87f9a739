import MimeDatabase.Text.Table.Alphanumeric

/-!
# Letters and numbers

Which characters a word is made of.
-/

namespace MimeDatabase.Text

/-- Whether a character is a letter or a number of any script. -/
def isAlphanumeric (c : Char) : Bool :=
  if c.toNat < 0x80 then c.isAlphanum else Table.member c.toNat Table.alphanumeric

end MimeDatabase.Text
