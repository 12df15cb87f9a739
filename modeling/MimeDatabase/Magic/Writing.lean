import MimeDatabase.Magic.Document

/-!
# Writing magic files

The text of magic rules in the format that `Document` reads: the file header, and for each rule a
line `[priority:type]` and a match line for every entry, parents before children, indented by depth.
An optional number that has its usual value may be left out or written all the same.
-/

namespace MimeDatabase.Magic

/-- How optional numbers are written that have their usual value. -/
inductive Style where
  /-- They are left out. -/
  | brief
  /-- They are written all the same. -/
  | full
  deriving DecidableEq, Repr

/-- Whether a number is left out. -/
def Style.omits (style : Style) (usual n : Nat) : Bool := style == .brief && n == usual

/-- The indent of a line; the usual one is zero. -/
def writeIndent (style : Style) (depth : Nat) : List UInt8 :=
  if style.omits 0 depth then [] else digitsOf depth

/-- An optional number after its mark; the usual one is one. -/
def writeMarked (style : Style) (mark : UInt8) (n : Nat) : List UInt8 :=
  if style.omits 1 n then [] else mark :: digitsOf n

/-- The two bytes of a length, most significant first. -/
def writeLength (n : Nat) : List UInt8 := [(n / 256).toUInt8, (n % 256).toUInt8]

/-- A mask after its mark, if there is one. -/
def writeMask : Option (List UInt8) → List UInt8
  | none => []
  | some mask => byteOf '&' :: mask

/-- What follows the value on a match line. -/
def Signature.writeOptions (s : Signature) (style : Style) : List UInt8 :=
  writeMask s.mask ++ (writeMarked style (byteOf '~') s.wordSize ++
    (writeMarked style (byteOf '+') s.range ++ [newline]))

/-- The match line of a signature at some depth. -/
def Signature.write (s : Signature) (style : Style) (depth : Nat) : List UInt8 :=
  writeIndent style depth ++ byteOf '>' ::
    (digitsOf s.start.toNat ++ byteOf '=' ::
      (writeLength s.value.length ++ (s.value ++ s.writeOptions style)))

/-- The line of a section header, without its end. -/
def Rule.headerLine (r : Rule) : List UInt8 :=
  byteOf '[' :: (digitsOf r.priority ++ byteOf ':' ::
    (r.typeName.toList.map byteOf ++ [byteOf ']']))

/-- The section of a rule: its header and the lines of its entries. -/
def Rule.write (r : Rule) (style : Style) : List UInt8 :=
  r.headerLine ++ newline ::
    (Entry.forestPreorder 0 r.entries).flatMap fun line => line.2.write style line.1

/-- Whether a signature can be written at some depth: it makes sense in a magic file, and its
numbers have no more digits than can be read. -/
structure Signature.Writable (s : Signature) (depth : Nat) : Prop where
  wellFormed : s.WellFormed
  depth_digits : (digitsOf depth).length ≤ Text.digitLimit
  start_digits : (digitsOf s.start.toNat).length ≤ Text.digitLimit
  range_digits : (digitsOf s.range).length ≤ Text.digitLimit

instance (s : Signature) (depth : Nat) : Decidable (s.Writable depth) :=
  decidable_of_iff (s.WellFormed ∧ (digitsOf depth).length ≤ Text.digitLimit ∧
      (digitsOf s.start.toNat).length ≤ Text.digitLimit ∧
      (digitsOf s.range).length ≤ Text.digitLimit)
    ⟨fun ⟨h₁, h₂, h₃, h₄⟩ => ⟨h₁, h₂, h₃, h₄⟩, fun ⟨h₁, h₂, h₃, h₄⟩ => ⟨h₁, h₂, h₃, h₄⟩⟩

/-- Whether a rule can be written: its priority is a grade, its type name is an ASCII name in normal
form, and it has entries, all of which can be written. -/
structure Rule.Writable (r : Rule) : Prop where
  priority_le : r.priority ≤ maxGrade
  typeName_ascii : ∀ c ∈ r.typeName.toList, c.toNat < 128
  typeName_valid : TypeName.isValid r.typeName = true
  typeName_normal : TypeName.normalize r.typeName = r.typeName
  entries_ne_nil : r.entries ≠ []
  lines : ∀ line ∈ Entry.forestPreorder 0 r.entries, line.2.Writable line.1

/-- A magic file with some rules. -/
def writeRules (style : Style) (rules : List Rule) : List UInt8 :=
  fileHeader ++ rules.flatMap (·.write style)

end MimeDatabase.Magic
