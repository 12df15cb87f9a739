import MimeDatabase.Magic.Writing

/-!
# The grammar of match lines

Which byte strings are match lines, and what they denote, said without a reader: each part of a line
is a relation between its text and its value. Value and mask may hold any bytes, delimiters and line
ends among them, since the length before the value says how many bytes they take.
-/

namespace MimeDatabase.Magic

/-- The digits of a number, as many as are read. -/
structure SpellsNumber (text : List UInt8) (n : Nat) : Prop where
  ne_nil : text ≠ []
  length_le : text.length ≤ Text.digitLimit
  digits : ∀ b ∈ text, isDigitByte b = true
  value : numberOfBytes text = n

/-- The indent of a line. A line without one stands at the left margin. -/
inductive SpellsIndent : List UInt8 → Nat → Prop where
  | missing : SpellsIndent [] 0
  | number {text : List UInt8} {n : Nat} (h : SpellsNumber text n) : SpellsIndent text n

/-- An offset: where to start and, if it names the end too, how many positions to try. -/
inductive SpellsOffset : List UInt8 → Nat → Option Nat → Prop where
  | start {text : List UInt8} {n : Nat} (h : SpellsNumber text n) : SpellsOffset text n none
  | range {text stopText : List UInt8} {start stop : Nat} (hstart : SpellsNumber text start)
      (hstop : SpellsNumber stopText stop) (hlt : start < stop) :
      SpellsOffset (text ++ byteOf ':' :: stopText) start (some (stop - start))

/-- An optional mask of a given length. -/
inductive SpellsMask (length : Nat) : List UInt8 → Option (List UInt8) → Prop where
  | missing : SpellsMask length [] none
  | bytes {mask : List UInt8} (h : mask.length = length) :
      SpellsMask length (byteOf '&' :: mask) (some mask)

/-- An optional number after a mark. -/
inductive SpellsMarked (mark : UInt8) : List UInt8 → Option Nat → Prop where
  | missing : SpellsMarked mark [] none
  | number {text : List UInt8} {n : Nat} (h : SpellsNumber text n) :
      SpellsMarked mark (mark :: text) (some n)

/-- The text of a match line, its end included, with the depth and the comparison that it denotes. A
range is given once at most, with the offset or behind its mark; words of no size are single
bytes. -/
inductive MatchLine : List UInt8 → Nat → Signature → Prop where
  | line {indentText offsetText value maskText wordText rangeText : List UInt8} {depth start : Nat}
      {mask : Option (List UInt8)} {positions word range : Option Nat}
      (indent : SpellsIndent indentText depth)
      (offset : SpellsOffset offsetText start positions)
      (value_pos : 1 ≤ value.length) (value_lt : value.length < 65536)
      (spellsMask : SpellsMask value.length maskText mask)
      (spellsWord : SpellsMarked (byteOf '~') wordText word)
      (spellsRange : SpellsMarked (byteOf '+') rangeText range)
      (range_once : positions = none ∨ range = none) (range_ne : range ≠ some 0)
      (word_mem : word.getD 1 ∈ [0, 1, 2, 4])
      (word_dvd : 1 < word.getD 1 → word.getD 1 ∣ value.length) :
      MatchLine (indentText ++ byteOf '>' :: (offsetText ++ byteOf '=' ::
          (writeLength value.length ++ (value ++ (maskText ++ (wordText ++ (rangeText ++
            [newline])))))))
        depth ⟨start, (positions.or range).getD 1, value, mask, max (word.getD 1) 1⟩

end MimeDatabase.Magic
