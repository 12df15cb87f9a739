import MimeDatabase.Text.Table.Canonical

/-!
# Canonical composition

Texts in composed form (normalization form C): every text is decomposed as far as possible, its
combining marks are put into order, and then every mark is composed with its starter where a
composed character exists. Hangul syllables are composed by arithmetic.
-/

namespace MimeDatabase.Text

open Text.Table

/-- The combining class of a character; zero for a starter. -/
def classOf (c : Char) : Nat :=
  if c.toNat < 0x300 then 0 else combiningClass c.toNat combiningRuns

/-- The canonical decomposition of a Hangul syllable, given its index among the syllables. -/
def decomposeSyllable (index : Nat) : List Char :=
  let lead := Char.ofNat (0x1100 + index / 588)
  let vowel := Char.ofNat (0x1161 + index % 588 / 28)
  if index % 28 = 0 then [lead, vowel]
  else [lead, vowel, Char.ofNat (0x11A7 + index % 28)]

/-- The full canonical decomposition of a character. -/
def decomposeChar (c : Char) : List Char :=
  let n := c.toNat
  if n < 0xC0 then [c]
  else if 0xAC00 ≤ n && n < 0xD7A4 then decomposeSyllable (n - 0xAC00)
  else
    match (blockFor decompositions n).find? (fun d => d.code == n) with
    | none => [c]
    | some d => d.parts.map Char.ofNat

/-- Puts a mark before the first mark of the same or a greater class, at the latest before the
next starter. -/
def insertMark (c : Char) : List Char → List Char
  | [] => [c]
  | d :: ds =>
    if classOf d = 0 || classOf c ≤ classOf d then c :: d :: ds else d :: insertMark c ds

/-- Every run of marks sorted by combining class, marks of one class kept in their order. -/
def orderMarks : List Char → List Char
  | [] => []
  | c :: cs => if classOf c = 0 then c :: orderMarks cs else insertMark c (orderMarks cs)

/-- The character composed from two others, if there is one. -/
def composePair (a b : Char) : Option Char :=
  let m := a.toNat
  let n := b.toNat
  if 0x1100 ≤ m && m < 0x1113 && 0x1161 ≤ n && n < 0x1176 then
    some (Char.ofNat (0xAC00 + ((m - 0x1100) * 21 + (n - 0x1161)) * 28))
  else if 0xAC00 ≤ m && m < 0xD7A4 && (m - 0xAC00) % 28 == 0 && 0x11A7 < n && n < 0x11C3 then
    some (Char.ofNat (m + (n - 0x11A7)))
  else
    ((blockFor compositions m).find? (fun p => p.first == m && p.second == n)).map
      (Char.ofNat ·.whole)

/-- Composes a decomposed text: `starter` is the character that marks may join, `marks` are those
that could not, last first, and `lastClass` is the class of the last of them. A mark joins the
starter unless a mark of the same class or a starter stands between them. -/
def composeFrom (starter : Char) (marks : List Char) (lastClass : Nat) :
    List Char → List Char
  | [] => starter :: marks.reverse
  | c :: cs =>
    let k := classOf c
    let whole := if marks.isEmpty || lastClass < k then composePair starter c else none
    match whole with
    | some w => composeFrom w marks lastClass cs
    | none =>
      if k = 0 then starter :: marks.reverse ++ composeFrom c [] 0 cs
      else composeFrom starter (c :: marks) k cs

/-- The composed form of a text. -/
def compose (cs : List Char) : List Char :=
  match orderMarks (cs.flatMap decomposeChar) with
  | [] => []
  | c :: rest => composeFrom c [] 0 rest

end MimeDatabase.Text
