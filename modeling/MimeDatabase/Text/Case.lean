import MimeDatabase.Text.Table.Case

/-!
# Case

Lower case, upper case and case folding of texts, and the comparison of single characters without
regard to case. Folding acts on each character alone and never makes a text empty; lower-casing
looks at the surroundings of one character only, the capital sigma.
-/

namespace MimeDatabase.Text

open Text.Table

/-- The images of a character in a mapping given by runs and by a list of longer images. -/
def mapCase (runs : List CaseRun) (specials : List (Nat × List Nat)) (c : Char) : List Char :=
  match image? runs c.toNat with
  | some n => [Char.ofNat n]
  | none =>
    match specials.lookup c.toNat with
    | some (n :: ns) => Char.ofNat n :: ns.map Char.ofNat
    | _ => [c]

/-- The lower case of a character on its own. -/
def lowerChar (c : Char) : List Char :=
  if c.toNat < 0x80 then [c.toLower] else mapCase lowerRuns lowerSpecials c

/-- The upper case of a character. -/
def upperChar (c : Char) : List Char :=
  if c.toNat < 0x80 then [c.toUpper] else mapCase upperRuns upperSpecials c

/-- The case folding of a character. -/
def foldChar (c : Char) : List Char :=
  if c.toNat < 0x80 then [c.toLower] else mapCase foldRuns foldSpecials c

/-- Whether a character is looked through when the surroundings of a sigma are judged. -/
def isCaseIgnorable (c : Char) : Bool := member c.toNat caseIgnorable

/-- Whether a character has case. -/
def isCased (c : Char) : Bool := member c.toNat casedRanges

/-- Whether the first character that is not case-ignorable has case. -/
def startsCased (cs : List Char) : Bool :=
  match cs.dropWhile isCaseIgnorable with
  | [] => false
  | c :: _ => isCased c

/-- Lower case of what follows a prefix; `afterCased` says whether the last character of the prefix
that is not case-ignorable has case. A capital sigma at the end of a word becomes a final sigma. -/
def lowerAfter (afterCased : Bool) : List Char → List Char
  | [] => []
  | c :: cs =>
    let image :=
      if c.toNat = 0x3A3 then
        if afterCased && !startsCased cs then [Char.ofNat 0x3C2] else [Char.ofNat 0x3C3]
      else lowerChar c
    image ++ lowerAfter (if isCaseIgnorable c then afterCased else isCased c) cs

/-- The lower case of a text. -/
def lower (cs : List Char) : List Char := lowerAfter false cs

/-- The upper case of a text. -/
def upper (cs : List Char) : List Char := cs.flatMap upperChar

/-- The case folding of a text: two texts differ only in case if their foldings are equal. -/
def fold (cs : List Char) : List Char := cs.flatMap foldChar

/-- The first character of the lower case. -/
def simpleLower (c : Char) : Char :=
  match lowerChar c with
  | [] => c
  | d :: _ => d

/-- The first character of the upper case. -/
def simpleUpper (c : Char) : Char :=
  match upperChar c with
  | [] => c
  | d :: _ => d

/-- The lower-case characters that count as one with a lower-case character, itself included. -/
def siblings (c : Char) : List Char :=
  match caseSiblings.find? (·.contains c.toNat) with
  | none => [c]
  | some ns => ns.map Char.ofNat

theorem mapCase_ne_nil (runs : List CaseRun) (specials : List (Nat × List Nat)) (c : Char) :
    mapCase runs specials c ≠ [] := by
  unfold mapCase
  split
  · simp
  · split <;> simp

theorem foldChar_ne_nil (c : Char) : foldChar c ≠ [] := by
  unfold foldChar
  split
  · simp
  · exact mapCase_ne_nil _ _ _

theorem fold_append (a b : List Char) : fold (a ++ b) = fold a ++ fold b := by
  simp [fold]

theorem fold_eq_nil_iff (cs : List Char) : fold cs = [] ↔ cs = [] := by
  cases cs with
  | nil => simp [fold]
  | cons c cs => simp [fold, foldChar_ne_nil]

end MimeDatabase.Text
