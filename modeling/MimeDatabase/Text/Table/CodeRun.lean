/-!
# Shapes of the character tables

A property of characters is held as an increasing list of code point ranges, a character mapping as
a list of runs. A long list is put together from pieces, which are named for the code points of the
first and of the last entry.
-/

namespace MimeDatabase.Text.Table

/-- The code points from `first` to `last`, both included. -/
structure CodeRange where
  first : Nat
  last : Nat
  deriving DecidableEq, Repr

/-- Whether some range of an increasing list holds `code`. The search ends at the first range that
reaches as far as `code`. -/
def member (code : Nat) : List CodeRange → Bool
  | [] => false
  | r :: rest => if r.last < code then member code rest else r.first ≤ code

/-- The code points `first, first + step, …, last`, with the images `image, image + step, …`. -/
structure CaseRun where
  first : Nat
  last : Nat
  step : Nat
  image : Nat
  deriving DecidableEq, Repr

namespace CaseRun

/-- Whether `code` is one of the code points of the run. -/
def covers (r : CaseRun) (code : Nat) : Bool :=
  r.first ≤ code && code ≤ r.last && (code - r.first) % r.step == 0

/-- The image of a code point of the run. -/
def imageOf (r : CaseRun) (code : Nat) : Nat := r.image + (code - r.first)

end CaseRun

/-- The image of `code` under the first run that covers it. -/
def image? (runs : List CaseRun) (code : Nat) : Option Nat :=
  (runs.find? (·.covers code)).map (·.imageOf code)

/-- The code points from `first` to `last`, with one combining class. -/
structure ClassRun where
  first : Nat
  last : Nat
  combiningClass : Nat
  deriving DecidableEq, Repr

/-- The combining class of `code`: that of the run that holds it, or zero. The runs are in
increasing order. -/
def combiningClass (code : Nat) : List ClassRun → Nat
  | [] => 0
  | r :: rest =>
    if r.last < code then combiningClass code rest
    else if r.first ≤ code then r.combiningClass else 0

/-- A character and its full canonical decomposition. -/
structure Decomposition where
  code : Nat
  parts : List Nat
  deriving DecidableEq, Repr

/-- A pair of characters and the character composed from it. -/
structure Composition where
  first : Nat
  second : Nat
  whole : Nat
  deriving DecidableEq, Repr

/-- A stretch of a table that is sorted by a code, with the greatest code in it. -/
structure Block (α : Type) where
  last : Nat
  entries : List α

/-- The entries among which those of `code` are: the first block that reaches as far. -/
def blockFor {α : Type} (blocks : List (Block α)) (code : Nat) : List α :=
  match blocks.find? (fun b => code ≤ b.last) with
  | none => []
  | some b => b.entries

end MimeDatabase.Text.Table
