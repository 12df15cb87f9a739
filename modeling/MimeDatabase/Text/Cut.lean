/-!
# Cutting lists

Stripping a list at both ends and cutting it at separators. Nothing is lost by a cut: the pieces
with the separators between them are the list again.
-/

namespace MimeDatabase.Text

/-- A list without the elements at both ends that satisfy `p`. -/
def stripBy {α : Type} (p : α → Bool) (cs : List α) : List α :=
  ((cs.dropWhile p).reverse.dropWhile p).reverse

/-- The pieces between the elements that satisfy `p`; one more piece than there are such
elements. -/
def splitBy {α : Type} (p : α → Bool) : List α → List (List α)
  | [] => [[]]
  | c :: cs =>
    if p c then [] :: splitBy p cs
    else
      match splitBy p cs with
      | [] => [[c]]
      | piece :: pieces => (c :: piece) :: pieces

/-- The pieces between the occurrences of a separator. -/
def splitAt {α : Type} [BEq α] (sep : α) (cs : List α) : List (List α) := splitBy (· == sep) cs

/-- Cuts a list at the first occurrence of a separator, which is in neither part. The second part is
`none` if there is no occurrence. -/
def cutAt {α : Type} [BEq α] (sep : α) : List α → List α × Option (List α)
  | [] => ([], none)
  | c :: cs =>
    if c == sep then ([], some cs)
    else
      let (before, after) := cutAt sep cs
      (c :: before, after)

/-- The pieces between the occurrences of a separator of several elements, found from the left; the
first `skip` elements belong to an occurrence already found. -/
def splitAtRun {α : Type} [BEq α] (sep : List α) (skip : Nat) : List α → List (List α)
  | [] => [[]]
  | c :: cs =>
    match skip with
    | k + 1 => splitAtRun sep k cs
    | 0 =>
      if sep.isPrefixOf (c :: cs) then [] :: splitAtRun sep (sep.length - 1) cs
      else
        match splitAtRun sep 0 cs with
        | [] => [[c]]
        | piece :: pieces => (c :: piece) :: pieces

/-- The list before and after the occurrence of a separator with a given number, if there are as
many occurrences. -/
def cutAtNth? {α : Type} [BEq α] (sep : List α) (n : Nat) (cs : List α) :
    Option (List α × List α) :=
  let pieces := splitAtRun sep 0 cs
  if n < pieces.length then
    some (sep.intercalate (pieces.take n), sep.intercalate (pieces.drop n))
  else none

/-- Whether the number of elements at the end of a list that satisfy `p` is odd. -/
def endsOddly {α : Type} (p : α → Bool) (cs : List α) : Bool :=
  (cs.reverse.takeWhile p).length % 2 == 1

/-- A list without its first and last element. -/
def inner {α : Type} (cs : List α) : List α := (cs.drop 1).dropLast

theorem splitBy_ne_nil {α : Type} (p : α → Bool) (cs : List α) : splitBy p cs ≠ [] := by
  cases cs with
  | nil => simp [splitBy]
  | cons c cs =>
    rw [splitBy]
    split
    · simp
    · split <;> simp

/-- A cut that finds the separator loses nothing. -/
theorem eq_of_cutAt {α : Type} [BEq α] [LawfulBEq α] {sep : α} {cs before after : List α}
    (h : cutAt sep cs = (before, some after)) : cs = before ++ sep :: after := by
  induction cs generalizing before with
  | nil => simp [cutAt] at h
  | cons c cs ih =>
    rw [cutAt] at h
    split at h
    · next hc =>
      simp only [Prod.mk.injEq, Option.some.injEq] at h
      rw [← h.1, ← h.2, eq_of_beq hc, List.nil_append]
    · simp only [Prod.mk.injEq] at h
      rw [@ih (cutAt sep cs).1 (by rw [← h.2]), ← h.1, List.cons_append]

/-- What follows the separator is shorter than the list. -/
theorem cutAt_length {α : Type} [BEq α] [LawfulBEq α] {sep : α} {cs before after : List α}
    (h : cutAt sep cs = (before, some after)) : after.length < cs.length := by
  rw [eq_of_cutAt h]
  simp
  omega

end MimeDatabase.Text
