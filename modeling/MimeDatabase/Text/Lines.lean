/-!
# Lines

A text is cut into lines at every line boundary of Unicode, a carriage return with a line feed
after it counting as one boundary. A boundary at the very end starts no further line.
-/

namespace MimeDatabase.Text

/-- The characters that end a line: line feed, vertical tab, form feed, carriage return, the file,
group and record separators, next line, and the line and paragraph separators. -/
def isLineBreak (c : Char) : Bool :=
  let n := c.toNat
  (10 ≤ n && n ≤ 13) || (28 ≤ n && n ≤ 30) || n == 0x85 || n == 0x2028 || n == 0x2029

/-- The first line of a text and what follows its boundary. -/
def firstLine : List Char → List Char × List Char
  | [] => ([], [])
  | '\r' :: '\n' :: rest => ([], rest)
  | c :: cs =>
    if isLineBreak c then ([], cs)
    else
      let (line, rest) := firstLine cs
      (c :: line, rest)

theorem firstLine_rest_length (cs : List Char) : (firstLine cs).2.length ≤ cs.length - 1 := by
  fun_induction firstLine cs with
  | case1 => exact Nat.le_refl _
  | case2 rest => exact Nat.le_succ rest.length
  | case3 => exact Nat.le_refl _
  | case4 c cs _ _ line rest h ih =>
    rw [h] at ih
    exact Nat.le_trans ih (Nat.sub_le cs.length 1)

theorem firstLine_rest_lt (c : Char) (cs : List Char) :
    (firstLine (c :: cs)).2.length < (c :: cs).length :=
  Nat.lt_succ_of_le (firstLine_rest_length (c :: cs))

/-- The lines of a text, without their boundaries. -/
def lines : List Char → List (List Char)
  | [] => []
  | c :: cs =>
    have := firstLine_rest_lt c cs
    (firstLine (c :: cs)).1 :: lines (firstLine (c :: cs)).2
termination_by cs => cs.length
decreasing_by exact this

/-- Line ends made uniform: a carriage return, alone or with a line feed after it, becomes a line
feed. -/
def uniformLineEnds : List Char → List Char
  | [] => []
  | '\r' :: '\n' :: cs => '\n' :: uniformLineEnds cs
  | c :: cs => (if c = '\r' then '\n' else c) :: uniformLineEnds cs

end MimeDatabase.Text
