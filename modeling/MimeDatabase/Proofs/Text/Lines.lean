import MimeDatabase.Text.Lines

/-!
# The lines of a text that is put together

A line feed is a seam at which a text may be cut: nothing that follows it changes the lines before
it, and it changes none of the lines that follow (`lines_append_newline`). This is not so of every
boundary. A carriage return at the end of the first part is one boundary with the line feed behind
it, and only then does the seam take no line of its own (`lines_concat_newline`).
-/

namespace MimeDatabase.Text

variable {c : Char} {cs : List Char}

/-- A character that breaks no line belongs to the first line. -/
theorem firstLine_of_not_break (hbreak : ¬ isLineBreak c = true) :
    firstLine (c :: cs) = (c :: (firstLine cs).1, (firstLine cs).2) := by
  rw [firstLine, if_neg hbreak]
  intro rest hc _
  exact hbreak (by rw [hc]; decide)

/-- A boundary stays one if a text is made longer, but for a carriage return at the end of it. -/
theorem firstLine_break_append (hpair : ∀ rest, c = '\r' → cs = '\n' :: rest → False)
    (hbreak : isLineBreak c = true) (hreturn : ¬ (c = '\r' ∧ cs = [])) (more : List Char) :
    firstLine (c :: (cs ++ more)) = ([], cs ++ more) := by
  rw [firstLine, if_pos hbreak]
  intro rest hc happend
  cases cs with
  | nil => exact hreturn ⟨hc, rfl⟩
  | cons d ds => exact hpair ds hc (congrArg (· :: ds) (List.cons.inj happend).1)

/-! ## Texts that end with a line feed -/

/-- A text is empty or ends with a line feed. -/
def EndsLine (cs : List Char) : Prop := cs = [] ∨ cs.getLast? = some '\n'

theorem EndsLine.tail (h : EndsLine (c :: cs)) : EndsLine cs := by
  cases cs with
  | nil => exact Or.inl rfl
  | cons d ds =>
    refine Or.inr ?_
    rw [← List.getLast?_cons_cons]
    exact h.resolve_left (List.cons_ne_nil c _)

theorem EndsLine.eq_of_singleton (h : EndsLine [c]) : c = '\n' :=
  Option.some.inj (h.resolve_left (List.cons_ne_nil _ _))

theorem endsLine_concat (cs : List Char) : EndsLine (cs ++ ['\n']) :=
  Or.inr List.getLast?_concat

/-- What follows a text that ends with a line feed does not change its first line. -/
theorem firstLine_append (hne : cs ≠ []) (h : EndsLine cs) (more : List Char) :
    firstLine (cs ++ more) = ((firstLine cs).1, (firstLine cs).2 ++ more) ∧
      EndsLine (firstLine cs).2 := by
  fun_induction firstLine cs with
  | case1 => exact absurd rfl hne
  | case2 rest => exact ⟨rfl, h.tail.tail⟩
  | case3 c cs hpair hbreak =>
    have hreturn : ¬ (c = '\r' ∧ cs = []) := by
      rintro ⟨rfl, rfl⟩
      exact absurd h.eq_of_singleton (by decide)
    rw [List.cons_append, firstLine_break_append hpair hbreak hreturn]
    exact ⟨rfl, h.tail⟩
  | case4 c cs _ hbreak line rest heq ih =>
    have hcs : cs ≠ [] := by
      rintro rfl
      rw [h.eq_of_singleton] at hbreak
      exact hbreak (by decide)
    obtain ⟨hfirst, hends⟩ := ih hcs h.tail
    rw [heq] at hfirst hends
    rw [List.cons_append, firstLine_of_not_break hbreak, hfirst]
    exact ⟨rfl, hends⟩

/-- The lines of two texts are those of the first and those of the second, if the first ends its
last line. -/
theorem lines_append (h : EndsLine cs) (more : List Char) :
    lines (cs ++ more) = lines cs ++ lines more := by
  fun_induction lines cs with
  | case1 => rfl
  | case2 c cs _ ih =>
    obtain ⟨hfirst, hends⟩ := firstLine_append (List.cons_ne_nil c cs) h more
    rw [List.cons_append] at hfirst ⊢
    rw [lines, hfirst, ih hends, List.cons_append]

/-- **The seam.** A line feed between two texts ends the lines of the first one. -/
theorem lines_append_newline (cs more : List Char) :
    lines (cs ++ '\n' :: more) = lines (cs ++ ['\n']) ++ lines more := by
  rw [← lines_append (endsLine_concat cs), List.append_assoc, List.singleton_append]

/-! ## A line feed at the end -/

/-- A line feed at the end of a text stays behind its first line, or belongs to the boundary of that
line. -/
theorem firstLine_concat_newline (hne : cs ≠ []) :
    (firstLine (cs ++ ['\n'])).1 = (firstLine cs).1 ∧
      ((firstLine (cs ++ ['\n'])).2 = (firstLine cs).2 ++ ['\n'] ∨
        (firstLine (cs ++ ['\n'])).2 = [] ∧ (firstLine cs).2 = []) := by
  fun_induction firstLine cs with
  | case1 => exact absurd rfl hne
  | case2 rest => exact ⟨rfl, Or.inl rfl⟩
  | case3 c cs hpair hbreak =>
    by_cases hreturn : c = '\r' ∧ cs = []
    · obtain ⟨rfl, rfl⟩ := hreturn
      exact ⟨rfl, Or.inr ⟨rfl, rfl⟩⟩
    · rw [List.cons_append, firstLine_break_append hpair hbreak hreturn]
      exact ⟨rfl, Or.inl rfl⟩
  | case4 c cs _ hbreak line rest heq ih =>
    rw [List.cons_append, firstLine_of_not_break hbreak]
    cases cs with
    | nil =>
      obtain ⟨rfl, rfl⟩ := Prod.mk.inj heq
      exact ⟨rfl, Or.inr ⟨rfl, rfl⟩⟩
    | cons d ds =>
      obtain ⟨hfirst, hrest⟩ := ih (List.cons_ne_nil d ds)
      rw [heq] at hfirst hrest
      exact ⟨congrArg (c :: ·) hfirst, hrest⟩

/-- A line feed at the end of a text adds an empty line or none. -/
theorem lines_concat_newline (cs : List Char) :
    lines (cs ++ ['\n']) = lines cs ∨ lines (cs ++ ['\n']) = lines cs ++ [[]] := by
  fun_induction lines cs with
  | case1 => exact Or.inr (by decide +kernel)
  | case2 c cs _ ih =>
    obtain ⟨hfirst, hrest⟩ := firstLine_concat_newline (List.cons_ne_nil c cs)
    rw [List.cons_append] at hfirst hrest ⊢
    rw [lines, hfirst]
    rcases hrest with hrest | ⟨hnil, hnil'⟩
    · rw [hrest]
      rcases ih with hsame | hmore
      · exact Or.inl (by rw [hsame])
      · exact Or.inr (by rw [hmore, List.cons_append])
    · exact Or.inl (by rw [hnil, hnil'])

end MimeDatabase.Text
