import Mathlib.Data.List.DropRight
import MimeDatabase.Text.Blank

/-!
# Cut and trimmed texts

What is known of a text from the pieces that it was cut into, and the other way round: a separator
that stands in no earlier piece is where the cut is (`cutAt_append`), and a text without anything to
strip at its ends is left as it is (`stripBy_eq_self`).
-/

namespace MimeDatabase.Text

section Cut

variable {α : Type} [BEq α] [LawfulBEq α] {sep : α}

/-- A text is cut at the first separator. -/
theorem cutAt_append {before after : List α} (h : sep ∉ before) :
    cutAt sep (before ++ sep :: after) = (before, some after) := by
  induction before with
  | nil => simp [cutAt]
  | cons b before ih =>
    rw [List.mem_cons, not_or] at h
    rw [List.cons_append, cutAt, if_neg (by simpa using Ne.symm h.1), ih h.2]

/-- A text without the separator is not cut. -/
theorem cutAt_of_notMem {text : List α} (h : sep ∉ text) : cutAt sep text = (text, none) := by
  induction text with
  | nil => rfl
  | cons b text ih =>
    rw [List.mem_cons, not_or] at h
    rw [cutAt, if_neg (by simpa using Ne.symm h.1), ih h.2]

/-- What a text is cut into, with no separator in the first part. -/
theorem cutAt_eq_some_iff {text before after : List α} :
    cutAt sep text = (before, some after) ↔ text = before ++ sep :: after ∧ sep ∉ before := by
  constructor
  · intro h
    by_cases hsep : sep ∈ text
    · obtain ⟨front, back, rfl, hfront⟩ := List.eq_append_cons_of_mem hsep
      rw [cutAt_append hfront] at h
      cases h
      exact ⟨rfl, hfront⟩
    · rw [cutAt_of_notMem hsep] at h
      cases h
  · rintro ⟨rfl, hsep⟩
    exact cutAt_append hsep

end Cut

/-- Without a separator the first part of a cut is the whole text. -/
theorem eq_of_cutAt_none {α : Type} [BEq α] {sep : α} {text before : List α}
    (h : cutAt sep text = (before, none)) : text = before := by
  induction text generalizing before with
  | nil =>
    cases h
    rfl
  | cons c text ih =>
    rw [cutAt] at h
    split at h
    next => cases h
    next =>
      cases hcut : cutAt sep text with
      | mk front after =>
        rw [hcut] at h
        cases h
        rw [ih hcut]

/-- A cut text is its first piece, or that piece, a separator and what the other pieces are cut
from. -/
theorem eq_of_splitBy {α : Type} {p : α → Bool} {cs piece : List α} {pieces : List (List α)}
    (h : splitBy p cs = piece :: pieces) :
    (pieces = [] ∧ cs = piece) ∨ ∃ c rest, cs = piece ++ c :: rest ∧ splitBy p rest = pieces := by
  induction cs generalizing piece with
  | nil =>
    cases h
    exact Or.inl ⟨rfl, rfl⟩
  | cons c cs ih =>
    rw [splitBy] at h
    split at h
    · cases h
      exact Or.inr ⟨c, cs, rfl, rfl⟩
    · cases hcut : splitBy p cs with
      | nil => exact absurd hcut (splitBy_ne_nil p cs)
      | cons first more =>
        rw [hcut] at h
        cases h
        rcases ih hcut with ⟨hnone, rfl⟩ | ⟨sep, rest, rfl, hrest⟩
        · exact Or.inl ⟨hnone, rfl⟩
        · exact Or.inr ⟨sep, rest, rfl, hrest⟩

/-- No piece of a cut text holds what the text was cut at. -/
theorem forall_of_mem_splitBy {α : Type} {p : α → Bool} {cs piece : List α}
    (hpiece : piece ∈ splitBy p cs) : ∀ c ∈ piece, c ∈ cs ∧ p c = false := by
  induction cs generalizing piece with
  | nil =>
    rw [List.mem_singleton.mp hpiece]
    exact fun c hc => absurd hc List.not_mem_nil
  | cons d cs ih =>
    have hkept {piece : List α} (h : piece ∈ splitBy p cs) (c : α) (hc : c ∈ piece) :
        c ∈ d :: cs ∧ p c = false := (ih h c hc).imp_left (List.mem_cons_of_mem d)
    rw [splitBy] at hpiece
    split at hpiece
    next =>
      rcases List.mem_cons.mp hpiece with rfl | hrest
      · exact fun c hc => absurd hc List.not_mem_nil
      · exact hkept hrest
    next hd =>
      rw [Bool.not_eq_true] at hd
      split at hpiece
      next hnone => exact absurd hnone (splitBy_ne_nil p cs)
      next first more hcut =>
        rcases List.mem_cons.mp hpiece with rfl | hrest
        · intro c hc
          rcases List.mem_cons.mp hc with rfl | hc
          · exact ⟨List.mem_cons_self, hd⟩
          · exact hkept (hcut ▸ List.mem_cons_self) c hc
        · exact hkept (hcut ▸ List.mem_cons_of_mem first hrest)

/-- A text without separators is one piece. -/
theorem splitBy_of_forall {α : Type} {p : α → Bool} {cs : List α} (h : ∀ c ∈ cs, p c = false) :
    splitBy p cs = [cs] := by
  induction cs with
  | nil => rfl
  | cons c cs ih =>
    rw [List.forall_mem_cons] at h
    rw [splitBy, ih h.2, h.1]
    rfl

/-- The pieces before a separator and those behind it. -/
theorem splitBy_append_cons {α : Type} {p : α → Bool} {sep : α} (hsep : p sep = true)
    (before after : List α) :
    splitBy p (before ++ sep :: after) = splitBy p before ++ splitBy p after := by
  induction before with
  | nil =>
    show splitBy p (sep :: after) = [] :: splitBy p after
    rw [splitBy, if_pos hsep]
  | cons c before ih =>
    rw [List.cons_append, splitBy, splitBy, ih]
    split
    next => rfl
    next =>
      cases hcut : splitBy p before with
      | nil => exact absurd hcut (splitBy_ne_nil p before)
      | cons first more => rfl

/-! ## Stripped ends -/

/-- A text that neither begins nor ends with what is stripped is left alone. -/
theorem stripBy_eq_self {α : Type} {p : α → Bool} {cs : List α}
    (hfirst : ∀ c ∈ cs.head?, p c = false) (hlast : ∀ c ∈ cs.getLast?, p c = false) :
    stripBy p cs = cs := by
  have hfront : cs.dropWhile p = cs := by
    rw [List.dropWhile_eq_self_iff]
    intro hl
    rw [Bool.not_eq_true]
    exact hfirst _ (List.head?_eq_getElem?.trans (List.getElem?_eq_getElem hl))
  show (cs.dropWhile p).rdropWhile p = cs
  rw [hfront, List.rdropWhile_eq_self_iff]
  intro hl
  rw [Bool.not_eq_true]
  exact hlast _ (List.getLast?_eq_some_getLast hl)

/-- Whether a text neither starts nor ends with white space. -/
def IsTrimmed (cs : List Char) : Prop :=
  (∀ c ∈ cs.head?, isBlank c = false) ∧ ∀ c ∈ cs.getLast?, isBlank c = false

/-- Trimmed text has no white space at its ends. -/
theorem isTrimmed_trim (cs : List Char) : IsTrimmed (trim cs) := by
  show IsTrimmed ((cs.dropWhile isBlank).rdropWhile isBlank)
  constructor
  · intro c hc
    obtain ⟨rest, hrest⟩ := List.rdropWhile_prefix isBlank (cs.dropWhile isBlank)
    have hhead : (cs.dropWhile isBlank).head? = some c := by
      rw [← hrest, List.head?_append, hc, Option.some_or]
    have hnot := List.head?_dropWhile_not isBlank cs
    rw [hhead] at hnot
    exact hnot
  · intro c hc
    obtain ⟨hne, hlast⟩ := List.mem_getLast?_eq_getLast hc
    rw [hlast]
    exact Bool.eq_false_iff.mpr (List.rdropWhile_last_not isBlank _ hne)

theorem IsTrimmed.trim_eq_self {cs : List Char} (h : IsTrimmed cs) : trim cs = cs :=
  stripBy_eq_self h.1 h.2

/-- A text with something in it that is not white space is not trimmed away. -/
theorem trim_ne_nil {cs : List Char} {c : Char} (hc : c ∈ cs) (hblank : isBlank c = false) :
    trim cs ≠ [] := by
  intro hnil
  have hall : ∀ d ∈ cs.dropWhile isBlank, isBlank d = true :=
    List.rdropWhile_eq_nil_iff.mp hnil
  rw [← List.takeWhile_append_dropWhile (p := isBlank) (l := cs), List.mem_append] at hc
  have htrue : isBlank c = true := by
    rcases hc with hfront | hrest
    · exact List.all_eq_true.mp List.all_takeWhile c hfront
    · exact hall c hrest
  rw [hblank] at htrue
  exact Bool.false_ne_true htrue

end MimeDatabase.Text
