import Mathlib.Data.List.Infix
import MimeDatabase.Glob.Pattern

/-!
# What a pattern accepts

A name fits the elements of a pattern if it can be divided among them: one character for each test,
which it has to pass, and any number of characters for each star (`Fits`). Matching does not try all
ways to do so. It looks for each segment between two stars at the earliest place and never comes
back to it. That is enough (`accepts_iff_fits`), since a segment always takes the same number of
characters: the earlier it stands, the more is left for the segments behind it
(`afterFirst?_of_afterSegment?`).
-/

namespace MimeDatabase.Glob

/-- A name that can be divided among the elements of a pattern. -/
inductive Fits (caseSensitive : Bool) : List (Option CharTest) → List Char → Prop where
  | nil : Fits caseSensitive [] []
  | test {t : CharTest} {c : Char} {rest : List (Option CharTest)} {name : List Char}
      (passes : t.passes caseSensitive c = true) (fits : Fits caseSensitive rest name) :
      Fits caseSensitive (some t :: rest) (c :: name)
  | star {rest : List (Option CharTest)} {name : List Char} (skipped : List Char)
      (fits : Fits caseSensitive rest name) : Fits caseSensitive (none :: rest) (skipped ++ name)

section

variable {caseSensitive : Bool} {elements : List (Option CharTest)} {segment : List CharTest}
  {name rest tail : List Char}

theorem fits_nil_iff : Fits caseSensitive [] name ↔ name = [] := by
  constructor
  · intro h
    cases h
    rfl
  · rintro rfl
    exact .nil

/-- A star fits whatever stands before an end of the name that fits the rest. -/
theorem fits_star_iff :
    Fits caseSensitive (none :: elements) name ↔
      ∃ tail, tail <:+ name ∧ Fits caseSensitive elements tail := by
  constructor
  · intro h
    cases h with
    | star skipped fits => exact ⟨_, List.suffix_append _ _, fits⟩
  · rintro ⟨tail, ⟨skipped, rfl⟩, fits⟩
    exact .star skipped fits

/-! ## Segments -/

/-- The elements of segments with a star between each two of them. -/
def elementsOf : List (List CharTest) → List (Option CharTest)
  | [] => []
  | [last] => last.map some
  | segment :: next :: more => segment.map some ++ none :: elementsOf (next :: more)

theorem segments_ne_nil (elements : List (Option CharTest)) : segments elements ≠ [] := by
  induction elements with
  | nil => exact List.cons_ne_nil _ _
  | cons e elements ih =>
    cases e with
    | none => exact List.cons_ne_nil _ _
    | some t =>
      obtain ⟨first, more, hs⟩ := List.exists_cons_of_ne_nil ih
      rw [segments, hs]
      exact List.cons_ne_nil _ _

/-- Nothing is lost when elements are cut at the stars. -/
theorem elementsOf_segments (elements : List (Option CharTest)) :
    elementsOf (segments elements) = elements := by
  induction elements with
  | nil => rfl
  | cons e elements ih =>
    obtain ⟨first, more, hs⟩ := List.exists_cons_of_ne_nil (segments_ne_nil elements)
    rw [hs] at ih
    cases e with
    | none =>
      rw [segments, hs, elementsOf, ih]
      rfl
    | some t =>
      rw [segments, hs, ← ih]
      cases more <;> rfl

/-- A segment takes as many characters as it has tests. -/
theorem eq_drop_of_afterSegment? (h : afterSegment? caseSensitive segment name = some rest) :
    segment.length ≤ name.length ∧ rest = name.drop segment.length := by
  induction segment generalizing name with
  | nil => exact ⟨Nat.zero_le _, (Option.some.inj h).symm⟩
  | cons t segment ih =>
    cases name with
    | nil => exact absurd h (by simp [afterSegment?])
    | cons c name =>
      rw [afterSegment?] at h
      split at h
      next =>
        obtain ⟨hlen, hrest⟩ := ih h
        exact ⟨Nat.succ_le_succ hlen, hrest⟩
      next => exact absurd h (by simp)

/-- A name fits a segment and further elements if the segment stands at its start and what follows
fits these. -/
theorem fits_append_iff :
    Fits caseSensitive (segment.map some ++ elements) name ↔
      ∃ rest, afterSegment? caseSensitive segment name = some rest ∧
        Fits caseSensitive elements rest := by
  induction segment generalizing name with
  | nil => simp [afterSegment?]
  | cons t segment ih =>
    rw [List.map_cons, List.cons_append]
    constructor
    · intro h
      cases h with
      | test passes fits =>
        rw [afterSegment?, if_pos passes]
        exact ih.mp fits
    · rintro ⟨rest, hafter, fits⟩
      cases name with
      | nil => exact absurd hafter (by simp [afterSegment?])
      | cons c name =>
        rw [afterSegment?] at hafter
        split at hafter
        next passes => exact .test passes (ih.mpr ⟨rest, hafter, fits⟩)
        next => exact absurd hafter (by simp)

/-- The last segment has to fit to the end of the name. -/
theorem fits_last_iff (last : List CharTest) :
    Fits caseSensitive (elementsOf [last]) name ↔
      afterSegment? caseSensitive last name = some [] := by
  rw [elementsOf, ← List.append_nil (last.map some), fits_append_iff]
  simp only [fits_nil_iff, exists_eq_right]

/-- A segment fits the beginning, and a star comes after it. -/
theorem fits_segment_iff (next : List CharTest) (more : List (List CharTest)) :
    Fits caseSensitive (elementsOf (segment :: next :: more)) name ↔
      ∃ rest, afterSegment? caseSensitive segment name = some rest ∧
        ∃ tail, tail <:+ rest ∧ Fits caseSensitive (elementsOf (next :: more)) tail := by
  rw [elementsOf, fits_append_iff]
  simp only [fits_star_iff]

/-! ## The earliest place -/

/-- A segment that is found stands somewhere. -/
theorem exists_suffix_of_afterFirst? (h : afterFirst? caseSensitive segment name = some rest) :
    ∃ tail, tail <:+ name ∧ afterSegment? caseSensitive segment tail = some rest := by
  induction name with
  | nil => exact ⟨[], List.suffix_rfl, h⟩
  | cons c name ih =>
    rw [afterFirst?] at h
    split at h
    next hafter => exact ⟨c :: name, List.suffix_rfl, hafter.trans h⟩
    next =>
      obtain ⟨tail, htail, hafter⟩ := ih h
      exact ⟨tail, htail.trans (List.suffix_cons c name), hafter⟩

/-- A segment that stands somewhere is found, and no less is left behind it. -/
theorem afterFirst?_of_afterSegment? (htail : tail <:+ name)
    (h : afterSegment? caseSensitive segment tail = some rest) :
    ∃ more, afterFirst? caseSensitive segment name = some more ∧ rest <:+ more := by
  induction name with
  | nil =>
    rw [List.suffix_nil.mp htail] at h
    exact ⟨rest, h, List.suffix_rfl⟩
  | cons c name ih =>
    rw [afterFirst?]
    rcases List.suffix_cons_iff.mp htail with rfl | hlater
    · rw [h]
      exact ⟨rest, rfl, List.suffix_rfl⟩
    · cases hhere : afterSegment? caseSensitive segment (c :: name) with
      | none => exact ih hlater
      | some more =>
        refine ⟨more, rfl, ?_⟩
        -- both are what is left of the name behind as many characters
        obtain ⟨hlen, hrest⟩ := eq_drop_of_afterSegment? h
        obtain ⟨hlen', hmore⟩ := eq_drop_of_afterSegment? hhere
        have hshort := hlater.length_le
        have hrest' : rest <:+ c :: name := by
          rw [hrest]
          exact (List.drop_suffix _ _).trans htail
        have hmore' : more <:+ c :: name := by
          rw [hmore]
          exact List.drop_suffix _ _
        refine List.suffix_of_suffix_length_le hrest' hmore' ?_
        rw [hrest, hmore, List.length_drop, List.length_drop, List.length_cons]
        omega

theorem matchesAfterStar_cons (next : List CharTest) (more : List (List CharTest)) :
    matchesAfterStar caseSensitive (segment :: next :: more) name =
      (afterFirst? caseSensitive segment name).any
        (matchesAfterStar caseSensitive (next :: more)) := by
  unfold matchesAfterStar
  cases afterFirst? caseSensitive segment name <;> rfl

/-- What follows a star is accepted if it fits the name from some place on. -/
theorem matchesAfterStar_iff (next : List CharTest) (more : List (List CharTest)) :
    matchesAfterStar caseSensitive (next :: more) name = true ↔
      ∃ tail, tail <:+ name ∧ Fits caseSensitive (elementsOf (next :: more)) tail := by
  induction more generalizing next name with
  | nil =>
    simp only [fits_last_iff, matchesAfterStar, Bool.and_eq_true, decide_eq_true_eq,
      Option.isSome_iff_exists]
    constructor
    · rintro ⟨hlen, rest, hafter⟩
      -- as many characters are left as the last segment takes
      have hrest : rest = [] := by
        rw [(eq_drop_of_afterSegment? hafter).2, List.drop_drop]
        exact List.drop_eq_nil_of_le (by omega)
      exact ⟨_, List.drop_suffix _ _, hrest ▸ hafter⟩
    · rintro ⟨tail, htail, hafter⟩
      obtain ⟨hlen, hnil⟩ := eq_drop_of_afterSegment? hafter
      have hexact : tail.length = next.length :=
        Nat.le_antisymm (List.drop_eq_nil_iff.mp hnil.symm) hlen
      have hle := htail.length_le
      refine ⟨by omega, [], ?_⟩
      rw [← hexact, ← List.suffix_iff_eq_drop.mp htail]
      exact hafter
  | cons after more ih =>
    simp only [fits_segment_iff, matchesAfterStar_cons, Option.any_eq_true]
    constructor
    · rintro ⟨rest, hfirst, h⟩
      obtain ⟨tail, htail, hafter⟩ := exists_suffix_of_afterFirst? hfirst
      exact ⟨tail, htail, rest, hafter, (ih after).mp h⟩
    · rintro ⟨tail, htail, rest, hafter, last, hlast, fits⟩
      -- the earliest place leaves at least what this one leaves
      obtain ⟨left, hfirst, hleft⟩ := afterFirst?_of_afterSegment? htail hafter
      exact ⟨left, hfirst, (ih after).mpr ⟨last, hlast.trans hleft, fits⟩⟩

end

/-- **Earliest places are enough.** A pattern accepts a name if and only if the name can be divided
among its elements. -/
theorem accepts_iff_fits (pattern : List Char) (caseSensitive : Bool) (name : List Char) :
    (Pattern.ofText pattern).accepts caseSensitive name = true ↔
      Fits caseSensitive (elements pattern) name := by
  rw [← elementsOf_segments (elements pattern), Pattern.accepts, Pattern.ofText]
  obtain ⟨first, more, hs⟩ := List.exists_cons_of_ne_nil (segments_ne_nil (elements pattern))
  rw [hs]
  cases more with
  | nil => rw [fits_last_iff, beq_iff_eq]
  | cons next more =>
    rw [fits_segment_iff]
    simp only [← matchesAfterStar_iff]
    cases afterSegment? caseSensitive first name <;> simp

instance (pattern : List Char) (caseSensitive : Bool) (name : List Char) :
    Decidable (Fits caseSensitive (elements pattern) name) :=
  decidable_of_iff _ (accepts_iff_fits pattern caseSensitive name)

end MimeDatabase.Glob
