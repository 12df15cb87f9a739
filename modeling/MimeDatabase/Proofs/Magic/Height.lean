import Mathlib.Order.MinMax
import MimeDatabase.Proofs.Magic.Conditions

/-!
# How tall the rules of a file are

How many levels of entries a magic file has can be told from its lines, before anything is put
together. The entry of a kept line stands as many levels below the roots as the line is indented, so
the entries of a section have more than `n` levels exactly if a kept line stands at the indent `n`
or further in (`Outline.lt_forestHeight_iff`). Hence there is no room for the rules of a file
exactly if one of its sections has such a line, for the number of levels that there is room for
(`readRulesWithin_eq_error_iff`).
-/

namespace MimeDatabase.Magic

namespace Entry

theorem height_pos (e : Entry) : 0 < e.height := by
  obtain ⟨s, cs⟩ := e
  exact Nat.succ_pos _

/-- A forest is as tall as its tallest tree. -/
theorem lt_forestHeight_iff {n : Nat} {es : List Entry} :
    n < forestHeight es ↔ ∃ e ∈ es, n < e.height := by
  induction es with
  | nil => simp [forestHeight]
  | cons e es ih => rw [forestHeight, lt_max_iff, ih, List.exists_mem_cons_iff]

end Entry

namespace Outline

variable {lines : List Reading} {i n : Nat}

/-- The tree of a line has the levels of the trees of its children and one more. -/
theorem succ_lt_height_entryAt_iff : n + 1 < (entryAt lines i).height ↔
    ∃ j ∈ children lines i, n < (entryAt lines j).height := by
  rw [entryAt_eq, Entry.height, Nat.add_lt_add_iff_right, Entry.lt_forestHeight_iff]
  simp only [List.mem_map, exists_exists_and_eq_and]

/-- At every level of the tree of a kept line stands a kept line, indented by as many steps more. -/
theorem exists_kept_of_lt_height (hk : isKept lines i = true) (h : n < (entryAt lines i).height) :
    ∃ k, isKept lines k = true ∧ indentAt lines k = indentAt lines i + n := by
  induction n generalizing i with
  | zero => exact ⟨i, hk, rfl⟩
  | succ n ih =>
    obtain ⟨j, hj, hlt⟩ := succ_lt_height_entryAt_iff.mp h
    obtain ⟨hkept, hparent⟩ := mem_children_iff.mp hj
    obtain ⟨k, hkk, hindent⟩ := ih hkept hlt
    have hstep := (isKept_parent hkept hparent).2
    exact ⟨k, hkk, by omega⟩

/-- The tree of a kept line reaches its own levels further down than the line is indented. -/
theorem indentAt_add_lt_forestHeight : ∀ i n : Nat, isKept lines i = true →
    n < (entryAt lines i).height → indentAt lines i + n < Entry.forestHeight (forest lines)
  | i, n, hk, h => by
    cases hp : parent? lines i with
    | none =>
      rw [indentAt_of_isKept hk hp, Nat.zero_add]
      exact Entry.lt_forestHeight_iff.mpr ⟨_, List.mem_map_of_mem (mem_roots_of_parent hk hp), h⟩
    | some p =>
      have := parent?_lt hp
      obtain ⟨hparent, hstep⟩ := isKept_parent hk hp
      have hlevel : n + 1 < (entryAt lines p).height :=
        succ_lt_height_entryAt_iff.mpr ⟨i, mem_children_iff.mpr ⟨hk, hp⟩, h⟩
      have := indentAt_add_lt_forestHeight p (n + 1) hparent hlevel
      omega
termination_by i => i

/-- The entries of the kept lines are as tall as the lines are indented. -/
theorem lt_forestHeight_iff : n < Entry.forestHeight (forest lines) ↔
    ∃ i, isKept lines i = true ∧ n ≤ indentAt lines i := by
  constructor
  · intro h
    obtain ⟨root, hroot, hlt⟩ := Entry.lt_forestHeight_iff.mp h
    obtain ⟨i, hi, rfl⟩ := List.mem_map.mp hroot
    obtain ⟨k, hk, hindent⟩ :=
      exists_kept_of_lt_height (mem_keptNumbers.mp (List.mem_filter.mp hi).1) hlt
    exact ⟨k, hk, by omega⟩
  · rintro ⟨i, hk, hle⟩
    exact Nat.lt_of_le_of_lt hle (indentAt_add_lt_forestHeight i 0 hk (Entry.height_pos _))

end Outline

/-- Whether a kept line of a section that can be used stands at an indent or further in. -/
def NestsBeyond (indent : Nat) (data : List UInt8) : Prop :=
  ∃ s ∈ documentSections data, s.IsAccepted ∧
    ∃ i, Outline.isKept s.readings i = true ∧ indent ≤ Outline.indentAt s.readings i

/-- A rule of a file has more levels than a number exactly if its lines are nested beyond it. -/
theorem exists_lt_height_iff {n : Nat} {data : List UInt8} :
    (∃ r ∈ readRules data, n < r.height) ↔ NestsBeyond n data := by
  have hnil : ¬ n < Entry.forestHeight [] := by
    rw [Entry.forestHeight]
    exact Nat.not_lt_zero n
  unfold NestsBeyond Rule.height
  refine (exists_mem_readRules_iff data (P := fun es => n < Entry.forestHeight es) hnil).trans ?_
  simp only [Outline.lt_forestHeight_iff]

/-- The rules of a file are lost exactly if its lines are nested beyond the levels that there is
room for. -/
theorem readRulesWithin_eq_error_iff {limit : Nat} {data : List UInt8} {fault : BuildFault} :
    readRulesWithin limit data = .error fault ↔ NestsBeyond limit data := by
  have hall : (readRules data).all (·.fits limit) = true ↔ ¬ NestsBeyond limit data := by
    rw [← exists_lt_height_iff, List.all_eq_true]
    simp only [Rule.fits, decide_eq_true_eq, not_exists, not_and, Nat.not_lt]
  unfold readRulesWithin
  split
  next hfits => exact iff_of_false (by rintro ⟨⟩) (hall.mp hfits)
  next hfits =>
    refine iff_of_true ?_ (not_not.mp fun h => hfits (hall.mpr h))
    cases fault
    rfl

/-- Otherwise they are all there. -/
theorem readRulesWithin_of_not_nestsBeyond {limit : Nat} {data : List UInt8}
    (h : ¬ NestsBeyond limit data) : readRulesWithin limit data = .ok (readRules data) := by
  rw [← readRulesWithin_eq_error_iff] at h
  unfold readRulesWithin at h ⊢
  split
  next => rfl
  next hfits => exact absurd (if_neg hfits) h

end MimeDatabase.Magic
