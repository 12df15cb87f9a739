import Mathlib.Data.List.Nodup
import Mathlib.Data.List.Perm.Subperm
import MimeDatabase.Proofs.Hierarchy.Foreign

/-!
# The ancestors of a type

The ancestors of a type are exactly the other types that it inherits from, each once, whatever
cycles, loops and repetitions the recorded edges have (`mem_ancestors_ofEdges`).

Which types are found is what `mem_cons_ancestors_iff` says: a type of an earlier walk is never
entered again, and nothing is lost by that, because what was seen before each walk is closed under
parents. That none is found twice is the other half of the same list of types seen. A walk never
yields what was seen (`nodup_append_walk`), and each of the three walks starts with all that the
ones before it have yielded, the type itself included.
-/

namespace MimeDatabase.Hierarchy

/-! ## No type twice -/

/-- A walk yields no type that was seen and no type twice. -/
theorem nodup_append_walk (h : Hierarchy) {queue seen : List MediaType} (hseen : seen.Nodup) :
    (seen ++ h.walk queue seen).Nodup := by
  induction queue, seen using walk.induct h with
  | case1 seen =>
    rw [walk, List.append_nil]
    exact hseen
  | case2 seen t rest hmem ih =>
    rw [walk, dif_pos hmem]
    exact ih hseen
  | case3 seen t rest hnew ih =>
    have ht : t ∉ seen := fun hmem => hnew (List.contains_iff_mem.mpr hmem)
    rw [walk, dif_neg hnew, List.perm_middle.nodup_iff, ← List.cons_append]
    exact ih (List.nodup_cons.mpr ⟨ht, hseen⟩)

/-- The three walks together yield no type twice, and not the type that they start from. -/
theorem nodup_cons_ancestors (h : Hierarchy) (t : MediaType) : (t :: h.ancestors t).Nodup := by
  have hexplicit : (t :: h.explicitAncestors t).Nodup :=
    h.nodup_append_walk (List.nodup_singleton t)
  have htext : (t :: (h.explicitAncestors t ++ h.textAncestors t)).Nodup := by
    unfold textAncestors
    split
    · exact h.nodup_append_walk hexplicit
    · rw [List.append_nil]
      exact hexplicit
  exact h.nodup_append_walk htext

/-- No type is its own ancestor. -/
theorem self_notMem_ancestors (h : Hierarchy) (t : MediaType) : t ∉ h.ancestors t :=
  (List.nodup_cons.mp (h.nodup_cons_ancestors t)).1

/-- No ancestor comes twice. -/
theorem nodup_ancestors (h : Hierarchy) (t : MediaType) : (h.ancestors t).Nodup :=
  (List.nodup_cons.mp (h.nodup_cons_ancestors t)).2

/-- The ancestors of a type are what lies above it, itself excepted. -/
theorem mem_ancestors_iff {h : Hierarchy} {t x : MediaType} :
    x ∈ h.ancestors t ↔ x ≠ t ∧ h.Above t x := by
  rw [← mem_cons_ancestors_iff, List.mem_cons]
  constructor
  · intro hx
    exact ⟨fun heq => h.self_notMem_ancestors t (heq ▸ hx), Or.inr hx⟩
  · rintro ⟨hne, heq | hx⟩
    · exact absurd heq hne
    · exact hx

/-! ## Types of a registry -/

section IsOver

variable {h : Hierarchy} {r : Registry}

/-- No two ancestors of a type have the same number. -/
theorem IsOver.nodup_ids (ho : h.IsOver r) (t : MediaType) :
    ((h.ancestors t).map (·.id)).Nodup := by
  refine List.Nodup.map_on (fun x hx y hy hid => ?_) (h.nodup_ancestors t)
  exact (ho.holds_of_mem_ancestors hx).eq_of_id (ho.holds_of_mem_ancestors hy) hid

/-- A type has no more ancestors than the registry has types. -/
theorem IsOver.length_ancestors_le (ho : h.IsOver r) (t : MediaType) :
    (h.ancestors t).length ≤ r.size := by
  have hsubset : (h.ancestors t).map (·.id) ⊆ (List.range r.size).map some := by
    intro id hid
    obtain ⟨x, hx, rfl⟩ := List.mem_map.mp hid
    obtain ⟨i, hi⟩ := ho.holds_of_mem_ancestors hx
    obtain ⟨name, hname, -⟩ := Option.map_eq_some_iff.mp hi
    have hlt : i < r.size := (List.getElem?_eq_some_iff.mp hname).1
    exact List.mem_map.mpr ⟨i, List.mem_range.mpr hlt, (Registry.byId?_id hi).symm⟩
  have hle := (List.subperm_of_subset (ho.nodup_ids t) hsubset).length_le
  rwa [List.length_map, List.length_map, List.length_range] at hle

end IsOver

/-! ## Recorded edges -/

/-- A path over recorded edges leads from one type to another. -/
def RecordedPath (edges : List (MediaType × MediaType)) : MediaType → MediaType → Prop :=
  Relation.ReflTransGen fun t p => (t, p) ∈ edges

/-- Leaving out loops and repetitions leaves all paths. -/
theorem reaches_ofEdges_iff {edges : List (MediaType × MediaType)} {t x : MediaType} :
    (ofEdges edges).Reaches t x ↔ RecordedPath edges t x := by
  have hstep : ∀ y p, p ∈ (ofEdges edges).parents y ↔ (y, p) ∈ edges ∧ y ≠ p := by
    intro y p
    rw [mem_parents_iff, mem_ofEdges_iff]
  constructor
  · exact Relation.ReflTransGen.mono (fun y p hp => ((hstep y p).mp hp).1) t x
  · intro hpath
    induction hpath with
    | refl => exact .refl
    | @tail y p _ hedge ih =>
      by_cases hloop : y = p
      · exact hloop ▸ ih
      · exact ih.tail ((hstep y p).mpr ⟨hedge, hloop⟩)

/-- **The ancestors of a type.** Let edges be recorded between types of a registry. Then the
ancestors of a type are types of the registry of different numbers, so there are no more of them
than of these. The type is not among them. Apart from it, they are the types that it reaches over
recorded edges, those that `text/plain` reaches if a text type is among the first or is the type
itself, and those that `application/octet-stream` reaches. -/
theorem mem_ancestors_ofEdges (names : List String) (edges : List (MediaType × MediaType))
    (hedges : ∀ e ∈ edges, (Registry.empty.insertAll names).Holds e.1 ∧
      (Registry.empty.insertAll names).Holds e.2) (t : MediaType) :
    (∀ x ∈ (ofEdges edges).ancestors t, (Registry.empty.insertAll names).Holds x) ∧
      (((ofEdges edges).ancestors t).map (·.id)).Nodup ∧
      ((ofEdges edges).ancestors t).length ≤ (Registry.empty.insertAll names).size ∧
      t ∉ (ofEdges edges).ancestors t ∧
      ∀ x, x ∈ (ofEdges edges).ancestors t ↔ x ≠ t ∧
        (RecordedPath edges t x ∨
          ((∃ y, RecordedPath edges t y ∧ y.media = "text") ∧ RecordedPath edges .textPlain x) ∨
          RecordedPath edges .octetStream x) := by
  have ho := isOver_ofEdges hedges
  refine ⟨fun x hx => ho.holds_of_mem_ancestors hx, ho.nodup_ids t, ho.length_ancestors_le t,
    (List.nodup_cons.mp (nodup_cons_ancestors _ t)).1, fun x => ?_⟩
  rw [mem_ancestors_iff, Above, SeesText]
  simp only [reaches_ofEdges_iff]

/-- Edges with a cycle, a loop, a repetition and an edge that leaves `application/octet-stream`. -/
def tangledEdges : List (MediaType × MediaType) :=
  [(fewTypes 4, fewTypes 5), (fewTypes 5, fewTypes 4), (fewTypes 4, fewTypes 4),
    (fewTypes 4, fewTypes 5), (.octetStream, fewTypes 2)]

/-- A type above `application/octet-stream` is an ancestor of each other type, once, and a type on a
cycle is none of its own ancestors. -/
theorem mem_ancestors_ofEdges_tangledEdges :
    (∀ e ∈ tangledEdges, (Registry.empty.insertAll fewNames).Holds e.1 ∧
        (Registry.empty.insertAll fewNames).Holds e.2) ∧
      fewTypes 2 ∈ (ofEdges tangledEdges).ancestors (fewTypes 4) ∧
      fewTypes 4 ∉ (ofEdges tangledEdges).ancestors (fewTypes 4) ∧
      (((ofEdges tangledEdges).ancestors (fewTypes 4)).map (·.id)).Nodup := by
  have hedges : ∀ e ∈ tangledEdges, (Registry.empty.insertAll fewNames).Holds e.1 ∧
      (Registry.empty.insertAll fewNames).Holds e.2 := by decide +kernel
  obtain ⟨-, hids, -, hself, hmem⟩ :=
    mem_ancestors_ofEdges fewNames tangledEdges hedges (fewTypes 4)
  refine ⟨hedges, (hmem _).mpr ⟨by decide +kernel, Or.inr (Or.inr ?_)⟩, hself, hids⟩
  exact Relation.ReflTransGen.single (by decide +kernel)

end MimeDatabase.Hierarchy
