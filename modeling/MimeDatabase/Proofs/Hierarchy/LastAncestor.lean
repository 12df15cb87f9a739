import MimeDatabase.Icon
import MimeDatabase.Proofs.Hierarchy.Nearness

/-!
# The last ancestor

Every type inherits from `application/octet-stream`, which says nothing about a file. As the last
ancestor it is asked for an icon only when no other one has any. It is the last ancestor where no
record names it, but not in general. It may be a recorded parent, and is then yielded in its place
among the others, or it may have parents of its own, which are yielded behind it.

`root_last_iff` says when it is last, in terms of the paths over recorded edges, and that this is
what icons depend on: as soon as any ancestor stands behind the root, there are icons of which the
root's shadows that ancestor's.
-/

namespace MimeDatabase.Hierarchy

variable {h : Hierarchy} {t x y : MediaType} {front back : List MediaType}

/-- Every type but the root has the root as an ancestor. -/
theorem octetStream_mem_ancestors (h : Hierarchy) (ht : t ≠ .octetStream) :
    .octetStream ∈ h.ancestors t :=
  mem_ancestors_iff.mpr ⟨ht.symm, .octetStream h t⟩

/-- The last ancestor is the one that all others come before. -/
theorem getLast?_ancestors_iff (hx : x ∈ h.ancestors t) :
    (h.ancestors t).getLast? = some x ↔ ∀ y ∈ h.ancestors t, y ≠ x → h.Precedes t y x := by
  have hsorted := h.pairwise_precedes_ancestors t
  constructor
  · intro hlast y hy hne
    obtain ⟨front, heq⟩ := List.getLast?_eq_some_iff.mp hlast
    rw [heq] at hsorted hy
    have hfront : y ∈ front := (List.mem_append.mp hy).resolve_right (by simpa using hne)
    exact (List.pairwise_append.mp hsorted).2.2 y hfront x List.mem_cons_self
  · intro hall
    obtain ⟨front, back, heq⟩ := List.append_of_mem hx
    have hnodup := h.nodup_ancestors t
    rw [heq] at hsorted hnodup
    have hbehind := (List.pairwise_cons.mp (List.pairwise_append.mp hsorted).2.1).1
    have hnew := (List.nodup_cons.mp (List.nodup_append.mp hnodup).2.1).1
    have hnil : back = [] := List.eq_nil_iff_forall_not_mem.mpr fun y hy => by
      -- each of the two would come before the other
      have hmem : y ∈ h.ancestors t := by
        rw [heq]
        exact List.mem_append_right _ (List.mem_cons_of_mem x hy)
      have hyx : y ≠ x := fun hyx => hnew (hyx ▸ hy)
      exact (hall y hmem hyx).asymm (mem_ancestors_iff.mp hx).2 (hbehind y hy)
    rw [heq, hnil, List.getLast?_concat]

/-! ## Icons -/

/-- A type without an icon of its own inherits that of the first ancestor with one. -/
theorem genericIconName_of_ancestors {table : IconTable} {icon : String}
    (hown : table.genericIcons.lookup t = none) (heq : h.ancestors t = front ++ x :: back)
    (hfront : ∀ y ∈ front, table.genericIcons.lookup y = none)
    (hx : table.genericIcons.lookup x = some icon) : table.genericIconName h t = icon := by
  have hfound : (t :: h.ancestors t).findSome? (fun a => table.genericIcons.lookup a) =
      some icon := by
    refine List.findSome?_eq_some_iff.mpr ⟨t :: front, x, back, congrArg (t :: ·) heq, hx, ?_⟩
    rw [List.forall_mem_cons]
    exact ⟨hown, hfront⟩
  rw [IconTable.genericIconName, hfound]

/-- The root does not shadow the other ancestors of a type: without an icon of its own, the type
inherits that of another ancestor if any of these has one. -/
def RootShadowsNone (h : Hierarchy) (t : MediaType) : Prop :=
  ∀ table : IconTable, table.genericIcons.lookup t = none →
    (∃ x ∈ h.ancestors t, x ≠ .octetStream ∧ (table.genericIcons.lookup x).isSome) →
      ∃ x ∈ h.ancestors t, x ≠ .octetStream ∧
        table.genericIcons.lookup x = some (table.genericIconName h t)

/-- A root that comes last shadows nothing. -/
theorem rootShadowsNone_of_getLast? (hlast : (h.ancestors t).getLast? = some .octetStream) :
    h.RootShadowsNone t := by
  intro table hown hsome
  obtain ⟨x, hx, hxroot, hicon⟩ := hsome
  obtain ⟨front, heq⟩ := List.getLast?_eq_some_iff.mp hlast
  have hxfront : x ∈ front := by
    rw [heq] at hx
    exact (List.mem_append.mp hx).resolve_right (by simpa using hxroot)
  have hfound : (front.findSome? fun a => table.genericIcons.lookup a).isSome :=
    List.findSome?_isSome_iff.mpr ⟨x, hxfront, hicon⟩
  obtain ⟨icon, hfirst⟩ := Option.isSome_iff_exists.mp hfound
  obtain ⟨before, y, after, rfl, hy, hbefore⟩ := List.findSome?_eq_some_iff.mp hfirst
  have hnodup := h.nodup_ancestors t
  rw [heq] at hnodup
  have hyroot : y ≠ .octetStream :=
    (List.nodup_append.mp hnodup).2.2 y (by simp) _ List.mem_cons_self
  refine ⟨y, by simp [heq], hyroot, hy.trans (congrArg some ?_)⟩
  rw [List.append_assoc, List.cons_append] at heq
  exact (genericIconName_of_ancestors hown heq hbefore hy).symm

/-- An icon of the root and an icon of one other type. -/
def twoIcons (x : MediaType) : IconTable := ⟨[], [(.octetStream, "root"), (x, "other")], ""⟩

theorem lookup_twoIcons (hy : y ≠ .octetStream) :
    (twoIcons x).genericIcons.lookup y = if y = x then some "other" else none := by
  rw [twoIcons, List.lookup_cons, beq_eq_false_iff_ne.mpr hy]
  by_cases hyx : y = x
  · rw [if_pos hyx, hyx]
    exact List.lookup_cons_self
  · rw [if_neg hyx]
    simp only [List.lookup_cons, beq_eq_false_iff_ne.mpr hyx]
    rfl

/-- The root shadows whatever stands behind it. -/
theorem not_rootShadowsNone (ht : t ≠ .octetStream)
    (heq : h.ancestors t = front ++ .octetStream :: x :: back) : ¬ h.RootShadowsNone t := by
  intro hnone
  have hx : x ∈ h.ancestors t := by simp [heq]
  have hxt : t ≠ x := fun hxt => h.self_notMem_ancestors t (hxt ▸ hx)
  have hnodup := h.nodup_ancestors t
  rw [heq] at hnodup
  obtain ⟨-, hbehind, hfront⟩ := List.nodup_append.mp hnodup
  have hxroot : x ≠ .octetStream := fun hroot =>
    (List.nodup_cons.mp hbehind).1 (hroot ▸ List.mem_cons_self)
  have hown : (twoIcons x).genericIcons.lookup t = none := by rw [lookup_twoIcons ht, if_neg hxt]
  have hicon : (twoIcons x).genericIconName h t = "root" := by
    refine genericIconName_of_ancestors hown heq (fun y hy => ?_) List.lookup_cons_self
    rw [lookup_twoIcons (hfront y hy _ List.mem_cons_self), if_neg (hfront y hy x (by simp))]
  have hother : ((twoIcons x).genericIcons.lookup x).isSome := by
    rw [lookup_twoIcons hxroot, if_pos rfl]
    rfl
  obtain ⟨y, -, hy, hyicon⟩ := hnone (twoIcons x) hown ⟨x, hx, hxroot, hother⟩
  rw [lookup_twoIcons hy, hicon] at hyicon
  split at hyicon <;> simp at hyicon

/-- The root shadows nothing if and only if it comes last. -/
theorem rootShadowsNone_iff (ht : t ≠ .octetStream) :
    h.RootShadowsNone t ↔ (h.ancestors t).getLast? = some .octetStream := by
  constructor
  · intro hnone
    obtain ⟨front, back, heq⟩ := List.append_of_mem (h.octetStream_mem_ancestors ht)
    cases back with
    | nil => rw [heq, List.getLast?_concat]
    | cons x back => exact absurd hnone (not_rootShadowsNone ht heq)
  · exact rootShadowsNone_of_getLast?

/-! ## Data that does not name the root -/

section

variable {edges : List (MediaType × MediaType)}

/-- What is no recorded parent is reached from itself only. -/
theorem not_reaches_of_forall_ne (hedges : ∀ e ∈ edges, e.1 = e.2 ∨ e.2 ≠ x) (ht : t ≠ x) :
    ¬ (ofEdges edges).Reaches t x := by
  intro hpath
  rcases hpath.cases_tail with heq | ⟨y, -, hy⟩
  · exact ht heq.symm
  · obtain ⟨hmem, hne⟩ := mem_ofEdges_iff.mp (mem_parents_iff.mp hy)
    exact (hedges _ hmem).elim hne fun hx => hx rfl

theorem precedes_octetStream_of_unnamed
    (hedges : ∀ e ∈ edges, e.1 = e.2 ∨ (e.1 ≠ .octetStream ∧ e.2 ≠ .octetStream))
    (ht : t ≠ .octetStream) (hx : x ∈ (ofEdges edges).ancestors t) (hxroot : x ≠ .octetStream) :
    (ofEdges edges).Precedes t x .octetStream := by
  have hnever : ∀ {y}, y ≠ .octetStream → ¬ (ofEdges edges).Reaches y .octetStream := fun hy =>
    not_reaches_of_forall_ne (fun e he => (hedges e he).imp_right (·.2)) hy
  have hparents : (ofEdges edges).parents .octetStream = [] := by
    refine List.eq_nil_iff_forall_not_mem.mpr fun p hp => ?_
    obtain ⟨hmem, hne⟩ := mem_ofEdges_iff.mp (mem_parents_iff.mp hp)
    exact (hedges _ hmem).elim hne fun hnamed => hnamed.1 rfl
  refine ⟨.of_not_reaches (hnever ht), fun _ => Or.inr (.of_not_reaches (hnever (by decide))), ?_⟩
  -- the root has nothing above it, so each other ancestor is found before it is entered
  rcases (mem_ancestors_iff.mp hx).2 with hpath | htext | hroot
  · exact Or.inl hpath
  · exact Or.inr (Or.inl htext)
  · exact absurd ((reaches_iff_of_parents_eq_nil hparents).mp hroot) hxroot

end

/-- **When the root is last.** `application/octet-stream` is the last ancestor of another type if
and only if, by the paths over recorded edges, every other ancestor comes before it. The same holds
if and only if it shadows the icon of no other ancestor. In data that names it in no record, loops
aside, it is always last. -/
theorem root_last_iff (edges : List (MediaType × MediaType)) {t : MediaType}
    (ht : t ≠ .octetStream) :
    let h := ofEdges edges
    ((h.ancestors t).getLast? = some .octetStream ↔
        ∀ x ∈ h.ancestors t, x ≠ .octetStream → h.Precedes t x .octetStream) ∧
      ((h.ancestors t).getLast? = some .octetStream ↔ h.RootShadowsNone t) ∧
      ((∀ e ∈ edges, e.1 = e.2 ∨ (e.1 ≠ .octetStream ∧ e.2 ≠ .octetStream)) →
        (h.ancestors t).getLast? = some .octetStream) := by
  intro h
  have hiff := getLast?_ancestors_iff (h.octetStream_mem_ancestors ht)
  refine ⟨hiff, (rootShadowsNone_iff ht).symm, fun hedges => hiff.mpr fun x hx hxroot => ?_⟩
  exact precedes_octetStream_of_unnamed hedges ht hx hxroot

/-- Edges with the root as the first of two parents. -/
def rootInFront : List (MediaType × MediaType) :=
  [(fewTypes 4, .octetStream), (fewTypes 4, fewTypes 5)]

/-- A recorded root comes before the parent recorded next, and shadows its icon; without the record
it is last. -/
theorem root_last_iff_rootInFront :
    fewTypes 4 ≠ .octetStream ∧
      (ofEdges rootInFront).ancestors (fewTypes 4) = [.octetStream, fewTypes 5] ∧
      ¬ (ofEdges rootInFront).RootShadowsNone (fewTypes 4) ∧
      ((ofEdges [(fewTypes 4, fewTypes 5)]).ancestors (fewTypes 4)).getLast? =
        some .octetStream := by
  have ht : fewTypes 4 ≠ .octetStream := by decide +kernel
  have hancestors : (ofEdges rootInFront).ancestors (fewTypes 4) = [.octetStream, fewTypes 5] := by
    decide +kernel
  refine ⟨ht, hancestors, fun hnone => ?_, (root_last_iff _ ht).2.2 (by decide +kernel)⟩
  have hlast := (root_last_iff rootInFront ht).2.1.mpr hnone
  rw [hancestors] at hlast
  exact absurd hlast (by decide +kernel)

end MimeDatabase.Hierarchy
