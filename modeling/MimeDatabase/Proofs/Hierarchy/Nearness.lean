import MimeDatabase.Proofs.Hierarchy.WalkOrder

/-!
# The order of the ancestors

Of two types that a type reaches over recorded edges, the one that is fewer edges away is yielded
first, and both are yielded before any ancestor that only an implicit edge leads to
(`ancestors_nearest_first`).

The ancestors are what three walks find one after the other, and each of these is in the order of
its paths. `Precedes` says what that comes to for two ancestors, without regard to the walks that
yield them, and `pairwise_precedes_ancestors` that no two ancestors stand the other way round. So
whatever the recorded edges are, the whole order is known.
-/

namespace MimeDatabase.Hierarchy

variable {h : Hierarchy} {t x y : MediaType}

/-! ## Three walks -/

/-- One type comes before another one: on each walk that meets the other one, be it from the type
itself, from `text/plain` or from `application/octet-stream`, it is met sooner, or it was reached
on a walk before. -/
structure Precedes (h : Hierarchy) (t x y : MediaType) : Prop where
  explicit : h.Sooner t x y
  text : h.SeesText t → h.Reaches t x ∨ h.Sooner .textPlain x y
  root : h.Reaches t x ∨ (h.SeesText t ∧ h.Reaches .textPlain x) ∨ h.Sooner .octetStream x y

/-- The cases are the walks in which `y` may be met first. -/
theorem Precedes.asymm (hxy : h.Precedes t x y) (hy : h.Above t y) : ¬ h.Precedes t y x := by
  intro hyx
  by_cases hexplicit : h.Reaches t y
  · exact hxy.explicit.asymm hexplicit hyx.explicit
  have hx : ¬ h.Reaches t x := fun hx => hexplicit (hyx.explicit.reaches hx)
  by_cases htext : h.SeesText t ∧ h.Reaches .textPlain y
  · exact ((hxy.text htext.1).resolve_left hx).asymm htext.2
      ((hyx.text htext.1).resolve_left hexplicit)
  have hx' : ¬ (h.SeesText t ∧ h.Reaches .textPlain x) := fun hx' =>
    htext ⟨hx'.1, ((hyx.text hx'.1).resolve_left hexplicit).reaches hx'.2⟩
  exact ((hxy.root.resolve_left hx).resolve_left hx').asymm
    ((hy.resolve_left hexplicit).resolve_left htext)
    ((hyx.root.resolve_left hexplicit).resolve_left htext)

/-- Explicit ancestors are reached over recorded edges. -/
theorem reaches_of_mem_explicitAncestors (hx : x ∈ h.explicitAncestors t) : h.Reaches t x :=
  (h.mem_cons_explicitAncestors_iff t x).mp (List.mem_cons_of_mem t hx)

/-- Ancestors by way of plain text are reached from there and not from the type itself. -/
theorem reaches_of_mem_textAncestors (hx : x ∈ h.textAncestors t) :
    (h.SeesText t ∧ h.Reaches .textPlain x) ∧ ¬ h.Reaches t x := by
  have hnew : ¬ h.Reaches t x := by
    rw [textAncestors] at hx
    split at hx
    · rw [← mem_cons_explicitAncestors_iff]
      exact notMem_of_mem_walk hx
    · exact absurd hx List.not_mem_nil
  have hmem := (h.mem_append_textAncestors_iff t x).mp (List.mem_append_right _ hx)
  exact ⟨hmem.resolve_left hnew, hnew⟩

/-- Ancestors by way of the root are reached in neither of the other ways. -/
theorem not_reaches_of_mem_rootAncestors (hx : x ∈ h.rootAncestors t) :
    ¬ h.Reaches t x ∧ ¬ (h.SeesText t ∧ h.Reaches .textPlain x) := by
  rw [← not_or, ← mem_append_textAncestors_iff]
  exact notMem_of_mem_walk hx

/-- Explicit ancestors come in the order of their first paths. -/
theorem pairwise_explicitAncestors (h : Hierarchy) (t : MediaType) :
    (h.explicitAncestors t).Pairwise (h.Sooner t) := by
  have hclosed : h.Closed [] := fun _ hx => absurd hx List.not_mem_nil
  have hwalk : h.walk [t] [] = t :: h.explicitAncestors t := by
    rw [walk, dif_neg (by simp)]
    rfl
  have hsorted := pairwise_sooner_walk (s := t) hclosed
  rw [hwalk] at hsorted
  exact (List.pairwise_cons.mp hsorted).2

theorem pairwise_textAncestors (h : Hierarchy) (t : MediaType) :
    (h.textAncestors t).Pairwise (h.Sooner .textPlain) := by
  unfold textAncestors
  split
  · exact pairwise_sooner_walk (h.closed_cons_explicitAncestors t)
  · exact List.Pairwise.nil

theorem pairwise_rootAncestors (h : Hierarchy) (t : MediaType) :
    (h.rootAncestors t).Pairwise (h.Sooner .octetStream) :=
  pairwise_sooner_walk (h.closed_append_textAncestors t)

/-- The ancestors of a type are in the order of `Precedes`. -/
theorem pairwise_precedes_ancestors (h : Hierarchy) (t : MediaType) :
    (h.ancestors t).Pairwise (h.Precedes t) := by
  rw [ancestors, List.pairwise_append, List.pairwise_append]
  refine ⟨⟨?_, ?_, ?_⟩, ?_, ?_⟩
  · refine (h.pairwise_explicitAncestors t).imp_of_mem fun hx _ hxy => ?_
    have hx := reaches_of_mem_explicitAncestors hx
    exact ⟨hxy, fun _ => Or.inl hx, Or.inl hx⟩
  · refine (h.pairwise_textAncestors t).imp_of_mem fun hx hy hxy => ?_
    have hx := reaches_of_mem_textAncestors hx
    have hy := reaches_of_mem_textAncestors hy
    exact ⟨.of_not_reaches hy.2, fun _ => Or.inr hxy, Or.inr (Or.inl hx.1)⟩
  · intro x hx y hy
    have hx := reaches_of_mem_explicitAncestors hx
    have hy := reaches_of_mem_textAncestors hy
    exact ⟨.of_not_reaches hy.2, fun _ => Or.inl hx, Or.inl hx⟩
  · refine (h.pairwise_rootAncestors t).imp_of_mem fun _ hy hxy => ?_
    have hy := not_reaches_of_mem_rootAncestors hy
    exact ⟨.of_not_reaches hy.1, fun hsees => Or.inr (.of_not_reaches fun hr => hy.2 ⟨hsees, hr⟩),
      Or.inr (Or.inr hxy)⟩
  · intro x hx y hy
    have hy := not_reaches_of_mem_rootAncestors hy
    rcases List.mem_append.mp hx with hx | hx
    · have hx := reaches_of_mem_explicitAncestors hx
      exact ⟨.of_not_reaches hy.1, fun _ => Or.inl hx, Or.inl hx⟩
    · have hx := reaches_of_mem_textAncestors hx
      exact ⟨.of_not_reaches hy.1,
        fun hsees => Or.inr (.of_not_reaches fun hr => hy.2 ⟨hsees, hr⟩), Or.inr (Or.inl hx.1)⟩

/-- Of two ancestors, one is yielded before the other. -/
theorem sublist_ancestors_of_not_precedes (hx : x ∈ h.ancestors t) (hy : y ∈ h.ancestors t)
    (hne : y ≠ x) (hxy : ¬ h.Precedes t y x) : [x, y].Sublist (h.ancestors t) := by
  obtain ⟨front, back, heq⟩ := List.append_of_mem hx
  have hsorted := h.pairwise_precedes_ancestors t
  rw [heq, List.mem_append, List.mem_cons] at hy
  rw [heq] at hsorted ⊢
  rcases hy with hfront | hself | hback
  · exact absurd ((List.pairwise_append.mp hsorted).2.2 y hfront x List.mem_cons_self) hxy
  · exact absurd hself hne
  · have hpair : [x, y].Sublist (x :: back) := .cons_cons x (List.singleton_sublist.mpr hback)
    exact hpair.trans (List.sublist_append_right front _)

/-! ## Recorded edges -/

/-- A path of so many recorded edges leads from one type to another. -/
def RecordedHops (edges : List (MediaType × MediaType)) (t : MediaType) : Nat → MediaType → Prop
  | 0, x => x = t
  | n + 1, x => ∃ e ∈ edges, e.2 = x ∧ RecordedHops edges t n e.1

instance decidableRecordedHops (edges : List (MediaType × MediaType)) (t : MediaType) :
    ∀ n x, Decidable (RecordedHops edges t n x)
  | 0, x => inferInstanceAs (Decidable (x = t))
  | n + 1, x =>
    have := decidableRecordedHops edges t n
    inferInstanceAs (Decidable (∃ e ∈ edges, e.2 = x ∧ RecordedHops edges t n e.1))

/-- One type is fewer recorded edges away than another one: a path to it is shorter than all paths
to the other. -/
def Nearer (edges : List (MediaType × MediaType)) (t x y : MediaType) : Prop :=
  ∃ n, RecordedHops edges t n x ∧ ∀ m, RecordedHops edges t m y → n < m

section

variable {edges : List (MediaType × MediaType)}

/-- A path in the graph is as many recorded hops. -/
theorem recordedHops_of_follow? {path : List Nat}
    (hpath : (ofEdges edges).follow? t path = some x) : RecordedHops edges t path.length x := by
  induction path using List.reverseRecOn generalizing x with
  | nil => exact (Option.some.inj hpath).symm
  | append_singleton path i ih =>
    obtain ⟨y, hy, hx⟩ := follow?_concat_eq_some_iff.mp hpath
    have hedge := (mem_ofEdges_iff.mp (mem_parents_iff.mp (List.mem_of_getElem? hx))).1
    rw [List.length_append]
    exact ⟨(y, x), hedge, rfl, ih hy⟩

/-- Leaving out loops makes no path longer. -/
theorem RecordedHops.exists_follow? {n : Nat} (hhops : RecordedHops edges t n x) :
    ∃ path, (ofEdges edges).follow? t path = some x ∧ path.length ≤ n := by
  induction n generalizing x with
  | zero => exact ⟨[], congrArg some (Eq.symm hhops), le_rfl⟩
  | succ n ih =>
    obtain ⟨e, he, rfl, hhops⟩ := hhops
    obtain ⟨path, hpath, hle⟩ := ih hhops
    by_cases hloop : e.1 = e.2
    · exact ⟨path, hloop ▸ hpath, Nat.le_succ_of_le hle⟩
    · have hp := mem_parents_iff.mpr (mem_ofEdges_iff.mpr ⟨he, hloop⟩)
      obtain ⟨i, hi⟩ := List.mem_iff_getElem?.mp hp
      refine ⟨path ++ [i], follow?_concat_eq_some_iff.mpr ⟨e.1, hpath, hi⟩, ?_⟩
      rw [List.length_append, List.length_singleton]
      omega

/-- What is nearer has no later first path. -/
theorem Nearer.not_sooner (hxy : Nearer edges t x y) : ¬ (ofEdges edges).Sooner t y x := by
  intro hsooner
  obtain ⟨n, hx, hall⟩ := hxy
  obtain ⟨q, hq, hle⟩ := hx.exists_follow?
  obtain ⟨p, hp, hlt⟩ := hsooner q hq
  have hlong := hall p.length (recordedHops_of_follow? hp)
  have hshort := hlt.length_le
  omega

theorem Nearer.ne (hxy : Nearer edges t x y) : y ≠ x := by
  intro heq
  obtain ⟨n, hx, hall⟩ := hxy
  exact lt_irrefl n (hall n (heq ▸ hx))

theorem Nearer.ne_start (hxy : Nearer edges t x y) : y ≠ t := by
  intro heq
  obtain ⟨n, -, hall⟩ := hxy
  exact Nat.not_lt_zero n (hall 0 heq)

end

/-- **Nearest first.** Let a type reach two others over recorded edges. If one of them is fewer
edges away, then it is yielded before the other. An ancestor that the type reaches over recorded
edges is yielded before each ancestor that it does not reach in this way. -/
theorem ancestors_nearest_first (edges : List (MediaType × MediaType)) (t : MediaType) :
    (∀ x y, x ≠ t → RecordedPath edges t x → RecordedPath edges t y → Nearer edges t x y →
        [x, y].Sublist ((ofEdges edges).ancestors t)) ∧
      ∀ x ∈ (ofEdges edges).ancestors t, ∀ y ∈ (ofEdges edges).ancestors t,
        RecordedPath edges t x → ¬ RecordedPath edges t y →
          [x, y].Sublist ((ofEdges edges).ancestors t) := by
  constructor
  · intro x y hxt hx hy hxy
    have hmem : ∀ {z}, z ≠ t → RecordedPath edges t z → z ∈ (ofEdges edges).ancestors t :=
      fun hzt hz => mem_ancestors_iff.mpr ⟨hzt, Or.inl (reaches_ofEdges_iff.mpr hz)⟩
    refine sublist_ancestors_of_not_precedes (hmem hxt hx) (hmem hxy.ne_start hy) hxy.ne ?_
    exact fun hprecedes => hxy.not_sooner hprecedes.explicit
  · intro x hx y hy hpath hnone
    refine sublist_ancestors_of_not_precedes hx hy (fun heq => hnone (heq ▸ hpath)) ?_
    intro hprecedes
    exact hnone (reaches_ofEdges_iff.mp
      (hprecedes.explicit.reaches (reaches_ofEdges_iff.mpr hpath)))

/-- Edges on which `model/mesh` is queued twice, once behind a type that is further away. -/
def crossedEdges : List (MediaType × MediaType) :=
  [(fewTypes 4, fewTypes 3), (fewTypes 4, fewTypes 5), (fewTypes 3, fewTypes 2),
    (fewTypes 3, fewTypes 5), (fewTypes 5, fewTypes 4)]

/-- `model/mesh` is one edge away from `image/png` and `text/x-note` is two edges away, and nothing
recorded leads to `application/octet-stream`. -/
theorem ancestors_nearest_first_crossedEdges :
    Nearer crossedEdges (fewTypes 4) (fewTypes 5) (fewTypes 2) ∧
      [fewTypes 5, fewTypes 2].Sublist ((ofEdges crossedEdges).ancestors (fewTypes 4)) ∧
      [fewTypes 2, .octetStream].Sublist ((ofEdges crossedEdges).ancestors (fewTypes 4)) := by
  obtain ⟨hnearest, hexplicit⟩ := ancestors_nearest_first crossedEdges (fewTypes 4)
  have hnear : RecordedPath crossedEdges (fewTypes 4) (fewTypes 5) :=
    Relation.ReflTransGen.single (by decide +kernel)
  have hfar : RecordedPath crossedEdges (fewTypes 4) (fewTypes 2) :=
    .tail (Relation.ReflTransGen.single (b := fewTypes 3) (by decide +kernel)) (by decide +kernel)
  have hroot : ¬ RecordedPath crossedEdges (fewTypes 4) .octetStream := by
    intro hpath
    rcases Relation.ReflTransGen.cases_tail hpath with heq | ⟨y, -, hedge⟩
    · exact absurd heq (by decide +kernel)
    · have hends : ∀ e ∈ crossedEdges, e.2 ≠ .octetStream := by decide +kernel
      exact hends _ hedge rfl
  have hnearer : Nearer crossedEdges (fewTypes 4) (fewTypes 5) (fewTypes 2) := by
    refine ⟨1, by decide +kernel, fun m hm => ?_⟩
    have hfew : ∀ m < 2, ¬ RecordedHops crossedEdges (fewTypes 4) m (fewTypes 2) := by
      decide +kernel
    by_contra hle
    exact hfew m (by omega) hm
  refine ⟨hnearer, hnearest _ _ (by decide +kernel) hnear hfar hnearer, ?_⟩
  exact hexplicit _ (by decide +kernel) _ (by decide +kernel) hfar hroot

end MimeDatabase.Hierarchy
