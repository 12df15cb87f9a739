import MimeDatabase.Hierarchy
import Mathlib.Logic.Relation

/-!
# What lies above a type

`Hierarchy.walk` goes over explicit edges breadth first and never enters a type twice.
`mem_walk_iff` says what it finds, whatever has been seen before: the types that a path from the
queue leads to without entering a type that was seen. The three walks of `Hierarchy.ancestors` start
from what the walks before them have seen, and that is closed under parents each time, so nothing is
lost by not entering it (`mem_or_mem_walk_iff`). `mem_cons_ancestors_iff` puts them together: a type
and its ancestors are what is `Above` it.
-/

namespace MimeDatabase.Hierarchy

/-! ## Paths -/

/-- A path over explicit edges leads from one type to another. -/
def Reaches (h : Hierarchy) : MediaType → MediaType → Prop :=
  Relation.ReflTransGen fun t p => p ∈ h.parents t

/-- A path over explicit edges leads from one type to another and enters no type of `seen`. -/
def ReachesAvoiding (h : Hierarchy) (seen : List MediaType) : MediaType → MediaType → Prop :=
  Relation.ReflTransGen fun t p => p ∈ h.parents t ∧ p ∉ seen

theorem mem_parents_iff {h : Hierarchy} {t p : MediaType} :
    p ∈ h.parents t ↔ (t, p) ∈ h.edges := by
  unfold parents
  rw [List.mem_map]
  constructor
  · rintro ⟨e, he, hp⟩
    obtain ⟨hmem, ht⟩ := List.mem_filter.mp he
    rw [← hp, ← of_decide_eq_true ht]
    exact hmem
  · intro hmem
    exact ⟨(t, p), List.mem_filter.mpr ⟨hmem, decide_eq_true rfl⟩, rfl⟩

/-- The edges of a hierarchy are the recorded ones that are no loops. -/
theorem mem_ofEdges_iff {edges : List (MediaType × MediaType)} {e : MediaType × MediaType} :
    e ∈ (ofEdges edges).edges ↔ e ∈ edges ∧ e.1 ≠ e.2 := by
  have hstep : ∀ (rest kept : List (MediaType × MediaType)),
      e ∈ rest.foldl addEdge kept ↔ e ∈ kept ∨ e ∈ rest ∧ e.1 ≠ e.2 := by
    intro rest
    induction rest with
    | nil =>
      intro kept
      rw [List.foldl_nil]
      exact ⟨Or.inl, fun hm => hm.elim id fun hn => absurd hn.1 List.not_mem_nil⟩
    | cons e' rest ih =>
      intro kept
      rw [List.foldl_cons, ih]
      unfold addEdge
      grind
  show e ∈ edges.foldl addEdge [] ↔ _
  rw [hstep edges []]
  exact or_iff_right List.not_mem_nil

theorem ReachesAvoiding.reaches {h : Hierarchy} {seen : List MediaType} {t x : MediaType}
    (hpath : h.ReachesAvoiding seen t x) : h.Reaches t x :=
  Relation.ReflTransGen.mono (fun _ _ hstep => hstep.1) _ _ hpath

theorem ReachesAvoiding.of_cons {h : Hierarchy} {s t x : MediaType} {seen : List MediaType}
    (hpath : h.ReachesAvoiding (s :: seen) t x) : h.ReachesAvoiding seen t x :=
  Relation.ReflTransGen.mono
    (fun _ _ hstep => ⟨hstep.1, fun hm => hstep.2 (List.mem_cons_of_mem s hm)⟩) _ _ hpath

/-- To avoid nothing is no restriction. -/
theorem reaches_iff_avoiding_nil {h : Hierarchy} {t x : MediaType} :
    h.Reaches t x ↔ h.ReachesAvoiding [] t x :=
  ⟨Relation.ReflTransGen.mono (fun _ _ hstep => ⟨hstep, List.not_mem_nil⟩) _ _,
    ReachesAvoiding.reaches⟩

/-- A path can be cut where it is at `s` for the last time: it starts elsewhere and never meets `s`,
or what follows is a path from a parent of `s` that does not meet it again. -/
theorem ReachesAvoiding.leave {h : Hierarchy} {s t x : MediaType} {seen : List MediaType}
    (hpath : h.ReachesAvoiding seen t x) (hx : x ≠ s) :
    (t ≠ s ∧ h.ReachesAvoiding (s :: seen) t x) ∨
      ∃ p ∈ h.parents s, p ∉ s :: seen ∧ h.ReachesAvoiding (s :: seen) p x := by
  induction hpath with
  | refl => exact Or.inl ⟨hx, .refl⟩
  | @tail y x _ hstep ih =>
    have hnew : x ∉ s :: seen := by
      rw [List.mem_cons, not_or]
      exact ⟨hx, hstep.2⟩
    by_cases hy : y = s
    · -- the last step leaves `s`, and a path that starts again at its parent is left
      exact Or.inr ⟨x, hy ▸ hstep.1, hnew, .refl⟩
    · rcases ih hy with ⟨ht, hrest⟩ | ⟨p, hp, hpn, hrest⟩
      · exact Or.inl ⟨ht, hrest.tail ⟨hstep.1, hnew⟩⟩
      · exact Or.inr ⟨p, hp, hpn, hrest.tail ⟨hstep.1, hnew⟩⟩

/-! ## Walks -/

/-- A walk finds what can be reached from its queue without entering what was seen. -/
theorem mem_walk_iff (h : Hierarchy) (queue seen : List MediaType) (x : MediaType) :
    x ∈ h.walk queue seen ↔ ∃ q ∈ queue, q ∉ seen ∧ h.ReachesAvoiding seen q x := by
  -- the recursion of the walk: a type of the queue is skipped, or entered with its parents queued
  induction queue, seen using walk.induct h with
  | case1 seen =>
    rw [walk]
    exact ⟨fun hx => absurd hx List.not_mem_nil, fun ⟨q, hq, _⟩ => absurd hq List.not_mem_nil⟩
  | case2 seen t rest hseen ih =>
    rw [walk, dif_pos hseen, ih]
    constructor
    · rintro ⟨q, hq, hpath⟩
      exact ⟨q, List.mem_cons_of_mem t hq, hpath⟩
    · rintro ⟨q, hq, hnew, hpath⟩
      rcases List.mem_cons.mp hq with heq | hrest
      · exact absurd (List.contains_iff_mem.mp hseen) (heq ▸ hnew)
      · exact ⟨q, hrest, hnew, hpath⟩
  | case3 seen t rest hseen ih =>
    have ht : t ∉ seen := fun hm => hseen (List.contains_iff_mem.mpr hm)
    rw [walk, dif_neg hseen, List.mem_cons, ih]
    constructor
    · rintro (heq | ⟨q, hq, hnew, hpath⟩)
      · rw [heq]
        exact ⟨t, List.mem_cons_self, ht, .refl⟩
      · have hnew' : q ∉ seen := fun hm => hnew (List.mem_cons_of_mem t hm)
        rcases List.mem_append.mp hq with hrest | hparent
        · exact ⟨q, List.mem_cons_of_mem t hrest, hnew', hpath.of_cons⟩
        · exact ⟨t, List.mem_cons_self, ht, .head ⟨hparent, hnew'⟩ hpath.of_cons⟩
    · rintro ⟨q, hq, hnew, hpath⟩
      by_cases hx : x = t
      · exact Or.inl hx
      · right
        rcases hpath.leave hx with ⟨hqt, hrest⟩ | ⟨p, hp, hpn, hrest⟩
        · have hmem : q ∈ rest := (List.mem_cons.mp hq).resolve_left hqt
          refine ⟨q, List.mem_append_left _ hmem, ?_, hrest⟩
          rw [List.mem_cons, not_or]
          exact ⟨hqt, hnew⟩
        · exact ⟨p, List.mem_append_right _ hp, hpn, hrest⟩

/-- All parents of the types of a list are in the list. -/
def Closed (h : Hierarchy) (seen : List MediaType) : Prop :=
  ∀ t ∈ seen, ∀ p ∈ h.parents t, p ∈ seen

/-- What is reached from a closed list is in it. -/
theorem Closed.mem_of_reaches {h : Hierarchy} {seen : List MediaType} {t x : MediaType}
    (hc : h.Closed seen) (ht : t ∈ seen) (hpath : h.Reaches t x) : x ∈ seen := by
  induction hpath with
  | refl => exact ht
  | tail _ hstep ih => exact hc _ ih _ hstep

/-- A path that ends outside of a closed list never enters it. -/
theorem Closed.reachesAvoiding {h : Hierarchy} {seen : List MediaType} {t x : MediaType}
    (hc : h.Closed seen) (hpath : h.Reaches t x) (hx : x ∉ seen) :
    h.ReachesAvoiding seen t x := by
  induction hpath with
  | refl => exact .refl
  | @tail y x _ hstep ih =>
    have hy : y ∉ seen := fun hm => hx (hc y hm x hstep)
    exact (ih hy).tail ⟨hstep, hx⟩

/-- After a walk from what is closed, everything that the queue leads to has been seen. -/
theorem mem_append_walk_iff {h : Hierarchy} {seen : List MediaType} (hc : h.Closed seen)
    (queue : List MediaType) (x : MediaType) :
    x ∈ seen ++ h.walk queue seen ↔ x ∈ seen ∨ ∃ q ∈ queue, h.Reaches q x := by
  rw [List.mem_append, mem_walk_iff]
  constructor
  · rintro (hx | ⟨q, hq, _, hpath⟩)
    · exact Or.inl hx
    · exact Or.inr ⟨q, hq, hpath.reaches⟩
  · intro hx
    by_cases hs : x ∈ seen
    · exact Or.inl hs
    · -- had the path entered what was seen, it would have ended there
      obtain ⟨q, hq, hpath⟩ := hx.resolve_left hs
      have hnew : q ∉ seen := fun hm => hs (hc.mem_of_reaches hm hpath)
      exact Or.inr ⟨q, hq, hnew, hc.reachesAvoiding hpath hs⟩

/-- What is seen after such a walk is closed again. -/
theorem Closed.append_walk {h : Hierarchy} {seen : List MediaType} (hc : h.Closed seen)
    (queue : List MediaType) : h.Closed (seen ++ h.walk queue seen) := by
  intro t ht p hp
  rw [mem_append_walk_iff hc] at ht ⊢
  rcases ht with ht | ⟨q, hq, hpath⟩
  · exact Or.inl (hc t ht p hp)
  · exact Or.inr ⟨q, hq, hpath.tail hp⟩

/-! ## Ancestors -/

/-- A type and its explicit ancestors are what it reaches. -/
theorem mem_cons_explicitAncestors_iff (h : Hierarchy) (t x : MediaType) :
    x ∈ t :: h.explicitAncestors t ↔ h.Reaches t x := by
  unfold explicitAncestors
  rw [List.mem_cons, mem_walk_iff]
  constructor
  · rintro (heq | ⟨p, hp, _, hpath⟩)
    · rw [heq]
      exact .refl
    · exact .head hp hpath.reaches
  · intro hpath
    by_cases hx : x = t
    · exact Or.inl hx
    · right
      rcases (reaches_iff_avoiding_nil.mp hpath).leave hx with ⟨hne, _⟩ | hparent
      · exact absurd rfl hne
      · exact hparent

/-- A type and its explicit ancestors are closed. -/
theorem closed_cons_explicitAncestors (h : Hierarchy) (t : MediaType) :
    h.Closed (t :: h.explicitAncestors t) := by
  intro x hx p hp
  rw [mem_cons_explicitAncestors_iff] at hx ⊢
  exact hx.tail hp

/-- A type reaches a text type over explicit edges; it may be one itself. -/
def SeesText (h : Hierarchy) (t : MediaType) : Prop := ∃ y, h.Reaches t y ∧ y.media = "text"

/-- Some explicit ancestor is a text type if and only if the type sees text. -/
theorem any_media_text_iff (h : Hierarchy) (t : MediaType) :
    (t :: h.explicitAncestors t).any (·.media = "text") = true ↔ h.SeesText t := by
  rw [List.any_eq_true]
  constructor
  · rintro ⟨y, hy, htext⟩
    exact ⟨y, (h.mem_cons_explicitAncestors_iff t y).mp hy, of_decide_eq_true htext⟩
  · rintro ⟨y, hy, htext⟩
    exact ⟨y, (h.mem_cons_explicitAncestors_iff t y).mpr hy, decide_eq_true htext⟩

/-- What a type inherits from: what it reaches, what `text/plain` reaches if a text type is among
that, and what `application/octet-stream` reaches. -/
def Above (h : Hierarchy) (t x : MediaType) : Prop :=
  h.Reaches t x ∨ (h.SeesText t ∧ h.Reaches .textPlain x) ∨ h.Reaches .octetStream x

/-- What was seen after the walk from `text/plain`. -/
theorem mem_append_textAncestors_iff (h : Hierarchy) (t x : MediaType) :
    x ∈ t :: h.explicitAncestors t ++ h.textAncestors t ↔
      h.Reaches t x ∨ (h.SeesText t ∧ h.Reaches .textPlain x) := by
  unfold textAncestors
  by_cases htext : h.SeesText t
  · rw [if_pos ((h.any_media_text_iff t).mpr htext),
      mem_append_walk_iff (h.closed_cons_explicitAncestors t), mem_cons_explicitAncestors_iff]
    simp only [List.mem_singleton, exists_eq_left, htext, true_and]
  · rw [if_neg (fun hany => htext ((h.any_media_text_iff t).mp hany)), List.append_nil,
      mem_cons_explicitAncestors_iff]
    simp only [htext, false_and, or_false]

theorem closed_append_textAncestors (h : Hierarchy) (t : MediaType) :
    h.Closed (t :: h.explicitAncestors t ++ h.textAncestors t) := by
  unfold textAncestors
  split
  · exact (h.closed_cons_explicitAncestors t).append_walk _
  · rw [List.append_nil]
    exact h.closed_cons_explicitAncestors t

/-- A type and its ancestors are what lies above it. -/
theorem mem_cons_ancestors_iff (h : Hierarchy) (t x : MediaType) :
    x ∈ t :: h.ancestors t ↔ h.Above t x := by
  unfold ancestors rootAncestors
  rw [← List.cons_append, ← List.cons_append,
    mem_append_walk_iff (h.closed_append_textAncestors t), mem_append_textAncestors_iff]
  simp only [List.mem_singleton, exists_eq_left, Above, or_assoc]

/-! ## Types without parents -/

/-- Without parents a type reaches itself only. -/
theorem reaches_iff_of_parents_eq_nil {h : Hierarchy} {t x : MediaType} (hp : h.parents t = []) :
    h.Reaches t x ↔ x = t := by
  constructor
  · intro hpath
    rcases Relation.ReflTransGen.cases_head hpath with heq | ⟨p, hparent, -⟩
    · exact heq.symm
    · rw [hp] at hparent
      exact absurd hparent List.not_mem_nil
  · rintro rfl
    exact .refl

/-- A type without recorded parents inherits from the implicit roots only. -/
theorem above_iff_of_parents_eq_nil {h : Hierarchy} {t x : MediaType} (hp : h.parents t = []) :
    h.Above t x ↔
      x = t ∨ (t.media = "text" ∧ h.Reaches .textPlain x) ∨ h.Reaches .octetStream x := by
  have hsees : h.SeesText t ↔ t.media = "text" := by
    unfold SeesText
    simp only [reaches_iff_of_parents_eq_nil hp, exists_eq_left]
  rw [Above, reaches_iff_of_parents_eq_nil hp, hsees]

end MimeDatabase.Hierarchy
