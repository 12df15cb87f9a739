import MimeDatabase.Proofs.Hierarchy.Reachability
import MimeDatabase.Proofs.Registry

/-!
# The subtype relation as an order

`Hierarchy.isSubtype` is meant to be a preorder: every type is a subtype of itself, and subtypes of
subtypes are subtypes. The first always holds. The second fails in two ways, because the walks of
`Hierarchy.ancestors` do not go on from everything that they know to lie above a type:

* From `application/octet-stream`, which lies above every type, they may come upon a text type. They
  do not go on to `text/plain` then, although `application/octet-stream` itself inherits from it.
* A base `media/*` stands for all types of a media part, but the walks do not enter it from these,
  so they miss the parents that are recorded for it.

`isSubtype_preorder_iff` says that nothing else goes wrong: the relation is transitive exactly if
both the root and the wildcards pass on what they inherit (`RootPassesOn`, `WildcardsPassOn`). Data
in which neither has a recorded parent does (`transitiveOn_of_parentless`).
-/

namespace MimeDatabase.Hierarchy

variable {h : Hierarchy} {r : Registry}

/-! ## Subtypes and what lies above a type -/

/-- A hierarchy over a registry: both base types are held, and so are the ends of every edge. -/
structure IsOver (h : Hierarchy) (r : Registry) : Prop where
  octetStream : r.Holds .octetStream
  textPlain : r.Holds .textPlain
  child : ∀ t p, p ∈ h.parents t → r.Holds t
  parent : ∀ t p, p ∈ h.parents t → r.Holds p

/-- Edges between interned types make a hierarchy over the registry. -/
theorem isOver_ofEdges {names : List String} {edges : List (MediaType × MediaType)}
    (hedges : ∀ e ∈ edges, (Registry.empty.insertAll names).Holds e.1 ∧
      (Registry.empty.insertAll names).Holds e.2) :
    (ofEdges edges).IsOver (Registry.empty.insertAll names) where
  octetStream := Registry.holds_octetStream names
  textPlain := Registry.holds_textPlain names
  child _ _ hp := (hedges _ (mem_ofEdges_iff.mp (mem_parents_iff.mp hp)).1).1
  parent _ _ hp := (hedges _ (mem_ofEdges_iff.mp (mem_parents_iff.mp hp)).1).2

/-- What is reached from an interned type is interned. -/
theorem IsOver.holds_of_reaches (ho : h.IsOver r) {t x : MediaType} (ht : r.Holds t)
    (hpath : h.Reaches t x) : r.Holds x := by
  induction hpath with
  | refl => exact ht
  | tail _ hstep _ => exact ho.parent _ _ hstep

theorem Above.refl (h : Hierarchy) (t : MediaType) : h.Above t t := Or.inl .refl

theorem Above.octetStream (h : Hierarchy) (t : MediaType) : h.Above t .octetStream :=
  Or.inr (Or.inr .refl)

/-- What a type above reaches lies above. -/
theorem Above.trans_reaches {t x y : MediaType} (hx : h.Above t x) (hpath : h.Reaches x y) :
    h.Above t y := by
  rcases hx with hr | ⟨htext, hr⟩ | hr
  · exact Or.inl (hr.trans hpath)
  · exact Or.inr (Or.inl ⟨htext, hr.trans hpath⟩)
  · exact Or.inr (Or.inr (hr.trans hpath))

/-- Against a wildcard, the media parts of what lies above decide. -/
theorem isSubtype_wildcard_iff {t b : MediaType} (hw : b.subtype = "*") :
    h.isSubtype t b = true ↔ ∃ x, h.Above t x ∧ x.media = b.media := by
  unfold isSubtype
  by_cases heq : t = b
  · rw [if_pos heq]
    exact ⟨fun _ => ⟨t, .refl h t, by rw [heq]⟩, fun _ => rfl⟩
  · rw [if_neg heq, if_pos hw, Bool.or_eq_true, beq_iff_eq, List.any_eq_true]
    simp only [beq_iff_eq, ← mem_cons_ancestors_iff, List.mem_cons, or_and_right, exists_or,
      exists_eq_left]

/-- Against any other type of the registry, it is whether the type lies above. -/
theorem isSubtype_plain_iff (ho : h.IsOver r) {t b : MediaType} (hb : r.Holds b)
    (hw : b.subtype ≠ "*") : h.isSubtype t b = true ↔ h.Above t b := by
  unfold isSubtype
  by_cases heq : t = b
  · rw [if_pos heq, heq]
    exact ⟨fun _ => .refl h b, fun _ => rfl⟩
  · rw [if_neg heq, if_neg hw]
    by_cases hroot : b.id = MediaType.octetStream.id
    · rw [if_pos hroot, hb.eq_of_id ho.octetStream hroot]
      exact ⟨fun _ => .octetStream h t, fun _ => rfl⟩
    · rw [if_neg hroot, List.contains_iff_mem, ← mem_cons_ancestors_iff, List.mem_cons]
      exact (or_iff_right (Ne.symm heq)).symm

/-- A base stands for itself and, if it is a wildcard, for all types of its media part. -/
def StandsFor (base x : MediaType) : Prop := x = base ∨ (base.subtype = "*" ∧ x.media = base.media)

/-- In one statement: a base has to stand for something above the type. -/
theorem isSubtype_iff (ho : h.IsOver r) {t b : MediaType} (hb : r.Holds b) :
    h.isSubtype t b = true ↔ ∃ x, h.Above t x ∧ StandsFor b x := by
  by_cases hw : b.subtype = "*"
  · rw [isSubtype_wildcard_iff hw]
    refine exists_congr fun x => and_congr_right fun _ => ?_
    constructor
    · exact fun hmedia => Or.inr ⟨hw, hmedia⟩
    · rintro (rfl | ⟨-, hmedia⟩)
      · rfl
      · exact hmedia
  · rw [isSubtype_plain_iff ho hb hw]
    constructor
    · exact fun ha => ⟨b, ha, Or.inl rfl⟩
    · rintro ⟨x, hx, rfl | ⟨hw', -⟩⟩
      · exact hx
      · exact absurd hw' hw

/-- What lies above is a supertype, wildcard or not. -/
theorem Above.isSubtype (ho : h.IsOver r) {t b : MediaType} (hb : r.Holds b) (ha : h.Above t b) :
    h.isSubtype t b = true := by
  by_cases hw : b.subtype = "*"
  · exact (isSubtype_wildcard_iff hw).mpr ⟨b, ha, rfl⟩
  · exact (isSubtype_plain_iff ho hb hw).mpr ha

/-- Above a subtype there is a type of the media part of the base. -/
theorem exists_above_media (ho : h.IsOver r) {t b : MediaType} (hb : r.Holds b)
    (hs : h.isSubtype t b = true) : ∃ x, h.Above t x ∧ x.media = b.media := by
  by_cases hw : b.subtype = "*"
  · exact (isSubtype_wildcard_iff hw).mp hs
  · exact ⟨b, (isSubtype_plain_iff ho hb hw).mp hs, rfl⟩

/-! ## When it is an order -/

/-- Among the types of a registry, subtypes of subtypes are subtypes. -/
def TransitiveOn (h : Hierarchy) (r : Registry) : Prop :=
  ∀ a b c, r.Holds a → r.Holds b → r.Holds c →
    h.isSubtype a b = true → h.isSubtype b c = true → h.isSubtype a c = true

/-- The binary root passes on that it inherits from `text/plain`: every type does so, too. -/
def RootPassesOn (h : Hierarchy) (r : Registry) : Prop :=
  h.isSubtype .octetStream .textPlain = true →
    ∀ t, r.Holds t → h.isSubtype t .textPlain = true

/-- A wildcard passes on its recorded parents to all types that it stands for. -/
def WildcardsPassOn (h : Hierarchy) (r : Registry) : Prop :=
  ∀ w p, p ∈ h.parents w → w.subtype = "*" →
    ∀ t, r.Holds t → h.isSubtype t w = true → h.isSubtype t p = true

theorem textPlain_subtype : MediaType.textPlain.subtype ≠ "*" := by decide

theorem textPlain_media : MediaType.textPlain.media = "text" := by decide

theorem octetStream_media : MediaType.octetStream.media ≠ "text" := by decide

/-- What inherits from `text/plain`: what sees a text type, and everything if the root does. -/
theorem above_textPlain_iff (h : Hierarchy) (t : MediaType) :
    h.Above t .textPlain ↔ h.SeesText t ∨ h.Reaches .octetStream .textPlain := by
  constructor
  · rintro (hr | ⟨hsees, _⟩ | hr)
    · exact Or.inl ⟨.textPlain, hr, textPlain_media⟩
    · exact Or.inl hsees
    · exact Or.inr hr
  · rintro (hsees | hr)
    · exact Or.inr (Or.inl ⟨hsees, .refl⟩)
    · exact Or.inr (Or.inr hr)

/-- A root that has no text type above it has nothing to pass on. -/
theorem rootPassesOn_of_not_seesText (ho : h.IsOver r) (hsees : ¬ h.SeesText .octetStream) :
    h.RootPassesOn r := by
  intro hsub
  have habove := (isSubtype_plain_iff ho ho.textPlain textPlain_subtype).mp hsub
  rcases (above_textPlain_iff h _).mp habove with htext | hr
  · exact absurd htext hsees
  · exact absurd ⟨_, hr, textPlain_media⟩ hsees

/-- In terms of paths: if the root has a text type above it, then it reaches `text/plain` over
explicit edges, or every type has a text type above it. -/
theorem rootPassesOn_iff (ho : h.IsOver r) :
    h.RootPassesOn r ↔ (h.SeesText .octetStream →
      h.Reaches .octetStream .textPlain ∨ ∀ t, r.Holds t → h.SeesText t) := by
  have hplain : ∀ t, h.isSubtype t .textPlain = true ↔
      h.SeesText t ∨ h.Reaches .octetStream .textPlain := by
    intro t
    rw [isSubtype_plain_iff ho ho.textPlain textPlain_subtype, above_textPlain_iff]
  by_cases hsees : h.SeesText .octetStream
  · have hsub := (hplain .octetStream).mpr (Or.inl hsees)
    constructor
    · intro hpass _
      by_cases hr : h.Reaches .octetStream .textPlain
      · exact Or.inl hr
      · exact Or.inr fun t ht => ((hplain t).mp (hpass hsub t ht)).resolve_right hr
    · intro himp _ t ht
      rcases himp hsees with hr | hall
      · exact (hplain t).mpr (Or.inr hr)
      · exact (hplain t).mpr (Or.inl (hall t ht))
  · exact ⟨fun _ htext => absurd htext hsees, fun _ => rootPassesOn_of_not_seesText ho hsees⟩

/-- If the root passes on what it inherits, `text/plain` lies above whatever has a text type above
it, on whichever way that was reached. -/
theorem RootPassesOn.above_textPlain (ho : h.IsOver r) (hroot : h.RootPassesOn r)
    {t x : MediaType} (ht : r.Holds t) (hx : h.Above t x) (htext : x.media = "text") :
    h.Above t .textPlain := by
  rcases hx with hr | ⟨hsees, _⟩ | hr
  · exact Or.inr (Or.inl ⟨⟨x, hr, htext⟩, .refl⟩)
  · exact Or.inr (Or.inl ⟨hsees, .refl⟩)
  · -- the text type is only reached from the root, which therefore inherits from `text/plain`
    have habove : h.Above .octetStream .textPlain := Or.inr (Or.inl ⟨⟨x, hr, htext⟩, .refl⟩)
    have hsub := hroot (habove.isSubtype ho ho.textPlain) t ht
    exact (isSubtype_plain_iff ho ho.textPlain textPlain_subtype).mp hsub

/-- If wildcards pass on their parents, so does every base: one step of a path after the other. -/
theorem WildcardsPassOn.isSubtype_of_reaches (ho : h.IsOver r) (hwild : h.WildcardsPassOn r)
    {t b x : MediaType} (ht : r.Holds t) (hb : r.Holds b) (hs : h.isSubtype t b = true)
    (hpath : h.Reaches b x) : h.isSubtype t x = true := by
  induction hpath with
  | refl => exact hs
  | @tail y x hpre hstep ih =>
    by_cases hw : y.subtype = "*"
    · exact hwild y x hstep hw t ht ih
    · have hy : h.Above t y := (isSubtype_plain_iff ho (ho.holds_of_reaches hb hpre) hw).mp ih
      exact (hy.trans_reaches (.single hstep)).isSubtype ho (ho.parent y x hstep)

/-- If both pass on what they inherit, a subtype inherits what lies above its base. -/
theorem isSubtype_of_above (ho : h.IsOver r) (hroot : h.RootPassesOn r)
    (hwild : h.WildcardsPassOn r) {t b x : MediaType} (ht : r.Holds t) (hb : r.Holds b)
    (hs : h.isSubtype t b = true) (hx : h.Above b x) : h.isSubtype t x = true := by
  rcases hx with hr | ⟨⟨y, hy, htext⟩, hr⟩ | hr
  · exact hwild.isSubtype_of_reaches ho ht hb hs hr
  · -- the base sees a text type, hence so does `t`, perhaps another one if that is a wildcard
    have hsub : h.isSubtype t y = true := hwild.isSubtype_of_reaches ho ht hb hs hy
    obtain ⟨z, hz, hmedia⟩ := exists_above_media ho (ho.holds_of_reaches hb hy) hsub
    have habove := hroot.above_textPlain ho ht hz (hmedia.trans htext)
    exact (habove.trans_reaches hr).isSubtype ho (ho.holds_of_reaches ho.textPlain hr)
  · exact Above.isSubtype ho (ho.holds_of_reaches ho.octetStream hr) (Or.inr (Or.inr hr))

/-- What lies above an interned type is interned. -/
theorem Above.holds (ho : h.IsOver r) {t x : MediaType} (ht : r.Holds t) (hx : h.Above t x) :
    r.Holds x := by
  rcases hx with hr | ⟨_, hr⟩ | hr
  · exact ho.holds_of_reaches ht hr
  · exact ho.holds_of_reaches ho.textPlain hr
  · exact ho.holds_of_reaches ho.octetStream hr

/-- The relation is transitive if the root and the wildcards pass on what they inherit. -/
theorem transitiveOn_of_passOn (ho : h.IsOver r) (hroot : h.RootPassesOn r)
    (hwild : h.WildcardsPassOn r) : h.TransitiveOn r := by
  intro a b c ha hb hc hab hbc
  by_cases hw : c.subtype = "*"
  · -- a type of the media part lies above `b`, so one lies above `a`
    obtain ⟨x, hx, hmedia⟩ := (isSubtype_wildcard_iff hw).mp hbc
    have hax : h.isSubtype a x = true := isSubtype_of_above ho hroot hwild ha hb hab hx
    obtain ⟨z, hz, hmedia'⟩ := exists_above_media ho (hx.holds ho hb) hax
    exact (isSubtype_wildcard_iff hw).mpr ⟨z, hz, hmedia'.trans hmedia⟩
  · exact isSubtype_of_above ho hroot hwild ha hb hab ((isSubtype_plain_iff ho hc hw).mp hbc)

/-- The usual data is safe: neither the root nor a wildcard has a recorded parent. -/
theorem transitiveOn_of_parentless (ho : h.IsOver r) (hroot : ∀ p, p ∉ h.parents .octetStream)
    (hwild : ∀ w p, p ∈ h.parents w → w.subtype ≠ "*") : h.TransitiveOn r := by
  refine transitiveOn_of_passOn ho ?_ fun w p hp hw => absurd hw (hwild w p hp)
  have halone : ∀ x, h.Reaches .octetStream x → x = .octetStream := by
    intro x hpath
    rcases hpath.cases_head with heq | ⟨p, hp, _⟩
    · exact heq.symm
    · exact absurd hp (hroot p)
  apply rootPassesOn_of_not_seesText ho
  rintro ⟨y, hy, htext⟩
  rw [halone y hy] at htext
  exact octetStream_media htext

/-- Every type is a subtype of itself, and subtypes of subtypes are subtypes exactly if the root and
the wildcards pass on what they inherit. -/
theorem isSubtype_preorder_iff (names : List String) (edges : List (MediaType × MediaType))
    (hedges : ∀ e ∈ edges, (Registry.empty.insertAll names).Holds e.1 ∧
      (Registry.empty.insertAll names).Holds e.2) :
    (∀ a, (ofEdges edges).isSubtype a a = true) ∧
      ((ofEdges edges).TransitiveOn (Registry.empty.insertAll names) ↔
        (ofEdges edges).RootPassesOn (Registry.empty.insertAll names) ∧
          (ofEdges edges).WildcardsPassOn (Registry.empty.insertAll names)) := by
  have ho := isOver_ofEdges hedges
  refine ⟨fun a => if_pos rfl, ?_⟩
  constructor
  · intro htrans
    constructor
    · intro hsub t ht
      -- the root lies between every type and `text/plain`
      have ht' := (Above.octetStream (ofEdges edges) t).isSubtype ho ho.octetStream
      exact htrans t _ _ ht ho.octetStream ho.textPlain ht' hsub
    · intro w p hp _ t ht htw
      have hwp := Above.isSubtype ho (ho.parent w p hp) (Or.inl (.single hp))
      exact htrans t w p ht (ho.child w p hp) (ho.parent w p hp) htw hwp
  · rintro ⟨hroot, hwild⟩
    exact transitiveOn_of_passOn ho hroot hwild

/-- The names of a small registry, beside those of the base types. -/
def fewNames : List String := ["text/x-note", "image/*", "image/png", "model/mesh"]

/-- The types of the small registry. -/
def fewTypes (i : Nat) : MediaType := (Registry.empty.insertAll fewNames).byId? i |>.getD default

/-- With a text type above the root, `image/png` is a subtype of the root and the root one of
`text/plain`, but `image/png` is none. -/
theorem not_transitive_textAboveRoot :
    (∀ e ∈ [(MediaType.octetStream, fewTypes 2)], (Registry.empty.insertAll fewNames).Holds e.1 ∧
        (Registry.empty.insertAll fewNames).Holds e.2) ∧
      ¬ (ofEdges [(.octetStream, fewTypes 2)]).TransitiveOn (Registry.empty.insertAll fewNames) := by
  have hedges : ∀ e ∈ [(MediaType.octetStream, fewTypes 2)],
      (Registry.empty.insertAll fewNames).Holds e.1 ∧
        (Registry.empty.insertAll fewNames).Holds e.2 := by decide +kernel
  refine ⟨hedges, fun htrans => ?_⟩
  have hroot := ((isSubtype_preorder_iff fewNames _ hedges).2.mp htrans).1
  have hpng := hroot (by decide +kernel) (fewTypes 4) (by decide +kernel)
  exact absurd hpng (by decide +kernel)

/-- With a parent of `image/*`, `image/png` is a subtype of `image/*` and not of that parent. -/
example :
    let h := ofEdges [(fewTypes 3, fewTypes 5)]
    h.isSubtype (fewTypes 4) (fewTypes 3) = true ∧ h.isSubtype (fewTypes 3) (fewTypes 5) = true ∧
      h.isSubtype (fewTypes 4) (fewTypes 5) = false := by
  decide +kernel

end MimeDatabase.Hierarchy
