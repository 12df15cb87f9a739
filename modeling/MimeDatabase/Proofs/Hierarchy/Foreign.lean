import MimeDatabase.Icon
import MimeDatabase.Proofs.Hierarchy.Order

/-!
# Types that the hierarchy does not know

A type without a number, or with one that was given away after the hierarchy was built, has no
recorded parents and is nobody's parent. What the hierarchy and the icons say about such a type
depends on its name alone: they do not tell two such types of one name apart (`Twins`). The walks
mark a type by itself where they start, but never come back to it, so the mark makes no difference
(`walk_congr`).
-/

namespace MimeDatabase

namespace Registry

/-- Two types are the same, or have one name and are foreign to a registry. -/
def Twins (r : Registry) (t u : MediaType) : Prop :=
  t = u ∨ (t.name = u.name ∧ r.Foreign t ∧ r.Foreign u)

theorem Twins.name_eq {r : Registry} {t u : MediaType} (h : r.Twins t u) : t.name = u.name := by
  rcases h with rfl | ⟨hname, -, -⟩
  · rfl
  · exact hname

theorem Twins.media_eq {r : Registry} {t u : MediaType} (h : r.Twins t u) : t.media = u.media :=
  congrArg TypeName.media h.name_eq

/-- A larger registry looks a name up as the same type or as its twin. -/
theorem twins_lookup {r r' : Registry} (hp : r.names <+: r'.names) (name : String) :
    r.Twins (r'.lookup name) (r.lookup name) := by
  rcases lookup_eq_or_foreign hp name with ⟨-, heq⟩ | ⟨hforeign, hforeign'⟩
  · exact Or.inl heq
  · exact Or.inr ⟨(r'.lookup_name name).trans (r.lookup_name name).symm, hforeign', hforeign⟩

end Registry

namespace Hierarchy

/-- A walk depends on what has been seen only as far as its queue leads there. -/
theorem walk_congr {h : Hierarchy} {queue seen seen' : List MediaType}
    (hagree : ∀ q ∈ queue, ∀ x, h.Reaches q x → (x ∈ seen ↔ x ∈ seen')) :
    h.walk queue seen = h.walk queue seen' := by
  induction queue, seen using walk.induct h generalizing seen' with
  | case1 seen => rw [walk, walk]
  | case2 seen t rest hseen ih =>
    have ht' : seen'.contains t = true :=
      List.contains_iff_mem.mpr
        ((hagree t List.mem_cons_self t .refl).mp (List.contains_iff_mem.mp hseen))
    rw [walk, dif_pos hseen, walk, dif_pos ht']
    exact ih fun q hq => hagree q (List.mem_cons_of_mem t hq)
  | case3 seen t rest hseen ih =>
    have ht' : ¬ seen'.contains t = true := fun hmem =>
      hseen (List.contains_iff_mem.mpr
        ((hagree t List.mem_cons_self t .refl).mpr (List.contains_iff_mem.mp hmem)))
    rw [walk, dif_neg hseen, walk, dif_neg ht']
    refine congrArg (t :: ·) (ih fun q hq x hpath => ?_)
    have hx : x ∈ seen ↔ x ∈ seen' := by
      rcases List.mem_append.mp hq with hrest | hparent
      · exact hagree q (List.mem_cons_of_mem t hrest) x hpath
      · exact hagree t List.mem_cons_self x (.head hparent hpath)
    rw [List.mem_cons, List.mem_cons, hx]

variable {h : Hierarchy} {r : Registry} {t u b c : MediaType}

/-- The registry holds all ancestors of a type. -/
theorem IsOver.holds_of_mem_ancestors (ho : h.IsOver r) {x : MediaType} (hx : x ∈ h.ancestors t) :
    r.Holds x := by
  have hwalk : ∀ queue seen, (∀ q ∈ queue, r.Holds q) → x ∈ h.walk queue seen → r.Holds x := by
    intro queue seen hqueue hmem
    obtain ⟨q, hq, -, hpath⟩ := (h.mem_walk_iff queue seen x).mp hmem
    exact ho.holds_of_reaches (hqueue q hq) hpath.reaches
  rw [ancestors, List.mem_append, List.mem_append] at hx
  rcases hx with (hexplicit | htext) | hroot
  · exact hwalk _ _ (fun q hq => ho.parent t q hq) hexplicit
  · unfold textAncestors at htext
    split at htext
    · exact hwalk _ _ (fun q hq => List.mem_singleton.mp hq ▸ ho.textPlain) htext
    · exact absurd htext List.not_mem_nil
  · exact hwalk _ _ (fun q hq => List.mem_singleton.mp hq ▸ ho.octetStream) hroot

/-- A type that is not interned has no parents. -/
theorem IsOver.parents_of_foreign (ho : h.IsOver r) (ht : r.Foreign t) : h.parents t = [] := by
  rw [List.eq_nil_iff_forall_not_mem]
  intro p hp
  exact ht.not_holds (ho.child t p hp)

theorem IsOver.explicitAncestors_of_foreign (ho : h.IsOver r) (ht : r.Foreign t) :
    h.explicitAncestors t = [] := by
  rw [explicitAncestors, ho.parents_of_foreign ht, walk]

/-- A walk from a type of the registry never meets a foreign one. -/
theorem IsOver.walk_of_foreign (ho : h.IsOver r) {root : MediaType} (hroot : r.Holds root)
    (ht : r.Foreign t) (hu : r.Foreign u) (seen : List MediaType) :
    h.walk [root] (t :: seen) = h.walk [root] (u :: seen) := by
  apply walk_congr
  intro q hq x hpath
  have hx : r.Holds x := ho.holds_of_reaches (List.mem_singleton.mp hq ▸ hroot) hpath
  have hne : ∀ {v}, r.Foreign v → x ≠ v := fun hv heq => hv.not_holds (heq ▸ hx)
  rw [List.mem_cons, List.mem_cons, or_iff_right (hne ht), or_iff_right (hne hu)]

/-- Twins have the same parents. -/
theorem IsOver.parents_congr (ho : h.IsOver r) (htu : r.Twins t u) :
    h.parents t = h.parents u := by
  rcases htu with rfl | ⟨-, ht, hu⟩
  · rfl
  · rw [ho.parents_of_foreign ht, ho.parents_of_foreign hu]

/-- Twins have the same ancestors. -/
theorem IsOver.ancestors_congr (ho : h.IsOver r) (htu : r.Twins t u) :
    h.ancestors t = h.ancestors u := by
  have hmedia := htu.media_eq
  rcases htu with rfl | ⟨-, ht, hu⟩
  · rfl
  · have htext : h.textAncestors t = h.textAncestors u := by
      unfold textAncestors
      rw [ho.explicitAncestors_of_foreign ht, ho.explicitAncestors_of_foreign hu, List.any_cons,
        List.any_cons, hmedia, ho.walk_of_foreign ho.textPlain ht hu]
    unfold ancestors rootAncestors
    rw [htext, ho.explicitAncestors_of_foreign ht, ho.explicitAncestors_of_foreign hu,
      ho.walk_of_foreign ho.octetStream ht hu]

/-- Twins have the same supertypes and the same subtypes, if it is not one of them against
itself. -/
theorem IsOver.isSubtype_congr (ho : h.IsOver r) (htu : r.Twins t u) (hbc : r.Twins b c)
    (heq : t = b ↔ u = c) : h.isSubtype t b = h.isSubtype u c := by
  have hsubtype : b.subtype = c.subtype := congrArg TypeName.subtype hbc.name_eq
  have hroot : b.id = MediaType.octetStream.id ↔ c.id = MediaType.octetStream.id := by
    rcases hbc with rfl | ⟨-, hb, hc⟩
    · exact Iff.rfl
    · exact iff_of_false (hb.id_ne ho.octetStream) (hc.id_ne ho.octetStream)
  have hmem : (h.ancestors u).contains b = (h.ancestors u).contains c := by
    rcases hbc with rfl | ⟨-, hb, hc⟩
    · rfl
    · -- neither is an ancestor of anything
      have hno : ∀ {v}, r.Foreign v → (h.ancestors u).contains v = false := fun hv => by
        rw [Bool.eq_false_iff, Ne, List.contains_iff_mem]
        exact fun hmem => hv.not_holds (ho.holds_of_mem_ancestors hmem)
      rw [hno hb, hno hc]
  unfold isSubtype
  simp only [heq, hsubtype, hroot, hbc.media_eq, htu.media_eq, ho.ancestors_congr htu, hmem]

end Hierarchy

namespace IconTable

variable {table : IconTable} {h : Hierarchy} {r : Registry} {t u : MediaType}

/-- Icons are recorded for types of the registry only. -/
structure IsOver (table : IconTable) (r : Registry) : Prop where
  icons : ∀ e ∈ table.icons, r.Holds e.1
  genericIcons : ∀ e ∈ table.genericIcons, r.Holds e.1

theorem lookup_congr {entries : List (MediaType × String)} (hheld : ∀ e ∈ entries, r.Holds e.1)
    (htu : r.Twins t u) : entries.lookup t = entries.lookup u := by
  rcases htu with rfl | ⟨-, ht, hu⟩
  · rfl
  · have hnone : ∀ {v}, r.Foreign v → entries.lookup v = none := fun {v} hv => by
      rw [List.lookup_eq_none_iff]
      intro e he
      have hne : v ≠ e.1 := fun heq => hv.not_holds (heq ▸ hheld e he)
      exact bne_iff_ne.mpr hne
    rw [hnone ht, hnone hu]

theorem IsOver.iconName_congr (hi : table.IsOver r) (htu : r.Twins t u) :
    table.iconName t = table.iconName u := by
  rw [iconName, iconName, lookup_congr hi.icons htu, htu.name_eq]

theorem IsOver.genericIconName_congr (hi : table.IsOver r) (ho : h.IsOver r) (htu : r.Twins t u) :
    table.genericIconName h t = table.genericIconName h u := by
  unfold genericIconName
  rw [List.findSome?_cons, List.findSome?_cons, lookup_congr hi.genericIcons htu,
    ho.ancestors_congr htu, htu.media_eq]

theorem IsOver.iconNames_congr (hi : table.IsOver r) (ho : h.IsOver r) (htu : r.Twins t u) :
    table.iconNames h t = table.iconNames h u := by
  rw [iconNames, iconNames, hi.genericIconName_congr ho htu, lookup_congr hi.icons htu,
    htu.name_eq]

end IconTable

end MimeDatabase
