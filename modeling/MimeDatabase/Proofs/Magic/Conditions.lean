import MimeDatabase.Magic.Matching
import MimeDatabase.Proofs.Magic.Sections

/-!
# Conditions that are skipped

The lines below an entry are conditions that data has to meet besides the entry itself. A faulty
line is skipped and everything else is kept, so an entry may be left with fewer conditions than its
text names. `holds_keptEntry` says what that means. As long as one line below it is kept, an entry
still asks for one of them, and so a skipped condition counts as one that is never met. If all lines
below it are skipped, the entry is kept without conditions, and its own signature is enough.

The entries of the rules of a file, at all depths, are those of the kept lines of its sections
(`mem_readRules_iff`), so this is said of lines.
-/

namespace MimeDatabase.Magic

namespace Entry

mutual

/-- An entry and all entries below it. -/
def subentries : Entry → List Entry
  | node s cs => node s cs :: forestSubentries cs

/-- The entries of a forest, at all depths. -/
def forestSubentries : List Entry → List Entry
  | [] => []
  | e :: es => e.subentries ++ forestSubentries es

end

/-- What stands in a forest stands in one of its trees. -/
theorem mem_forestSubentries_iff {e : Entry} {es : List Entry} :
    e ∈ forestSubentries es ↔ ∃ f ∈ es, e ∈ f.subentries := by
  induction es with
  | nil => simp [forestSubentries]
  | cons f es ih => rw [forestSubentries, List.mem_append, ih, List.exists_mem_cons_iff]

/-- What stands in a tree is its root or stands below one of the children. -/
theorem mem_subentries_node_iff {e : Entry} {s : Signature} {cs : List Entry} :
    e ∈ (node s cs).subentries ↔ e = node s cs ∨ ∃ c ∈ cs, e ∈ c.subentries := by
  rw [subentries, List.mem_cons, mem_forestSubentries_iff]

theorem self_mem_subentries (e : Entry) : e ∈ e.subentries := by
  obtain ⟨s, cs⟩ := e
  exact mem_subentries_node_iff.mpr (.inl rfl)

mutual

/-- With an entry, its children stand in a tree, too. -/
theorem child_mem_subentries {s : Signature} {cs : List Entry} {c : Entry} (hc : c ∈ cs) :
    ∀ e : Entry, node s cs ∈ e.subentries → c ∈ e.subentries
  | node s' cs', h => by
    rw [subentries, List.mem_cons] at h ⊢
    rcases h with heq | hbelow
    · obtain ⟨-, rfl⟩ := Entry.node.inj heq
      exact .inr (mem_forestSubentries_iff.mpr ⟨c, hc, self_mem_subentries c⟩)
    · exact .inr (child_mem_forestSubentries hc cs' hbelow)

/-- What stands below an entry of a forest is an entry of the forest. -/
theorem child_mem_forestSubentries {s : Signature} {cs : List Entry} {c : Entry} (hc : c ∈ cs) :
    ∀ es : List Entry, node s cs ∈ forestSubentries es → c ∈ forestSubentries es
  | [], h => by
    rw [forestSubentries] at h
    exact absurd h List.not_mem_nil
  | e :: es, h => by
    rw [forestSubentries, List.mem_append] at h ⊢
    rcases h with he | hes
    · exact .inl (child_mem_subentries hc e he)
    · exact .inr (child_mem_forestSubentries hc es hes)

end

/-- Data satisfies one of some entries. -/
theorem anyHolds_eq_true_iff {order : ByteOrder} {data : List UInt8} {es : List Entry} :
    anyHolds order data es = true ↔ ∃ e ∈ es, e.holds order data = true := by
  induction es with
  | nil => simp [anyHolds]
  | cons e es ih => rw [anyHolds, Bool.or_eq_true, ih, List.exists_mem_cons_iff]

end Entry

namespace Outline

section Lines

variable {lines : List Reading} {i j : Nat} {e : Entry}

/-! ## The entries of the kept lines -/

/-- The children of a line are the kept lines whose parent it is. -/
theorem mem_children_iff :
    j ∈ children lines i ↔ isKept lines j = true ∧ parent? lines j = some i := by
  rw [children, List.mem_filter, mem_keptNumbers, beq_iff_eq]

/-- The roots are the kept lines that lie below no line. -/
theorem mem_roots_of_parent (hk : isKept lines i = true) (hp : parent? lines i = none) :
    i ∈ roots lines := by
  rw [roots, List.mem_filter, mem_keptNumbers, beq_iff_eq]
  exact ⟨hk, indentAt_of_isKept hk hp⟩

/-- The entries at and below a kept line are those of kept lines. -/
theorem exists_kept_of_mem_subentries :
    ∀ i : Nat, isKept lines i = true → e ∈ (entryAt lines i).subentries →
      ∃ k, isKept lines k = true ∧ entryAt lines k = e
  | i, hk, h => by
    rw [entryAt_eq, Entry.mem_subentries_node_iff, ← entryAt_eq] at h
    rcases h with rfl | ⟨c, hc, hbelow⟩
    · exact ⟨i, hk, rfl⟩
    · obtain ⟨k, hki, rfl⟩ := List.mem_map.mp hc
      have := children_bounds hki
      exact exists_kept_of_mem_subentries k (mem_children_iff.mp hki).1 hbelow
termination_by i => lines.length - i

/-- The entry of a kept line stands in the forest: at its root, or below the entry of the line that
it lies below. -/
theorem entryAt_mem_forest :
    ∀ i : Nat, isKept lines i = true → entryAt lines i ∈ Entry.forestSubentries (forest lines)
  | i, hk => by
    cases hp : parent? lines i with
    | none =>
      exact Entry.mem_forestSubentries_iff.mpr
        ⟨_, List.mem_map_of_mem (mem_roots_of_parent hk hp), Entry.self_mem_subentries _⟩
    | some p =>
      have := parent?_lt hp
      have hparent := entryAt_mem_forest p (isKept_parent hk hp).1
      rw [entryAt_eq lines p] at hparent
      exact Entry.child_mem_forestSubentries
        (List.mem_map_of_mem (mem_children_iff.mpr ⟨hk, hp⟩)) _ hparent
termination_by i => i

/-- The entries of a forest, at every depth, are those of the kept lines. -/
theorem mem_forest_iff :
    e ∈ Entry.forestSubentries (forest lines) ↔
      ∃ i, isKept lines i = true ∧ entryAt lines i = e := by
  constructor
  · intro h
    obtain ⟨root, hroot, he⟩ := Entry.mem_forestSubentries_iff.mp h
    obtain ⟨i, hi, rfl⟩ := List.mem_map.mp hroot
    exact exists_kept_of_mem_subentries i (mem_keptNumbers.mp (List.mem_filter.mp hi).1) he
  · rintro ⟨i, hk, rfl⟩
    exact entryAt_mem_forest i hk

/-! ## The conditions of an entry -/

/-- The entry of a line asks for its own signature and, if lines are kept below it, for one of
these. -/
theorem holds_entryAt (order : ByteOrder) (data : List UInt8) :
    (entryAt lines i).holds order data = true ↔
      (signatureAt lines i).isFound order data = true ∧
        (children lines i = [] ∨
          ∃ k ∈ children lines i, (entryAt lines k).holds order data = true) := by
  rw [entryAt_eq, Entry.holds, Bool.and_eq_true, Bool.or_eq_true, Entry.anyHolds_eq_true_iff,
    List.isEmpty_iff, List.map_eq_nil_iff]
  simp only [List.mem_map, exists_exists_and_eq_and]

end Lines

end Outline

namespace Section

/-- What the lines of a section are read as. -/
def readings (s : Section) : List Reading := s.lines.map (·.item)

/-- Whether a section has a header that can be used. -/
def IsAccepted (s : Section) : Prop :=
  ∃ header ∈ s.header, ∃ found, readHeader header.item = .ok found

/-- The rule of a section has the entries of the kept lines, if the header can be used. Where
there are no entries there is no rule, so only what does not hold of no entries can be said in
this way. -/
theorem exists_outlinedRule_iff (s : Section) {P : List Entry → Prop} (hnil : ¬ P []) :
    (∃ r, s.outlinedRule = some r ∧ P r.entries) ↔
      s.IsAccepted ∧ P (Outline.forest s.readings) := by
  unfold outlinedRule IsAccepted
  cases s.header with
  | none => simp
  | some header =>
    cases hh : readHeader header.item with
    | error fault => simp [hh]
    | ok found =>
      obtain ⟨priority, name⟩ := found
      simp only [Option.map_some, hh, readings]
      split
      next hempty =>
        rw [List.isEmpty_iff] at hempty
        simp [hempty, hnil]
      next => simp [hh, Rule.make]

end Section

/-- The rules of a file have the entries of the kept lines of its sections. -/
theorem exists_mem_readRules_iff (file : List UInt8) {P : List Entry → Prop} (hnil : ¬ P []) :
    (∃ r ∈ readRules file, P r.entries) ↔
      ∃ s ∈ documentSections file, s.IsAccepted ∧ P (Outline.forest s.readings) := by
  rw [(readDocument_eq_outline file).1]
  simp only [List.mem_filterMap, ← Section.exists_outlinedRule_iff _ hnil]
  constructor
  · rintro ⟨r, ⟨s, hs, hr⟩, hP⟩
    exact ⟨s, hs, r, hr, hP⟩
  · rintro ⟨s, hs, r, hr, hP⟩
    exact ⟨r, ⟨s, hs, hr⟩, hP⟩

/-- The entries of the rules of a file, at all depths, come from the kept lines of its sections. -/
theorem mem_readRules_iff (file : List UInt8) (e : Entry) :
    (∃ r ∈ readRules file, e ∈ Entry.forestSubentries r.entries) ↔
      ∃ s ∈ documentSections file, s.IsAccepted ∧
        ∃ i, Outline.isKept s.readings i = true ∧ Outline.entryAt s.readings i = e := by
  have hnil : e ∉ Entry.forestSubentries [] := by
    rw [Entry.forestSubentries]
    exact List.not_mem_nil
  refine (exists_mem_readRules_iff file
    (P := fun es => e ∈ Entry.forestSubentries es) hnil).trans ?_
  simp only [Outline.mem_forest_iff]

/-! ## What an entry still asks for -/

/-- **Skipped conditions.** The entries of the rules of a file are those of the kept lines of its
sections. If lines stand below such a line, then its entry is only satisfied together with the entry
of a line that is kept below it, unless all of them are skipped and the signature on the line itself
is found. In that case the entry is kept without conditions. -/
theorem holds_keptEntry (file : List UInt8) :
    (∀ e, (∃ r ∈ readRules file, e ∈ Entry.forestSubentries r.entries) ↔
        ∃ s ∈ documentSections file, s.IsAccepted ∧
          ∃ i, Outline.isKept s.readings i = true ∧ Outline.entryAt s.readings i = e) ∧
      ∀ s ∈ documentSections file, s.IsAccepted → ∀ i j,
        Outline.isKept s.readings i = true → Outline.parent? s.readings j = some i →
        ∀ order data,
          (((Outline.entryAt s.readings i).holds order data = true →
              ∃ k ∈ Outline.children s.readings i,
                (Outline.entryAt s.readings k).holds order data = true) ↔
            ¬ (Outline.children s.readings i = [] ∧
              (Outline.signatureAt s.readings i).isFound order data = true)) ∧
          (Outline.children s.readings i = [] →
            (Outline.entryAt s.readings i).children = []) := by
  refine ⟨mem_readRules_iff file, fun s _ _ i j _ _ order data => ⟨?_, fun hnone => ?_⟩⟩
  · rw [Outline.holds_entryAt]
    constructor
    · rintro h ⟨hnone, hfound⟩
      obtain ⟨k, hk, -⟩ := h ⟨hfound, .inl hnone⟩
      rw [hnone] at hk
      exact List.not_mem_nil hk
    · rintro h ⟨hfound, hnone | hsome⟩
      · exact absurd ⟨hnone, hfound⟩ h
      · exact hsome
  · rw [Outline.entryAt_eq, hnone]
    rfl

/-- A section with two entries, and below the first of them a single line, which has an empty
value. -/
def starvedSection : Section where
  header := some ⟨12, "[50:image/x-a]".toList.map byteOf⟩
  lines :=
    [⟨27, .entry 0 ⟨0, 1, [0x41], none, 1⟩⟩,
      ⟨34, .fault (.fields [.emptyValue]) (some 1)⟩,
      ⟨41, .entry 0 ⟨4, 1, [0x42], none, 1⟩⟩]

/-- The file of that section. -/
def starvedFile : List UInt8 :=
  fileHeader ++ "[50:image/x-a]\n>0=".toList.map byteOf ++ [0, 1] ++
    "A\n1>0=".toList.map byteOf ++ [0, 0] ++ "\n>4=".toList.map byteOf ++ [0, 1] ++
    "B\n".toList.map byteOf

/-- The entry whose only condition is skipped is satisfied without one. -/
theorem holds_unconditioned_starvedFile :
    ¬ ∀ s ∈ documentSections starvedFile, s.IsAccepted → ∀ i j,
        Outline.isKept s.readings i = true → Outline.parent? s.readings j = some i →
        ∀ order data, (Outline.entryAt s.readings i).holds order data = true →
          ∃ k ∈ Outline.children s.readings i,
            (Outline.entryAt s.readings k).holds order data = true := by
  intro h
  have hs : starvedSection ∈ documentSections starvedFile := by decide +kernel
  have haccepted : starvedSection.IsAccepted := ⟨_, rfl, (50, "image/x-a"), by decide +kernel⟩
  have hnone : Outline.children starvedSection.readings 0 = [] := by decide +kernel
  have hholds : (Outline.entryAt starvedSection.readings 0).holds .little [0x41] = true :=
    Outline.holds_entryAt .little [0x41] |>.mpr ⟨by decide, .inl hnone⟩
  obtain ⟨k, hk, -⟩ :=
    h starvedSection hs haccepted 0 1 (Outline.isKept_margin rfl) (by decide) .little [0x41] hholds
  rw [hnone] at hk
  exact List.not_mem_nil hk

end MimeDatabase.Magic
