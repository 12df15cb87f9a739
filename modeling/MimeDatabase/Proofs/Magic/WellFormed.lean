import MimeDatabase.Proofs.Magic.Conditions
import MimeDatabase.Proofs.Magic.Grammar
import MimeDatabase.Proofs.TypeName

/-!
# What is read of a magic file is well formed

Every entry of every rule of a file has a signature that makes sense, at whatever depth it stands
(`wellFormed_of_mem_readRules`). What is read as an entry is a line of the grammar, and such a line
denotes nothing else (`MatchLine.wellFormed`). The entries of a file are those of its kept lines, so
nothing has to be checked again when they are put together.
-/

namespace MimeDatabase.Magic

/-- A rule as it stands in a magic file that was read. -/
structure Rule.WellFormed (r : Rule) : Prop where
  typeName : TypeName.WellFormed r.typeName
  priority_le : r.priority ≤ maxGrade
  entries_ne_nil : r.entries ≠ []
  signatures : ∀ e ∈ Entry.forestSubentries r.entries, e.signature.WellFormed

/-! ## The checks of signatures -/

/-- A well-formed signature passes the check of its entry. -/
theorem Signature.WellFormed.fault?_eq_none {s : Signature} (h : s.WellFormed) :
    s.fault? = none := by
  unfold Signature.fault?
  have hmask : ¬ s.mask.any (·.length != s.value.length) = true := by
    rw [Option.any_eq_true]
    rintro ⟨m, hm, hne⟩
    exact bne_iff_ne.mp hne (h.mask_length m hm)
  have hrange : s.range ≠ 0 := Nat.one_le_iff_ne_zero.mp h.range_pos
  rw [if_neg hmask, if_neg hrange]

namespace Entry

mutual

/-- A tree of well-formed signatures passes all checks. -/
theorem fault?_eq_none : ∀ e : Entry, (∀ f ∈ e.subentries, f.signature.WellFormed) →
    e.fault? = none
  | node s cs, h => by
    rw [subentries, List.forall_mem_cons] at h
    rw [fault?, forestFault?_eq_none cs h.2, Option.none_or]
    exact h.1.fault?_eq_none

/-- Entries whose signatures make sense pass the checks that are made when they are put together. -/
theorem forestFault?_eq_none : ∀ es : List Entry,
    (∀ f ∈ forestSubentries es, f.signature.WellFormed) → forestFault? es = none
  | [], _ => rfl
  | e :: es, h => by
    rw [forestSubentries, List.forall_mem_append] at h
    rw [forestFault?, fault?_eq_none e h.1, forestFault?_eq_none es h.2, Option.none_or]

end

end Entry

/-! ## Match lines -/

/-- A line of the grammar denotes a signature that makes sense. -/
theorem MatchLine.wellFormed {line : List UInt8} {depth : Nat} {s : Signature}
    (h : MatchLine line depth s) : s.WellFormed := by
  cases h with
  | @line _ _ value _ _ _ _ start mask positions word range _ offset value_pos value_lt spellsMask
      _ _ _ range_ne word_mem word_dvd =>
    have hrange : 1 ≤ (positions.or range).getD 1 := by
      cases offset with
      | range _ _ hlt => exact Nat.sub_pos_of_lt hlt
      | start =>
        cases range with
        | none => exact Nat.le_refl 1
        | some n => exact Nat.one_le_iff_ne_zero.mpr fun hn => range_ne (congrArg some hn)
    have hmask : ∀ m ∈ mask, m.length = value.length := by
      cases spellsMask with
      | missing => exact fun m hm => absurd hm (Option.not_mem_none m)
      | bytes h => exact fun m hm => Option.some.inj hm ▸ h
    -- zero and one stand for single bytes
    have hsize : max (word.getD 1) 1 ∈ [1, 2, 4] ∧ max (word.getD 1) 1 ∣ value.length := by
      generalize word.getD 1 = size at word_mem word_dvd
      simp only [List.mem_cons, List.not_mem_nil, or_false] at word_mem
      rcases word_mem with rfl | rfl | rfl | rfl
      · exact ⟨by decide, Nat.one_dvd value.length⟩
      · exact ⟨by decide, Nat.one_dvd value.length⟩
      · exact ⟨by decide, word_dvd (by decide)⟩
      · exact ⟨by decide, word_dvd (by decide)⟩
    exact ⟨Int.natCast_nonneg start, hrange, value_pos, value_lt, hmask, hsize.1, hsize.2⟩

/-- What is read from a match line is well formed. -/
theorem wellFormed_of_readLine {bs : List UInt8} {indent : Nat} {s : Signature}
    (h : (readLine bs).1 = .entry indent s) : s.WellFormed := by
  obtain ⟨line, hline, -⟩ := exists_matchLine_of_readLine (Prod.ext h rfl)
  exact hline.wellFormed

/-! ## Files -/

/-- Every match line among the records of some data was read as a line. -/
theorem exists_readLine_of_mem {offset : Nat} {bs : List UInt8} {r : Located Record}
    {reading : Reading} (hr : r ∈ readRecords offset bs) (hline : r.item = .line reading) :
    ∃ line, (readLine line).1 = reading := by
  fun_induction readRecords offset bs with
  | case1 offset => exact absurd hr List.not_mem_nil
  | case2 offset b bs _ ih =>
    rcases List.mem_cons.mp hr with rfl | hrest
    · dsimp only at hline
      unfold readRecord at hline
      split at hline
      · cases hline
      · exact ⟨b :: bs, Record.line.inj hline⟩
    · exact ih hrest

/-- The lines of the sections are the match lines among the records. -/
theorem exists_record_of_mem_sections {records : List (Located Record)} {s : Section}
    {l : Located Reading} (hs : s ∈ sections records) (hl : l ∈ s.lines) :
    ∃ r ∈ records, r.item = .line l.item := by
  induction records generalizing s with
  | nil =>
    rw [sections, List.mem_singleton] at hs
    rw [hs] at hl
    exact absurd hl List.not_mem_nil
  | cons record records ih =>
    have hrest : ∀ t ∈ sections records, l ∈ t.lines →
        ∃ r ∈ record :: records, r.item = .line l.item := by
      intro t ht hlt
      obtain ⟨r, hr, hitem⟩ := ih ht hlt
      exact ⟨r, List.mem_cons_of_mem record hr, hitem⟩
    obtain ⟨offset, item⟩ := record
    -- the first section grows by the record, or the record heads it and an empty one is put before
    cases item with
    | header line =>
      rw [sections] at hs
      cases hsections : sections records with
      | nil =>
        rw [hsections] at hs
        exact absurd hs List.not_mem_nil
      | cons first more =>
        rw [hsections] at hs hrest
        rcases List.mem_cons.mp hs with rfl | hs
        · exact absurd hl List.not_mem_nil
        · rcases List.mem_cons.mp hs with rfl | hs
          · exact hrest first List.mem_cons_self hl
          · exact hrest s (List.mem_cons_of_mem first hs) hl
    | line reading =>
      rw [sections] at hs
      cases hsections : sections records with
      | nil =>
        rw [hsections] at hs
        exact absurd hs List.not_mem_nil
      | cons first more =>
        rw [hsections] at hs hrest
        rcases List.mem_cons.mp hs with rfl | hs
        · rcases List.mem_cons.mp hl with rfl | hl
          · exact ⟨_, List.mem_cons_self, rfl⟩
          · exact hrest first List.mem_cons_self hl
        · exact hrest s (List.mem_cons_of_mem first hs) hl

/-- Every signature in a file is well formed. -/
theorem wellFormed_of_mem_documentSections {data : List UInt8} {s : Section} {indent : Nat}
    {signature : Signature} (hs : s ∈ documentSections data)
    (hline : .entry indent signature ∈ s.readings) : signature.WellFormed := by
  unfold documentSections at hs
  split at hs
  · obtain ⟨l, hl, hitem⟩ := List.mem_map.mp hline
    obtain ⟨r, hr, hrecord⟩ := exists_record_of_mem_sections hs hl
    obtain ⟨line, hread⟩ := exists_readLine_of_mem hr hrecord
    exact wellFormed_of_readLine (hread.trans hitem)
  · exact absurd hs List.not_mem_nil

/-- The entries of the rules of a file make sense, at all depths. -/
theorem wellFormed_signature {data : List UInt8} {r : Rule} {e : Entry} (hr : r ∈ readRules data)
    (he : e ∈ Entry.forestSubentries r.entries) : e.signature.WellFormed := by
  obtain ⟨s, hs, -, i, hkept, rfl⟩ := (mem_readRules_iff data e).mp ⟨r, hr, he⟩
  obtain ⟨indent, signature, hi⟩ := Outline.exists_entry_of_isKept hkept
  rw [Outline.entryAt_eq, Entry.signature, Outline.signatureAt, hi]
  exact wellFormed_of_mem_documentSections hs (List.mem_of_getElem? hi)

/-- The type name of a header is well formed. -/
theorem wellFormed_of_readHeader {line : List UInt8} {priority : Nat} {name : String}
    (h : readHeader line = .ok (priority, name)) : TypeName.WellFormed name := by
  unfold readHeader at h
  split at h
  · cases h
  · split at h
    · cases h
    · split at h
      · cases h
      · split at h
        · cases h
        · split at h
          · next hvalid =>
            cases h
            exact ⟨hvalid, TypeName.normalize_normalize _⟩
          · cases h

/-- **Every rule of a magic file is well formed**, whatever bytes the file is made of. -/
theorem wellFormed_of_mem_readRules {data : List UInt8} {r : Rule} (hr : r ∈ readRules data) :
    r.WellFormed := by
  have hsignatures : ∀ e ∈ Entry.forestSubentries r.entries, e.signature.WellFormed :=
    fun e he => wellFormed_signature hr he
  rw [(readDocument_eq_outline data).1, List.mem_filterMap] at hr
  obtain ⟨s, -, hs⟩ := hr
  unfold Section.outlinedRule at hs
  split at hs
  · next priority name hheader =>
    obtain ⟨header, -, hread⟩ := Option.map_eq_some_iff.mp hheader
    dsimp only at hs
    split at hs
    · cases hs
    · next hne =>
      cases hs
      exact ⟨wellFormed_of_readHeader hread, clampGrade_le _,
        fun hnil => hne (List.isEmpty_iff.mpr hnil), hsignatures⟩
  · cases hs

end MimeDatabase.Magic
