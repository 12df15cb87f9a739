import Mathlib.Data.List.Basic
import MimeDatabase.Magic.Pass
import MimeDatabase.Proofs.Magic.Independence

/-!
# Reading a magic file makes progress

Every record uses up some of the data, whatever stands in it: the fields are cut off the front, and
even a record that breaks off takes the byte it begins with (`readRecord_suffix`, `readRecord_lt`).
So a pass over a file moves on in every turn (`step?_advances`), and it comes to the end after no
more turns than there are bytes. A turn reports one fault at most, at the place where it began.

The pass finds the rules and reports of the file (`readFile_eq_last`). This is shown by an induction
over the turns. What a pass finds is what it has found already, then what the open section yields
with the lines up to the next header, then what the further sections yield.
-/

namespace MimeDatabase.Magic

/-! ## What is left of the data -/

section Suffixes

variable {delimiter : UInt8} {bs text rest : List UInt8}

/-- What is left after a field is an end of the text. -/
theorem takeUntil?_suffix (h : takeUntil? delimiter bs = some (text, rest)) : rest <:+ bs :=
  ⟨text ++ [delimiter], by rw [eq_of_takeUntil? h, List.append_assoc, List.singleton_append]⟩

theorem afterLine_suffix (bs : List UInt8) : afterLine bs <:+ bs := by
  induction bs with
  | nil => exact List.suffix_refl []
  | cons b bs ih =>
    rw [afterLine]
    split
    · exact List.suffix_cons b bs
    · exact ih.trans (List.suffix_cons b bs)

theorem takeExactly?_suffix {count : Nat} (h : takeExactly? count bs = some (text, rest)) :
    rest <:+ bs :=
  ⟨text, ((takeExactly?_eq_some_iff.mp h).1).symm⟩

theorem takeMarked_suffix (mark : UInt8) (bs : List UInt8) : (takeMarked mark bs).2 <:+ bs := by
  cases bs with
  | nil => exact List.suffix_refl []
  | cons b bs =>
    rw [takeMarked]
    split
    · exact (List.dropWhile_suffix isDigitByte).trans (List.suffix_cons b bs)
    · exact List.suffix_refl _

theorem takeLineEnd_suffix (bs : List UInt8) : (takeLineEnd bs).2 <:+ bs := by
  cases bs with
  | nil => exact List.suffix_refl []
  | cons b bs =>
    rw [takeLineEnd]
    split
    · exact List.suffix_cons b bs
    · exact afterLine_suffix _

theorem takeMask?_suffix {length : Nat} {mask : Option (List UInt8)}
    (h : takeMask? length bs = some (mask, rest)) : rest <:+ bs := by
  cases bs with
  | nil =>
    obtain ⟨-, rfl⟩ := Prod.mk.inj (Option.some.inj h)
    exact List.suffix_refl []
  | cons b bs =>
    rw [takeMask?] at h
    split at h
    · obtain ⟨⟨chunk, r⟩, hr, he⟩ := Option.map_eq_some_iff.mp h
      obtain ⟨-, rfl⟩ := Prod.mk.inj he
      exact (takeExactly?_suffix hr).trans (List.suffix_cons b bs)
    · obtain ⟨-, rfl⟩ := Prod.mk.inj (Option.some.inj h)
      exact List.suffix_refl _

theorem cutValue_suffix (indentText offsetText bs : List UInt8) :
    (cutValue indentText offsetText bs).2 <:+ bs := by
  unfold cutValue
  split
  next high low bs =>
    have hfront : bs <:+ high :: low :: bs := ⟨[high, low], rfl⟩
    split
    next => exact List.nil_suffix
    next value bs₁ hvalue =>
      split
      next => exact List.nil_suffix
      next mask bs₂ hmask =>
        have hfields : bs₂ <:+ high :: low :: bs :=
          (takeMask?_suffix hmask).trans ((takeExactly?_suffix hvalue).trans hfront)
        have hword := (takeMarked_suffix (byteOf '~') bs₂).trans hfields
        have hrange := (takeMarked_suffix (byteOf '+') _).trans hword
        exact (takeLineEnd_suffix _).trans hrange
  next => exact List.nil_suffix

theorem cutLine_suffix (bs : List UInt8) : (cutLine bs).2 <:+ bs := by
  unfold cutLine
  split
  next => exact afterLine_suffix bs
  next indentText rest hindent =>
    have hrest := takeUntil?_suffix hindent
    split
    next => exact (afterLine_suffix rest).trans hrest
    next offsetText rest hoffset =>
      exact (cutValue_suffix _ _ _).trans ((takeUntil?_suffix hoffset).trans hrest)

/-- What is left behind a record is the end of the data. -/
theorem readRecord_suffix (b : UInt8) (bs : List UInt8) : (readRecord b bs).2 <:+ b :: bs := by
  unfold readRecord
  split
  next => exact afterLine_suffix (b :: bs)
  next =>
    show (readLine (b :: bs)).2 <:+ b :: bs
    rw [readLine_rest]
    exact cutLine_suffix (b :: bs)

end Suffixes

/-! ## One turn -/

namespace Pass

/-- A turn moves the place on over at least one byte and reports one fault at most, at the place
where it began. -/
structure Advances (p q : Pass) : Prop where
  moves : ∃ used, used ≠ [] ∧ p.rest = used ++ q.rest ∧ q.offset = p.offset + used.length
  reports : q.reports = p.reports ∨ ∃ fault, q.reports = p.reports ++ [⟨p.offset, fault⟩]

variable {p q : Pass}

/-- Each turn moves the cursor on. -/
theorem Advances.offset_lt (h : p.Advances q) : p.offset < q.offset := by
  obtain ⟨used, hused, -, hoffset⟩ := h.moves
  have := List.length_pos_iff.mpr hused
  omega

/-- Each turn leaves less to read. -/
theorem Advances.length_lt (h : p.Advances q) : q.rest.length < p.rest.length := by
  obtain ⟨used, hused, hrest, -⟩ := h.moves
  have := List.length_pos_iff.mpr hused
  rw [hrest, List.length_append]
  omega

/-- The end of the data stays where it is. -/
theorem Advances.end_eq (h : p.Advances q) :
    q.offset + q.rest.length = p.offset + p.rest.length := by
  obtain ⟨used, -, hrest, hoffset⟩ := h.moves
  rw [hrest, List.length_append]
  omega

/-- A turn reports one fault at most, and nothing that was reported before is lost. -/
theorem reports_goOn (p : Pass) (record : Record) (rest : List UInt8) :
    ∃ fault?, (p.goOn record rest).reports = p.reports ++ p.reportsHere fault? := by
  cases record with
  | header line => exact ⟨(OpenSection.ofHeader line).2, rfl⟩
  | line reading => exact ⟨(p.current.addLine reading).2, rfl⟩

/-- Every turn makes progress. -/
theorem step?_advances (h : p.step? = some q) : p.Advances q := by
  obtain ⟨b, bs, hrest, rfl⟩ := step?_eq_some_iff.mp h
  constructor
  · obtain ⟨used, hused⟩ := readRecord_suffix b bs
    have hlt := readRecord_lt b bs
    rw [← hused, List.length_append] at hlt
    refine ⟨used, ?_, ?_, ?_⟩
    · rintro rfl
      exact absurd hlt (by simp)
    · rw [rest_goOn, hused, hrest]
    · rw [offset_goOn, hrest, ← hused, List.length_append, Nat.add_sub_cancel]
  · obtain ⟨fault?, hreports⟩ := reports_goOn p (readRecord b bs).1 (readRecord b bs).2
    rw [hreports]
    cases fault? with
    | none => exact Or.inl (List.append_nil _)
    | some fault => exact Or.inr ⟨fault, rfl⟩

/-- The last turn is over when nothing is left to read. -/
theorem step?_eq_none_iff : p.step? = none ↔ p.rest = [] := by
  unfold step?
  cases p.rest <;> simp

/-! ## All turns -/

theorem turns_of_end (h : p.step? = none) : p.turns = [] := by
  rw [turns]
  split
  next => rfl
  next q hq => exact absurd (h.symm.trans hq) (by simp)

theorem turns_of_step (h : p.step? = some q) : p.turns = p :: q.turns := by
  rw [turns]
  split
  next hnone => exact absurd (hnone.symm.trans h) (by simp)
  next q' hq =>
    obtain rfl := Option.some.inj (h.symm.trans hq)
    rfl

theorem last_of_end (h : p.step? = none) : p.last = p := by
  rw [last]
  split
  next => rfl
  next q hq => exact absurd (h.symm.trans hq) (by simp)

theorem last_of_step (h : p.step? = some q) : p.last = q.last := by
  rw [last]
  split
  next hnone => exact absurd (hnone.symm.trans h) (by simp)
  next q' hq =>
    obtain rfl := Option.some.inj (h.symm.trans hq)
    rfl

/-- Behind the last turn there is nothing more to read. -/
theorem step?_last (p : Pass) : p.last.step? = none := by
  induction p using last.induct with
  | case1 p h =>
    rw [last_of_end h]
    exact h
  | case2 p q h _ ih =>
    rw [last_of_step h]
    exact ih

/-- There are no more turns than bytes. -/
theorem length_turns_le (p : Pass) : p.turns.length ≤ p.rest.length := by
  induction p using turns.induct with
  | case1 p h =>
    rw [turns_of_end h]
    exact Nat.zero_le _
  | case2 p q h _ ih =>
    have := (step?_advances h).length_lt
    rw [turns_of_step h, List.length_cons]
    omega

/-- All records are read between the place of a pass and the end of the data. -/
theorem offset_bounds_of_mem_turns {t : Pass} (ht : t ∈ p.turns) :
    p.offset ≤ t.offset ∧ t.offset < p.offset + p.rest.length := by
  induction p using turns.induct with
  | case1 p h =>
    rw [turns_of_end h] at ht
    exact absurd ht List.not_mem_nil
  | case2 p q h _ ih =>
    have hlt := (step?_advances h).offset_lt
    have hend := (step?_advances h).end_eq
    rw [turns_of_step h] at ht
    rcases List.mem_cons.mp ht with rfl | ht
    · have := (step?_advances h).length_lt
      omega
    · have := ih ht
      omega

/-- Each turn begins behind those before it. -/
theorem sorted_turns (p : Pass) : (p.turns.map (·.offset)).Pairwise (· < ·) := by
  induction p using turns.induct with
  | case1 p h =>
    rw [turns_of_end h]
    exact List.Pairwise.nil
  | case2 p q h _ ih =>
    rw [turns_of_step h, List.map_cons, List.pairwise_cons]
    refine ⟨fun offset hoffset => ?_, ih⟩
    obtain ⟨t, ht, rfl⟩ := List.mem_map.mp hoffset
    exact Nat.lt_of_lt_of_le (step?_advances h).offset_lt (offset_bounds_of_mem_turns ht).1

/-- The reports of all turns stand at the places of turns, in their order. -/
theorem reports_last (p : Pass) :
    ∃ later, p.last.reports = p.reports ++ later ∧
      (later.map (·.offset)).Sublist (p.turns.map (·.offset)) := by
  induction p using turns.induct with
  | case1 p h =>
    refine ⟨[], ?_, List.nil_sublist _⟩
    rw [last_of_end h, List.append_nil]
  | case2 p q h _ ih =>
    obtain ⟨later, hlast, hplaces⟩ := ih
    rw [last_of_step h, turns_of_step h, hlast]
    rcases (step?_advances h).reports with hsame | ⟨fault, hone⟩
    · exact ⟨later, by rw [hsame], hplaces.cons p.offset⟩
    · refine ⟨⟨p.offset, fault⟩ :: later, ?_, hplaces.cons_cons p.offset⟩
      rw [hone, List.append_assoc, List.singleton_append]

end Pass

/-! ## The open section -/

namespace OpenSection

/-- The rule of the open section if some lines follow. -/
def ruleWith (s : OpenSection) (lines : List (Located Reading)) : Option Rule :=
  match s with
  | before | refused => none
  | accepted priority name kept progress =>
    (accepted priority name (kept ++ keptLines (judgeAll progress lines)) progress).rule?

/-- What is reported about the lines if they follow. -/
def reportsOn (s : OpenSection) (lines : List (Located Reading)) : List (Located Fault) :=
  match s with
  | before => strayReports lines
  | refused => []
  | accepted _ _ _ progress => reportedLines (judgeAll progress lines)

variable (s : OpenSection) (l : Located Reading) (lines : List (Located Reading))

theorem ruleWith_nil : s.ruleWith [] = s.rule? := by
  cases s with
  | before => rfl
  | refused => rfl
  | accepted priority name kept progress => simp only [ruleWith, judgeAll, keptLines,
      List.filterMap_nil, List.append_nil, rule?]

theorem reportsOn_nil : s.reportsOn [] = [] := by
  cases s <;> rfl

/-- The first line joins the section, the others follow. -/
theorem ruleWith_cons : s.ruleWith (l :: lines) = (s.addLine l.item).1.ruleWith lines := by
  cases s with
  | before => rfl
  | refused => rfl
  | accepted priority name kept progress =>
    rw [ruleWith, judgeAll, addLine]
    obtain ⟨verdict, progress'⟩ := judge progress l.item
    cases verdict with
    | kept indent signature =>
      show (accepted priority name
          (kept ++ (indent, signature) :: keptLines (judgeAll progress' lines)) progress).rule? =
        (accepted priority name
          (kept ++ [(indent, signature)] ++ keptLines (judgeAll progress' lines)) progress').rule?
      rw [List.append_cons]
      rfl
    | reported fault => rfl
    | dropped => rfl

/-- What is reported about lines is reported about the first, and then about the others. -/
theorem reportsOn_cons :
    s.reportsOn (l :: lines) =
      ((s.addLine l.item).2.toList.map fun fault => ⟨l.offset, fault⟩) ++
        (s.addLine l.item).1.reportsOn lines := by
  cases s with
  | before =>
    obtain ⟨offset, reading⟩ := l
    cases reading <;> rfl
  | refused => rfl
  | accepted priority name kept progress =>
    rw [reportsOn, judgeAll, addLine]
    obtain ⟨verdict, progress'⟩ := judge progress l.item
    cases verdict <;> rfl

/-- A section is what its header opens, with its lines. -/
theorem ruleWith_ofHeader (header : Located (List UInt8)) :
    (Section.read ⟨some header, lines⟩).rule = (ofHeader header.item).1.ruleWith lines := by
  unfold Section.read ofHeader
  simp only
  cases hh : readHeader header.item with
  | error fault => rfl
  | ok found =>
    obtain ⟨priority, name⟩ := found
    simp only [ruleWith, rule?, List.nil_append]
    split <;> rfl

/-- A section reports about its header, and then about its lines. -/
theorem reportsOn_ofHeader (header : Located (List UInt8)) :
    (Section.read ⟨some header, lines⟩).reports =
      ((ofHeader header.item).2.toList.map fun fault => ⟨header.offset, fault⟩) ++
        (ofHeader header.item).1.reportsOn lines := by
  unfold Section.read ofHeader
  simp only
  cases hh : readHeader header.item with
  | error fault => rfl
  | ok found =>
    obtain ⟨priority, name⟩ := found
    simp only [reportsOn]
    split <;> rfl

end OpenSection

/-! ## A pass over a file -/

/-- The lines before the first header are in a section without one. -/
theorem exists_sections_eq (records : List (Located Record)) :
    ∃ lines more, sections records = ⟨none, lines⟩ :: more := by
  induction records with
  | nil => exact ⟨[], [], rfl⟩
  | cons r records ih =>
    obtain ⟨lines, more, hs⟩ := ih
    obtain ⟨offset, record⟩ := r
    cases record with
    | header line =>
      rw [sections, hs]
      exact ⟨[], _, rfl⟩
    | line reading =>
      rw [sections, hs]
      exact ⟨_, more, rfl⟩

namespace Pass

/-- What a pass finds: what it has found already, then what the open section yields with the lines
up to the next header, then what the further sections yield. -/
theorem last_eq_sections {p : Pass} {lines : List (Located Reading)} {more : List Section}
    (h : sections (readRecords p.offset p.rest) = ⟨none, lines⟩ :: more) :
    p.last.allRules =
        p.rules ++ (p.current.ruleWith lines).toList ++ more.flatMap (·.read.rule.toList) ∧
      p.last.reports = p.reports ++ p.current.reportsOn lines ++ more.flatMap (·.read.reports) := by
  induction p using turns.induct generalizing lines more with
  | case1 p hend =>
    rw [step?_eq_none_iff.mp hend, readRecords, sections] at h
    obtain ⟨hfirst, rfl⟩ := List.cons.inj h
    obtain ⟨-, rfl⟩ := Section.mk.inj hfirst
    rw [last_of_end hend, allRules, OpenSection.ruleWith_nil, OpenSection.reportsOn_nil]
    simp only [List.flatMap_nil, List.append_nil, and_self]
  | case2 p q hstep _ ih =>
    obtain ⟨b, bs, hrest, hq⟩ := step?_eq_some_iff.mp hstep
    obtain ⟨lines', more', hs⟩ := exists_sections_eq (readRecords q.offset q.rest)
    obtain ⟨hrules, hreports⟩ := ih hs
    have hplace : q.offset = p.offset + ((b :: bs).length - (readRecord b bs).2.length) := by
      rw [← hq, offset_goOn, hrest]
    have hleft : q.rest = (readRecord b bs).2 := by rw [← hq, rest_goOn]
    rw [hrest, readRecords_cons, ← hplace, ← hleft] at h
    rw [last_of_step hstep, hrules, hreports, ← hq]
    cases hrecord : (readRecord b bs).1 with
    | header line =>
      -- the header closes the open section, which gets no further lines
      rw [hrecord, sections, hs] at h
      obtain ⟨hfirst, rfl⟩ := List.cons.inj h
      obtain ⟨-, rfl⟩ := Section.mk.inj hfirst
      rw [OpenSection.ruleWith_nil, OpenSection.reportsOn_nil, List.flatMap_cons,
        List.flatMap_cons, OpenSection.ruleWith_ofHeader, OpenSection.reportsOn_ofHeader]
      simp only [goOn, reportsHere, List.append_assoc, List.nil_append, and_self]
    | line reading =>
      -- the line is the first of those that follow
      rw [hrecord, sections, hs] at h
      obtain ⟨hfirst, rfl⟩ := List.cons.inj h
      obtain ⟨-, rfl⟩ := Section.mk.inj hfirst
      rw [OpenSection.ruleWith_cons, OpenSection.reportsOn_cons]
      simp only [goOn, reportsHere, List.append_assoc, and_self]

/-- What a file has in front of it is no more than its bytes. -/
theorem length_rest_ofFile_le (data : List UInt8) : (ofFile data).rest.length ≤ data.length := by
  unfold ofFile
  split
  next => exact (List.drop_sublist _ _).length_le
  next => exact Nat.zero_le _

/-- A pass over a file with the right header begins right after it. -/
theorem ofFile_of_fileHeader {data : List UInt8} (h : fileHeader.isPrefixOf data = true) :
    ofFile data = ⟨fileHeader.length, data.drop fileHeader.length, .before, [], []⟩ :=
  if_pos h

end Pass

/-- A pass over a file finds its rules and reports. -/
theorem readFile_eq_last (data : List UInt8) :
    readRules data = (Pass.ofFile data).last.allRules ∧
      readReports data = (Pass.ofFile data).last.reports := by
  unfold readRules readReports readSections
  split
  next hstart =>
    rw [Pass.ofFile_of_fileHeader hstart, Option.getD_some]
    obtain ⟨lines, more, hs⟩ :=
      exists_sections_eq (readRecords fileHeader.length (data.drop fileHeader.length))
    obtain ⟨hrules, hreports⟩ := Pass.last_eq_sections
      (p := ⟨fileHeader.length, data.drop fileHeader.length, .before, [], []⟩) hs
    rw [hrules, hreports, hs]
    -- before the first header there is no rule
    refine ⟨?_, ?_⟩
    · rw [List.filterMap_eq_flatMap_toList, List.map_cons, List.flatMap_cons, List.flatMap_map]
      rfl
    · simp only [List.map_cons, List.flatMap_cons, List.flatMap_map, List.nil_append]
      rfl
  next hstart =>
    have hend : Pass.ofFile data = ⟨0, [], .before, [], [⟨0, .noFileHeader⟩]⟩ := if_neg hstart
    rw [hend, Pass.last_of_end rfl]
    exact ⟨rfl, rfl⟩

/-- **Reading makes progress.** Every turn moves the place on and reports one fault at most, at the
place where it began. So a file is read to its end in no more turns than it has bytes, and what is
found are its rules and reports. If it starts with the file header, then the places of the reports
are places at which a record was read; they come one behind the other, after the file header and
before the end of the file. -/
theorem reading_makes_progress (data : List UInt8) :
    (∀ p q : Pass, p.step? = some q → p.Advances q) ∧
      ((Pass.ofFile data).turns.length ≤ data.length ∧ (Pass.ofFile data).last.step? = none) ∧
      (readRules data = (Pass.ofFile data).last.allRules ∧
        readReports data = (Pass.ofFile data).last.reports) ∧
      (fileHeader.isPrefixOf data = true →
        ((readReports data).map (·.offset)).Pairwise (· < ·) ∧
        ∀ r ∈ readReports data, fileHeader.length ≤ r.offset ∧ r.offset < data.length ∧
          ∃ p ∈ (Pass.ofFile data).turns, p.offset = r.offset) := by
  have hlength : (Pass.ofFile data).turns.length ≤ data.length :=
    Nat.le_trans (Pass.length_turns_le _) (Pass.length_rest_ofFile_le data)
  refine ⟨fun _ _ => Pass.step?_advances, ⟨hlength, Pass.step?_last _⟩, readFile_eq_last data,
    fun hstart => ?_⟩
  have hfirst : Pass.ofFile data =
      ⟨fileHeader.length, data.drop fileHeader.length, .before, [], []⟩ :=
    Pass.ofFile_of_fileHeader hstart
  obtain ⟨later, hlater, hplaces⟩ := (Pass.ofFile data).reports_last
  have hreports : readReports data = later := by
    rw [(readFile_eq_last data).2, hlater, hfirst]
    rfl
  rw [hreports]
  refine ⟨(Pass.sorted_turns _).sublist hplaces, fun r hr => ?_⟩
  have hplace := hplaces.subset (List.mem_map_of_mem hr)
  obtain ⟨p, hp, hoffset⟩ := List.mem_map.mp hplace
  have hbounds := Pass.offset_bounds_of_mem_turns hp
  have hsize : fileHeader.length ≤ data.length :=
    (List.isPrefixOf_iff_prefix.mp hstart).length_le
  rw [hfirst, hoffset] at hbounds
  dsimp only at hbounds
  rw [List.length_drop] at hbounds
  exact ⟨hbounds.1, by omega, p, hp, hoffset⟩

/-- Of the six records of a file with faults of every kind three are reported, each at its place. -/
theorem reading_makes_progress_brokenPart :
    fileHeader.isPrefixOf (fileHeader ++ brokenPart) = true ∧
      (∃ q, (Pass.ofFile (fileHeader ++ brokenPart)).step? = some q ∧
        (Pass.ofFile (fileHeader ++ brokenPart)).Advances q) ∧
      (readReports (fileHeader ++ brokenPart)).map (·.offset) = [35, 53, 58] ∧
      ∀ r ∈ readReports (fileHeader ++ brokenPart), fileHeader.length ≤ r.offset ∧
        r.offset < (fileHeader ++ brokenPart).length ∧
        ∃ p ∈ (Pass.ofFile (fileHeader ++ brokenPart)).turns, p.offset = r.offset := by
  have hstart : fileHeader.isPrefixOf (fileHeader ++ brokenPart) = true := by decide +kernel
  have hprogress := reading_makes_progress (fileHeader ++ brokenPart)
  cases hstep : (Pass.ofFile (fileHeader ++ brokenPart)).step? with
  | none =>
    rw [Pass.step?_eq_none_iff] at hstep
    exact absurd hstep (by decide +kernel)
  | some q =>
    exact ⟨hstart, ⟨q, rfl, hprogress.1 _ q hstep⟩, by decide +kernel,
      (hprogress.2.2.2 hstart).2⟩

end MimeDatabase.Magic
