import Mathlib.Data.List.Basic
import MimeDatabase.Magic.Document

/-!
# Sections do not depend on one another

A file that is continued with further sections yields what it yielded before, followed by what the
further sections yield on their own (`readDocument_append`). Nothing that stands in a section,
however malformed, reaches beyond it, as long as its records end.

A record ends if a newline is found where the end of its line is looked for, which is behind the
last of its fields (`recordTail?`). The other records run into the end of the data: their line has
no end, or the data breaks off in a field of fixed length. What is read of a record that ends is the
same whatever follows it (`readRecord_append`). The lines of a section are judged from the
beginning, so all that changes for the further sections is their place in the file.
-/

namespace MimeDatabase.Magic

/-! ## Fields -/

section Fields

variable {delimiter mark : UInt8} {bs text rest : List UInt8}

/-- A delimiter that is found is found at the same place. -/
theorem takeUntil?_append_of_some (h : takeUntil? delimiter bs = some (text, rest))
    (more : List UInt8) : takeUntil? delimiter (bs ++ more) = some (text, rest ++ more) := by
  induction bs generalizing text with
  | nil => exact absurd h (by simp [takeUntil?])
  | cons b bs ih =>
    rw [takeUntil?] at h
    rw [List.cons_append, takeUntil?]
    split at h
    next hb =>
      rw [if_pos hb]
      obtain ⟨rfl, rfl⟩ := Prod.mk.inj (Option.some.inj h)
      rfl
    next hb =>
      rw [if_neg hb]
      split at h
      next => exact absurd h (by simp)
      next hn =>
        obtain ⟨⟨t, r⟩, hr, he⟩ := Option.map_eq_some_iff.mp h
        obtain ⟨rfl, rfl⟩ := Prod.mk.inj he
        rw [if_neg hn, ih hr]
        rfl

/-- Where the line ends before the delimiter, the delimiter is not looked for any further. -/
theorem takeUntil?_append_of_none (h : takeUntil? delimiter bs = none) (hn : newline ∈ bs)
    (more : List UInt8) : takeUntil? delimiter (bs ++ more) = none := by
  induction bs with
  | nil => exact absurd hn List.not_mem_nil
  | cons b bs ih =>
    rw [takeUntil?] at h
    rw [List.cons_append, takeUntil?]
    split at h
    next => exact absurd h (by simp)
    next hb =>
      rw [if_neg hb]
      split at h
      next hline => rw [if_pos hline]
      next hline =>
        have hmem : newline ∈ bs := (List.mem_cons.mp hn).resolve_left (Ne.symm hline)
        rw [if_neg hline, ih (Option.map_eq_none_iff.mp h) hmem]
        rfl

/-- What follows a line that is whole is followed by what comes after it. -/
theorem afterLine_append (hn : newline ∈ bs) (more : List UInt8) :
    afterLine (bs ++ more) = afterLine bs ++ more := by
  induction bs with
  | nil => exact absurd hn List.not_mem_nil
  | cons b bs ih =>
    rw [List.cons_append, afterLine, afterLine]
    split
    next => rfl
    next hb => exact ih ((List.mem_cons.mp hn).resolve_left (Ne.symm hb))

/-- The text of a whole line does not depend on what comes after it. -/
theorem lineText_append_of_mem (hn : newline ∈ bs) (more : List UInt8) :
    lineText (bs ++ more) = lineText bs := by
  unfold lineText
  induction bs with
  | nil => exact absurd hn List.not_mem_nil
  | cons b bs ih =>
    rw [List.cons_append, List.takeWhile_cons, List.takeWhile_cons]
    split
    next hb =>
      have hmem : newline ∈ bs :=
        (List.mem_cons.mp hn).resolve_left (Ne.symm (bne_iff_ne.mp hb))
      rw [ih hmem]
    next => rfl

/-- An optional number with something behind it. -/
theorem takeMarked_append (h : (takeMarked mark bs).2 ≠ []) (more : List UInt8) :
    takeMarked mark (bs ++ more) = ((takeMarked mark bs).1, (takeMarked mark bs).2 ++ more) := by
  cases bs with
  | nil => exact absurd rfl h
  | cons b bs =>
    rw [takeMarked] at h
    rw [List.cons_append, takeMarked, takeMarked]
    split at h
    next hb =>
      -- the digits end before the first byte behind them
      have hdrop : bs.dropWhile isDigitByte ≠ [] := h
      have hall : ¬ (bs.takeWhile isDigitByte).length = bs.length := by
        intro hlen
        have hsplit := congrArg List.length
          (List.takeWhile_append_dropWhile (p := isDigitByte) (l := bs))
        rw [List.length_append, hlen] at hsplit
        exact hdrop (List.length_eq_zero_iff.mp (by omega))
      rw [if_pos hb, if_pos hb, List.takeWhile_append, if_neg hall, List.dropWhile_append,
        if_neg (by rwa [List.isEmpty_iff])]
    next hb => rw [if_neg hb, if_neg hb, List.cons_append]

theorem takeLineEnd_append (hn : newline ∈ bs) (more : List UInt8) :
    takeLineEnd (bs ++ more) = ((takeLineEnd bs).1, (takeLineEnd bs).2 ++ more) := by
  cases bs with
  | nil => exact absurd hn List.not_mem_nil
  | cons b bs =>
    rw [List.cons_append, takeLineEnd, takeLineEnd]
    split
    next => rfl
    next => rw [← List.cons_append, afterLine_append hn]

/-- A chunk that is there is taken whatever comes after it. -/
theorem takeExactly?_append_of_some {count : Nat} {chunk : List UInt8}
    (h : takeExactly? count bs = some (chunk, rest)) (more : List UInt8) :
    takeExactly? count (bs ++ more) = some (chunk, rest ++ more) := by
  obtain ⟨rfl, hlen⟩ := takeExactly?_eq_some_iff.mp h
  exact takeExactly?_eq_some_iff.mpr ⟨List.append_assoc .., hlen⟩

/-- A mask, or its absence, with something behind it. -/
theorem takeMask?_append_of_some {length : Nat} {mask : Option (List UInt8)}
    (h : takeMask? length bs = some (mask, rest)) (hrest : rest ≠ []) (more : List UInt8) :
    takeMask? length (bs ++ more) = some (mask, rest ++ more) := by
  cases bs with
  | nil =>
    obtain ⟨-, rfl⟩ := Prod.mk.inj (Option.some.inj h)
    exact absurd rfl hrest
  | cons b bs =>
    rw [takeMask?] at h
    rw [List.cons_append, takeMask?]
    split at h
    next hb =>
      obtain ⟨⟨chunk, r⟩, hr, he⟩ := Option.map_eq_some_iff.mp h
      obtain ⟨rfl, rfl⟩ := Prod.mk.inj he
      rw [if_pos hb, takeExactly?_append_of_some hr]
      rfl
    next hb =>
      obtain ⟨rfl, rfl⟩ := Prod.mk.inj (Option.some.inj h)
      rw [if_neg hb, List.cons_append]

end Fields

/-! ## Where the end of a line is looked for -/

/-- What follows the last field that stands behind the offset of a match line. The data may break
off in the length, the value or the mask. -/
def valueTail? (bs : List UInt8) : Option (List UInt8) :=
  match bs with
  | high :: low :: bs =>
    match takeExactly? (wordOf high low) bs with
    | none => none
    | some (_, bs) =>
      match takeMask? (wordOf high low) bs with
      | none => none
      | some (_, bs) => some (takeMarked (byteOf '+') (takeMarked (byteOf '~') bs).2).2
  | _ => none

/-- What follows the last field of a match line; the whole of it, or all behind its indent, if no
further field can be cut off. -/
def lineTail? (bs : List UInt8) : Option (List UInt8) :=
  match takeUntil? (byteOf '>') bs with
  | none => some bs
  | some (_, rest) =>
    match takeUntil? (byteOf '=') rest with
    | none => some rest
    | some (_, rest) => valueTail? rest

/-- The bytes in which the end of a record is looked for, if the data does not break off before
them. -/
def recordTail? (b : UInt8) (bs : List UInt8) : Option (List UInt8) :=
  if b = byteOf '[' then some (b :: bs) else lineTail? (b :: bs)

/-- Whether the record at the front of some data ends with a newline of its own. -/
def EndsLine (b : UInt8) (bs : List UInt8) : Prop := ∃ tail ∈ recordTail? b bs, newline ∈ tail

instance (b : UInt8) (bs : List UInt8) : Decidable (EndsLine b bs) :=
  decidable_of_iff ((recordTail? b bs).any (·.contains newline) = true)
    (by simp [EndsLine, Option.any_eq_true])

/-- Data that is made of records which all end with a newline of their own. -/
inductive WholeRecords : List UInt8 → Prop where
  | nil : WholeRecords []
  | cons {b : UInt8} {bs : List UInt8} (first : EndsLine b bs)
      (rest : WholeRecords (readRecord b bs).2) : WholeRecords (b :: bs)

instance decidableWholeRecords : (bs : List UInt8) → Decidable (WholeRecords bs)
  | [] => .isTrue .nil
  | b :: bs =>
    have := readRecord_lt b bs
    match (inferInstance : Decidable (EndsLine b bs)),
      decidableWholeRecords (readRecord b bs).2 with
    | .isTrue first, .isTrue rest => .isTrue (.cons first rest)
    | .isFalse hfirst, _ => .isFalse fun | .cons first _ => hfirst first
    | _, .isFalse hrest => .isFalse fun | .cons _ rest => hrest rest
termination_by bs => bs.length
decreasing_by exact this

/-! ## Records -/

section Lines

variable {bs tail : List UInt8}

theorem cutValue_append (indentText offsetText : List UInt8) (ht : valueTail? bs = some tail)
    (hn : newline ∈ tail) (more : List UInt8) :
    cutValue indentText offsetText (bs ++ more) =
      ((cutValue indentText offsetText bs).1, (cutValue indentText offsetText bs).2 ++ more) := by
  unfold valueTail? at ht
  split at ht
  next high low bs =>
    split at ht
    next => exact absurd ht (by simp)
    next value bs₁ hvalue =>
      split at ht
      next => exact absurd ht (by simp)
      next mask bs₂ hmask =>
        have htail := Option.some.inj ht
        -- the newline is behind every field, so none of them reaches the end of the data
        have hrange : (takeMarked (byteOf '+') (takeMarked (byteOf '~') bs₂).2).2 ≠ [] := by
          rw [htail]
          exact List.ne_nil_of_mem hn
        have hword : (takeMarked (byteOf '~') bs₂).2 ≠ [] := fun hnil => hrange (by rw [hnil]; rfl)
        have hbs₂ : bs₂ ≠ [] := fun hnil => hword (by rw [hnil]; rfl)
        simp only [List.cons_append, cutValue, takeExactly?_append_of_some hvalue, hvalue,
          takeMask?_append_of_some hmask hbs₂, hmask, takeMarked_append hword,
          takeMarked_append hrange, takeLineEnd_append (htail ▸ hn)]
  next => exact absurd ht (by simp)

/-- A match line that ends with its newline is cut in the same way whatever comes after it. -/
theorem cutLine_append (ht : lineTail? bs = some tail) (hn : newline ∈ tail)
    (more : List UInt8) : cutLine (bs ++ more) = ((cutLine bs).1, (cutLine bs).2 ++ more) := by
  unfold lineTail? at ht
  split at ht
  next hindent =>
    rw [← Option.some.inj ht] at hn
    have hindentMore := takeUntil?_append_of_none hindent hn more
    simp only [cutLine, hindent, hindentMore, afterLine_append hn]
  next indentText rest hindent =>
    have hindentMore := takeUntil?_append_of_some hindent more
    split at ht
    next hoffset =>
      rw [← Option.some.inj ht] at hn
      have hoffsetMore := takeUntil?_append_of_none hoffset hn more
      simp only [cutLine, hindent, hindentMore, hoffset, hoffsetMore, afterLine_append hn]
    next offsetText rest hoffset =>
      have hoffsetMore := takeUntil?_append_of_some hoffset more
      simp only [cutLine, hindent, hindentMore, hoffset, hoffsetMore, cutValue_append _ _ ht hn]

theorem readLine_append (ht : lineTail? bs = some tail) (hn : newline ∈ tail)
    (more : List UInt8) : readLine (bs ++ more) = ((readLine bs).1, (readLine bs).2 ++ more) := by
  unfold readLine
  rw [cutLine_append ht hn]
  obtain ⟨fields, rest⟩ := cutLine bs
  cases fields with
  | error fault => rfl
  | ok fields =>
    dsimp only
    cases fields.interpret <;> rfl

/-- A record that ends is read in the same way, whatever follows it. -/
theorem readRecord_append {b : UInt8} (h : EndsLine b bs) (more : List UInt8) :
    readRecord b (bs ++ more) = ((readRecord b bs).1, (readRecord b bs).2 ++ more) := by
  obtain ⟨tail, ht, hn⟩ := h
  unfold recordTail? at ht
  unfold readRecord
  split at ht
  next hb =>
    rw [← Option.some.inj ht] at hn
    rw [if_pos hb, if_pos hb, ← List.cons_append, lineText_append_of_mem hn, afterLine_append hn]
  next hb => rw [if_neg hb, if_neg hb, ← List.cons_append, readLine_append ht hn]

end Lines

/-- A record is read, and the others from where it ends. -/
theorem readRecords_cons (offset : Nat) (b : UInt8) (bs : List UInt8) :
    readRecords offset (b :: bs) = ⟨offset, (readRecord b bs).1⟩ ::
      readRecords (offset + ((b :: bs).length - (readRecord b bs).2.length))
        (readRecord b bs).2 := by
  rw [readRecords]

/-- Records that end are followed by the records of what follows them. -/
theorem readRecords_append {A : List UInt8} (h : WholeRecords A) (B : List UInt8) (offset : Nat) :
    readRecords offset (A ++ B) =
      readRecords offset A ++ readRecords (offset + A.length) B := by
  induction h generalizing offset with
  | nil => rw [List.nil_append, readRecords, List.nil_append, List.length_nil, Nat.add_zero]
  | @cons b bs first rest ih =>
    have hlt := readRecord_lt b bs
    -- what the first record uses up does not depend on what follows
    have hused : (b :: (bs ++ B)).length - ((readRecord b bs).2 ++ B).length =
        (b :: bs).length - (readRecord b bs).2.length := by
      simp only [List.length_cons, List.length_append] at *
      omega
    have hend : offset + ((b :: bs).length - (readRecord b bs).2.length) +
        (readRecord b bs).2.length = offset + (b :: bs).length := by
      omega
    rw [List.cons_append, readRecords_cons, readRecord_append first, hused, ih, hend,
      readRecords_cons, List.cons_append]

/-! ## Places -/

/-- The same thing at a later place. -/
def Located.shift {α : Type} (distance : Nat) (l : Located α) : Located α :=
  ⟨l.offset + distance, l.item⟩

/-- The same section at a later place. -/
def Section.shift (distance : Nat) (s : Section) : Section :=
  ⟨s.header.map (·.shift distance), s.lines.map (·.shift distance)⟩

/-- The records of a text further down are the same records further down. -/
theorem readRecords_shift (distance : Nat) (offset : Nat) (bs : List UInt8) :
    readRecords (offset + distance) bs = (readRecords offset bs).map (·.shift distance) := by
  induction offset, bs using readRecords.induct with
  | case1 offset => rw [readRecords, readRecords, List.map_nil]
  | case2 offset b bs _ ih =>
    rw [readRecords_cons, readRecords_cons, List.map_cons, ← ih, Nat.add_right_comm]
    rfl

theorem sections_shift (distance : Nat) (records : List (Located Record)) :
    sections (records.map (·.shift distance)) = (sections records).map (·.shift distance) := by
  induction records with
  | nil => rfl
  | cons r records ih =>
    obtain ⟨offset, record⟩ := r
    rw [List.map_cons, Located.shift]
    cases record with
    | header line =>
      rw [sections, sections, ih]
      cases sections records <;> rfl
    | line reading =>
      rw [sections, sections, ih]
      cases sections records <;> rfl

/-- How lines are judged does not depend on where they are. -/
theorem judgeAll_shift (distance : Nat) (p : Progress) (lines : List (Located Reading)) :
    judgeAll p (lines.map (·.shift distance)) = (judgeAll p lines).map (·.shift distance) := by
  induction lines generalizing p with
  | nil => rfl
  | cons l lines ih =>
    rw [List.map_cons, judgeAll, judgeAll, List.map_cons]
    exact congrArg (List.cons _) (ih _)

theorem keptLines_shift (distance : Nat) (verdicts : List (Located Verdict)) :
    keptLines (verdicts.map (·.shift distance)) = keptLines verdicts := by
  unfold keptLines
  rw [List.filterMap_map]
  rfl

theorem reportedLines_shift (distance : Nat) (verdicts : List (Located Verdict)) :
    reportedLines (verdicts.map (·.shift distance)) =
      (reportedLines verdicts).map (·.shift distance) := by
  unfold reportedLines
  rw [List.filterMap_map, List.map_filterMap]
  refine List.filterMap_congr fun v _ => ?_
  obtain ⟨offset, verdict⟩ := v
  cases verdict <;> rfl

/-- What is reported about lines before the first header is reported further down. -/
theorem strayReports_shift (distance : Nat) (lines : List (Located Reading)) :
    strayReports (lines.map (·.shift distance)) =
      (strayReports lines).map (·.shift distance) := by
  unfold strayReports
  rw [List.map_map, List.map_map]
  refine List.map_congr_left fun l _ => ?_
  obtain ⟨offset, reading⟩ := l
  cases reading <;> rfl

/-- A section yields the same at a later place; only what is reported moves with it. -/
theorem Section.read_shift (distance : Nat) (s : Section) :
    (s.shift distance).read =
      ⟨s.read.rule, s.read.reports.map (·.shift distance), s.read.emptyType⟩ := by
  obtain ⟨header, lines⟩ := s
  unfold Section.read Section.shift
  cases header with
  | none => simp only [Option.map_none, strayReports_shift]
  | some header =>
    simp only [Option.map_some, show (header.shift distance).item = header.item from rfl]
    cases hh : readHeader header.item with
    | error fault => rfl
    | ok found =>
      obtain ⟨priority, name⟩ := found
      simp only [judgeAll_shift, keptLines_shift, reportedLines_shift]
      split <;> rfl

/-! ## Files -/

theorem sections_ne_nil (records : List (Located Record)) : sections records ≠ [] := by
  induction records with
  | nil => exact List.cons_ne_nil _ _
  | cons r records ih =>
    obtain ⟨offset, record⟩ := r
    obtain ⟨first, more, hs⟩ := List.exists_cons_of_ne_nil ih
    cases record <;> rw [sections, hs] <;> exact List.cons_ne_nil _ _

/-- Records that start with a header form sections of their own. -/
theorem sections_append {records : List (Located Record)} {more : List Section}
    (h : sections records = ⟨none, []⟩ :: more) (before : List (Located Record)) :
    sections (before ++ records) = sections before ++ more := by
  induction before with
  | nil => exact h
  | cons r before ih =>
    obtain ⟨offset, record⟩ := r
    obtain ⟨first, others, hs⟩ := List.exists_cons_of_ne_nil (sections_ne_nil before)
    rw [hs, List.cons_append] at ih
    cases record with
    | header line =>
      rw [List.cons_append, sections, sections, ih, hs]
      rfl
    | line reading =>
      rw [List.cons_append, sections, sections, ih, hs]
      rfl

/-- Nothing stands before the first header of data that starts with one. -/
theorem sections_of_head {B : List UInt8} (h : B.head? = some (byteOf '[')) (offset : Nat) :
    ∃ more, sections (readRecords offset B) = ⟨none, []⟩ :: more := by
  cases B with
  | nil => exact absurd h (by simp)
  | cons b bs =>
    have hb : b = byteOf '[' := Option.some.inj h
    obtain ⟨first, others, hs⟩ := List.exists_cons_of_ne_nil (sections_ne_nil
      (readRecords (offset + ((b :: bs).length - (readRecord b bs).2.length))
        (readRecord b bs).2))
    rw [readRecords_cons, show (readRecord b bs).1 = .header (lineText (b :: bs)) by
      rw [readRecord, if_pos hb], sections, hs]
    exact ⟨_, rfl⟩

/-- After the header of the file its sections are read. -/
theorem readSections_fileHeader (data : List UInt8) :
    readSections (fileHeader ++ data) =
      some ((sections (readRecords fileHeader.length data)).map Section.read) := by
  have hstart : fileHeader.isPrefixOf (fileHeader ++ data) = true :=
    List.isPrefixOf_iff_prefix.mpr (List.prefix_append _ _)
  rw [readSections, if_pos hstart, List.drop_left]

/-- **A file yields what its parts yield.** If the records of a file end, and it is continued with
data that starts with a section header, then its rules and reports are followed by those of the
continuation as a file of its own, with their places counted from the beginning of the whole. -/
theorem readDocument_append {A B : List UInt8} (hA : WholeRecords A)
    (hB : B.head? = some (byteOf '[')) :
    readRules (fileHeader ++ A ++ B) =
        readRules (fileHeader ++ A) ++ readRules (fileHeader ++ B) ∧
      readReports (fileHeader ++ A ++ B) =
        readReports (fileHeader ++ A) ++
          (readReports (fileHeader ++ B)).map (·.shift A.length) := by
  obtain ⟨more, hmore⟩ := sections_of_head hB fileHeader.length
  -- behind `A` the sections of `B` are the same, only later
  have hlater : sections (readRecords (fileHeader.length + A.length) B) =
      ⟨none, []⟩ :: more.map (·.shift A.length) := by
    rw [readRecords_shift, sections_shift, hmore]
    rfl
  have hwhole : readSections (fileHeader ++ A ++ B) =
      some ((sections (readRecords fileHeader.length A)).map Section.read ++
        more.map fun s => ⟨s.read.rule, s.read.reports.map (·.shift A.length),
          s.read.emptyType⟩) := by
    rw [List.append_assoc, readSections_fileHeader, readRecords_append hA,
      sections_append hlater, List.map_append, List.map_map]
    simp only [Function.comp_def, Section.read_shift]
  have hB' : readSections (fileHeader ++ B) =
      some (⟨none, [], none⟩ :: more.map Section.read) := by
    rw [readSections_fileHeader, hmore]
    rfl
  constructor
  · simp only [readRules, hwhole, hB', readSections_fileHeader A, Option.getD_some,
      List.filterMap_append, List.filterMap_cons, List.filterMap_map, Function.comp_def]
  · simp only [readReports, hwhole, hB', readSections_fileHeader A, List.flatMap_append,
      List.flatMap_cons, List.nil_append, List.flatMap_map, List.map_flatMap]

/-- Two sections with faults of every kind: a reversed range with a line below it, a line without
fields, and a header whose priority is no number. The one value holds a line end and a bracket. -/
def brokenPart : List UInt8 :=
  "[50:image/x-a]\n>0=".toList.map byteOf ++ [0, 2] ++ "\n[\n1>9:4=".toList.map byteOf ++ [0, 1] ++
    "A\n2>0=".toList.map byteOf ++ [0, 1] ++ "B\njunk\n[high:image/x-b]\n".toList.map byteOf

/-- A section with an entry and a line that is cut off by the end of the data. -/
def cutPart : List UInt8 :=
  "[60:image/x-c]\n>4=".toList.map byteOf ++ [0, 1] ++ "C\n>0=".toList.map byteOf ++ [0, 9]

/-- The faults of the one part do not reach the other. -/
theorem readDocument_append_brokenPart :
    WholeRecords brokenPart ∧ cutPart.head? = some (byteOf '[') ∧
      readRules (fileHeader ++ brokenPart ++ cutPart) =
        readRules (fileHeader ++ brokenPart) ++ readRules (fileHeader ++ cutPart) ∧
      readReports (fileHeader ++ brokenPart ++ cutPart) =
        readReports (fileHeader ++ brokenPart) ++
          (readReports (fileHeader ++ cutPart)).map (·.shift brokenPart.length) := by
  have hwhole : WholeRecords brokenPart := by decide +kernel
  exact ⟨hwhole, rfl, readDocument_append hwhole rfl⟩

end MimeDatabase.Magic
