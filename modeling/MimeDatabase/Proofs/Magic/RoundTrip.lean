import MimeDatabase.Proofs.Magic.Grammar
import MimeDatabase.Proofs.Magic.Preorder

/-!
# Written magic files are read back

A magic file that was written from rules is read as these rules, in their order and without a
report. A written match line is a line of the grammar (`matchLine_write`), so it is read back
whatever follows it; from that come the records of a section (`readRecords_lines`) and, by induction
on the rules, the sections of the whole file (`readSections_writeRules`). Values and masks may hold
any bytes, also those that delimit fields or lines.
-/

namespace MimeDatabase.Magic

/-! ## Match lines -/

section Line

variable {s : Signature} {style : Style} {depth : Nat}

/-- A number that may be left out because it is the usual one is known all the same. -/
theorem getD_of_omits (style : Style) (usual n : Nat) :
    (if style.omits usual n then none else some n).getD usual = n := by
  split
  next h =>
    simp only [Style.omits, Bool.and_eq_true, beq_iff_eq] at h
    exact h.2.symm
  next => rfl

/-- An indent is written as a text that spells it. -/
theorem spellsIndent_writeIndent (style : Style) (h : (digitsOf depth).length ≤ Text.digitLimit) :
    SpellsIndent (writeIndent style depth) depth := by
  unfold writeIndent
  split
  next homit =>
    simp only [Style.omits, Bool.and_eq_true, beq_iff_eq] at homit
    rw [homit.2]
    exact .missing
  next => exact .number (spellsNumber_digitsOf h)

/-- A mask is written as a text that spells it. -/
theorem spellsMask_writeMask {mask : Option (List UInt8)} {length : Nat}
    (h : ∀ m ∈ mask, m.length = length) : SpellsMask length (writeMask mask) mask := by
  cases mask with
  | none => exact .missing
  | some m => exact .bytes (h m rfl)

/-- A field that may be left out is written as a text that spells it. -/
theorem spellsMarked_writeMarked (style : Style) (mark : UInt8) {n : Nat}
    (h : (digitsOf n).length ≤ Text.digitLimit) :
    SpellsMarked mark (writeMarked style mark n)
      (if style.omits 1 n then none else some n) := by
  unfold writeMarked
  split
  · exact .missing
  · exact .number (spellsNumber_digitsOf h)

/-- A written line is a line of the grammar, and denotes what it was written from. -/
theorem matchLine_write (h : s.Writable depth) : MatchLine (s.write style depth) depth s := by
  have hs := h.wellFormed
  have hmem := hs.wordSize_mem
  have hdigits : (digitsOf s.wordSize).length ≤ Text.digitLimit := by
    simp only [List.mem_cons, List.not_mem_nil, or_false] at hmem
    rcases hmem with hw | hw | hw <;> rw [hw] <;> decide
  have hrange : (if style.omits 1 s.range then none else some s.range) ≠ some 0 := by
    intro hzero
    have hget := getD_of_omits style 1 s.range
    rw [hzero] at hget
    exact absurd hs.range_pos (by rw [← hget]; decide)
  have hsize := getD_of_omits style 1 s.wordSize
  have hline := MatchLine.line (spellsIndent_writeIndent style h.depth_digits)
    (.start (spellsNumber_digitsOf h.start_digits)) hs.value_pos hs.value_lt
    (spellsMask_writeMask hs.mask_length) (spellsMarked_writeMarked style (byteOf '~') hdigits)
    (spellsMarked_writeMarked style (byteOf '+') h.range_digits) (Or.inl rfl) hrange
    (hsize.symm ▸ List.mem_cons_of_mem 0 hmem) fun _ => hsize.symm ▸ hs.wordSize_dvd
  have hmax : max s.wordSize 1 = s.wordSize := by
    simp only [List.mem_cons, List.not_mem_nil, or_false] at hmem
    omega
  rw [Option.none_or, getD_of_omits, hsize, hmax, Int.toNat_of_nonneg hs.start_nonneg] at hline
  exact hline

/-! ## Records -/

/-- A written line is read as the record of its signature. -/
theorem readRecords_write (h : s.Writable depth) (offset : Nat) (rest : List UInt8) :
    readRecords offset (s.write style depth ++ rest) =
      ⟨offset, .line (.entry depth s)⟩ ::
        readRecords (offset + (s.write style depth).length) rest := by
  have hmatch : MatchLine (s.write style depth) depth s := matchLine_write h
  obtain ⟨b, bs, hb, hne⟩ := hmatch.exists_cons
  have hline := hmatch.readLine_append rest
  rw [hb, List.cons_append] at hline
  have hrecord : readRecord b (bs ++ rest) = (.line (.entry depth s), rest) := by
    rw [readRecord, if_neg hne, hline]
  -- the next record starts where the line ended, so many bytes further on
  have hlength : (b :: (bs ++ rest)).length - rest.length = (b :: bs).length := by
    simp only [List.length_cons, List.length_append]
    omega
  rw [hb, List.cons_append, readRecords, hrecord, hlength]

end Line

/-- The record of a match line that was read. -/
def lineRecord (line : Located Reading) : Located Record := ⟨line.offset, .line line.item⟩

/-- What a line that was written is read as. -/
def lineReading (line : Nat × Signature) : Reading := .entry line.1 line.2

/-- Written lines are read one after the other, and then what follows them. -/
theorem readRecords_lines (style : Style) (rest : List UInt8) :
    ∀ (lines : List (Nat × Signature)) (offset : Nat), (∀ line ∈ lines, line.2.Writable line.1) →
      ∃ (ls : List (Located Reading)) (stop : Nat), ls.map (·.item) = lines.map lineReading ∧
        readRecords offset (lines.flatMap (fun line => line.2.write style line.1) ++ rest) =
          ls.map lineRecord ++ readRecords stop rest := by
  intro lines
  induction lines with
  | nil => intro offset _; exact ⟨[], offset, rfl, rfl⟩
  | cons line lines ih =>
    intro offset h
    obtain ⟨ls, stop, hitems, hrecords⟩ := ih (offset + (line.2.write style line.1).length)
      fun l hl => h l (List.mem_cons_of_mem line hl)
    refine ⟨⟨offset, lineReading line⟩ :: ls, stop, ?_, ?_⟩
    · rw [List.map_cons, List.map_cons, hitems]
    · rw [List.flatMap_cons, List.append_assoc, readRecords_write (h line List.mem_cons_self),
        hrecords]
      rfl

/-! ## Section headers -/

section Header

variable {r : Rule}

/-- A byte of a written type name is the byte of a character that is no white space. -/
theorem exists_char_of_mem_typeName (h : r.Writable) {b : UInt8}
    (hb : b ∈ r.typeName.toList.map byteOf) :
    ∃ c, byteOf c = b ∧ c.toNat < 128 ∧ Text.isBlank c = false := by
  obtain ⟨c, hc, rfl⟩ := List.mem_map.mp hb
  refine ⟨c, rfl, h.typeName_ascii c hc, ?_⟩
  have hvalid := h.typeName_valid
  unfold TypeName.isValid at hvalid
  split at hvalid
  next => exact absurd hvalid Bool.false_ne_true
  next =>
    simp only [Bool.and_eq_true, Bool.not_eq_true', List.any_eq_false] at hvalid
    simpa using hvalid.1.2 c hc

theorem newline_notMem_headerLine (h : r.Writable) : newline ∉ r.headerLine := by
  unfold Rule.headerLine
  intro hmem
  -- bracket, priority, colon, name, bracket: only the name could hold it, but it has no white space
  rcases List.mem_cons.mp hmem with hopen | hmem
  · exact absurd hopen (by decide)
  rcases List.mem_append.mp hmem with hdigit | hmem
  · exact notMem_digitsOf (by decide) _ hdigit
  rcases List.mem_cons.mp hmem with hcolon | hmem
  · exact absurd hcolon (by decide)
  rcases List.mem_append.mp hmem with hname | hclose
  · obtain ⟨c, hc, hascii, hblank⟩ := exists_char_of_mem_typeName h hname
    have hten : c.toNat = 10 := by
      rw [← byteOf_toNat (by omega), hc]
      rfl
    unfold Text.isBlank at hblank
    simp [hten] at hblank
  · exact absurd (List.mem_singleton.mp hclose) (by decide)

/-- The line of a header is one record, whatever follows it. -/
theorem readRecords_headerLine (h : r.Writable) (offset : Nat) (rest : List UInt8) :
    ∃ next, readRecords offset (r.headerLine ++ newline :: rest) =
      ⟨offset, .header r.headerLine⟩ :: readRecords next rest := by
  obtain ⟨hline, hafter⟩ := lineText_append rest (newline_notMem_headerLine h)
  obtain ⟨more, hmore⟩ : ∃ more, r.headerLine = byteOf '[' :: more := ⟨_, rfl⟩
  rw [hmore, List.cons_append] at hline hafter
  rw [hmore, List.cons_append, readRecords, readRecord, if_pos rfl, hline, hafter]
  exact ⟨_, rfl⟩

/-- A written header is read back. -/
theorem readHeader_headerLine (h : r.Writable) :
    readHeader r.headerLine = .ok (r.priority, r.typeName) := by
  have hlast : r.headerLine.getLast? = some (byteOf ']') := by
    rw [Rule.headerLine, ← List.cons_append, ← List.cons_append, ← List.append_assoc,
      List.getLast?_append, List.getLast?_singleton]
    rfl
  have hinner : (r.headerLine.drop 1).dropLast =
      digitsOf r.priority ++ byteOf ':' :: r.typeName.toList.map byteOf := by
    rw [Rule.headerLine, List.drop_succ_cons, List.drop_zero, ← List.cons_append,
      ← List.append_assoc, List.dropLast_concat]
  have hblank : ∀ b ∈ digitsOf r.priority, isBlankByte b = false := by
    intro b hb
    have hdigit := isDigitByte_iff.mp (isDigitByte_of_mem_digitsOf hb)
    simp only [isBlankByte, Bool.or_eq_false_iff, Bool.and_eq_false_iff, beq_eq_false_iff_ne,
      decide_eq_false_iff_not, UInt8.le_iff_toNat_le, ne_eq, ← UInt8.toNat_inj]
    refine ⟨?_, Or.inr ?_⟩
    · show ¬b.toNat = 32
      omega
    · show ¬b.toNat ≤ 13
      omega
  have hstrip : Text.stripBy isBlankByte (digitsOf r.priority) = digitsOf r.priority :=
    Text.stripBy_eq_self (fun b hb => hblank b (List.mem_of_mem_head? hb))
      (fun b hb => hblank b (List.mem_of_mem_getLast? hb))
  -- a grade has three digits at most
  have hdigits : (digitsOf r.priority).length ≤ Text.digitLimit := by
    have hlen : (Nat.toDigits 10 r.priority).length ≤ 3 := by
      refine (Nat.length_toDigits_le_iff (by decide) (by decide)).mpr ?_
      exact Nat.lt_of_le_of_lt h.priority_le (by decide)
    rw [digitsOf, List.length_map]
    exact Nat.le_trans hlen (by decide)
  have hascii := asciiText?_map_byteOf h.typeName_ascii
  rw [String.ofList_toList] at hascii
  rw [readHeader, if_neg (by rw [hlast, Rule.headerLine]; simp), hinner,
    Text.cutAt_append (notMem_digitsOf (by decide) r.priority)]
  have hnumber : readNumber .priority (digitsOf r.priority) = .ok r.priority :=
    readNumber_eq_ok_iff.mpr (spellsNumber_digitsOf hdigits)
  simp only [hstrip, hnumber, hascii, h.typeName_normal, h.typeName_valid, if_pos]

end Header

/-! ## Sections -/

/-- Lines belong to the section that is read next. -/
theorem sections_lines_append {records : List (Located Record)} {lines : List (Located Reading)}
    {more : List Section} (h : sections records = ⟨none, lines⟩ :: more) :
    ∀ ls : List (Located Reading),
      sections (ls.map lineRecord ++ records) = ⟨none, ls ++ lines⟩ :: more := by
  intro ls
  induction ls with
  | nil => exact h
  | cons l ls ih =>
    rw [List.map_cons, List.cons_append, lineRecord, sections, ih]
    rfl

/-- Lines that never skip a depth are all kept, and none is reported. -/
theorem judgeAll_of_stepwise :
    ∀ (ls : List (Located Reading)) (lines : List (Nat × Signature)) (depth : Nat),
      ls.map (·.item) = lines.map lineReading → Entry.Stepwise depth lines →
      keptLines (judgeAll ⟨depth, none⟩ ls) = lines ∧
        reportedLines (judgeAll ⟨depth, none⟩ ls) = [] := by
  intro ls
  induction ls with
  | nil =>
    intro lines depth h _
    rw [List.map_nil] at h
    rw [List.map_eq_nil_iff.mp h.symm]
    exact ⟨rfl, rfl⟩
  | cons l ls ih =>
    intro lines depth h hstep
    cases lines with
    | nil => exact absurd h (by simp)
    | cons line lines =>
      rw [List.map_cons, List.map_cons, List.cons.injEq] at h
      obtain ⟨hle, hrest⟩ := hstep
      -- the line is no deeper than can be attached, and the next one may be a step deeper
      obtain ⟨hkept, hreported⟩ := ih lines (line.1 + 1) h.2 hrest
      have hjudge : judge ⟨depth, none⟩ l.item = (.kept line.1 line.2, ⟨line.1 + 1, none⟩) := by
        rw [h.1, lineReading, judge, if_neg (by simp [Progress.skips]),
          if_neg (Nat.not_lt.mpr hle)]
      rw [judgeAll, hjudge]
      constructor
      · show line :: keptLines (judgeAll ⟨line.1 + 1, none⟩ ls) = line :: lines
        rw [hkept]
      · exact hreported

/-- The section of a written rule yields the rule and no report. -/
theorem read_writtenSection {r : Rule} (h : r.Writable) (offset : Nat)
    {ls : List (Located Reading)}
    (hls : ls.map (·.item) = (Entry.forestPreorder 0 r.entries).map lineReading) :
    Section.read ⟨some ⟨offset, r.headerLine⟩, ls⟩ = ⟨some r, [], none⟩ := by
  obtain ⟨hkept, hreported⟩ :=
    judgeAll_of_stepwise ls _ 0 hls (Entry.stepwise_forestPreorder 0 r.entries)
  have hne : r.entries.isEmpty = false := by simpa using h.entries_ne_nil
  have hmake : Rule.make r.typeName r.priority r.entries = r := by
    rw [Rule.make, clampGrade_natCast h.priority_le]
  rw [Section.read]
  simp only [readHeader_headerLine h, hkept, hreported, Entry.ofPreorder_forestPreorder, hne,
    Bool.false_eq_true, if_false, hmake]

/-- The sections of written rules are read as these rules, each without a report. What comes before
the first of them is empty. -/
theorem readSections_writeRules (style : Style) :
    ∀ (rules : List Rule) (offset : Nat), (∀ r ∈ rules, r.Writable) →
      ∃ more, sections (readRecords offset (rules.flatMap (·.write style))) = ⟨none, []⟩ :: more ∧
        more.map Section.read = rules.map fun r => ⟨some r, [], none⟩ := by
  intro rules
  induction rules with
  | nil =>
    intro offset _
    rw [List.flatMap_nil, readRecords]
    exact ⟨[], rfl, rfl⟩
  | cons r rules ih =>
    intro offset h
    have hr := h r List.mem_cons_self
    -- A section is read as the record of its header, those of its lines, and what follows it.
    rw [List.flatMap_cons, Rule.write, List.append_assoc, List.cons_append]
    obtain ⟨start, hheader⟩ := readRecords_headerLine hr offset
      ((Entry.forestPreorder 0 r.entries).flatMap (fun line => line.2.write style line.1) ++
        rules.flatMap (·.write style))
    obtain ⟨ls, stop, hitems, hlines⟩ :=
      readRecords_lines style (rules.flatMap (·.write style)) _ start hr.lines
    obtain ⟨more, hsections, hread⟩ := ih stop fun x hx => h x (List.mem_cons_of_mem r hx)
    refine ⟨⟨some ⟨offset, r.headerLine⟩, ls⟩ :: more, ?_, ?_⟩
    · rw [hheader, hlines, sections, sections_lines_append hsections ls, List.append_nil]
    · rw [List.map_cons, List.map_cons, read_writtenSection hr offset hitems, hread]

/-- A rule with entries on two levels, a mask, words of two bytes, and values that hold line ends
and delimiters. -/
def nestedRule : Rule where
  typeName := "image/gif"
  priority := 50
  entries :=
    [.node ⟨0, 1, [0x47, 0x49, 0x46, 0x38], none, 1⟩
      [.node ⟨4, 1, [0x0A, 0x5B], some [0xFF, 0x26], 2⟩ [],
       .node ⟨4, 12, [0x3E, 0x00], none, 1⟩ []],
     .node ⟨100, 1, [0x5D], none, 1⟩ []]

end MimeDatabase.Magic
