import MimeDatabase.Magic.Grammar
import MimeDatabase.Proofs.Magic.Fields

/-!
# A line is an entry if and only if the grammar says so

`readLine` takes an entry off the front of some data exactly if the data starts with a match line of
the grammar, and then it takes this line and no more, and finds the depth and the comparison that
the line denotes (`readLine_eq_entry_iff`). Nothing outside of the grammar is let through, although
all that is wrong with a line is collected while reading goes on; and nothing of it is refused,
although delimiters are looked for in bytes that may be anything.

Reading has two steps, and so has the proof: fields that are accepted denote what they spell
(`interpret_eq_ok_iff`), and a line is cut where its fields end (`eq_of_cutValue`,
`cutValue_line`).
-/

namespace MimeDatabase.Magic

/-! ## Indents and offsets -/

/-- A number is read from exactly the texts that spell it. -/
theorem readNumber_eq_ok_iff {field : NumberField} {text : List UInt8} {n : Nat} :
    readNumber field text = .ok n ↔ SpellsNumber text n := by
  unfold readNumber
  split
  next hbad =>
    refine iff_of_false (by rintro ⟨⟩) fun h => ?_
    rw [Bool.or_eq_true, List.isEmpty_iff, Bool.not_eq_true', List.all_eq_false] at hbad
    rcases hbad with hnil | ⟨b, hb, hdigit⟩
    · exact h.ne_nil hnil
    · exact hdigit (h.digits b hb)
  next hgood =>
    rw [Bool.or_eq_true, not_or, List.isEmpty_iff, Bool.not_eq_true', Bool.not_eq_false,
      List.all_eq_true] at hgood
    split
    next hlong => exact iff_of_false (by rintro ⟨⟩) fun h => absurd h.length_le (by omega)
    next hshort =>
      rw [Except.ok.injEq]
      exact ⟨fun h => ⟨hgood.1, by omega, hgood.2, h⟩, fun h => h.value⟩

/-- An indent is read from exactly the texts that spell it. -/
theorem readIndent_eq_ok_iff {text : List UInt8} {n : Nat} :
    readIndent text = .ok n ↔ SpellsIndent text n := by
  unfold readIndent
  split
  next hnil =>
    rw [List.isEmpty_iff] at hnil
    subst hnil
    rw [Except.ok.injEq]
    constructor
    · rintro rfl
      exact .missing
    · intro h
      cases h with
      | missing => rfl
      | number h => exact absurd rfl h.ne_nil
  next hne =>
    rw [readNumber_eq_ok_iff]
    constructor
    · exact .number
    · intro h
      cases h with
      | missing => exact absurd rfl hne
      | number h => exact h

/-- The text of a number holds digits only. -/
theorem SpellsNumber.notMem {text : List UInt8} {n : Nat} (h : SpellsNumber text n) {b : UInt8}
    (hb : isDigitByte b = false) : b ∉ text := by
  intro hmem
  rw [h.digits b hmem] at hb
  exact absurd hb (by decide)

theorem SpellsIndent.notMem {text : List UInt8} {n : Nat} (h : SpellsIndent text n) {b : UInt8}
    (hb : isDigitByte b = false) : b ∉ text := by
  cases h with
  | missing => exact List.not_mem_nil
  | number h => exact h.notMem hb

/-- A start, and how many positions are tried, is read from exactly the texts that spell it. -/
theorem readOffset_eq_ok_iff {text : List UInt8} {start : Nat} {positions : Option Nat} :
    readOffset text = .ok (start, positions) ↔ SpellsOffset text start positions := by
  constructor
  · intro h
    unfold readOffset at h
    split at h
    next startText stopText hcut =>
      split at h
      next => cases h
      next n hstart =>
        rw [readNumber_eq_ok_iff] at hstart
        split at h
        next =>
          cases h
          rw [Text.eq_of_cutAt_none hcut]
          exact .start hstart
        next stopText =>
          split at h
          next => cases h
          next stop hstop =>
            rw [readNumber_eq_ok_iff] at hstop
            split at h
            next => cases h
            next hlt =>
              cases h
              rw [Text.eq_of_cutAt hcut]
              exact .range hstart hstop (Nat.lt_of_not_le hlt)
  · intro h
    unfold readOffset
    cases h with
    | start h =>
      rw [Text.cutAt_of_notMem (h.notMem (by decide))]
      simp only [readNumber_eq_ok_iff.mpr h]
    | range hstart hstop hlt =>
      rw [Text.cutAt_append (hstart.notMem (by decide))]
      simp only [readNumber_eq_ok_iff.mpr hstart, readNumber_eq_ok_iff.mpr hstop,
        if_neg (Nat.not_le.mpr hlt)]

/-- The text of an offset holds digits and possibly a colon. -/
theorem SpellsOffset.notMem {text : List UInt8} {start : Nat} {positions : Option Nat}
    (h : SpellsOffset text start positions) {b : UInt8} (hb : isDigitByte b = false)
    (hne : b ≠ byteOf ':') : b ∉ text := by
  cases h with
  | start h => exact h.notMem hb
  | range hstart hstop =>
    rw [List.mem_append, List.mem_cons, not_or, not_or]
    exact ⟨hstart.notMem hb, hne, hstop.notMem hb⟩

/-! ## Optional fields -/

/-- The text of an optional number, with its mark. -/
def markedText (mark : UInt8) : Option (List UInt8) → List UInt8
  | none => []
  | some digits => mark :: digits

/-- A field that may be missing is read without a fault from exactly the texts that spell it. -/
theorem readOptional_eq_iff {field : NumberField} (mark : UInt8) {text : Option (List UInt8)}
    {n : Option Nat} :
    readOptional field text = (n, []) ↔ SpellsMarked mark (markedText mark text) n := by
  cases text with
  | none =>
    rw [readOptional, Prod.mk.injEq, and_iff_left rfl]
    constructor
    · rintro rfl
      exact .missing
    · intro h
      cases h
      rfl
  | some text =>
    rw [readOptional]
    split
    next n' hread =>
      rw [Prod.mk.injEq, and_iff_left rfl]
      constructor
      · rintro rfl
        exact .number (readNumber_eq_ok_iff.mp hread)
      · intro h
        cases h with
        | number h =>
          rw [readNumber_eq_ok_iff.mpr h] at hread
          cases hread
          rfl
    next hread =>
      refine iff_of_false (fun h => by cases h) fun h => ?_
      cases h with
      | number h =>
        rw [readNumber_eq_ok_iff.mpr h] at hread
        cases hread

/-- An optional number that is cut off stands at the front. -/
theorem eq_of_takeMarked {mark : UInt8} {bs rest : List UInt8} {digits : Option (List UInt8)}
    (h : takeMarked mark bs = (digits, rest)) : bs = markedText mark digits ++ rest := by
  unfold takeMarked at h
  split at h
  next =>
    cases h
    rfl
  next b bs =>
    split at h
    next heq =>
      cases h
      rw [heq]
      exact congrArg (mark :: ·) List.takeWhile_append_dropWhile.symm
    next =>
      cases h
      rfl

/-- An optional number is cut off whole if what follows it is neither a digit nor its mark. -/
theorem takeMarked_of_spells {mark b : UInt8} {text : List UInt8} {n : Option Nat}
    (h : SpellsMarked mark text n) (hdigit : isDigitByte b = false) (hne : b ≠ mark)
    (rest : List UInt8) : ∃ digits, markedText mark digits = text ∧
      takeMarked mark (text ++ b :: rest) = (digits, b :: rest) := by
  cases h with
  | missing => exact ⟨none, rfl, if_neg hne⟩
  | @number digits n h =>
    obtain ⟨htake, hdrop⟩ := span_append isDigitByte digits (b :: rest) h.digits
      (by simpa using hdigit)
    refine ⟨some digits, rfl, ?_⟩
    rw [List.cons_append, takeMarked, if_pos rfl, htake, hdrop]

/-- A mask that is found stands at the front. -/
theorem eq_of_takeMask? {length : Nat} {bs rest : List UInt8} {mask : Option (List UInt8)}
    (h : takeMask? length bs = some (mask, rest)) :
    ∃ text, SpellsMask length text mask ∧ bs = text ++ rest := by
  unfold takeMask? at h
  split at h
  next =>
    cases h
    exact ⟨[], .missing, rfl⟩
  next b bs =>
    split at h
    next heq =>
      obtain ⟨⟨chunk, rest'⟩, htake, hpair⟩ := Option.map_eq_some_iff.mp h
      cases hpair
      obtain ⟨rfl, hlength⟩ := takeExactly?_eq_some_iff.mp htake
      rw [heq]
      exact ⟨_, .bytes hlength, rfl⟩
    next =>
      cases h
      exact ⟨[], .missing, rfl⟩

/-- A mask, or none, is taken from what it is followed by. -/
theorem takeMask?_of_spells {length : Nat} {b : UInt8} {text : List UInt8}
    {mask : Option (List UInt8)} (h : SpellsMask length text mask) (hne : b ≠ byteOf '&')
    (rest : List UInt8) : takeMask? length (text ++ b :: rest) = some (mask, b :: rest) := by
  cases h with
  | missing => exact if_neg hne
  | bytes h =>
    rw [List.cons_append, takeMask?, if_pos rfl, takeExactly?_append h]
    rfl

/-! ## Accepted fields -/

/-- A word size is accepted if there are such words and they divide the value. -/
theorem wordFaults_eq_nil_iff {size length : Nat} :
    wordFaults size length = [] ↔ size ∈ [0, 1, 2, 4] ∧ (1 < size → size ∣ length) := by
  unfold wordFaults
  split
  next hmem => exact iff_of_false (List.cons_ne_nil _ _) fun h => hmem h.1
  next hmem =>
    rw [not_not] at hmem
    rw [and_iff_right hmem, Nat.dvd_iff_mod_eq_zero]
    split
    next hbroken => exact iff_of_false (List.cons_ne_nil _ _) fun h => hbroken.2 (h hbroken.1)
    next hwhole => exact iff_of_true rfl fun hlt => not_not.mp fun hne => hwhole ⟨hlt, hne⟩

/-- Fields are accepted if nothing is wrong with any of them. -/
theorem interpret_eq_ok_iff {f : LineFields} {depth : Nat} {s : Signature} :
    f.interpret = .ok (depth, s) ↔
      f.trailing = none ∧ readIndent f.indentText = .ok depth ∧
        ∃ start positions word range, readOffset f.offsetText = .ok (start, positions) ∧
          readOptional .wordSize f.wordText = (word, []) ∧
          readOptional .rangeLength f.rangeText = (range, []) ∧
          (positions = none ∨ range = none) ∧ range ≠ some 0 ∧
          wordFaults (word.getD 1) f.value.length = [] ∧ f.value ≠ [] ∧
          s = ⟨start, (positions.or range).getD 1, f.value, f.mask, max (word.getD 1) 1⟩ := by
  constructor
  · intro h
    unfold LineFields.interpret at h
    dsimp only at h
    split at h
    next _ _ _ indent start positions hfaults hindent hoffset =>
      cases h
      simp only [List.append_eq_nil_iff] at hfaults
      obtain ⟨⟨⟨⟨⟨⟨⟨⟨-, hword⟩, hrange⟩, htrailing⟩, -⟩, honce⟩, hzero⟩, hsize⟩, hempty⟩ := hfaults
      refine ⟨?_, hindent, start, positions, _, _, hoffset, Prod.ext rfl hword, Prod.ext rfl hrange,
        ?_, ?_, hsize, ?_, rfl⟩
      · cases hfound : f.trailing with
        | none => rfl
        | some found => rw [hfound] at htrailing; cases htrailing
      · cases positions with
        | none => exact Or.inl rfl
        | some n =>
          cases hread : (readOptional .rangeLength f.rangeText).1 with
          | none => exact Or.inr hread
          | some m => rw [hoffset, hread] at honce; cases honce
      · intro h
        rw [if_pos h] at hzero
        cases hzero
      · intro h
        rw [if_pos (List.isEmpty_iff.mpr h)] at hempty
        cases hempty
    next => cases h
  · rintro ⟨htrailing, hindent, start, positions, word, range, hoffset, hword, hrange, honce,
      hzero, hsize, hvalue, rfl⟩
    unfold LineFields.interpret
    -- with both ranges given there would be a fault
    rcases honce with rfl | rfl
    · simp only [htrailing, hindent, hoffset, hword, hrange, hsize, if_neg hzero,
        if_neg (mt List.isEmpty_iff.mp hvalue), List.append_nil]
    · cases positions <;>
        simp only [htrailing, hindent, hoffset, hword, hrange, hsize, if_neg hzero,
          if_neg (mt List.isEmpty_iff.mp hvalue), List.append_nil]

/-! ## Lines -/

theorem eq_of_takeLineEnd {bs rest : List UInt8} (h : takeLineEnd bs = (none, rest)) :
    bs = newline :: rest := by
  unfold takeLineEnd at h
  split at h
  next => cases h
  next b bs =>
    split at h
    next heq =>
      cases h
      rw [heq]
    next => cases h

/-- What was cut off from the length on stands there, if nothing was passed over before the end of
the line. -/
theorem eq_of_cutValue {indentText offsetText bs rest : List UInt8} {f : LineFields}
    (h : cutValue indentText offsetText bs = (.ok f, rest)) (htrailing : f.trailing = none) :
    f.indentText = indentText ∧ f.offsetText = offsetText ∧ f.value.length < 65536 ∧
      ∃ maskText, SpellsMask f.value.length maskText f.mask ∧
        bs = writeLength f.value.length ++ (f.value ++ (maskText ++
          (markedText (byteOf '~') f.wordText ++ (markedText (byteOf '+') f.rangeText ++
            newline :: rest)))) := by
  unfold cutValue at h
  split at h
  next high low bs =>
    split at h
    next => cases h
    next value bs hvalue =>
      obtain ⟨rfl, hlength⟩ := takeExactly?_eq_some_iff.mp hvalue
      split at h
      next => cases h
      next mask bs hmask =>
        cases hword : takeMarked (byteOf '~') bs with
        | mk wordText bs₁ =>
          cases hrange : takeMarked (byteOf '+') bs₁ with
          | mk rangeText bs₂ =>
            cases hend : takeLineEnd bs₂ with
            | mk trailing rest =>
              simp only [hword, hrange, hend] at h
              cases h
              obtain ⟨maskText, hspells, rfl⟩ := eq_of_takeMask? hmask
              obtain rfl : trailing = none := htrailing
              have hlt : value.length < 65536 := hlength ▸ wordOf_lt high low
              refine ⟨rfl, rfl, hlt, maskText, hlength ▸ hspells, ?_⟩
              rw [hlength, writeLength_wordOf, eq_of_takeMarked hword, eq_of_takeMarked hrange,
                eq_of_takeLineEnd hend]
              rfl
  next => cases h

/-- What an optional number is followed by starts with its mark or with what follows it. -/
theorem SpellsMarked.exists_cons {mark : UInt8} {text : List UInt8} {n : Option Nat}
    (h : SpellsMarked mark text n) (b : UInt8) (rest : List UInt8) :
    ∃ first more, text ++ b :: rest = first :: more ∧ (first = mark ∨ first = b) := by
  cases h with
  | missing => exact ⟨b, rest, rfl, Or.inr rfl⟩
  | number => exact ⟨mark, _, rfl, Or.inl rfl⟩

/-- A line of the grammar is cut where its fields end, whatever follows it. -/
theorem cutValue_line {value maskText wordText rangeText : List UInt8} {mask : Option (List UInt8)}
    {word range : Option Nat} (hvalue : value.length < 65536)
    (hmask : SpellsMask value.length maskText mask)
    (hword : SpellsMarked (byteOf '~') wordText word)
    (hrange : SpellsMarked (byteOf '+') rangeText range) (indentText offsetText rest : List UInt8) :
    ∃ wordDigits rangeDigits, markedText (byteOf '~') wordDigits = wordText ∧
      markedText (byteOf '+') rangeDigits = rangeText ∧
      cutValue indentText offsetText (writeLength value.length ++ (value ++ (maskText ++
          (wordText ++ (rangeText ++ newline :: rest))))) =
        (.ok ⟨indentText, offsetText, value, mask, wordDigits, rangeDigits, none⟩, rest) := by
  -- each optional field is told from the next one by its first byte
  obtain ⟨rangeDigits, hrangeText, htakeRange⟩ :=
    takeMarked_of_spells hrange (b := newline) (by decide) (by decide) rest
  obtain ⟨b, more, hb, hfirst⟩ := hrange.exists_cons newline rest
  obtain ⟨wordDigits, hwordText, htakeWord⟩ : ∃ digits, markedText (byteOf '~') digits = wordText ∧
      takeMarked (byteOf '~') (wordText ++ b :: more) = (digits, b :: more) := by
    rcases hfirst with rfl | rfl <;> exact takeMarked_of_spells hword (by decide) (by decide) more
  obtain ⟨b', more', hb', hfirst'⟩ := hword.exists_cons b more
  have htakeMask : takeMask? value.length (maskText ++ b' :: more') = some (mask, b' :: more') := by
    rcases hfirst' with rfl | rfl
    · exact takeMask?_of_spells hmask (by decide) more'
    · rcases hfirst with rfl | rfl <;> exact takeMask?_of_spells hmask (by decide) more'
  refine ⟨wordDigits, rangeDigits, hwordText, hrangeText, ?_⟩
  rw [hb, hb', writeLength, List.cons_append, List.cons_append, List.nil_append, cutValue]
  simp only [wordOf_writeLength hvalue, takeExactly?_append, htakeMask]
  rw [← hb', htakeWord, ← hb, htakeRange]
  simp only [takeLineEnd, if_pos]

/-- Accepted fields stand at the front of the data, and nothing else does before the end of the
line. -/
theorem eq_of_cutLine {bs rest : List UInt8} {f : LineFields} (h : cutLine bs = (.ok f, rest))
    (htrailing : f.trailing = none) :
    f.value.length < 65536 ∧ ∃ maskText, SpellsMask f.value.length maskText f.mask ∧
      bs = f.indentText ++ byteOf '>' :: (f.offsetText ++ byteOf '=' ::
        (writeLength f.value.length ++ (f.value ++ (maskText ++
          (markedText (byteOf '~') f.wordText ++ (markedText (byteOf '+') f.rangeText ++
            newline :: rest)))))) := by
  unfold cutLine at h
  split at h
  next => cases h
  next indentText bs₁ hindent =>
    split at h
    next => cases h
    next offsetText bs₂ hoffset =>
      cases hcut : cutValue indentText offsetText bs₂ with
      | mk fields rest₁ =>
        rw [hcut] at h
        cases fields with
        | error fault => cases h
        | ok fields =>
          cases h
          obtain ⟨rfl, rfl, hlt, maskText, hmask, htext⟩ := eq_of_cutValue hcut htrailing
          refine ⟨hlt, maskText, hmask, ?_⟩
          rw [eq_of_takeUntil? hindent, eq_of_takeUntil? hoffset, ← htext]

/-- What is read as an entry is a line of the grammar, and it alone is used up. -/
theorem exists_matchLine_of_readLine {bs rest : List UInt8} {depth : Nat} {s : Signature}
    (h : readLine bs = (.entry depth s, rest)) :
    ∃ line, MatchLine line depth s ∧ bs = line ++ rest := by
  unfold readLine at h
  split at h
  next => cases h
  next fields rest' hcut =>
    split at h
    next hfields =>
      cases h
      obtain ⟨htrailing, hindent, start, positions, word, range, hoffset, hword, hrange, honce,
        hzero, hsize, hvalue, rfl⟩ := interpret_eq_ok_iff.mp hfields
      obtain ⟨hlt, maskText, hmask, rfl⟩ := eq_of_cutLine hcut htrailing
      obtain ⟨hmem, hdvd⟩ := wordFaults_eq_nil_iff.mp hsize
      refine ⟨_, .line (readIndent_eq_ok_iff.mp hindent) (readOffset_eq_ok_iff.mp hoffset)
        (List.length_pos_iff.mpr hvalue) hlt hmask ((readOptional_eq_iff _).mp hword)
        ((readOptional_eq_iff _).mp hrange) honce hzero hmem hdvd, ?_⟩
      simp only [List.append_assoc, List.cons_append, List.nil_append]
    next => cases h

/-- A line of the grammar is read as what it denotes, whatever follows it. -/
theorem MatchLine.readLine_append {line : List UInt8} {depth : Nat} {s : Signature}
    (h : MatchLine line depth s) (rest : List UInt8) :
    readLine (line ++ rest) = (.entry depth s, rest) := by
  cases h with
  | @line indentText offsetText value maskText wordText rangeText depth start mask positions word
      range indent offset value_pos value_lt spellsMask spellsWord spellsRange range_once range_ne
      word_mem word_dvd =>
    obtain ⟨wordDigits, rangeDigits, rfl, rfl, hcutValue⟩ :=
      cutValue_line value_lt spellsMask spellsWord spellsRange indentText offsetText rest
    have hfields : LineFields.interpret
        ⟨indentText, offsetText, value, mask, wordDigits, rangeDigits, none⟩ =
          .ok (depth, ⟨start, (positions.or range).getD 1, value, mask, max (word.getD 1) 1⟩) :=
      interpret_eq_ok_iff.mpr ⟨rfl, readIndent_eq_ok_iff.mpr indent, start, positions, word, range,
        readOffset_eq_ok_iff.mpr offset, (readOptional_eq_iff _).mpr spellsWord,
        (readOptional_eq_iff _).mpr spellsRange, range_once, range_ne,
        wordFaults_eq_nil_iff.mpr ⟨word_mem, word_dvd⟩, List.length_pos_iff.mp value_pos, rfl⟩
    simp only [List.append_assoc, List.cons_append, List.nil_append]
    rw [readLine, cutLine, takeUntil?_append (indent.notMem (by decide))
      (indent.notMem (by decide))]
    simp only [takeUntil?_append (offset.notMem (b := byteOf '=') (by decide) (by decide))
      (offset.notMem (b := newline) (by decide) (by decide)), hcutValue, Except.mapError, hfields]

/-- **A line is an entry if and only if the grammar says so.** The bytes that are used up are the
line, and depth and comparison are the ones that it denotes. -/
theorem readLine_eq_entry_iff {bs rest : List UInt8} {depth : Nat} {s : Signature} :
    readLine bs = (.entry depth s, rest) ↔
      ∃ line, MatchLine line depth s ∧ bs = line ++ rest := by
  constructor
  · exact exists_matchLine_of_readLine
  · rintro ⟨line, hline, rfl⟩
    exact hline.readLine_append rest

/-- The grammar is unambiguous: of some data one line at most stands at the front, and it has one
meaning. -/
theorem MatchLine.unique {line line' rest rest' : List UInt8} {depth depth' : Nat}
    {s s' : Signature} (h : MatchLine line depth s) (h' : MatchLine line' depth' s')
    (heq : line ++ rest = line' ++ rest') : line = line' ∧ depth = depth' ∧ s = s' := by
  have hread := h'.readLine_append rest'
  rw [← heq, h.readLine_append rest] at hread
  cases hread
  exact ⟨List.append_cancel_right heq, rfl, rfl⟩

/-- A line does not start like a header. -/
theorem MatchLine.exists_cons {line : List UInt8} {depth : Nat} {s : Signature}
    (h : MatchLine line depth s) : ∃ b bs, line = b :: bs ∧ b ≠ byteOf '[' := by
  cases h with
  | @line indentText _ _ _ _ _ _ _ _ _ _ _ indent =>
    cases indentText with
    | nil => exact ⟨byteOf '>', _, rfl, by decide⟩
    | cons b bs =>
      refine ⟨b, _, rfl, fun hb => ?_⟩
      have hnot : byteOf '[' ∉ b :: bs := indent.notMem (by decide)
      exact hnot (hb ▸ List.mem_cons_self)

end MimeDatabase.Magic
