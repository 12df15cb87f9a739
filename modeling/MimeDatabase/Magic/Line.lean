import MimeDatabase.Magic.Bytes
import MimeDatabase.Magic.Entry

/-!
# Match lines

A match line of a magic file is

    [indent] '>' offset '=' length value ['&' mask] ['~' word-size] ['+' range] newline

where `offset` is `start` or `start:end`, `length` is two bytes, most significant first, and `value`
and `mask` are that many raw bytes, which may hold any byte. A line is read in two steps: first it
is cut into its fields, which decides where the next line starts; then the fields are interpreted.
-/

namespace MimeDatabase.Magic

/-! ## Cutting a line into fields -/

/-- The fields of a match line as they are written. An optional field that is missing is `none`;
`trailing` tells whether something stands before the end of the line that does not belong there:
the byte found, or the end of the data. -/
structure LineFields where
  indentText : List UInt8
  offsetText : List UInt8
  value : List UInt8
  mask : Option (List UInt8)
  wordText : Option (List UInt8)
  rangeText : Option (List UInt8)
  trailing : Option (Option UInt8)
  deriving DecidableEq, Repr

/-- Why a line cannot be cut into fields. -/
inductive CutFault where
  | noIndentEnd
  | noOffsetEnd
  | noLength
  | shortValue (expected : Nat)
  | shortMask (expected : Nat)
  deriving DecidableEq, Repr

/-- The text of a fault. -/
def CutFault.message : CutFault → String
  | noIndentEnd => "missing '>' in match line"
  | noOffsetEnd => "missing '=' in match line"
  | noLength => "truncated value length"
  | shortValue expected => "truncated value: expected " ++ toString expected ++ " bytes"
  | shortMask expected => "truncated mask: expected " ++ toString expected ++ " bytes"

/-- An optional number: the digits after a mark, if the mark is there, and the rest. -/
def takeMarked (mark : UInt8) (bs : List UInt8) : Option (List UInt8) × List UInt8 :=
  match bs with
  | [] => (none, [])
  | b :: rest =>
    if b = mark then (some (rest.takeWhile isDigitByte), rest.dropWhile isDigitByte)
    else (none, b :: rest)

/-- The end of a line: what stands in its place, if anything does, and what follows the line. -/
def takeLineEnd (bs : List UInt8) : Option (Option UInt8) × List UInt8 :=
  match bs with
  | [] => (some none, [])
  | b :: rest => if b = newline then (none, rest) else (some (some b), afterLine (b :: rest))

/-- The mask after a value of a given length, if there is one; `none` if the data ends in it. -/
def takeMask? (length : Nat) (bs : List UInt8) : Option (Option (List UInt8) × List UInt8) :=
  match bs with
  | [] => some (none, [])
  | b :: rest =>
    if b = byteOf '&' then (takeExactly? length rest).map fun (mask, rest) => (some mask, rest)
    else some (none, b :: rest)

/-- The number that two bytes spell, most significant first. -/
def wordOf (high low : UInt8) : Nat := high.toNat * 256 + low.toNat

/-- Cuts a line into fields from the value on. -/
def cutValue (indentText offsetText bs : List UInt8) :
    Except CutFault LineFields × List UInt8 :=
  match bs with
  | high :: low :: bs =>
    match takeExactly? (wordOf high low) bs with
    | none => (.error (.shortValue (wordOf high low)), [])
    | some (value, bs) =>
      match takeMask? (wordOf high low) bs with
      | none => (.error (.shortMask (wordOf high low)), [])
      | some (mask, bs) =>
        let (wordText, bs) := takeMarked (byteOf '~') bs
        let (rangeText, bs) := takeMarked (byteOf '+') bs
        let (trailing, bs) := takeLineEnd bs
        (.ok ⟨indentText, offsetText, value, mask, wordText, rangeText, trailing⟩, bs)
  | _ => (.error .noLength, [])

/-- Cuts the line at the front of some data into fields. With a fault comes the text of the indent,
if it was found. The last component is the data after the line. -/
def cutLine (bs : List UInt8) :
    Except (CutFault × Option (List UInt8)) LineFields × List UInt8 :=
  match takeUntil? (byteOf '>') bs with
  | none => (.error (.noIndentEnd, none), afterLine bs)
  | some (indentText, rest) =>
    match takeUntil? (byteOf '=') rest with
    | none => (.error (.noOffsetEnd, some indentText), afterLine rest)
    | some (offsetText, rest) =>
      let (fields, rest) := cutValue indentText offsetText rest
      (fields.mapError fun fault => (fault, some indentText), rest)

theorem takeMarked_length (mark : UInt8) (bs : List UInt8) :
    (takeMarked mark bs).2.length ≤ bs.length := by
  unfold takeMarked
  split
  · simp
  · next b rest =>
    split
    · have := (List.dropWhile_sublist (l := rest) isDigitByte).length_le
      simp
      omega
    · simp

theorem takeLineEnd_length (bs : List UInt8) : (takeLineEnd bs).2.length ≤ bs.length := by
  unfold takeLineEnd
  split
  · simp
  · split
    · simp
    · exact afterLine_length _

theorem takeMask?_length {length : Nat} {bs rest : List UInt8} {mask : Option (List UInt8)}
    (h : takeMask? length bs = some (mask, rest)) : rest.length ≤ bs.length := by
  unfold takeMask? at h
  split at h
  · simp_all
  · split at h
    · obtain ⟨⟨chunk, r⟩, hr, he⟩ := Option.map_eq_some_iff.1 h
      simp only [Prod.mk.injEq] at he
      rw [(takeExactly?_eq_some_iff.1 hr).1, ← he.2]
      simp
      omega
    · simp_all

theorem cutValue_length (indentText offsetText bs : List UInt8) :
    (cutValue indentText offsetText bs).2.length ≤ bs.length := by
  unfold cutValue
  split
  · next high low bs =>
    split
    · simp
    · next value rest hv =>
      split
      · simp
      · next mask rest' hm =>
        have h1 := takeLineEnd_length
          (takeMarked (byteOf '+') (takeMarked (byteOf '~') rest').2).2
        have h2 := takeMarked_length (byteOf '+') (takeMarked (byteOf '~') rest').2
        have h3 := takeMarked_length (byteOf '~') rest'
        have h4 := takeMask?_length hm
        have h5 := congrArg List.length (takeExactly?_eq_some_iff.1 hv).1
        simp only [List.length_append, List.length_cons] at *
        omega
  · simp

/-- Reading a line uses up some of the data. -/
theorem cutLine_lt {bs : List UInt8} (h : bs ≠ []) : (cutLine bs).2.length < bs.length := by
  unfold cutLine
  split
  · exact afterLine_lt h
  · next hi =>
    have h1 := takeUntil?_length hi
    split
    · next rest _ _ =>
      have := afterLine_length rest
      simp only
      omega
    · next ho =>
      have h2 := takeUntil?_length ho
      have h3 := cutValue_length
      simp only
      exact Nat.lt_of_le_of_lt (h3 _ _ _) (by omega)

/-! ## Interpreting the fields -/

/-- Why the fields of a line do not make an entry. -/
inductive FieldFault where
  | number (fault : NumberFault)
  /-- Something stands before the end of the line: a byte, or the end of the data. -/
  | trailing (found : Option UInt8)
  /-- An offset range ends before or where it starts. -/
  | emptyOffsets (stop start : Nat)
  | rangeTwice
  | zeroRange
  | badWordSize (size : Nat)
  | brokenWords (length size : Nat)
  | emptyValue
  deriving DecidableEq, Repr

/-- The text of a fault. -/
def FieldFault.message : FieldFault → String
  | number fault => fault.message
  | trailing found =>
    "unexpected data " ++ String.ofList (Text.quotedBytes found.toList) ++ " before end of line"
  | emptyOffsets stop start =>
    "offset range end " ++ toString stop ++ " is not after start " ++ toString start
  | rangeTwice => "range given both as offset range and range length"
  | zeroRange => "zero range length"
  | badWordSize size => "invalid word size " ++ toString size
  | brokenWords length size =>
    "value length " ++ toString length ++ " is not a multiple of word size " ++ toString size
  | emptyValue => "empty value"

/-- The indent of a line; a line without an indent text has indent zero. -/
def readIndent (text : List UInt8) : Except NumberFault Nat :=
  if text.isEmpty then .ok 0 else readNumber .indent text

/-- The start that an offset names and, if it names a range, the number of positions in it. -/
def readOffset (text : List UInt8) : Except FieldFault (Nat × Option Nat) :=
  match Text.cutAt (byteOf ':') text with
  | (startText, stopText) =>
    match readNumber .offset startText with
    | .error fault => .error (.number fault)
    | .ok start =>
      match stopText with
      | none => .ok (start, none)
      | some stopText =>
        match readNumber .offsetEnd stopText with
        | .error fault => .error (.number fault)
        | .ok stop =>
          if stop ≤ start then .error (.emptyOffsets stop start)
          else .ok (start, some (stop - start))

/-- An optional number, with the fault if it cannot be read. -/
def readOptional (field : NumberField) (text : Option (List UInt8)) :
    Option Nat × List FieldFault :=
  match text with
  | none => (none, [])
  | some text =>
    match readNumber field text with
    | .ok n => (some n, [])
    | .error fault => (none, [.number fault])

/-- What is wrong with a word size for a value of some length. A size of zero or one stands for
single bytes. -/
def wordFaults (size length : Nat) : List FieldFault :=
  if size ∉ [0, 1, 2, 4] then [.badWordSize size]
  else if 1 < size ∧ length % size ≠ 0 then [.brokenWords length size]
  else []

/-- The entry line that fields denote: its indent and its signature, or all that is wrong with
them, in the order in which it is reported. -/
def LineFields.interpret (f : LineFields) : Except (List FieldFault) (Nat × Signature) :=
  let indent := readIndent f.indentText
  let word := readOptional .wordSize f.wordText
  let range := readOptional .rangeLength f.rangeText
  let offset := readOffset f.offsetText
  let size := word.1.getD 1
  let faults : List FieldFault :=
    (match indent with | .error e => [.number e] | .ok _ => []) ++
    word.2 ++ range.2 ++
    (match f.trailing with | some found => [.trailing found] | none => []) ++
    (match offset with | .error e => [e] | .ok _ => []) ++
    (match offset, range.1 with | .ok (_, some _), some _ => [.rangeTwice] | _, _ => []) ++
    (if range.1 = some 0 then [.zeroRange] else []) ++
    wordFaults size f.value.length ++
    (if f.value.isEmpty then [.emptyValue] else [])
  match faults, indent, offset with
  | [], .ok indent, .ok (start, positions) =>
    .ok (indent, ⟨start, (positions.or range.1).getD 1, f.value, f.mask, max size 1⟩)
  | faults, _, _ => .error faults

/-! ## Reading a line -/

/-- Why a line is not an entry. -/
inductive LineFault where
  | cut (fault : CutFault)
  | fields (faults : List FieldFault)
  deriving DecidableEq, Repr

/-- The text of a fault. -/
def LineFault.message : LineFault → String
  | cut fault => fault.message
  | fields faults => String.intercalate "; " (faults.map FieldFault.message)

/-- What a match line turns out to be: an entry at some depth, or a fault, with the depth if it can
be read. -/
inductive Reading where
  | entry (indent : Nat) (signature : Signature)
  | fault (fault : LineFault) (indent : Option Nat)
  deriving DecidableEq, Repr

/-- The depth at which a line stands, or zero where it cannot be read. -/
def Reading.indent : Reading → Nat
  | entry indent _ => indent
  | fault _ indent => indent.getD 0

/-- Reads the line at the front of some data: what it is, and the data after it. -/
def readLine (bs : List UInt8) : Reading × List UInt8 :=
  match cutLine bs with
  | (.error (fault, indentText), rest) =>
    (.fault (.cut fault) (indentText.bind fun t => (readIndent t).toOption), rest)
  | (.ok fields, rest) =>
    match fields.interpret with
    | .ok (indent, signature) => (.entry indent signature, rest)
    | .error faults =>
      (.fault (.fields faults) (readIndent fields.indentText).toOption, rest)

theorem readLine_rest (bs : List UInt8) : (readLine bs).2 = (cutLine bs).2 := by
  unfold readLine
  split
  · next h => rw [h]
  · next h => rw [h]; split <;> rfl

/-- Reading a line uses up some of the data. -/
theorem readLine_lt {bs : List UInt8} (h : bs ≠ []) : (readLine bs).2.length < bs.length := by
  rw [readLine_rest]
  exact cutLine_lt h

end MimeDatabase.Magic
