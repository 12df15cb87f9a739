import MimeDatabase.Log.Event
import MimeDatabase.Magic.Line
import MimeDatabase.TypeName

/-!
# Magic files

A magic file is a header followed by sections, each with a line `[priority:type]` and match lines.
The data is first cut into records, which depends on nothing but the data; the records are then
grouped into sections; and each section is read on its own. A faulty line is reported and skipped
together with the lines below it, and every other line is kept.

What a file holds is one thing, and whether there is room for it is another. The entries of a
section are put together recursively, and the stack for that is limited. If the entries of one
section lie too deep in each other, then nothing of the file is returned (`readRulesWithin`).
-/

namespace MimeDatabase.Magic

/-! ## Records -/

/-- A record of a magic file: the line of a section header, or a match line. -/
inductive Record where
  | header (line : List UInt8)
  | line (reading : Reading)
  deriving DecidableEq, Repr

/-- Something at a position of a file. -/
structure Located (α : Type) where
  offset : Nat
  item : α
  deriving DecidableEq, Repr

/-- The record at the front of data that is not empty, and the data after it. -/
def readRecord (b : UInt8) (bs : List UInt8) : Record × List UInt8 :=
  if b = byteOf '[' then (.header (lineText (b :: bs)), afterLine (b :: bs))
  else
    let (reading, rest) := readLine (b :: bs)
    (.line reading, rest)

theorem readRecord_lt (b : UInt8) (bs : List UInt8) :
    (readRecord b bs).2.length < (b :: bs).length := by
  unfold readRecord
  split
  · exact afterLine_lt (by simp)
  · exact readLine_lt (by simp)

/-- The records of some data that starts at a given position. -/
def readRecords (offset : Nat) : List UInt8 → List (Located Record)
  | [] => []
  | b :: bs =>
    have := readRecord_lt b bs
    ⟨offset, (readRecord b bs).1⟩ ::
      readRecords (offset + ((b :: bs).length - (readRecord b bs).2.length)) (readRecord b bs).2
termination_by bs => bs.length
decreasing_by exact this

/-! ## Section headers -/

/-- Why a line does not head a section. -/
inductive HeaderFault where
  | notBracketed (line : List UInt8)
  | noColon (line : List UInt8)
  | priority (fault : NumberFault)
  | notAscii (line : List UInt8)
  | badType (name : String)
  deriving DecidableEq, Repr

/-- The text of a fault. -/
def HeaderFault.message : HeaderFault → String
  | notBracketed line => "bad section header " ++ String.ofList (Text.quotedBytes line)
  | noColon line => "section header without ':' " ++ String.ofList (Text.quotedBytes line)
  | priority fault => fault.message
  | notAscii line =>
    "non-ASCII MIME type in section header " ++ String.ofList (Text.quotedBytes line)
  | badType name => "invalid MIME type " ++ Text.quote name

/-- White space around a priority. -/
def isBlankByte (b : UInt8) : Bool := b == 32 || (9 ≤ b && b ≤ 13)

/-- The text of ASCII bytes; `none` if a byte is not ASCII. -/
def asciiText? (bs : List UInt8) : Option String :=
  if bs.all (· < 0x80) then some (String.ofList (bs.map fun b => Char.ofNat b.toNat)) else none

/-- The priority and the type name of a section header. -/
def readHeader (line : List UInt8) : Except HeaderFault (Nat × String) :=
  if line.head? ≠ some (byteOf '[') ∨ line.getLast? ≠ some (byteOf ']') then
    .error (.notBracketed line)
  else
    match Text.cutAt (byteOf ':') (line.drop 1).dropLast with
    | (_, none) => .error (.noColon line)
    | (priorityText, some typeText) =>
      match readNumber .priority (Text.stripBy isBlankByte priorityText) with
      | .error fault => .error (.priority fault)
      | .ok priority =>
        match asciiText? typeText with
        | none => .error (.notAscii line)
        | some name =>
          if TypeName.isValid (TypeName.normalize name) then
            .ok (priority, TypeName.normalize name)
          else .error (.badType (TypeName.normalize name))

/-! ## Which lines are kept -/

/-- What is reported about a record. -/
inductive Fault where
  | noFileHeader
  | header (fault : HeaderFault)
  | line (fault : LineFault)
  | outsideSection
  /-- A line is deeper than one below the last line that was kept at a depth less by one. -/
  | skippedDepth (indent depth : Nat)
  deriving DecidableEq, Repr

/-- The text of a fault. -/
def Fault.message : Fault → String
  | noFileHeader => "missing MIME-Magic header"
  | header fault => fault.message
  | line fault => fault.message
  | outsideSection => "match line outside of a section"
  | skippedDepth indent depth =>
    "indent " ++ toString indent ++ " skips a depth (current depth " ++
      toString ((depth : Int) - 1) ++ ")"

/-- What becomes of a match line. -/
inductive Verdict where
  /-- It becomes an entry. -/
  | kept (indent : Nat) (signature : Signature)
  /-- It is skipped and reported. -/
  | reported (fault : Fault)
  /-- It is skipped because it lies below a line that was skipped. -/
  | dropped
  deriving DecidableEq, Repr

/-- What has to be known of the lines before: the number of depths at which a further line can be
attached, and the depth of the line that was last skipped, if the lines since are all below it. -/
structure Progress where
  depth : Nat
  skipping : Option Nat
  deriving DecidableEq, Repr

/-- Whether a line lies below the line that was last skipped. A line whose depth cannot be read does
not. -/
def Progress.skips (p : Progress) (indent : Option Nat) : Bool :=
  match p.skipping, indent with
  | some k, some i => k < i
  | _, _ => false

/-- Judges one line of a section. -/
def judge (p : Progress) (reading : Reading) : Verdict × Progress :=
  match reading with
  | .fault fault indent =>
    if p.skips indent then (.dropped, p)
    else (.reported (.line fault), { p with skipping := some (indent.getD 0) })
  | .entry indent signature =>
    if p.skips (some indent) then (.dropped, p)
    else if p.depth < indent then
      (.reported (.skippedDepth indent p.depth), { p with skipping := some indent })
    else (.kept indent signature, ⟨indent + 1, none⟩)

/-- Judges the lines of a section in order. -/
def judgeAll (p : Progress) : List (Located Reading) → List (Located Verdict)
  | [] => []
  | l :: ls => ⟨l.offset, (judge p l.item).1⟩ :: judgeAll (judge p l.item).2 ls

/-! ## Sections -/

/-- A header and the match lines after it. The lines before the first header have no header. -/
structure Section where
  header : Option (Located (List UInt8))
  lines : List (Located Reading)
  deriving DecidableEq, Repr

/-- Groups records into sections; the first section has no header. -/
def sections : List (Located Record) → List Section
  | [] => [⟨none, []⟩]
  | ⟨offset, .header line⟩ :: rest =>
    match sections rest with
    | [] => []
    | first :: more => ⟨none, []⟩ :: { first with header := some ⟨offset, line⟩ } :: more
  | ⟨offset, .line reading⟩ :: rest =>
    match sections rest with
    | [] => []
    | first :: more => { first with lines := ⟨offset, reading⟩ :: first.lines } :: more

/-- The rule that a section yields, if any, and what is reported about it. -/
structure SectionOutcome where
  rule : Option Rule
  reports : List (Located Fault)
  /-- The type of a section without entries. -/
  emptyType : Option String

/-- The lines that were kept. -/
def keptLines (verdicts : List (Located Verdict)) : List (Nat × Signature) :=
  verdicts.filterMap fun v =>
    match v.item with
    | .kept indent signature => some (indent, signature)
    | _ => none

/-- The lines that were reported. -/
def reportedLines (verdicts : List (Located Verdict)) : List (Located Fault) :=
  verdicts.filterMap fun v =>
    match v.item with
    | .reported fault => some ⟨v.offset, fault⟩
    | _ => none

/-- The faults of lines that stand before the first section header. -/
def strayReports (lines : List (Located Reading)) : List (Located Fault) :=
  lines.map fun l =>
    match l.item with
    | .entry .. => ⟨l.offset, .outsideSection⟩
    | .fault fault _ => ⟨l.offset, .line fault⟩

/-- Reads a section. -/
def Section.read (s : Section) : SectionOutcome :=
  match s.header with
  | none => ⟨none, strayReports s.lines, none⟩
  | some header =>
    match readHeader header.item with
    | .error fault => ⟨none, [⟨header.offset, .header fault⟩], none⟩
    | .ok (priority, name) =>
      let verdicts := judgeAll ⟨0, none⟩ s.lines
      let entries := Entry.ofPreorder (keptLines verdicts)
      if entries.isEmpty then ⟨none, reportedLines verdicts, some name⟩
      else ⟨some (Rule.make name priority entries), reportedLines verdicts, none⟩

/-! ## Files -/

/-- The line that every magic file starts with. -/
def fileHeader : List UInt8 := ("MIME-Magic".toList.map byteOf) ++ [0, newline]

/-- The outcome of every section of a file; `none` if the file does not start as it should. -/
def readSections (data : List UInt8) : Option (List SectionOutcome) :=
  if fileHeader.isPrefixOf data then
    some ((sections (readRecords fileHeader.length (data.drop fileHeader.length))).map Section.read)
  else none

/-- The rules of a file, in file order. -/
def readRules (data : List UInt8) : List Rule :=
  ((readSections data).getD []).filterMap (·.rule)

/-- What is reported about a file, in file order. -/
def readReports (data : List UInt8) : List (Located Fault) :=
  match readSections data with
  | none => [⟨0, .noFileHeader⟩]
  | some outcomes => outcomes.flatMap (·.reports)

/-! ## Room for the entries -/

/-- Why entries cannot be put together. -/
inductive BuildFault where
  /-- They lie too deep in each other. -/
  | tooDeep
  deriving DecidableEq, Repr

/-- The text of the fault. -/
def BuildFault.message : BuildFault → String
  | tooDeep => "maximum recursion depth exceeded"

/-- How many levels of entries there is usually room for. While entries are put together, each level
takes up two places of a stack of a thousand, of which the callers hold a few. -/
def heightLimit : Nat := 495

/-- Whether there is room for the entries of a rule. -/
def Rule.fits (limit : Nat) (r : Rule) : Bool := r.height ≤ limit

/-- The rules of a file, in file order. They are all lost if there is no room for the entries of one
of them. -/
def readRulesWithin (limit : Nat) (data : List UInt8) : Except BuildFault (List Rule) :=
  if (readRules data).all (·.fits limit) then .ok (readRules data) else .error .tooDeep

/-! ## What is logged -/

/-- The event for a report. -/
def reportEvent (source : String) (report : Located Fault) : Log.Event :=
  .magicEntrySkipped source report.offset report.item.message

/-- What is logged while a section is read. -/
def SectionOutcome.events (source : String) (o : SectionOutcome) : List Log.Event :=
  o.reports.map (reportEvent source) ++ (o.emptyType.map Log.Event.sectionDropped).toList

/-- What is logged while a file is read, up to the end of the first section for whose entries there
is no room. -/
def readEvents (limit : Nat) (source : String) (data : List UInt8) : List Log.Event :=
  match readSections data with
  | none => [reportEvent source ⟨0, .noFileHeader⟩]
  | some outcomes =>
    let fitting := outcomes.takeWhile fun o => o.rule.all (·.fits limit)
    match outcomes.drop fitting.length with
    | [] =>
      outcomes.flatMap (·.events source) ++
        [.magicRead source (outcomes.filterMap (·.rule)).length
          (outcomes.flatMap (·.reports)).length]
    | tall :: _ => fitting.flatMap (·.events source) ++ tall.events source

end MimeDatabase.Magic
