import MimeDatabase.Magic.Document

/-!
# Reading record by record

A magic file can be read in one pass, without being cut into sections first. All that is remembered
between two records is the place that was reached, the section that is open there, and what was
found so far. A section yields its rule when it is closed, by the next header or by the end of the
file.
-/

namespace MimeDatabase.Magic

/-! ## The open section -/

/-- The section in which the next line stands. -/
inductive OpenSection where
  /-- No header was read yet. -/
  | before
  /-- The header was not accepted. -/
  | refused
  /-- The header was accepted; with the lines that were kept since. -/
  | accepted (priority : Nat) (name : String) (kept : List (Nat × Signature))
    (progress : Progress)

namespace OpenSection

/-- The rule that a section yields if it is closed here. -/
def rule? : OpenSection → Option Rule
  | before | refused => none
  | accepted priority name kept _ =>
    let entries := Entry.ofPreorder kept
    if entries.isEmpty then none else some (Rule.make name priority entries)

/-- The section that a header opens, and what is reported about the header. -/
def ofHeader (line : List UInt8) : OpenSection × Option Fault :=
  match readHeader line with
  | .ok (priority, name) => (accepted priority name [] ⟨0, none⟩, none)
  | .error fault => (refused, some (.header fault))

/-- What is reported about a line before the first header. -/
def strayFault : Reading → Fault
  | .entry .. => .outsideSection
  | .fault fault _ => .line fault

/-- The section after a further line, and what is reported about the line. -/
def addLine (s : OpenSection) (reading : Reading) : OpenSection × Option Fault :=
  match s with
  | before => (before, some (strayFault reading))
  | refused => (refused, none)
  | accepted priority name kept progress =>
    match judge progress reading with
    | (.kept indent signature, progress) =>
      (accepted priority name (kept ++ [(indent, signature)]) progress, none)
    | (.reported fault, progress) => (accepted priority name kept progress, some fault)
    | (.dropped, progress) => (accepted priority name kept progress, none)

end OpenSection

/-! ## The pass -/

/-- How far a file was read. -/
structure Pass where
  /-- The place of the next record. -/
  offset : Nat
  rest : List UInt8
  current : OpenSection
  /-- The rules of the sections that were closed. -/
  rules : List Rule
  reports : List (Located Fault)

namespace Pass

/-- A file before its first record. In one that does not start with the file header there is nothing
to read. -/
def ofFile (data : List UInt8) : Pass :=
  if fileHeader.isPrefixOf data then
    ⟨fileHeader.length, data.drop fileHeader.length, .before, [], []⟩
  else ⟨0, [], .before, [], [⟨0, .noFileHeader⟩]⟩

/-- What is reported about the record at the place of a pass. -/
def reportsHere (p : Pass) (fault? : Option Fault) : List (Located Fault) :=
  fault?.toList.map fun fault => ⟨p.offset, fault⟩

/-- The pass behind the next record. -/
def goOn (p : Pass) (record : Record) (rest : List UInt8) : Pass :=
  let offset := p.offset + (p.rest.length - rest.length)
  match record with
  | .header line =>
    let (opened, fault?) := OpenSection.ofHeader line
    ⟨offset, rest, opened, p.rules ++ p.current.rule?.toList, p.reports ++ p.reportsHere fault?⟩
  | .line reading =>
    let (s, fault?) := p.current.addLine reading
    ⟨offset, rest, s, p.rules, p.reports ++ p.reportsHere fault?⟩

/-- Reads the next record, if there is one. -/
def step? (p : Pass) : Option Pass :=
  match p.rest with
  | [] => none
  | b :: bs => some (p.goOn (readRecord b bs).1 (readRecord b bs).2)

theorem rest_goOn (p : Pass) (record : Record) (rest : List UInt8) :
    (p.goOn record rest).rest = rest := by
  cases record <;> rfl

theorem offset_goOn (p : Pass) (record : Record) (rest : List UInt8) :
    (p.goOn record rest).offset = p.offset + (p.rest.length - rest.length) := by
  cases record <;> rfl

/-- A turn reads the next record. -/
theorem step?_eq_some_iff {p q : Pass} :
    p.step? = some q ↔
      ∃ b bs, p.rest = b :: bs ∧ p.goOn (readRecord b bs).1 (readRecord b bs).2 = q := by
  unfold step?
  cases p.rest with
  | nil => exact iff_of_false (by simp) (by simp)
  | cons b bs =>
    constructor
    · intro h
      exact ⟨b, bs, rfl, Option.some.inj h⟩
    · rintro ⟨b', bs', hrest, rfl⟩
      obtain ⟨rfl, rfl⟩ := List.cons.inj hrest
      rfl

theorem rest_step?_lt {p q : Pass} (h : p.step? = some q) : q.rest.length < p.rest.length := by
  obtain ⟨b, bs, hrest, rfl⟩ := step?_eq_some_iff.mp h
  rw [rest_goOn, hrest]
  exact readRecord_lt b bs

/-- The passes from which a record is read, one for each turn. -/
def turns (p : Pass) : List Pass :=
  match h : p.step? with
  | none => []
  | some q =>
    have := rest_step?_lt h
    p :: q.turns
termination_by p.rest.length

/-- The pass at the end of the file. -/
def last (p : Pass) : Pass :=
  match h : p.step? with
  | none => p
  | some q =>
    have := rest_step?_lt h
    q.last
termination_by p.rest.length

/-- The rules of all sections, with that of the one that is open. -/
def allRules (p : Pass) : List Rule := p.rules ++ p.current.rule?.toList

end Pass

end MimeDatabase.Magic
