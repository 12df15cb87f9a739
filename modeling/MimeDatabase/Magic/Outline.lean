import MimeDatabase.Magic.Document

/-!
# The outline of a section

Which line of a section lies below which, said of the text alone: a line lies below the last earlier
line of smaller indent, whether that line can be used or not. From this relation follows what
becomes of every line. A line is kept if it is an entry and stands at the left margin or one step
below a line that is kept. A line that is not kept is reported, unless it lies below a line that is
not kept either.
-/

namespace MimeDatabase.Magic

namespace Outline

/-- The indent of a line, given by its number. -/
def indentAt (lines : List Reading) (i : Nat) : Nat := (lines[i]?).elim 0 Reading.indent

/-- The last of the first lines, of which there are a given number, that has a smaller indent. -/
def lastBelow (lines : List Reading) (indent : Nat) : Nat → Option Nat
  | 0 => none
  | n + 1 => if indentAt lines n < indent then some n else lastBelow lines indent n

/-- The line that a line lies below: the last earlier one of smaller indent. -/
def parent? (lines : List Reading) (i : Nat) : Option Nat := lastBelow lines (indentAt lines i) i

theorem lastBelow_lt {lines : List Reading} {indent n p : Nat}
    (h : lastBelow lines indent n = some p) : p < n := by
  induction n with
  | zero => exact absurd h (by simp [lastBelow])
  | succ n ih =>
    rw [lastBelow] at h
    split at h
    · rw [← Option.some.inj h]
      exact Nat.lt_succ_self n
    · exact Nat.lt_succ_of_lt (ih h)

theorem parent?_lt {lines : List Reading} {i p : Nat} (h : parent? lines i = some p) : p < i :=
  lastBelow_lt h

/-- Whether a line is kept: it is an entry, and it stands at the left margin or one step below a
line that is kept. -/
def isKept (lines : List Reading) (i : Nat) : Bool :=
  match lines[i]? with
  | some (.entry indent _) =>
    indent == 0 ||
      (match _h : parent? lines i with
        | none => false
        | some p => indentAt lines p + 1 == indent && isKept lines p)
  | _ => false
termination_by i
decreasing_by exact parent?_lt _h

/-- Whether a line lies below a line that is not kept. -/
def isBelowSkipped (lines : List Reading) (i : Nat) : Bool :=
  (parent? lines i).any fun p => !isKept lines p

/-! ## The entries -/

/-- The lines that are kept, in file order. -/
def keptNumbers (lines : List Reading) : List Nat :=
  (List.range lines.length).filter (isKept lines)

/-- The lines that are kept at the left margin. -/
def roots (lines : List Reading) : List Nat :=
  (keptNumbers lines).filter fun j => indentAt lines j == 0

/-- The lines that are kept below a line. -/
def children (lines : List Reading) (i : Nat) : List Nat :=
  (keptNumbers lines).filter fun j => parent? lines j == some i

theorem children_bounds {lines : List Reading} {i j : Nat} (h : j ∈ children lines i) :
    i < j ∧ j < lines.length := by
  rw [children, keptNumbers, List.mem_filter, List.mem_filter, List.mem_range, beq_iff_eq] at h
  exact ⟨parent?_lt h.2, h.1.1⟩

/-- The signature on a line. -/
def signatureAt (lines : List Reading) (i : Nat) : Signature :=
  match lines[i]? with
  | some (.entry _ s) => s
  | _ => (default : Entry).signature

/-- The entry of a line, with the entries of the lines that are kept below it. -/
def entryAt (lines : List Reading) (i : Nat) : Entry :=
  .node (signatureAt lines i) ((children lines i).attach.map fun ⟨j, _⟩ => entryAt lines j)
termination_by lines.length - i
decreasing_by
  have := children_bounds (by assumption)
  omega

/-- The entries of a section. -/
def forest (lines : List Reading) : List Entry := (roots lines).map (entryAt lines)

/-! ## The reports -/

/-- The number of depths at which a line can be attached. -/
def depthAt (lines : List Reading) (i : Nat) : Nat :=
  (parent? lines i).elim 0 fun p => indentAt lines p + 1

/-- What is wrong with a line that is not kept. -/
def faultAt (lines : List Reading) (i : Nat) : Reading → Fault
  | .fault fault _ => .line fault
  | .entry indent _ => .skippedDepth indent (depthAt lines i)

/-- The reports about the lines of a section: one for each line that is not kept, unless it lies
below such a line. -/
def reports (lines : List (Located Reading)) : List (Located Fault) :=
  lines.zipIdx.filterMap fun (line, i) =>
    if isKept (lines.map (·.item)) i || isBelowSkipped (lines.map (·.item)) i then none
    else some ⟨line.offset, faultAt (lines.map (·.item)) i line.item⟩

end Outline

/-! ## Sections and files -/

/-- The rule of a section: that of its entries, if its header is accepted and there are any. -/
def Section.outlinedRule (s : Section) : Option Rule :=
  match s.header.map fun header => readHeader header.item with
  | some (.ok (priority, name)) =>
    let entries := Outline.forest (s.lines.map (·.item))
    if entries.isEmpty then none else some (Rule.make name priority entries)
  | _ => none

/-- The reports about a section: those about its lines, if its header is accepted, and the one about
the header otherwise. Lines before the first header are all reported. -/
def Section.outlinedReports (s : Section) : List (Located Fault) :=
  match s.header with
  | none => strayReports s.lines
  | some header =>
    match readHeader header.item with
    | .ok _ => Outline.reports s.lines
    | .error fault => [⟨header.offset, .header fault⟩]

/-- The sections of a file, none if it does not start with the file header. -/
def documentSections (data : List UInt8) : List Section :=
  if fileHeader.isPrefixOf data then
    sections (readRecords fileHeader.length (data.drop fileHeader.length))
  else []

end MimeDatabase.Magic
