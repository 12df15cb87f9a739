import MimeDatabase.Config.Toml.Entry

/-!
# TOML documents

The lines of a document in order. A header opens a table, or one more table of an array of tables;
any other line with an equals sign puts a value under a key of the table that is open, and a line in
braces puts in all of its entries. No key and no table is given twice, but a table that was only
opened on the way to another one may be opened later.
-/

namespace MimeDatabase.Toml

/-! ## Headers -/

/-- Whether a text is closed by the quote that it begins with. -/
def isQuotedName (cs : List Char) : Bool := 1 < cs.length && cs.head? = cs.getLast?

/-- A name that begins with a quote, from the names up to that which closes it, and the names after
it. -/
def quotedName (name : List Char) : List (List Char) → Except Fault (String × List (List Char))
  | [] =>
    if isQuotedName (Text.trim name) then .ok (String.ofList (Text.inner (Text.trim name)), [])
    else .error .badHeader
  | next :: rest =>
    if isQuotedName (Text.trim name) then
      .ok (String.ofList (Text.inner (Text.trim name)), next :: rest)
    else quotedName (name ++ '.' :: next) rest

theorem quotedName_length {name : List Char} {names : List (List Char)} {s : String}
    {rest : List (List Char)} (h : quotedName name names = .ok (s, rest)) :
    rest.length ≤ names.length := by
  induction names generalizing name with
  | nil =>
    rw [quotedName] at h
    split at h
    · simp only [Except.ok.injEq, Prod.mk.injEq] at h
      simp [← h.2]
    · simp at h
  | cons next names ih =>
    rw [quotedName] at h
    split at h
    · simp only [Except.ok.injEq, Prod.mk.injEq] at h
      simp [← h.2]
    · exact Nat.le_succ_of_le (ih h)

/-- Whether a name needs no quotes. -/
def isBareName (cs : List Char) : Bool :=
  !cs.isEmpty && cs.all fun c => c.isAlphanum || c = '_' || c = '-'

/-- The names of a header, given as the pieces between its points. -/
def headerNames (names : List (List Char)) : Except Fault (List String) :=
  match names with
  | [] => .ok []
  | name :: rest =>
    let name := Text.trim name
    if beginsWithQuote name then
      match _h : quotedName name rest with
      | .error fault => .error fault
      | .ok (s, rest) => (headerNames rest).map (s :: ·)
    else if isBareName name then (headerNames rest).map (String.ofList name :: ·)
    else .error .badHeader
termination_by names.length
decreasing_by
  · have := quotedName_length _h
    simp only [List.length_cons]
    omega
  · simp

/-- Whether a header is that of an array of tables, and its names. Nothing follows the closing
brackets. -/
def readHeader (line : List Char) : Except Fault (Bool × List String) :=
  let array := line.take 2 = ['[', '[']
  let body := line.drop (if array then 2 else 1)
  let closing := if array then [']', ']'] else [']']
  if line.length = 1 then .error .badHeader
  else
    match Text.cutAtNth? closing (1 + separatorsBefore closing false (quotedPieces body)) body with
    | none => .error .badHeader
    | some (names, after) =>
      if (Text.trim after).isEmpty then
        (headerNames (Text.splitAt '.' names)).map fun names => (array, names)
      else .error .badHeader

/-! ## Lines -/

/-- The document read so far: its tree, the path of the table that is open, the tables that were
opened only on the way, and the value that goes on in the next line. -/
structure Document where
  root : Node
  path : List Node.Step
  implicit : Node.Implicit
  pending? : Option Pending

namespace Document

/-- The empty document. -/
def empty : Document := ⟨.empty, [], [], none⟩

/-- Changes the table that is open. -/
def change (d : Document) (f : Node → Except Fault (Node × Option Pending)) :
    Except Fault Document := do
  let (root, pending?) ← d.root.changeAt f d.path
  return { d with root, pending? }

/-- Opens the tables of a header. -/
def openHeader (d : Document) (line : List Char) : Except Fault Document := do
  let (array, names) ← readHeader line
  let (root, path, implicit) ← d.root.openTables array d.implicit names
  return { d with root, path, implicit }

/-- Whether a line closes a pending text: it ends with the bracket of an array, or with the three
quotes of a long string. -/
def closes (text line : List Char) : Except Fault Bool :=
  match text.head?, line.reverse with
  | some '[', [] => breakOff .pastText
  | some '[', c :: _ => .ok (c = ']')
  | some q, a :: b :: c :: _ => .ok (a = q && b = q && c = q)
  | _, _ => .ok false

/-- Adds a line to the value that is pending. -/
def goOn (d : Document) (p : Pending) (line : List Char) : Except Fault Document := do
  let text := p.text ++ line
  if ← closes text line then
    let n ← readValue depthLimit true text
    d.change fun
      | .table inLine fields => .ok (.table inLine (Fields.put p.key n fields), none)
      | _ => .error .duplicate
  else return { d with pending? := some (Pending.atLineEnd p.key text) }

/-- Reads a line that begins an entry or a header. Lines without an equals sign are passed over. -/
def readNew (d : Document) (line : List Char) : Except Fault Document :=
  match line.head? with
  | none => .ok d
  | some '[' => d.openHeader line
  | some '\x7b' =>
    if line.getLast? ≠ some '\x7d' then .error .badValue
    else d.change fun n => (readInline depthLimit line n).map fun (n, _) => (n, none)
  | some _ => if line.contains '=' then d.change (readEntry depthLimit line) else .ok d

/-- Reads a line. Blanks around it count only inside a long string, and then not in its first line
nor after a backslash. -/
def readLine (d : Document) (line : List Char) : Except Fault Document :=
  match d.pending? with
  | none => d.readNew (Text.trim line)
  | some p =>
    let line := if p.joined || !p.text.contains '\n' then Text.trim line else line
    if line.isEmpty && p.joined then .ok d else d.goOn p line

end Document

/-- The table of a document. A value that is still pending at the end is left out. -/
def readDocument (document : List Char) : Except Fault Table := do
  let d ← (← lines document).foldlM Document.readLine .empty
  match d.root with
  | .table _ fields => return Node.toTable fields
  | _ => return []

end MimeDatabase.Toml
