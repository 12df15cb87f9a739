import MimeDatabase.Proofs.Record.WellFormed
import MimeDatabase.Proofs.Text.Lines

/-!
# Records are read independently

A text may be cut at any line feed, and its parts yield the same records and the same faults as the
whole (`readText_append`). Only the numbers of lines are counted on from the first part. This is so
for every form of lines, since no reader is given more than one line, and whatever boundaries the
two parts are written with.
-/

namespace MimeDatabase.Record

/-- A fault that stands so many lines further down. -/
def Malformed.down (count : Nat) (m : Malformed) : Malformed :=
  match m.place with
  | .line number => { m with place := .line (number + count) }
  | .offset _ => m

/-- What is reported about a text that has a name. -/
def Outcome.errors {α : Type} (o : Outcome α) (source : String) : List Malformed :=
  o.faults.map fun f => ⟨source, .line f.1, f.2.message⟩

/-- The errors of a record set are what is reported about its files. -/
theorem lineErrors_eq {α : Type} (source file : String) (o : Outcome α) :
    RecordSet.lineErrors source file o.faults = o.errors (RecordSet.fileOf source file) := rfl

/-! ## Record lines -/

/-- Lines are numbered on from those before. -/
theorem recordLines_append (number : Nat) (raws more : List (List Char)) :
    recordLines number (raws ++ more) =
      recordLines number raws ++ recordLines (number + raws.length) more := by
  induction raws generalizing number with
  | nil => rfl
  | cons raw raws ih =>
    have hcount : number + 1 + raws.length = number + (raw :: raws).length := by
      rw [List.length_cons]
      omega
    rw [List.cons_append, recordLines, recordLines, ih, hcount]
    split
    · rfl
    · rfl

theorem recordLines_add (number count : Nat) (raws : List (List Char)) :
    recordLines (number + count) raws =
      (recordLines number raws).map fun l => (l.1 + count, l.2) := by
  induction raws generalizing number with
  | nil => rfl
  | cons raw raws ih =>
    have hnext : number + count + 1 = number + 1 + count := by omega
    rw [recordLines, recordLines, hnext, ih]
    split
    · rfl
    · rfl

/-- An empty line is no record line. -/
theorem recordLines_concat_nil (number : Nat) (raws : List (List Char)) :
    recordLines number (raws ++ [[]]) = recordLines number raws := by
  have hnone : recordLines (number + raws.length) [[]] = [] := by
    rw [recordLines]
    rfl
  rw [recordLines_append, hnone, List.append_nil]

variable {α : Type} (read : String → Except Fault α)

/-- Each line of a text is read by itself, and its number counts from the beginning of the text. -/
theorem readNumbered_append (a b : String) :
    readNumbered read (a ++ "\n" ++ b) = readNumbered read a ++
      (readNumbered read b).map fun r => (r.1 + (Text.lines (a ++ "\n").toList).length, r.2) := by
  have hseam : (a ++ "\n" ++ b).toList = a.toList ++ '\n' :: b.toList := by
    rw [String.toList_append, String.toList_append, List.append_assoc]
    rfl
  have hend : (a ++ "\n").toList = a.toList ++ ['\n'] := String.toList_append
  have hfirst : recordLines 1 (Text.lines (a.toList ++ ['\n'])) =
      recordLines 1 (Text.lines a.toList) := by
    rcases Text.lines_concat_newline a.toList with hsame | hmore
    · rw [hsame]
    · rw [hmore, recordLines_concat_nil]
  unfold readNumbered
  rw [hseam, hend, Text.lines_append_newline, recordLines_append, hfirst, recordLines_add,
    List.map_append, List.map_map, List.map_map]
  rfl

/-! ## Outcomes -/

/-- The records of two texts are those of the first and those of the second. -/
theorem items_readText_append (a b : String) :
    (readText read (a ++ "\n" ++ b)).items =
      (readText read a).items ++ (readText read b).items := by
  unfold readText
  dsimp only
  rw [readNumbered_append, List.filterMap_append, List.filterMap_map]
  rfl

theorem faults_readText_append (a b : String) :
    (readText read (a ++ "\n" ++ b)).faults = (readText read a).faults ++
      (readText read b).faults.map fun f =>
        (f.1 + (Text.lines (a ++ "\n").toList).length, f.2) := by
  unfold readText
  dsimp only
  rw [readNumbered_append, List.filterMap_append, List.filterMap_map, List.map_filterMap]
  refine congrArg _ (congrArg (List.filterMap · _) (funext fun r => ?_))
  rcases r with ⟨number, outcome⟩
  cases outcome with
  | ok _ => rfl
  | error _ => rfl

/-- **Records are read independently of one another.** Let two texts be put together with a line
feed between them. Whatever the form of their lines and the name of the text, the records are those
of the first part and then those of the second, and so are the errors, but that those of the second
stand as many lines further down as the first has with the line feed at its end. Reading never
breaks off: each line of a text that holds a record or ought to yields a record or an error. -/
theorem readText_append (source a b : String) :
    (readText read (a ++ "\n" ++ b)).items = (readText read a).items ++ (readText read b).items ∧
      (readText read (a ++ "\n" ++ b)).errors source = (readText read a).errors source ++
        ((readText read b).errors source).map
          (Malformed.down (Text.lines (a ++ "\n").toList).length) ∧
      ∀ text, (readText read text).items.length + ((readText read text).errors source).length =
        recordCount text := by
  refine ⟨items_readText_append read a b, ?_, fun text => ?_⟩
  · unfold Outcome.errors
    rw [faults_readText_append, List.map_append, List.map_map, List.map_map]
    rfl
  · unfold Outcome.errors
    rw [List.length_map]
    exact length_readText read text

/-- The carriage return at the end of the first part is one boundary with the line feed, so the
fault of the second part stands in line 2; the line separator between the words of that part is a
boundary too. -/
example : (readText readAlias ("a/b c/d\r" ++ "\n" ++ "a\u2028e/f g/h")).errors "x" =
    [⟨"x", .line 2, "expected 'alias canonical'"⟩] := by
  decide +kernel

end MimeDatabase.Record
