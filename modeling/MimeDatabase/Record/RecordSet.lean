import MimeDatabase.Magic.Document
import MimeDatabase.Record.Lines
import MimeDatabase.Record.Malformed

/-!
# Record sets

All records of one source. Whatever the texts of its files are, they hold a record set: what is
malformed is listed among its errors, and everything else is well formed. Reading them can fail for
one reason only, which is that there is no room for the entries of the magic file.
-/

namespace MimeDatabase

/-- The contents of the record files of a source; a file may be missing. The plain glob file is only
used if there is no weighted one. -/
structure SourceTexts where
  source : String
  weightedGlobs : Option String
  globs : Option String
  magic : Option (List UInt8)
  subclasses : Option String
  aliases : Option String
  icons : Option String
  genericIcons : Option String
  deriving Repr

/-- The records of a source and the entries that were skipped. -/
structure RecordSet where
  source : String
  globs : List Record.Glob
  magic : List Magic.Rule
  subclasses : List Record.Subclass
  aliases : List Record.Alias
  icons : List Record.Icon
  genericIcons : List Record.Icon
  errors : List Record.Malformed
  deriving Repr

namespace RecordSet

/-- A source without records. -/
def empty (source : String) : RecordSet := ⟨source, [], [], [], [], [], [], []⟩

/-- The number of records. -/
def count (s : RecordSet) : Nat :=
  s.globs.length + s.magic.length + s.subclasses.length + s.aliases.length + s.icons.length +
    s.genericIcons.length

/-- Whether there is no record. -/
def isEmpty (s : RecordSet) : Bool :=
  s.globs.isEmpty && s.magic.isEmpty && s.subclasses.isEmpty && s.aliases.isEmpty &&
    s.icons.isEmpty && s.genericIcons.isEmpty

/-- The file of a source. -/
def fileOf (source file : String) : String := source ++ "/" ++ file

/-- The outcome of a text file that may be missing. -/
def readFile {α : Type} (read : String → Except Record.Fault α) (text : Option String) :
    Record.Outcome α :=
  match text with
  | none => ⟨[], []⟩
  | some text => Record.readText read text

/-- The faults of a text file as errors. -/
def lineErrors (source file : String) (faults : List (Nat × Record.Fault)) :
    List Record.Malformed :=
  faults.map fun f => ⟨fileOf source file, .line f.1, f.2.message⟩

/-- The reports about a magic file as errors. -/
def magicErrors (source : String) (reports : List (Magic.Located Magic.Fault)) :
    List Record.Malformed :=
  reports.map fun r => ⟨source, .offset r.offset, r.item.message⟩

/-- The outcome of the glob file and its name: of the weighted one if it is there. -/
def readGlobs (t : SourceTexts) : Record.Outcome Record.Glob × String :=
  match t.weightedGlobs with
  | some text => (Record.readText Record.readWeightedGlob text, "globs2")
  | none => (readFile Record.readGlob t.globs, "globs")

/-- All that the record files of a source hold. -/
def inTexts (t : SourceTexts) : RecordSet :=
  let globs := readGlobs t
  let subclasses := readFile Record.readSubclass t.subclasses
  let aliases := readFile Record.readAlias t.aliases
  let icons := readFile Record.readIcon t.icons
  let genericIcons := readFile Record.readIcon t.genericIcons
  { source := t.source
    globs := globs.1.items
    magic := (t.magic.map Magic.readRules).getD []
    subclasses := subclasses.items
    aliases := aliases.items
    icons := icons.items
    genericIcons := genericIcons.items
    errors :=
      lineErrors t.source globs.2 globs.1.faults ++
      magicErrors (fileOf t.source "magic") ((t.magic.map Magic.readReports).getD []) ++
      lineErrors t.source "subclasses" subclasses.faults ++
      lineErrors t.source "aliases" aliases.faults ++
      lineErrors t.source "icons" icons.faults ++
      lineErrors t.source "generic-icons" genericIcons.faults }

/-- Reads all record files of a source. It is given up if there is no room for so many levels of
entries as the magic file has. -/
def ofTexts (limit : Nat) (t : SourceTexts) : Except Magic.BuildFault RecordSet :=
  match t.magic with
  | none => .ok (inTexts t)
  | some data => (Magic.readRulesWithin limit data).map fun _ => inTexts t

/-- What is logged while the record files of a source are read, in order, until it is given up. -/
def readEvents (limit : Nat) (t : SourceTexts) : List Log.Event :=
  let globs := readGlobs t
  globs.1.events (fileOf t.source globs.2) ++
    (t.magic.map (Magic.readEvents limit (fileOf t.source "magic"))).getD [] ++
    match ofTexts limit t with
    | .error _ => []
    | .ok _ =>
      (readFile Record.readSubclass t.subclasses).events (fileOf t.source "subclasses") ++
        (readFile Record.readAlias t.aliases).events (fileOf t.source "aliases") ++
        (readFile Record.readIcon t.icons).events (fileOf t.source "icons") ++
        (readFile Record.readIcon t.genericIcons).events (fileOf t.source "generic-icons")

end RecordSet

end MimeDatabase
