import MimeDatabase.Detection
import MimeDatabase.Record.RecordSet
import MimeDatabase.Settings

/-!
# The database

A database is built once from record sets, highest precedence first, and then queried. All names
are resolved through the aliases of all sets, in the records as well as in queries, so an alias and
the name that it stands for are never told apart. Queries leave the database as it is; only
`intern` and `resolveAlias` add a name to its registry.
-/

namespace MimeDatabase

/-- A built database. -/
structure Database where
  settings : DatabaseSettings
  registry : Registry
  aliases : AliasTable
  hierarchy : Hierarchy
  globs : Glob.Index
  magic : Magic.Matcher
  icons : IconTable
  sources : List String

/-- No source holds a usable record. -/
structure Unavailable where
  sources : List String
  skipped : Nat
  deriving DecidableEq, Repr

/-- The text of the error. -/
def Unavailable.message (_ : Unavailable) : String := "No usable MIME records in any source"

namespace Database

/-! ## Building -/

/-- The aliases of all sets. -/
def aliasTable (sets : List RecordSet) (settings : DatabaseSettings) : AliasTable :=
  AliasTable.ofPairs ((sets.flatMap (·.aliases)).map fun a => (a.name, a.typeName))
    settings.aliasMaxDepth

/-- The type names of all records in the order in which they are registered: those of aliases
first, then those of subclass, glob, magic, icon and generic icon records. -/
def recordNames (sets : List RecordSet) : List String :=
  (sets.flatMap (·.aliases)).map (·.name) ++
    (sets.flatMap (·.subclasses)).flatMap (fun s => [s.typeName, s.parent]) ++
    (sets.flatMap (·.globs)).map (·.typeName) ++
    (sets.flatMap (·.magic)).map (·.typeName) ++
    (sets.flatMap (·.icons)).map (·.typeName) ++
    (sets.flatMap (·.genericIcons)).map (·.typeName)

/-- The edges of the subclass records. -/
def recordEdges (resolve : String → MediaType) (sets : List RecordSet) :
    List (MediaType × MediaType) :=
  (sets.flatMap (·.subclasses)).map fun s => (resolve s.typeName, resolve s.parent)

/-- The rules of the glob records, in the order of registration. -/
def recordGlobs (resolve : String → MediaType) (sets : List RecordSet) : List Glob.Rule :=
  (sets.flatMap (·.globs)).mapIdx fun i g =>
    Glob.Rule.make g.pattern (resolve g.typeName) g.weight g.caseSensitive i

/-- The typed rules of the magic records. -/
def recordRules (resolve : String → MediaType) (sets : List RecordSet) : List Magic.TypedRule :=
  (sets.flatMap (·.magic)).map fun r => (resolve r.typeName, r)

/-- The icons of icon records. -/
def recordIcons (resolve : String → MediaType) (icons : List Record.Icon) :
    List (MediaType × String) :=
  icons.map fun i => (resolve i.typeName, i.icon)

/-- Builds a database. -/
def build (sets : List RecordSet) (settings : DatabaseSettings) : Database :=
  let aliases := aliasTable sets settings
  let registry := Registry.empty.insertAll ((recordNames sets).map aliases.resolveName)
  let resolve := aliases.lookup registry
  { settings
    registry
    aliases
    hierarchy := Hierarchy.ofEdges (recordEdges resolve sets)
    globs := Glob.Index.ofRules (recordGlobs resolve sets)
    magic := Magic.Matcher.ofRules (recordRules resolve sets) settings.maxSniffBytes
    icons :=
      { icons := recordIcons resolve (sets.flatMap (·.icons))
        genericIcons := recordIcons resolve (sets.flatMap (·.genericIcons))
        fallback := settings.defaultGenericIcon }
    sources := sets.map (·.source) }

/-- What is logged while a database is built. -/
def buildEvents (sets : List RecordSet) (settings : DatabaseSettings) : List Log.Event :=
  let db := build sets settings
  let names (ns : List String) := ns.flatMap db.aliases.resolveEvents
  names ((sets.flatMap (·.aliases)).map (·.name)) ++
    names ((sets.flatMap (·.subclasses)).flatMap fun s => [s.typeName, s.parent]) ++
    Hierarchy.edgeEvents (recordEdges (db.aliases.lookup db.registry) sets) ++
    names ((sets.flatMap (·.globs)).map (·.typeName)) ++
    names ((sets.flatMap (·.magic)).map (·.typeName)) ++
    names ((sets.flatMap (·.icons)).map (·.typeName)) ++
    names ((sets.flatMap (·.genericIcons)).map (·.typeName))

/-- The number of entries that were skipped. -/
def skippedCount (sets : List RecordSet) : Nat := (sets.flatMap (·.errors)).length

/-- Builds a database if some set holds a record. -/
def load (sets : List RecordSet) (settings : DatabaseSettings) : Except Unavailable Database :=
  if sets.all (·.isEmpty) then .error ⟨sets.map (·.source), skippedCount sets⟩
  else .ok (build sets settings)

/-- Loading fails if and only if no record is usable. -/
theorem load_eq_error_iff {sets : List RecordSet} {settings : DatabaseSettings}
    {fault : Unavailable} : load sets settings = .error fault ↔
      (∀ s ∈ sets, s.isEmpty = true) ∧ fault = ⟨sets.map (·.source), skippedCount sets⟩ := by
  unfold load
  split
  next hempty =>
    rw [Except.error.injEq, eq_comm]
    exact (and_iff_right (List.all_eq_true.mp hempty)).symm
  next husable =>
    exact iff_of_false (by rintro ⟨⟩) fun h => husable (List.all_eq_true.mpr h.1)

/-- A database is loaded if some record set holds a record. -/
theorem load_eq_ok_iff {sets : List RecordSet} {settings : DatabaseSettings} {db : Database} :
    load sets settings = .ok db ↔
      (¬ ∀ s ∈ sets, s.isEmpty = true) ∧ db = build sets settings := by
  unfold load
  split
  next hempty =>
    exact iff_of_false (by rintro ⟨⟩) fun h => h.1 (List.all_eq_true.mp hempty)
  next husable =>
    rw [Except.ok.injEq, eq_comm]
    exact (and_iff_right (mt List.all_eq_true.mpr husable)).symm

/-- What is logged while a database is loaded. -/
def loadEvents (sets : List RecordSet) (settings : DatabaseSettings) : List Log.Event :=
  if sets.all (·.isEmpty) then []
  else
    let db := build sets settings
    buildEvents sets settings ++
      [.databaseLoaded sets.length db.globs.size db.magic.rules.length db.hierarchy.size
        db.aliases.size (skippedCount sets)]

/-- Loads new records with the settings of a database. -/
def reload (db : Database) (sets : List RecordSet) : Except Unavailable Database :=
  load sets db.settings

/-! ## Types and aliases -/

/-- Interns a name. -/
def intern (db : Database) (name : String) : MediaType × Database :=
  let (t, registry) := db.registry.intern name
  (t, { db with registry })

/-- The type that a name stands for; it is interned. -/
def resolveAlias (db : Database) (name : String) : MediaType × Database :=
  let (t, registry) := db.aliases.resolve db.registry name
  (t, { db with registry })

/-- The type that a name stands for; the registry is left as it is. -/
def lookup (db : Database) (name : String) : MediaType := db.aliases.lookup db.registry name

/-- What is logged when a name is resolved. -/
def lookupEvents (db : Database) (name : String) : List Log.Event := db.aliases.resolveEvents name

/-- The type that an alias stands for; `none` for a name that is no alias. -/
def unalias (db : Database) (name : String) : Option MediaType :=
  (db.aliases.unalias? name).map db.registry.lookup

/-- What is logged when an alias is looked up. -/
def unaliasEvents (db : Database) (name : String) : List Log.Event :=
  if db.aliases.contains name then db.aliases.resolveEvents name else []

/-- Whether two names stand for the same type. -/
def sameType (db : Database) (a b : String) : Bool := db.lookup a = db.lookup b

/-! ## Hierarchy and icons -/

/-- Whether a type is another one or inherits from it. -/
def isSubtype (db : Database) (name base : String) : Bool :=
  db.hierarchy.isSubtype (db.lookup name) (db.lookup base)

/-- The ancestors of a type, nearest first. -/
def ancestors (db : Database) (name : String) : List MediaType :=
  db.hierarchy.ancestors (db.lookup name)

/-- The recorded parents of a type. -/
def parents (db : Database) (name : String) : List MediaType :=
  db.hierarchy.parents (db.lookup name)

/-- The icon of a type. -/
def iconName (db : Database) (name : String) : String := db.icons.iconName (db.lookup name)

/-- The generic icon of a type. -/
def genericIconName (db : Database) (name : String) : String :=
  db.icons.genericIconName db.hierarchy (db.lookup name)

/-- All icons that may stand for a type. -/
def iconNames (db : Database) (name : String) : List String :=
  db.icons.iconNames db.hierarchy (db.lookup name)

/-! ## Detection -/

/-- The number of leading bytes that detection looks at. -/
def maxExtent (db : Database) : Int := db.magic.maxExtent

/-- The best match of a file name. -/
def globMatch (db : Database) (file : String) : Option Glob.Match := db.globs.best? file

/-- The types whose globs match a file name, best first. -/
def globCandidates (db : Database) (file : String) : List MediaType := db.globs.candidateTypes file

/-- The rule that decides about a content. -/
def lookupData (db : Database) (order : Magic.ByteOrder) (content : List UInt8) :
    Option Magic.Match :=
  db.magic.lookup order content

/-- The best match of a name that may be missing; an empty name counts as missing. -/
def nameEvidence (db : Database) (file : Option String) : Option Glob.Match :=
  match file with
  | none => none
  | some name => if name = "" then none else db.globs.best? name

/-- The type of a content that may be missing: that of the rule that decides, or what its shape
points to. -/
def contentEvidence (db : Database) (order : Magic.ByteOrder) (content : Option (List UInt8)) :
    Option MediaType :=
  content.map fun data =>
    match db.magic.lookup order data with
    | some found => found.type
    | none => Detection.shapeType (data.take db.settings.maxSniffBytes)

/-- The type of a file, of which the name, the leading bytes or both are known. -/
def detect (db : Database) (file : Option String) (content : Option (List UInt8))
    (order : Magic.ByteOrder) : MediaType :=
  Detection.reconcile (db.nameEvidence file) (db.contentEvidence order content)

/-- What is logged when a type is detected. -/
def detectEvents (db : Database) (file : Option String) (content : Option (List UInt8))
    (order : Magic.ByteOrder) : List Log.Event :=
  (match file with
    | some name => if name = "" then [] else db.globs.matchEvents name
    | none => []) ++
  (match content with
    | some data => db.magic.lookupEvents order data
    | none => []) ++
  Detection.reconcileEvents (db.nameEvidence file) (db.contentEvidence order content) ++
  [.detected file (db.detect file content order).name]

/-- The number of bytes to read of a file whose type is to be detected. -/
def readSize (db : Database) : Int :=
  if db.maxExtent = 0 then db.settings.maxSniffBytes else db.maxExtent

/-- As many leading bytes of a content as are read of a file; all of them for a size below zero. -/
def front (db : Database) (content : List UInt8) : List UInt8 :=
  match db.readSize with
  | .ofNat count => content.take count
  | .negSucc _ => content

end Database

end MimeDatabase
