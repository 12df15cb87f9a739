import MimeDatabase.Proofs.Database.Records

/-!
# Aliases are transparent

An alias and the name that it stands for are never told apart, neither in records nor in queries
(`build_withNames`). Both halves rest on one fact, that resolving a name twice is resolving it once,
which also holds of chains that end nowhere. Records whose names are resolved beforehand are
resolved to the same types, in the same order, so all tables are the same; only the magic rules
keep the names that they were recorded under, and no query looks at these (`Alike`).
-/

namespace MimeDatabase

/-- The record set in which all types but those of aliases are renamed. -/
def RecordSet.withNames (f : String → String) (s : RecordSet) : RecordSet :=
  { s with
    globs := s.globs.map fun g => { g with typeName := f g.typeName }
    magic := s.magic.map fun m => { m with typeName := f m.typeName }
    subclasses := s.subclasses.map fun c => { c with typeName := f c.typeName, parent := f c.parent }
    icons := s.icons.map fun i => { i with typeName := f i.typeName }
    genericIcons := s.genericIcons.map fun i => { i with typeName := f i.typeName } }

namespace Magic.Matcher

/-- What of a rule counts when contents are looked up. -/
def essence (r : TypedRule) : MediaType × Nat × List Entry := (r.1, r.2.priority, r.2.entries)

/-- Sorting for lookup goes by what is compared only. -/
theorem map_essence_mergeSort {rules rules' : List TypedRule}
    (h : rules.map essence = rules'.map essence) :
    (rules.mergeSort notAfter).map essence = (rules'.mergeSort notAfter).map essence := by
  have hsort : ∀ l : List TypedRule, (l.mergeSort notAfter).map essence =
      (l.map essence).mergeSort fun a b => decide (b.2.1 ≤ a.2.1) := fun l =>
    List.map_mergeSort fun _ _ _ _ => rfl
  rw [hsort, hsort, h]

theorem greatestExtent_eq {rules rules' : List TypedRule}
    (h : rules.map essence = rules'.map essence) : greatestExtent rules = greatestExtent rules' := by
  have hextents : ∀ l : List TypedRule, greatestExtent l =
      match l.map essence with
      | [] => 0
      | e :: es => es.foldr (fun e n => max (Rule.extent ⟨"", e.2.1, e.2.2⟩) n)
          (Rule.extent ⟨"", e.2.1, e.2.2⟩) := fun l => by
    cases l with
    | nil => rfl
    | cons r rs =>
      simp only [greatestExtent, List.map_cons, List.foldr_map]
      rfl
  rw [hextents, hextents, h]

/-- Lookup goes by what is compared only. -/
theorem lookup_eq {m m' : Matcher} (hrules : m.rules.map essence = m'.rules.map essence)
    (hextent : m.maxExtent = m'.maxExtent) (order : ByteOrder) (data : List UInt8) :
    m.lookup order data = m'.lookup order data := by
  have hfind : ∀ n : Matcher,
      ((n.rules.find? fun r => r.2.holds order (leading n.maxExtent data)).map fun r =>
        Match.mk r.1 r.2.priority) =
      ((n.rules.map essence).find? fun e =>
        Entry.anyHolds order (leading n.maxExtent data) e.2.2).map fun e => ⟨e.1, e.2.1⟩ := by
    intro n
    rw [List.find?_map, Option.map_map]
    rfl
  unfold lookup
  rw [hfind, hfind, hrules, hextent]

end Magic.Matcher

namespace Database

/-! ## Databases that answer alike -/

/-- Two databases differ at most in the names that their magic rules were recorded under. -/
structure Alike (db db' : Database) : Prop where
  settings : db.settings = db'.settings
  registry : db.registry = db'.registry
  aliases : db.aliases = db'.aliases
  hierarchy : db.hierarchy = db'.hierarchy
  globs : db.globs = db'.globs
  icons : db.icons = db'.icons
  sources : db.sources = db'.sources
  maxExtent : db.magic.maxExtent = db'.magic.maxExtent
  rules : db.magic.rules.map Magic.Matcher.essence = db'.magic.rules.map Magic.Matcher.essence

namespace Alike

variable {db db' : Database}

/-- Databases that are alike look names up alike. -/
theorem lookup_eq (h : db.Alike db') (name : String) : db.lookup name = db'.lookup name := by
  rw [Database.lookup, Database.lookup, h.aliases, h.registry]

theorem unalias_eq (h : db.Alike db') (name : String) : db.unalias name = db'.unalias name := by
  rw [unalias, unalias, h.aliases, h.registry]

theorem detect_eq (h : db.Alike db') (file : Option String) (content : Option (List UInt8))
    (order : Magic.ByteOrder) : db.detect file content order = db'.detect file content order := by
  have hname : db.nameEvidence file = db'.nameEvidence file := by
    unfold nameEvidence
    rw [h.globs]
  have hcontent : db.contentEvidence order content = db'.contentEvidence order content := by
    unfold contentEvidence
    simp only [h.settings, Magic.Matcher.lookup_eq h.rules h.maxExtent]
  rw [detect, detect, hname, hcontent]

theorem detectFile_eq (h : db.Alike db') (files : FileTree) (path : Path) :
    db.detectFile files path = db'.detectFile files path := by
  have hsize : db.readSize = db'.readSize := by
    rw [readSize, readSize, Database.maxExtent, Database.maxExtent, h.maxExtent, h.settings]
  have hfront : db.readFront files path = db'.readFront files path := by
    simp only [readFront, front, hsize]
  rw [detectFile, detectFile, hfront]
  simp only [h.detect_eq]

/-- Alike databases give the same answers. -/
theorem answer_eq (h : db.Alike db') (q : Query) : db.answer q = db'.answer q := by
  cases q with
  | sameType a b =>
    show db.sameType a b = db'.sameType a b
    simp only [sameType, h.lookup_eq]
  | isSubtype name base =>
    show db.isSubtype name base = db'.isSubtype name base
    simp only [isSubtype, h.hierarchy, h.lookup_eq]
  | ancestors name =>
    show db.ancestors name = db'.ancestors name
    simp only [ancestors, h.hierarchy, h.lookup_eq]
  | parents name =>
    show db.parents name = db'.parents name
    simp only [parents, h.hierarchy, h.lookup_eq]
  | unalias name => exact h.unalias_eq name
  | iconName name =>
    show db.iconName name = db'.iconName name
    simp only [iconName, h.icons, h.lookup_eq]
  | genericIconName name =>
    show db.genericIconName name = db'.genericIconName name
    simp only [genericIconName, h.icons, h.hierarchy, h.lookup_eq]
  | iconNames name =>
    show db.iconNames name = db'.iconNames name
    simp only [iconNames, h.icons, h.hierarchy, h.lookup_eq]
  | globMatch file =>
    show db.globMatch file = db'.globMatch file
    rw [globMatch, globMatch, h.globs]
  | globCandidates file =>
    show db.globCandidates file = db'.globCandidates file
    rw [globCandidates, globCandidates, h.globs]
  | lookupData order content => exact Magic.Matcher.lookup_eq h.rules h.maxExtent order content
  | detect file content order => exact h.detect_eq file content order
  | detectFile files path => exact h.detectFile_eq files path
  | maxExtent => exact h.maxExtent

theorem call_fst (h : db.Alike db') (c : Call) : (db.call c).1 = (db'.call c).1 := by
  rw [call_eq, call_eq, h.aliases, h.registry]

/-- Databases that are alike stay so under a call. -/
theorem call (h : db.Alike db') (c : Call) : (db.call c).2.Alike (db'.call c).2 := by
  rw [call_eq, call_eq]
  exact { h with registry := by rw [h.aliases, h.registry] }

theorem after (h : db.Alike db') (calls : List Call) : (db.after calls).Alike (db'.after calls) := by
  unfold Database.after
  induction calls generalizing db db' with
  | nil => exact h
  | cons c calls ih => exact ih (h.call c)

end Alike

/-! ## Resolved records -/

section Renamed

variable {f : String → String} {resolve : String → MediaType} {sets : List RecordSet}
  {settings : DatabaseSettings}

theorem aliasTable_withNames :
    aliasTable (sets.map (·.withNames f)) settings = aliasTable sets settings := by
  rw [aliasTable, List.flatMap_map]
  rfl

/-- Names that mean the same are recorded as the same. -/
theorem map_recordNames_withNames {g : String → String} (hg : ∀ name, g (f name) = g name) :
    (recordNames (sets.map (·.withNames f))).map g = (recordNames sets).map g := by
  simp only [recordNames, List.flatMap_map, RecordSet.withNames, List.map_append, List.map_flatMap,
    List.flatMap_assoc, List.map_map, List.map_cons, List.map_nil, Function.comp_def, hg]

variable (hf : ∀ name, resolve (f name) = resolve name)
include hf

theorem recordEdges_withNames :
    recordEdges resolve (sets.map (·.withNames f)) = recordEdges resolve sets := by
  simp only [recordEdges, List.flatMap_map, RecordSet.withNames, List.map_flatMap, List.map_map,
    Function.comp_def, hf]

theorem recordGlobs_withNames :
    recordGlobs resolve (sets.map (·.withNames f)) = recordGlobs resolve sets := by
  have hglobs : (sets.map (·.withNames f)).flatMap (·.globs) =
      (sets.flatMap (·.globs)).map fun g => { g with typeName := f g.typeName } := by
    simp only [List.flatMap_map, RecordSet.withNames, List.map_flatMap]
  rw [recordGlobs, hglobs, recordGlobs]
  simp only [List.mapIdx_eq_zipIdx_map, List.zipIdx_map, List.map_map, Function.comp_def, Prod.map,
    id, hf]

theorem recordRules_withNames :
    (recordRules resolve (sets.map (·.withNames f))).map Magic.Matcher.essence =
      (recordRules resolve sets).map Magic.Matcher.essence := by
  simp only [recordRules, List.flatMap_map, RecordSet.withNames, List.map_flatMap, List.map_map,
    Function.comp_def, Magic.Matcher.essence, hf]

theorem recordIcons_withNames :
    recordIcons resolve ((sets.map (·.withNames f)).flatMap (·.icons)) =
        recordIcons resolve (sets.flatMap (·.icons)) ∧
      recordIcons resolve ((sets.map (·.withNames f)).flatMap (·.genericIcons)) =
        recordIcons resolve (sets.flatMap (·.genericIcons)) := by
  simp only [recordIcons, List.flatMap_map, RecordSet.withNames, List.map_flatMap, List.map_map,
    Function.comp_def, hf, and_self]

end Renamed

/-- Records with resolved names build the same database, but for the names of magic rules. -/
theorem alike_build_withNames (sets : List RecordSet) (settings : DatabaseSettings) :
    (build (sets.map (·.withNames (aliasTable sets settings).resolveName)) settings).Alike
      (build sets settings) := by
  let aliases := aliasTable sets settings
  let sets' := sets.map (·.withNames aliases.resolveName)
  let db := build sets settings
  let db' := build sets' settings
  have hresolve : ∀ name, aliases.resolveName (aliases.resolveName name) = aliases.resolveName name :=
    AliasTable.resolveName_resolveName (AliasTable.normal_ofPairs _ _)
  have haliases : db'.aliases = db.aliases := aliasTable_withNames
  have hnames : (recordNames sets').map db.aliases.resolveName =
      (recordNames sets).map db.aliases.resolveName := map_recordNames_withNames hresolve
  have hregistry : db'.registry = db.registry := by
    rw [registry_build, registry_build, haliases, hnames]
  have hlookup : db'.lookup = db.lookup := by
    funext name
    rw [lookup, lookup, haliases, hregistry]
  have hsame : ∀ name, db.lookup (aliases.resolveName name) = db.lookup name := fun name =>
    congrArg db.registry.lookup (hresolve name)
  have hrules : (recordRules db.lookup sets').map Magic.Matcher.essence =
      (recordRules db.lookup sets).map Magic.Matcher.essence := recordRules_withNames hsame
  exact
    { settings := rfl
      registry := hregistry
      aliases := haliases
      hierarchy := by rw [hierarchy_build, hierarchy_build, hlookup, recordEdges_withNames hsame]
      globs := by rw [globs_build, globs_build, hlookup, recordGlobs_withNames hsame]
      icons := by
        rw [icons_build, icons_build, hlookup, (recordIcons_withNames hsame).1,
          (recordIcons_withNames hsame).2]
      sources := List.map_map
      maxExtent := by
        rw [magic_build, magic_build, hlookup, Magic.Matcher.ofRules, Magic.Matcher.ofRules,
          Magic.Matcher.greatestExtent_eq hrules]
      rules := by
        rw [magic_build, magic_build, hlookup]
        exact Magic.Matcher.map_essence_mergeSort hrules }

/-! ## Resolved queries -/

/-- Two names are never told apart. -/
structure Interchangeable (db : Database) (a b : String) : Prop where
  sameType_left : ∀ c, db.sameType a c = db.sameType b c
  sameType_right : ∀ c, db.sameType c a = db.sameType c b
  isSubtype_left : ∀ c, db.isSubtype a c = db.isSubtype b c
  isSubtype_right : ∀ c, db.isSubtype c a = db.isSubtype c b
  ancestors : db.ancestors a = db.ancestors b
  parents : db.parents a = db.parents b
  iconName : db.iconName a = db.iconName b
  genericIconName : db.genericIconName a = db.genericIconName b
  iconNames : db.iconNames a = db.iconNames b
  resolveAlias : db.resolveAlias a = db.resolveAlias b

/-- Names that stand for one name are never told apart. -/
theorem interchangeable_of_resolveName_eq {db : Database} {a b : String}
    (h : db.aliases.resolveName a = db.aliases.resolveName b) : db.Interchangeable a b := by
  have hlookup : db.lookup a = db.lookup b := by
    rw [lookup, lookup, AliasTable.lookup, AliasTable.lookup, h]
  have hcall : db.resolveAlias a = db.resolveAlias b := by
    rw [resolveAlias, resolveAlias, AliasTable.resolve, AliasTable.resolve, h]
  constructor <;> intros <;>
    simp only [Database.sameType, Database.isSubtype, Database.ancestors, Database.parents,
      Database.iconName, Database.genericIconName, Database.iconNames, hlookup, hcall]

/-- **Aliases are transparent**, whatever the alias records are. Resolving the names in all records
but those of aliases builds a database that is alike: it gives the same answers and returns the same
types, numbers included, at the start and after any calls. And in every database a name and what it
stands for are never told apart. -/
theorem build_withNames (sets : List RecordSet) (settings : DatabaseSettings)
    (calls : List Call) :
    let db := (build sets settings).after calls
    let resolved := sets.map (·.withNames (aliasTable sets settings).resolveName)
    let db' := (build resolved settings).after calls
    db'.Alike db ∧ (∀ q, db'.answer q = db.answer q) ∧ (∀ c, (db'.call c).1 = (db.call c).1) ∧
      ∀ name, db.Interchangeable (db.aliases.resolveName name) name := by
  intro db resolved db'
  have halike : db'.Alike db := (alike_build_withNames sets settings).after calls
  have hnormal : db.aliases.Normal := ((isOver_build sets settings).after calls).aliases
  refine ⟨halike, halike.answer_eq, halike.call_fst, fun name => ?_⟩
  exact interchangeable_of_resolveName_eq (AliasTable.resolveName_resolveName hnormal name)

end Database

end MimeDatabase
