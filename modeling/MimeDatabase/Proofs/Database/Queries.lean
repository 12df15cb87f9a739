import MimeDatabase.Proofs.Alias
import MimeDatabase.Proofs.Registry
import MimeDatabase.Source.Directory

/-!
# Queries and calls

All that can be asked of a database, as one type of questions with one function for the answers, so
that a property of all of them is one statement; and the two calls that add names to its registry.
Calls leave everything but the registry as it is (`after_eq`), and the registry only grows.
-/

namespace MimeDatabase

/-- A question to a database. Types are asked for by name. -/
inductive Query where
  | sameType (a b : String)
  | isSubtype (name base : String)
  | ancestors (name : String)
  | parents (name : String)
  | unalias (name : String)
  | iconName (name : String)
  | genericIconName (name : String)
  | iconNames (name : String)
  | globMatch (file : String)
  | globCandidates (file : String)
  | lookupData (order : Magic.ByteOrder) (content : List UInt8)
  | detect (file : Option String) (content : Option (List UInt8)) (order : Magic.ByteOrder)
  | detectFile (files : FileTree) (path : Path)
  | maxExtent

/-- What is answered to a question. -/
def Query.Answer : Query → Type
  | sameType .. | isSubtype .. => Bool
  | ancestors .. | parents .. | globCandidates .. => List MediaType
  | unalias .. => Option MediaType
  | iconName .. | genericIconName .. => String
  | iconNames .. => List String
  | globMatch .. => Option Glob.Match
  | lookupData .. => Option Magic.Match
  | detect .. => MediaType
  | detectFile .. => Except Database.ReadFault MediaType
  | maxExtent => Int

/-- A call that may add a name to the registry of a database. -/
inductive Call where
  | intern (name : String)
  | resolveAlias (name : String)

/-- The name that is interned. -/
def Call.interned (aliases : AliasTable) : Call → String
  | intern name => name
  | resolveAlias name => aliases.resolveName name

namespace Database

/-- The answer of a database. -/
def answer (db : Database) : (q : Query) → q.Answer
  | .sameType a b => db.sameType a b
  | .isSubtype name base => db.isSubtype name base
  | .ancestors name => db.ancestors name
  | .parents name => db.parents name
  | .unalias name => db.unalias name
  | .iconName name => db.iconName name
  | .genericIconName name => db.genericIconName name
  | .iconNames name => db.iconNames name
  | .globMatch file => db.globMatch file
  | .globCandidates file => db.globCandidates file
  | .lookupData order content => db.lookupData order content
  | .detect file content order => db.detect file content order
  | .detectFile files path => db.detectFile files path
  | .maxExtent => db.maxExtent

/-- The type that a call returns and the database that it leaves. -/
def call (db : Database) : Call → MediaType × Database
  | .intern name => db.intern name
  | .resolveAlias name => db.resolveAlias name

/-- The database that some calls leave, one after the other. -/
def after (db : Database) (calls : List Call) : Database :=
  calls.foldl (fun db c => (db.call c).2) db

/-- A call interns one name and changes nothing else. -/
theorem call_eq (db : Database) (c : Call) :
    db.call c = ((db.registry.insert (c.interned db.aliases)).lookup (c.interned db.aliases),
      { db with registry := db.registry.insert (c.interned db.aliases) }) := by
  cases c with
  | intern name => rfl
  | resolveAlias name => rfl

/-- Calls intern names, in order, and change nothing else. -/
theorem after_eq (db : Database) (calls : List Call) :
    db.after calls =
      { db with registry := db.registry.insertAll (calls.map (·.interned db.aliases)) } := by
  unfold after
  induction calls generalizing db with
  | nil => rfl
  | cons c calls ih =>
    rw [List.foldl_cons, ih, call_eq]
    rfl

theorem lookup_name {db : Database} (hnormal : db.aliases.Normal) (name : String) :
    (db.lookup name).name = db.aliases.resolveName name := by
  rw [lookup, AliasTable.lookup, Registry.lookup_name, AliasTable.normalize_resolveName hnormal]

/-- A type is looked up by the name that it stands for and by nothing else. -/
theorem lookup_eq_iff {db : Database} (hnormal : db.aliases.Normal) {a b : String} :
    db.lookup a = db.lookup b ↔ db.aliases.resolveName a = db.aliases.resolveName b := by
  rw [lookup, lookup, AliasTable.lookup, AliasTable.lookup, Registry.lookup_eq_iff,
    AliasTable.normalize_resolveName hnormal, AliasTable.normalize_resolveName hnormal]

end Database

end MimeDatabase
