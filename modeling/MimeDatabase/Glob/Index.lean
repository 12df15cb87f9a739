import MimeDatabase.FileName
import MimeDatabase.Glob.Pattern
import MimeDatabase.Glob.Rule
import MimeDatabase.Log.Event

/-!
# The glob index

Literal and suffix rules are kept in buckets keyed by the text they ask for, folded where case does
not matter, so that a name is looked up by itself and by each of its suffixes. Generic rules are
kept with their compiled patterns. Which rules match does not depend on this arrangement.
-/

namespace MimeDatabase.Glob

/-- Rules by the text that they ask for. -/
abbrev Buckets := List (List Char × List Rule)

namespace Buckets

/-- The rules of a key, in the order in which they were added. -/
def rulesOf : Buckets → List Char → List Rule
  | [], _ => []
  | (k, rules) :: rest, key => if k = key then rules else rulesOf rest key

/-- Adds a rule under a key. -/
def add (key : List Char) (rule : Rule) : Buckets → Buckets
  | [] => [(key, [rule])]
  | (k, rules) :: rest =>
    if k = key then (k, rules ++ [rule]) :: rest else (k, rules) :: add key rule rest

/-- The rules of all suffixes of a text that are not empty, longest suffix first. -/
def rulesOfSuffixes (buckets : Buckets) : List Char → List Rule
  | [] => []
  | c :: cs => buckets.rulesOf (c :: cs) ++ rulesOfSuffixes buckets cs

theorem rulesOf_add (buckets : Buckets) (key key' : List Char) (rule : Rule) :
    (buckets.add key rule).rulesOf key' =
      buckets.rulesOf key' ++ (if key' = key then [rule] else []) := by
  induction buckets with
  | nil =>
    by_cases h : key' = key
    · simp [add, rulesOf, h]
    · simp [add, rulesOf, h, Ne.symm h]
  | cons b bs ih =>
    obtain ⟨k, rules⟩ := b
    by_cases hk : k = key
    · subst hk
      by_cases h : key' = k
      · simp [add, rulesOf, h]
      · simp [add, rulesOf, h, Ne.symm h]
    · rw [add, if_neg hk]
      by_cases h : key' = k
      · simp [rulesOf, h, hk]
      · simpa [rulesOf, Ne.symm h] using ih

end Buckets

/-- The rules of a database, arranged for look-up. -/
structure Index where
  exactLiterals : Buckets
  foldedLiterals : Buckets
  exactSuffixes : Buckets
  foldedSuffixes : Buckets
  generics : List (Rule × Pattern)
  size : Nat

/-- The best match of a name: all types tied with the best rule, first registered first, and that
rule's weight and pattern. -/
structure Match where
  best : MediaType
  others : List MediaType
  weight : Nat
  pattern : String
  deriving DecidableEq, Repr

namespace Match

/-- All tied types. -/
def types (m : Match) : List MediaType := m.best :: m.others

/-- Whether there is more than one type. -/
def isAmbiguous (m : Match) : Bool := !m.others.isEmpty

end Match

namespace Index

/-- An index without rules. -/
def empty : Index := ⟨[], [], [], [], [], 0⟩

/-- Adds a rule. -/
def add (ix : Index) (rule : Rule) : Index :=
  let ix := { ix with size := ix.size + 1 }
  let text := rule.pattern.toList
  match rule.kind, rule.caseSensitive with
  | .literal, true => { ix with exactLiterals := ix.exactLiterals.add text rule }
  | .literal, false => { ix with foldedLiterals := ix.foldedLiterals.add (Text.fold text) rule }
  | .extension, true => { ix with exactSuffixes := ix.exactSuffixes.add rule.suffix rule }
  | .extension, false =>
    { ix with foldedSuffixes := ix.foldedSuffixes.add (Text.fold rule.suffix) rule }
  | .generic, _ => { ix with generics := ix.generics ++ [(rule, Pattern.ofText text)] }

/-- The index of some rules. -/
def ofRules (rules : List Rule) : Index := rules.foldl add empty

/-- The rules that match a name in normal form, bucket by bucket. -/
def collect (ix : Index) (name : List Char) : List Rule :=
  ix.exactLiterals.rulesOf name ++ ix.foldedLiterals.rulesOf (Text.fold name) ++
    ix.exactSuffixes.rulesOfSuffixes name ++
    ix.foldedSuffixes.rulesOfSuffixes (Text.fold name) ++
    (ix.generics.filter fun g => g.2.accepts g.1.caseSensitive name).map (·.1)

/-- The rules that match the base name of a path, best first. -/
def candidates (ix : Index) (file : String) : List Rule :=
  let name := (FileName.normalize file).toList
  if name.isEmpty then [] else (ix.collect name).mergeSort Rule.le

/-- Some rules, the best first, cut down to those tied with the best, and the types of these without
repetition. -/
def tied (found : List Rule) : Option Match :=
  match found with
  | [] => none
  | top :: rest =>
    let others := (rest.takeWhile (·.rank = top.rank)).map (·.type)
    some ⟨top.type, (top.type :: others).eraseDups.drop 1, top.weight, top.pattern⟩

/-- The best match of the base name of a path. -/
def best? (ix : Index) (file : String) : Option Match := tied (ix.candidates file)

/-- The types whose rules match the base name of a path, best first, without repetition. -/
def candidateTypes (ix : Index) (file : String) : List MediaType :=
  ((ix.candidates file).map (·.type)).eraseDups

/-- What is logged when the best match is looked for: a tie. -/
def matchEvents (ix : Index) (file : String) : List Log.Event :=
  match ix.best? file with
  | none => []
  | some m =>
    if m.isAmbiguous then [.ambiguousGlob file (m.types.map (·.name)) m.pattern] else []

end Index

end MimeDatabase.Glob
