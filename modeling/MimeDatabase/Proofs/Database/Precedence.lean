import MimeDatabase.Proofs.Database.Records
import MimeDatabase.Proofs.Glob.Winner
import MimeDatabase.Proofs.Magic.Deciding
import MimeDatabase.Proofs.Record.WellFormed

/-!
# Later sources only extend

Record sets that are added behind others take nothing away from them (`build_append`). Adding sets
may well change what their type names stand for, so a rule is told by the place of its record and
not by its type.

For file names, a rule keeps its place in the order of registration, so the candidates of the first
sets are found as before and in the same order among all candidates (`candidates_filter`). A later
rule comes first only if its rank is better, because the place decides between rules of one rank.

For contents, the rules of the first sets are tried on more bytes than before if a later rule has a
greater extent. They do not see the difference as long as they count positions from the front, as
all rules do that were read from a file (`countsFromFront_of_mem_magic`). A rule that counts from
the end does (`build_append_endCounting`).
-/

namespace MimeDatabase

/-! ## Globs -/

namespace Glob

/-- A rule without its type. What it matches, its rank and its place do not depend on the type. -/
def Rule.withoutType (r : Rule) : Rule := { r with type := default }

namespace Index

/-- The candidates that belong to a part of the rules are the candidates of that part. -/
theorem candidates_filter {added : List Rule} (hnodup : (added.map (·.order)).Nodup)
    (part : Rule → Bool) (file : String) :
    ((ofRules added).candidates file).filter part =
      (ofRules (added.filter part)).candidates file := by
  have hpart : ((added.filter part).map (·.order)).Nodup :=
    hnodup.sublist (List.filter_sublist.map _)
  refine eq_of_perm_of_pairwise_lt ?_ ((pairwise_lt_candidates hnodup file).filter _)
    (pairwise_lt_candidates hpart file)
  by_cases h : (FileName.normalize file).toList = []
  · rw [candidates_of_eq_nil _ h, candidates_of_eq_nil _ h, List.filter_nil]
  · refine ((candidates_ofRules_perm added h).filter part).trans ?_
    rw [List.filter_comm]
    exact (candidates_ofRules_perm _ h).symm

/-- The types of the rules make no difference to which rules are found. -/
theorem map_withoutType_candidates {added other : List Rule}
    (hsame : added.map Rule.withoutType = other.map Rule.withoutType)
    (hnodup : (added.map (·.order)).Nodup) (file : String) :
    ((ofRules added).candidates file).map Rule.withoutType =
      ((ofRules other).candidates file).map Rule.withoutType := by
  have hnodup' : (other.map (·.order)).Nodup := by
    have horders : ∀ l : List Rule, l.map (·.order) = (l.map Rule.withoutType).map (·.order) :=
      fun l => by rw [List.map_map]; rfl
    rwa [horders, ← hsame, ← horders]
  have hstrict : ∀ {l : List Rule}, (l.map (·.order)).Nodup →
      (((ofRules l).candidates file).map Rule.withoutType).Pairwise fun a b =>
        a.sortKey < b.sortKey :=
    fun hl => List.pairwise_map.mpr (pairwise_lt_candidates hl file)
  refine eq_of_perm_of_pairwise_lt ?_ (hstrict hnodup) (hstrict hnodup')
  by_cases h : (FileName.normalize file).toList = []
  · rw [candidates_of_eq_nil _ h, candidates_of_eq_nil _ h]
  · have hfilter : ∀ l : List Rule,
        (l.filter (·.Matches (FileName.normalize file).toList)).map Rule.withoutType =
          (l.map Rule.withoutType).filter (·.Matches (FileName.normalize file).toList) :=
      fun l => by rw [List.filter_map]; rfl
    refine ((candidates_ofRules_perm added h).map _).trans ?_
    rw [hfilter, hsame, ← hfilter]
    exact ((candidates_ofRules_perm other h).map _).symm

end Index

end Glob

/-! ## Magic rules -/

namespace Magic

namespace Entry

mutual

/-- The starts of well-formed entries count from the front. -/
theorem countsFromFront_of_wellFormed : ∀ e : Entry,
    (∀ f ∈ e.subentries, f.signature.WellFormed) → e.countsFromFront = true
  | node s cs, h => by
    rw [subentries, List.forall_mem_cons] at h
    rw [countsFromFront, forestCountsFromFront_of_wellFormed cs h.2, Bool.and_true,
      decide_eq_true_eq]
    exact h.1.start_nonneg

/-- Entries whose signatures make sense count their positions from the front. -/
theorem forestCountsFromFront_of_wellFormed : ∀ es : List Entry,
    (∀ f ∈ forestSubentries es, f.signature.WellFormed) → forestCountsFromFront es = true
  | [], _ => rfl
  | e :: es, h => by
    rw [forestSubentries, List.forall_mem_append] at h
    rw [forestCountsFromFront, countsFromFront_of_wellFormed e h.1,
      forestCountsFromFront_of_wellFormed es h.2, Bool.and_true]

end

end Entry

section Append

variable {passes passes' : Rule → Bool} {own more : List Rule} {i : Nat} {r : Rule}

/-- A rule that decides among more rules decides among the first ones, if it is one of them. -/
theorem DecidesAt.of_append (h : DecidesAt passes (own ++ more) i r) (hi : i < own.length)
    (hsame : ∀ q ∈ own, passes' q = passes q) : DecidesAt passes' own i r := by
  have hleft : ∀ {j q}, own[j]? = some q → (own ++ more)[j]? = some q := fun {j q} hq => by
    rw [List.getElem?_append_left (List.getElem?_eq_some_iff.mp hq).1]
    exact hq
  have hhere : own[i]? = some r := by
    rw [← List.getElem?_append_left hi]
    exact h.here
  refine ⟨hhere, (hsame r (List.mem_of_getElem? hhere)).trans h.pass, ?_, ?_⟩
  · intro j q hj hq hpass
    exact h.earlier j q hj (hleft hq) ((hsame q (List.mem_of_getElem? hq)).symm.trans hpass)
  · intro j q hj hq hpass
    exact h.later j q hj (hleft hq) ((hsame q (List.mem_of_getElem? hq)).symm.trans hpass)

/-- A later rule decides only against those of the first ones that have a lesser priority. -/
theorem DecidesAt.priority_lt (h : DecidesAt passes (own ++ more) i r) (hi : own.length ≤ i)
    (hsame : ∀ q ∈ own, passes' q = passes q) {j : Nat} {first : Rule}
    (hfirst : DecidesAt passes' own j first) : first.priority < r.priority := by
  obtain ⟨hj, -⟩ := List.getElem?_eq_some_iff.mp hfirst.here
  refine h.earlier j first (Nat.lt_of_lt_of_le hj hi) ?_
    ((hsame first (List.mem_of_getElem? hfirst.here)).symm.trans hfirst.pass)
  rw [List.getElem?_append_left hj]
  exact hfirst.here

end Append

end Magic

/-- Every rule that is read from a source counts its positions from the front. -/
theorem RecordSet.countsFromFront_of_mem_magic {t : SourceTexts} {r : Magic.Rule}
    (hr : r ∈ (inTexts t).magic) : r.countsFromFront = true :=
  Magic.Entry.forestCountsFromFront_of_wellFormed _ (wellFormed_of_mem_magic hr).signatures

namespace Database

variable {own more : List RecordSet} {settings : DatabaseSettings}

/-! ## Candidates of two databases -/

/-- Whether a glob rule was made of a record of some sets, to which others may have been added. -/
def isGlobOf (sets : List RecordSet) (rule : Glob.Rule) : Bool :=
  rule.order < (sets.flatMap (·.globs)).length

/-- Added records do not change what rules the first ones are made into. -/
theorem filter_recordGlobs_append (resolve : String → MediaType) (own more : List RecordSet) :
    (recordGlobs resolve (own ++ more)).filter (isGlobOf own) = recordGlobs resolve own := by
  unfold recordGlobs
  rw [List.flatMap_append, List.mapIdx_append, List.filter_append]
  have hown : ((own.flatMap (·.globs)).mapIdx fun i g =>
      Glob.Rule.make g.pattern (resolve g.typeName) g.weight g.caseSensitive i).filter
        (isGlobOf own) = (own.flatMap (·.globs)).mapIdx fun i g =>
      Glob.Rule.make g.pattern (resolve g.typeName) g.weight g.caseSensitive i := by
    refine List.filter_eq_self.mpr fun rule hrule => ?_
    obtain ⟨i, hi, rfl⟩ := List.mem_mapIdx.mp hrule
    exact decide_eq_true (Int.ofNat_lt.mpr hi)
  rw [hown]
  refine List.append_right_eq_self.mpr (List.filter_eq_nil_iff.mpr fun rule hrule => ?_)
  obtain ⟨i, hi, rfl⟩ := List.mem_mapIdx.mp hrule
  show ¬ decide _ = true
  rw [decide_eq_true_eq]
  show ¬ ((i + (own.flatMap (·.globs)).length : Nat) : Int) < _
  omega

theorem map_withoutType_recordGlobs (resolve resolve' : String → MediaType)
    (sets : List RecordSet) : (recordGlobs resolve sets).map Glob.Rule.withoutType =
      (recordGlobs resolve' sets).map Glob.Rule.withoutType := by
  simp only [recordGlobs, List.mapIdx_eq_zipIdx_map, List.map_map]
  rfl

/-- The candidates that come from the first sets are those of a database of these sets alone. -/
theorem map_candidates_append (own more : List RecordSet) (settings : DatabaseSettings)
    (file : String) :
    (((build (own ++ more) settings).globs.candidates file).filter (isGlobOf own)).map
        Glob.Rule.withoutType =
      ((build own settings).globs.candidates file).map Glob.Rule.withoutType := by
  rw [globs_build, globs_build,
    Glob.Index.candidates_filter (Glob.nodup_order_recordGlobs _ _), filter_recordGlobs_append]
  exact Glob.Index.map_withoutType_candidates (map_withoutType_recordGlobs _ _ own)
    (Glob.nodup_order_recordGlobs _ _) file

theorem globMatch_eq_none_iff {db : Database} {file : String} :
    db.globMatch file = none ↔ db.globs.candidates file = [] :=
  Glob.Index.best?_eq_none_iff

/-- If the best candidate comes from an added set, then it is better than that of the first sets. -/
theorem rank_lt_of_head?_append {file : String} {best : Glob.Rule}
    (hbest : ((build (own ++ more) settings).globs.candidates file).head? = some best)
    (hadded : isGlobOf own best = false) :
    (build own settings).globMatch file = none ∨
      ∃ first, ((build own settings).globs.candidates file).head? = some first ∧
        best.rank < first.rank := by
  cases hown : (build own settings).globs.candidates file with
  | nil => exact Or.inl (globMatch_eq_none_iff.mpr hown)
  | cons first others =>
    refine Or.inr ⟨first, rfl, ?_⟩
    -- the first candidate of the first sets is found among all candidates, behind the best
    have hsame := map_candidates_append own more settings file
    rw [hown] at hsame
    obtain ⟨rule, hrule, hfirst⟩ : ∃ rule ∈
        ((build (own ++ more) settings).globs.candidates file).filter (isGlobOf own),
        rule.withoutType = first.withoutType := by
      rw [← List.mem_map, hsame]
      exact List.mem_cons_self
    obtain ⟨hmem, hisOwn⟩ := List.mem_filter.mp hrule
    have hle : best.sortKey ≤ rule.sortKey := by
      have hsorted := Glob.Index.sorted_candidates (build (own ++ more) settings).globs file
      obtain ⟨rest, hrest⟩ := List.head?_eq_some_iff.mp hbest
      rw [hrest] at hmem hsorted
      rcases List.mem_cons.mp hmem with rfl | hin
      · exact le_refl _
      · exact (List.pairwise_cons.mp hsorted).1 rule hin
    have horder : rule.order < best.order :=
      lt_of_lt_of_le (of_decide_eq_true hisOwn) (not_lt.mp (of_decide_eq_false hadded))
    have hrank : best.rank < rule.rank := Glob.Rule.rank_lt_of_sortKey_le hle horder
    have hfirstRank : rule.withoutType.rank = first.withoutType.rank := by rw [hfirst]
    exact lt_of_lt_of_eq hrank hfirstRank

/-! ## Deciding records of two databases -/

/-- The magic record at a place among those of some sets decides about a content in the database of
these sets. -/
def DecidedBy (sets : List RecordSet) (settings : DatabaseSettings) (order : Magic.ByteOrder)
    (content : List UInt8) : Nat → Magic.Rule → Prop :=
  Magic.DecidesAt
    (fun r => r.holds order (Magic.Matcher.leading (build sets settings).magic.maxExtent content))
    (sets.flatMap (·.magic))

/-- The magic rules of a database are those of its record sets, in order. -/
theorem map_recordRules (resolve : String → MediaType) (sets : List RecordSet) :
    (recordRules resolve sets).map (·.2) = sets.flatMap (·.magic) := by
  unfold recordRules
  rw [List.map_map]
  exact List.map_id _

/-- What is found for a content are the type and the priority of the record that decides. -/
theorem lookupData_eq_some_iff {sets : List RecordSet} {order : Magic.ByteOrder}
    {content : List UInt8} (hcontent : content ≠ []) {found : Magic.Match} :
    (build sets settings).lookupData order content = some found ↔
      ∃ i r, DecidedBy sets settings order content i r ∧
        found = ⟨(build sets settings).lookup r.typeName, r.priority⟩ := by
  unfold DecidedBy
  rw [lookupData, magic_build, Magic.Matcher.lookup_eq_some_iff,
    ← map_recordRules (build sets settings).lookup sets]
  constructor
  · rintro ⟨i, p, h, rfl⟩
    obtain ⟨r, -, rfl⟩ := List.mem_map.mp (List.mem_of_getElem? h.here)
    exact ⟨i, r, h.decides, rfl⟩
  · rintro ⟨i, r, h, rfl⟩
    refine ⟨i, ((build sets settings).lookup r.typeName, r), ⟨hcontent, ?_, h⟩, rfl⟩
    have hhere := h.here
    rw [map_recordRules] at hhere
    rw [recordRules, List.getElem?_map, hhere, Option.map_some]

/-- A rule that counts from the front holds of the bytes that a database looks at if and only if it
holds of all bytes up to the ceiling. -/
theorem holds_leading_build {sets : List RecordSet} {r : Magic.Rule}
    (hr : r ∈ sets.flatMap (·.magic)) (hfront : r.countsFromFront = true) (order : Magic.ByteOrder)
    (content : List UInt8) :
    r.holds order (Magic.Matcher.leading (build sets settings).magic.maxExtent content) =
      r.holds order (content.take settings.maxSniffBytes) := by
  have hrule : ((build sets settings).lookup r.typeName, r) ∈
      recordRules (build sets settings).lookup sets := List.mem_map.mpr ⟨r, hr, rfl⟩
  have hholds := Magic.Matcher.holds_leading hrule hfront settings.maxSniffBytes order content
  rw [magic_build]
  exact hholds

/-- The rules of the first sets do not see the bytes that are only looked at for added ones. -/
theorem holds_leading_append (hfront : ∀ r ∈ own.flatMap (·.magic), r.countsFromFront = true)
    (order : Magic.ByteOrder) (content : List UInt8) : ∀ r ∈ own.flatMap (·.magic),
      r.holds order (Magic.Matcher.leading (build own settings).magic.maxExtent content) =
        r.holds order
          (Magic.Matcher.leading (build (own ++ more) settings).magic.maxExtent content) := by
  intro r hr
  have hr' : r ∈ (own ++ more).flatMap (·.magic) := by
    rw [List.flatMap_append]
    exact List.mem_append_left _ hr
  rw [holds_leading_build hr (hfront r hr), holds_leading_build hr' (hfront r hr)]

/-- A record of the first sets that decides among all records decides among the first ones. -/
theorem decidedBy_of_append (hfront : ∀ r ∈ own.flatMap (·.magic), r.countsFromFront = true)
    {order : Magic.ByteOrder} {content : List UInt8} {i : Nat} {r : Magic.Rule}
    (h : DecidedBy (own ++ more) settings order content i r)
    (hi : i < (own.flatMap (·.magic)).length) : DecidedBy own settings order content i r := by
  unfold DecidedBy at h ⊢
  rw [List.flatMap_append] at h
  exact h.of_append hi (holds_leading_append hfront order content)

/-- If an added record decides, then nothing is found among the first ones, or what decides there
has a lesser priority. -/
theorem priority_lt_of_decidedBy_append
    (hfront : ∀ r ∈ own.flatMap (·.magic), r.countsFromFront = true) {order : Magic.ByteOrder}
    {content : List UInt8} (hcontent : content ≠ []) {i : Nat} {r : Magic.Rule}
    (h : DecidedBy (own ++ more) settings order content i r)
    (hi : (own.flatMap (·.magic)).length ≤ i) :
    (build own settings).lookupData order content = none ∨
      ∃ j first, DecidedBy own settings order content j first ∧ first.priority < r.priority := by
  cases hown : (build own settings).lookupData order content with
  | none => exact Or.inl rfl
  | some found =>
    obtain ⟨j, first, hfirst, -⟩ := (lookupData_eq_some_iff hcontent).mp hown
    unfold DecidedBy at h
    rw [List.flatMap_append] at h
    exact Or.inr ⟨j, first, hfirst,
      h.priority_lt hi (holds_leading_append hfront order content) hfirst⟩

/-! ## Adding sources -/

/-- **Later sources only extend.** Let all records of some sets be told by their places, and let
other sets be added behind them. For a file name, the candidates that come from the first sets are
those of a database of these alone, in the same order, and the best candidate comes from an added
set only if the first ones have none or the best of them has a worse rank. For a content, if all
magic records of the first sets count from the front, then the record that decides is the one that
decides among the first sets, or it was added, and then nothing is found among the first sets or
what decides there has a lesser priority. All magic records that are read count from the front. -/
theorem build_append (own more : List RecordSet) (settings : DatabaseSettings) :
    let alone := build own settings
    let all := build (own ++ more) settings
    (∀ file,
      (∀ rule ∈ all.globs.candidates file,
        ∃ (i : Nat) (g : Record.Glob), ((own ++ more).flatMap (·.globs))[i]? = some g ∧
          rule = Glob.Rule.make g.pattern (all.lookup g.typeName) g.weight g.caseSensitive i) ∧
      ((all.globs.candidates file).filter (isGlobOf own)).map Glob.Rule.withoutType =
        (alone.globs.candidates file).map Glob.Rule.withoutType ∧
      ∀ best, (all.globs.candidates file).head? = some best → isGlobOf own best = false →
        alone.globMatch file = none ∨
          ∃ first, (alone.globs.candidates file).head? = some first ∧ best.rank < first.rank) ∧
    (∀ order content, content ≠ [] →
      (∀ found, all.lookupData order content = some found ↔
        ∃ i r, DecidedBy (own ++ more) settings order content i r ∧
          found = ⟨all.lookup r.typeName, r.priority⟩) ∧
      ((∀ r ∈ own.flatMap (·.magic), r.countsFromFront = true) →
        ∀ i r, DecidedBy (own ++ more) settings order content i r →
          (i < (own.flatMap (·.magic)).length → DecidedBy own settings order content i r) ∧
          ((own.flatMap (·.magic)).length ≤ i → alone.lookupData order content = none ∨
            ∃ j first, DecidedBy own settings order content j first ∧
              first.priority < r.priority))) ∧
    ∀ t, ∀ r ∈ (RecordSet.inTexts t).magic, r.countsFromFront = true := by
  intro alone all
  refine ⟨fun file => ⟨fun rule hrule => ?_, map_candidates_append own more settings file,
    fun _ hbest hadded => rank_lt_of_head?_append hbest hadded⟩,
    fun order content hcontent => ⟨fun _ => lookupData_eq_some_iff hcontent,
      fun hfront i r h => ⟨?_, ?_⟩⟩,
    fun _ _ => RecordSet.countsFromFront_of_mem_magic⟩
  · exact exists_record_of_mem_recordGlobs (mem_recordGlobs_of_mem_candidates hrule)
  · exact decidedBy_of_append hfront h
  · exact priority_lt_of_decidedBy_append hfront hcontent h

/-- A source of C files and of scripts. -/
def systemSource : RecordSet :=
  { RecordSet.empty "system" with
    globs := [⟨"text/x-c", "*.c", 50, false⟩]
    magic := [⟨"text/x-script", 40, [.node ⟨0, 1, [0x23], none, 1⟩ []]⟩] }

/-- A source that knows one file by its name, and scripts by a line that is not the first. -/
def addedSource : RecordSet :=
  { RecordSet.empty "added" with
    globs := [⟨"text/x-code", "main.c", 50, false⟩]
    magic := [⟨"text/x-shell", 60, [.node ⟨0, 4, [0x21], none, 1⟩ []]⟩] }

/-- What is found with both sources comes from the added one, and is better than what is found
without it. -/
theorem build_append_systemSource :
    let all := build ([systemSource] ++ [addedSource]) .default
    (∃ best, (all.globs.candidates "main.c").head? = some best ∧
      isGlobOf [systemSource] best = false ∧
      ∃ first, ((build [systemSource] .default).globs.candidates "main.c").head? = some first ∧
        best.rank < first.rank) ∧
    (∀ r ∈ [systemSource].flatMap (·.magic), r.countsFromFront = true) ∧
    ∃ r, DecidedBy ([systemSource] ++ [addedSource]) .default .little [0x23, 0x21] 1 r ∧
      ([systemSource].flatMap (·.magic)).length ≤ 1 ∧
      ∃ j first, DecidedBy [systemSource] .default .little [0x23, 0x21] j first ∧
        first.priority < r.priority := by
  intro all
  obtain ⟨hnames, hcontents, -⟩ := build_append [systemSource] [addedSource] .default
  constructor
  · let best : Glob.Rule := ⟨"main.c", ⟨some 3, "text/x-code"⟩, 50, false, 1⟩
    have hfound : all.globs.candidates "main.c" = all.globs.collect "main.c".toList :=
      List.mergeSort_of_pairwise (by decide +kernel)
    have hbest : (all.globs.candidates "main.c").head? = some best := by
      rw [hfound]
      decide +kernel
    have hadded : isGlobOf [systemSource] best = false := by decide
    refine ⟨best, hbest, hadded, ((hnames "main.c").2.2 best hbest hadded).resolve_left ?_⟩
    decide +kernel
  · have hfront : ∀ r ∈ [systemSource].flatMap (·.magic), r.countsFromFront = true := by decide
    have hdecides : DecidedBy ([systemSource] ++ [addedSource]) .default .little [0x23, 0x21] 1
        addedSource.magic[0] :=
      .of_split systemSource.magic [] (by decide +kernel) (by decide +kernel) (by decide)
    have hplace : ([systemSource].flatMap (·.magic)).length ≤ 1 := by decide
    refine ⟨hfront, _, hdecides, hplace, ?_⟩
    refine (((hcontents .little [0x23, 0x21] (by decide)).2 hfront 1 _ hdecides).2
      hplace).resolve_left ?_
    decide +kernel

/-- A source with a magic record that counts from the end. -/
def endCounting : RecordSet :=
  { RecordSet.empty "end" with
    magic := [⟨"image/x-end", 50, [.node ⟨-2, 1, [0x42], none, 1⟩ []]⟩] }

/-- A source with a magic record that looks far. -/
def farSighted : RecordSet :=
  { RecordSet.empty "far" with
    magic := [⟨"image/x-wide", 40, [.node ⟨0, 100, [0xFF], none, 1⟩ []]⟩] }

/-- A record that counts from the end may decide only because other sources were added: alone it is
given no bytes. -/
theorem build_append_endCounting :
    let content : List UInt8 := [0x78, 0x78, 0x42, 0x78]
    (build [endCounting] .default).lookupData .little content = none ∧
      ∃ r, DecidedBy ([endCounting] ++ [farSighted]) .default .little content 0 r ∧
        0 < ([endCounting].flatMap (·.magic)).length ∧
        ¬ DecidedBy [endCounting] .default .little content 0 r := by
  intro content
  have hnone : (build [endCounting] .default).lookupData .little content = none := by
    decide +kernel
  refine ⟨hnone, endCounting.magic[0], ?_, by decide, fun h => ?_⟩
  · exact .of_split [] farSighted.magic (by decide +kernel) (by decide) (by decide +kernel)
  · have hsome := (lookupData_eq_some_iff (by decide)).mpr ⟨0, _, h, rfl⟩
    rw [hnone] at hsome
    cases hsome

end Database

end MimeDatabase
