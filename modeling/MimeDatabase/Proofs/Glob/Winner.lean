import Mathlib.Data.Finset.Dedup
import Mathlib.Order.Bounds.Basic
import MimeDatabase.Proofs.Glob.Candidates

/-!
# The best match are all optima

The best match of a name is read off its sorted candidates: the first one, and those behind it until
the rank changes. Nothing is missed, since no candidate of a rank stands behind one of a worse rank
(`takeWhile_eq_filter`), and what is taken are the rules with the least rank among all that match,
in the order in which they were registered (`filter_candidates_register`).

The rank of a rule says nothing about its place. So if the same rules are registered in another
order, the optima are the same rules in another order, and the best match has the same types and the
same weight (`summary_best?_register`). It may have another pattern.
-/

namespace MimeDatabase.Glob

/-! ## Ranks -/

theorem Rule.weight_eq_of_rank_eq {a b : Rule} (h : a.rank = b.rank) : a.weight = b.weight := by
  simp only [rank, List.cons.injEq] at h
  omega

/-- If what passes a test stands in front of what does not, then the elements up to the first that
does not are all that do. -/
theorem takeWhile_eq_filter {α : Type} {p : α → Bool} {l : List α}
    (h : l.Pairwise fun a b => p b = true → p a = true) : l.takeWhile p = l.filter p := by
  induction l with
  | nil => rfl
  | cons a l ih =>
    obtain ⟨hfirst, hrest⟩ := List.pairwise_cons.mp h
    by_cases ha : p a = true
    · rw [List.takeWhile_cons_of_pos ha, List.filter_cons_of_pos ha, ih hrest]
    · have hnone : l.filter p = [] := List.filter_eq_nil_iff.mpr fun b hb => mt (hfirst b hb) ha
      rw [List.takeWhile_cons_of_neg ha, List.filter_cons_of_neg ha, hnone]

/-! ## Optima -/

/-- The ranks of the rules that match the base name of a path. -/
def ranks (rules : List Rule) (file : String) : Set (List Int) :=
  {k | ∃ r ∈ rules, r.MatchesFile file ∧ r.rank = k}

/-- The rules of one rank that match the base name of a path, in the order in which they are
given. -/
def ofRank (rules : List Rule) (file : String) (k : List Int) : List Rule :=
  rules.filter fun r => r.MatchesFile file ∧ r.rank = k

/-- The rules of a rank are those that match with it. -/
theorem mem_ofRank_iff {rules : List Rule} {file : String} {k : List Int} {r : Rule} :
    r ∈ ofRank rules file k ↔ r ∈ rules ∧ r.MatchesFile file ∧ r.rank = k := by
  rw [ofRank, List.mem_filter, decide_eq_true_iff]

namespace Index

/-- The candidates of one rank stand in the order in which they were registered. -/
theorem filter_candidates_register (added : List Rule) (file : String) (k : List Int) :
    ((ofRules (register added)).candidates file).filter (·.rank = k) =
      ofRank (register added) file k := by
  refine eq_of_perm_of_pairwise_lt ?_
    ((pairwise_lt_candidates (nodup_order_register added) file).filter _) ?_
  · by_cases hname : (FileName.normalize file).toList = []
    · have hnone : ofRank (register added) file k = [] :=
        List.eq_nil_iff_forall_not_mem.mpr fun r hr => (mem_ofRank_iff.mp hr).2.1.1 hname
      rw [candidates_of_eq_nil _ hname, hnone, List.filter_nil]
    · refine ((candidates_ofRules_perm _ hname).filter _).trans ?_
      rw [List.filter_filter, ofRank]
      refine List.Perm.of_eq (List.filter_congr fun r _ => ?_)
      simp [Rule.MatchesFile, hname, Bool.and_comm]
  · refine List.pairwise_filter.mpr ((pairwise_order_register added).imp fun horder ha hb => ?_)
    have hrank := (of_decide_eq_true ha).2.trans (of_decide_eq_true hb).2.symm
    exact Rule.sortKey_lt_of_rank_eq hrank horder

/-! ## The best match -/

theorem takeWhile_rank_cons (top : Rule) (rest : List Rule) :
    (top :: rest).takeWhile (·.rank = top.rank) = top :: rest.takeWhile (·.rank = top.rank) :=
  List.takeWhile_cons_of_pos (p := fun r : Rule => r.rank = top.rank) (decide_eq_true rfl)

/-- What is said of the best rules: their types, and weight and pattern of the first. -/
theorem types_tied {top : Rule} {rest : List Rule} {m : Match}
    (h : tied (top :: rest) = some m) :
    m.types = (((top :: rest).takeWhile (·.rank = top.rank)).map (·.type)).eraseDups ∧
      m.weight = top.weight ∧ m.pattern = top.pattern := by
  rw [tied, Option.some.injEq] at h
  subst h
  refine ⟨?_, rfl, rfl⟩
  rw [takeWhile_rank_cons, List.map_cons, Match.types, List.eraseDups_cons]
  rfl

/-- Looking for the best match only cuts the candidates off. -/
theorem types_prefix_candidateTypes {ix : Index} {file : String} {m : Match}
    (h : ix.best? file = some m) : m.types <+: ix.candidateTypes file := by
  rw [best?] at h
  rw [candidateTypes]
  cases hfound : ix.candidates file with
  | nil =>
    rw [hfound] at h
    cases h
  | cons top rest =>
    rw [hfound] at h
    obtain ⟨behind, hsplit⟩ : (top :: rest).takeWhile (·.rank = top.rank) <+: top :: rest :=
      List.takeWhile_prefix _
    have hall : (top :: rest).map (·.type) =
        ((top :: rest).takeWhile (·.rank = top.rank)).map (·.type) ++ behind.map (·.type) := by
      rw [← List.map_append, hsplit]
    -- types that are met again behind the cut are taken out there
    rw [(types_tied h).1, hall, List.eraseDups_append]
    exact List.prefix_append _ _

/-- There is no best match if and only if there is no candidate. -/
theorem best?_eq_none_iff {ix : Index} {file : String} :
    ix.best? file = none ↔ ix.candidates file = [] := by
  rw [best?]
  cases ix.candidates file with
  | nil => exact iff_of_true rfl rfl
  | cons top rest => exact iff_of_false (fun h => nomatch h) (List.cons_ne_nil top rest)

/-- There is a best match if and only if a rule matches. -/
theorem best?_ofRules_eq_none_iff {rules : List Rule} {file : String} :
    (ofRules rules).best? file = none ↔ ∀ r ∈ rules, ¬ r.MatchesFile file := by
  rw [best?_eq_none_iff, List.eq_nil_iff_forall_not_mem]
  simp only [mem_candidates_iff, not_and]

/-- The best match are the types of the optima. -/
theorem exists_isLeast_of_best? {added : List Rule} {file : String} {m : Match}
    (h : (ofRules (register added)).best? file = some m) :
    ∃ k, IsLeast (ranks (register added) file) k ∧
      ∃ first others, ofRank (register added) file k = first :: others ∧
        m.types = ((first :: others).map (·.type)).eraseDups ∧
        m.weight = first.weight ∧ m.pattern = first.pattern := by
  rw [best?] at h
  cases hfound : (ofRules (register added)).candidates file with
  | nil =>
    rw [hfound] at h
    cases h
  | cons top rest =>
    rw [hfound] at h
    have hsorted : (top :: rest).Pairwise fun a b => a.rank ≤ b.rank := by
      rw [← hfound]
      exact (sorted_candidates _ file).imp Rule.rank_le_of_sortKey_le
    have hleast : ∀ r ∈ top :: rest, top.rank ≤ r.rank := by
      rw [List.forall_mem_cons]
      exact ⟨le_refl _, (List.pairwise_cons.mp hsorted).1⟩
    -- no rule of another rank stands in front of one of the top rank
    have hcut : (top :: rest).takeWhile (·.rank = top.rank) =
        ofRank (register added) file top.rank := by
      rw [← filter_candidates_register, hfound]
      refine takeWhile_eq_filter (hsorted.imp_of_mem fun {a b} ha _ hab hb => ?_)
      rw [decide_eq_true_iff] at hb ⊢
      exact le_antisymm (hab.trans (le_of_eq hb)) (hleast a ha)
    have hisLeast : IsLeast (ranks (register added) file) top.rank := by
      constructor
      · obtain ⟨hmem, hmatches⟩ := mem_candidates_iff.mp (hfound ▸ List.mem_cons_self)
        exact ⟨top, hmem, hmatches, rfl⟩
      · intro k hk
        obtain ⟨r, hmem, hmatches, rfl⟩ := hk
        exact hleast r (hfound ▸ mem_candidates_iff.mpr ⟨hmem, hmatches⟩)
    obtain ⟨htypes, hweight, hpattern⟩ := types_tied h
    rw [takeWhile_rank_cons] at hcut htypes
    exact ⟨top.rank, hisLeast, top, _, hcut.symm, htypes, hweight, hpattern⟩

end Index

/-! ## Another order of registration -/

/-- What does not depend on its place is true of a registered rule if it is true of a given one. -/
theorem exists_mem_register_iff {holds : Rule → Prop}
    (hplace : ∀ (r : Rule) (i : Int), holds { r with order := i } ↔ holds r) {added : List Rule} :
    (∃ r ∈ register added, holds r) ↔ ∃ r ∈ added, holds r := by
  constructor
  · intro ⟨r, hr, h⟩
    obtain ⟨i, hi, rfl⟩ := List.mem_mapIdx.mp hr
    exact ⟨added[i], List.getElem_mem hi, (hplace _ _).mp h⟩
  · intro ⟨r, hr, h⟩
    obtain ⟨i, hi, rfl⟩ := List.getElem_of_mem hr
    exact ⟨_, List.mem_mapIdx.mpr ⟨i, hi, rfl⟩, (hplace _ _).mpr h⟩

/-- Registering rules does not change their ranks. -/
theorem ranks_register (added : List Rule) (file : String) :
    ranks (register added) file = ranks added file :=
  Set.ext fun _ => exists_mem_register_iff fun _ _ => Iff.rfl

/-- What a match says about the rules whatever their order: the set of types, and the weight. -/
def Match.summary (m : Match) : Finset MediaType × Nat := (m.types.toFinset, m.weight)

namespace Index

/-- The summary of the best match is told by the rules as they are given. -/
theorem summary_of_best? {added : List Rule} {file : String} {m : Match}
    (h : (ofRules (register added)).best? file = some m) :
    ∃ k, IsLeast (ranks added file) k ∧
      (∀ t, t ∈ m.summary.1 ↔ ∃ r ∈ added, r.MatchesFile file ∧ r.rank = k ∧ r.type = t) ∧
      ∃ r ∈ added, r.rank = k ∧ r.weight = m.summary.2 := by
  obtain ⟨k, hleast, first, others, hofRank, htypes, hweight, -⟩ := exists_isLeast_of_best? h
  have hfirst : first ∈ ofRank (register added) file k := hofRank ▸ List.mem_cons_self
  obtain ⟨hmem, -, hrank⟩ := mem_ofRank_iff.mp hfirst
  rw [ranks_register] at hleast
  refine ⟨k, hleast, fun t => ?_, ?_⟩
  · rw [← exists_mem_register_iff fun _ _ => Iff.rfl, Match.summary, List.mem_toFinset, htypes,
      List.mem_eraseDups, ← hofRank, List.mem_map]
    simp only [mem_ofRank_iff, and_assoc]
  · exact (exists_mem_register_iff fun _ _ => Iff.rfl).mp ⟨first, hmem, hrank, hweight.symm⟩

/-- There is no best match if and only if no rule matches. -/
theorem best?_register_eq_none_iff {added : List Rule} {file : String} :
    (ofRules (register added)).best? file = none ↔ ¬ ∃ r ∈ added, r.MatchesFile file := by
  rw [best?_ofRules_eq_none_iff, ← exists_mem_register_iff fun _ _ => Iff.rfl]
  simp only [not_exists, not_and]

/-- Another order of registration does not change the summary of the best match. -/
theorem summary_best?_register {added other : List Rule} (hperm : other.Perm added)
    (file : String) : ((ofRules (register other)).best? file).map Match.summary =
      ((ofRules (register added)).best? file).map Match.summary := by
  have hsame {holds : Rule → Prop} : (∃ r ∈ other, holds r) ↔ ∃ r ∈ added, holds r :=
    exists_congr fun r => by rw [hperm.mem_iff]
  have hnone : (ofRules (register other)).best? file = none ↔
      (ofRules (register added)).best? file = none := by
    rw [best?_register_eq_none_iff, best?_register_eq_none_iff, hsame]
  cases hother : (ofRules (register other)).best? file with
  | none => rw [hnone.mp hother]
  | some m =>
    cases hadded : (ofRules (register added)).best? file with
    | none =>
      rw [hnone.mpr hadded] at hother
      cases hother
    | some m' =>
      obtain ⟨k, hk, htypes, r, -, hrank, hweight⟩ := summary_of_best? hother
      obtain ⟨k', hk', htypes', r', -, hrank', hweight'⟩ := summary_of_best? hadded
      -- both have the same least rank, and the weight is part of it
      have hranks : ranks other file = ranks added file := Set.ext fun _ => hsame
      obtain rfl : k = k' := (hranks ▸ hk).unique hk'
      have hset : m.summary.1 = m'.summary.1 := by
        refine Finset.ext fun t => ?_
        rw [htypes, htypes', hsame]
      have hnumber : m.summary.2 = m'.summary.2 := by
        rw [← hweight, ← hweight', Rule.weight_eq_of_rank_eq (hrank.trans hrank'.symm)]
      rw [Option.map_some, Option.map_some, Prod.ext hset hnumber]

/-- **The best match are all optima.** Let some rules be registered in the order in which they are
given, as a database registers the rules of its records. A name has a best match if and only if one
of the rules matches it. The types of the best match are then those of all rules that match with
the least rank, first registered first and without repetition, and its weight and pattern are those
of the first such rule. If the same rules are registered in another order, the best match has the
same types, maybe in another order, and the same weight. In any database the types of the best match
are the first of the types that match. -/
theorem best?_register (added : List Rule) (file : String) :
    let rules := register added
    ((ofRules rules).best? file = none ↔ ∀ r ∈ rules, ¬ r.MatchesFile file) ∧
      (∀ m, (ofRules rules).best? file = some m → ∃ k,
        IsLeast {k | ∃ r ∈ rules, r.MatchesFile file ∧ r.rank = k} k ∧
          ∃ first others,
            (rules.filter fun r => r.MatchesFile file ∧ r.rank = k) = first :: others ∧
            m.types = ((first :: others).map (·.type)).eraseDups ∧
            m.weight = first.weight ∧ m.pattern = first.pattern) ∧
      (∀ other : List Rule, other.Perm added →
        ((ofRules (register other)).best? file).map (fun m => (m.types.toFinset, m.weight)) =
          ((ofRules rules).best? file).map fun m => (m.types.toFinset, m.weight)) ∧
      (∀ (sets : List RecordSet) (settings : DatabaseSettings), ∃ records : List Rule,
        (Database.build sets settings).globs = ofRules (register records)) ∧
      ∀ (db : Database) m, db.globMatch file = some m → m.types <+: db.globCandidates file := by
  intro rules
  refine ⟨best?_ofRules_eq_none_iff, fun m => exists_isLeast_of_best?, fun other hperm => ?_,
    fun sets settings => ?_, fun db m => types_prefix_candidateTypes⟩
  · exact summary_best?_register hperm file
  · exact ⟨_, by rw [register_recordGlobs]; rfl⟩

/-- Rules of one suffix and a rule of a shorter one. -/
def videoOrCode : List Rule :=
  [⟨"*.s", ⟨some 2, "text/x-asm"⟩, 50, false, 0⟩, ⟨"*.ts", ⟨some 3, "video/mp2t"⟩, 50, false, 0⟩,
    ⟨"*.TS", ⟨some 4, "text/x-code"⟩, 50, false, 0⟩]

/-- A video and a program are told by the same suffix. Which one comes first, and how the pattern is
written, depends on the order of registration. -/
theorem best?_register_videoOrCode :
    (ofRules (register videoOrCode)).best? "main.ts" =
        some ⟨⟨some 3, "video/mp2t"⟩, [⟨some 4, "text/x-code"⟩], 50, "*.ts"⟩ ∧
      ((ofRules (register videoOrCode.reverse)).best? "main.ts").map
          (fun m => (m.types.toFinset, m.weight)) =
        some ([⟨some 4, "text/x-code"⟩, ⟨some 3, "video/mp2t"⟩].toFinset, 50) := by
  have hfound : (ofRules (register videoOrCode)).candidates "main.ts" =
      (ofRules (register videoOrCode)).collect "main.ts".toList :=
    List.mergeSort_of_pairwise (by decide +kernel)
  have hbest : (ofRules (register videoOrCode)).best? "main.ts" =
      some ⟨⟨some 3, "video/mp2t"⟩, [⟨some 4, "text/x-code"⟩], 50, "*.ts"⟩ := by
    rw [best?, hfound]
    decide +kernel
  refine ⟨hbest, ?_⟩
  rw [(best?_register videoOrCode "main.ts").2.2.1 _ videoOrCode.reverse_perm, hbest]
  decide

end Index

end MimeDatabase.Glob
