import Mathlib.Data.Int.Order.Basic
import Mathlib.Data.List.Lex
import Mathlib.Data.List.Nodup
import MimeDatabase.Database
import MimeDatabase.Proofs.Glob.Pattern

/-!
# The index finds what a walk over all rules finds

A glob rule matches a name as its kind says (`Rule.Matches`). The index compares only generic rules
with a name. It looks the name up among the literals, each of its suffixes among the suffix rules,
and both once more in their folded forms. All the same it finds each rule that matches, once for
each time it was added, and no other (`Index.collect_ofRules`). A rule goes into one bucket under
one key, which is not empty if the rule asks for a suffix, and a text has one suffix of each length;
so adding a rule adds it to what is found once or not at all (`Index.collect_add`). No bucket ever
loses a rule (`Index.rules_ofRules`).

What is found is sorted by the keys of the rules. Where these have different places in the order of
registration there is only one way to do so (`eq_of_perm_of_pairwise_lt`), hence the buckets in
which they were found do not matter.
-/

namespace MimeDatabase.Glob

/-! ## What a rule matches -/

/-- A rule that matches a name in normal form. -/
def Rule.Matches (r : Rule) (name : List Char) : Prop :=
  match r.kind, r.caseSensitive with
  | .literal, true => r.pattern.toList = name
  | .literal, false => Text.fold r.pattern.toList = Text.fold name
  | .extension, true => r.suffix <:+ name
  | .extension, false => Text.fold r.suffix <:+ Text.fold name
  | .generic, caseSensitive => Fits caseSensitive (elements r.pattern.toList) name

instance (r : Rule) (name : List Char) : Decidable (r.Matches name) := by
  unfold Rule.Matches
  split <;> infer_instance

/-- A rule that matches the base name of a path. An empty name is matched by no rule. -/
def Rule.MatchesFile (r : Rule) (file : String) : Prop :=
  (FileName.normalize file).toList ≠ [] ∧ r.Matches (FileName.normalize file).toList

instance (r : Rule) (file : String) : Decidable (r.MatchesFile file) :=
  inferInstanceAs (Decidable (_ ∧ _))

/-- A suffix rule asks for something. -/
theorem Rule.suffix_ne_nil {r : Rule} (h : r.kind = .extension) : r.suffix ≠ [] := by
  unfold Rule.kind Kind.of at h
  unfold Rule.suffix
  split at h
  next c rest heq =>
    rw [heq]
    exact List.cons_ne_nil c rest
  next =>
    split at h <;> exact absurd h (by simp)

/-! ## Buckets -/

theorem Buckets.rulesOfSuffixes_empty (text : List Char) :
    rulesOfSuffixes ([] : Buckets) text = [] := by
  induction text with
  | nil => rfl
  | cons c text ih => rw [rulesOfSuffixes, ih, rulesOf, List.append_nil]

/-- A rule is found among the suffixes of a text once if its key is one of them, else not at all. -/
theorem Buckets.rulesOfSuffixes_add (buckets : Buckets) {key : List Char} (rule : Rule)
    (hkey : key ≠ []) (text : List Char) :
    ((buckets.add key rule).rulesOfSuffixes text).Perm
      (buckets.rulesOfSuffixes text ++ if key <:+ text then [rule] else []) := by
  induction text with
  | nil => simp [rulesOfSuffixes, hkey]
  | cons c text ih =>
    rw [rulesOfSuffixes, rulesOfSuffixes, rulesOf_add]
    by_cases hhere : c :: text = key
    · -- the key is the whole text, so it is not a suffix of the rest
      have hrest : ¬ key <:+ text := fun h => by
        have := h.length_le
        rw [← hhere, List.length_cons] at this
        omega
      rw [if_neg hrest, List.append_nil] at ih
      rw [if_pos hhere, if_pos (hhere ▸ List.suffix_rfl), List.append_assoc, List.append_assoc]
      exact ((ih.append_left [rule]).trans List.perm_append_comm).append_left _
    · have hiff : key <:+ c :: text ↔ key <:+ text := by
        rw [List.suffix_cons_iff, or_iff_right (Ne.symm hhere)]
      rw [if_neg hhere, List.append_nil, List.append_assoc]
      simp only [hiff]
      exact ih.append_left _

/-- The rules of all keys. -/
def Buckets.held (buckets : Buckets) : List Rule := buckets.flatMap (·.2)

theorem Buckets.held_cons (b : List Char × List Rule) (rest : Buckets) :
    held (b :: rest) = b.2 ++ rest.held := List.flatMap_cons

/-- To add a rule to a bucket adds it to what is held, and nothing else. -/
theorem Buckets.held_add (buckets : Buckets) (key : List Char) (rule : Rule) :
    (buckets.add key rule).held.Perm (buckets.held ++ [rule]) := by
  induction buckets with
  | nil => exact List.Perm.refl _
  | cons b rest ih =>
    rw [add, held_cons, List.append_assoc]
    split
    · rw [held_cons, List.append_assoc]
      exact List.perm_append_comm.append_left b.2
    · rw [held_cons]
      exact ih.append_left b.2

namespace Index

/-! ## What is held -/

/-- The rules of all buckets, and the generic ones. -/
def rules (ix : Index) : List Rule :=
  ix.exactLiterals.held ++ ix.foldedLiterals.held ++ ix.exactSuffixes.held ++
    ix.foldedSuffixes.held ++ ix.generics.map (·.1)

/-- An index holds what it held and the rule that is added. -/
theorem rules_add (ix : Index) (rule : Rule) : (ix.add rule).rules.Perm (ix.rules ++ [rule]) := by
  refine List.perm_iff_count.mpr fun r => ?_
  have hheld (buckets : Buckets) (key : List Char) :=
    List.perm_iff_count.mp (buckets.held_add key rule) r
  cases hkind : rule.kind <;> cases hcase : rule.caseSensitive <;>
    simp only [add, rules, hkind, hcase, List.count_append, List.map_append, List.map_cons,
      List.map_nil, hheld] <;>
    omega

theorem rules_foldl_add (ix : Index) (added : List Rule) :
    (added.foldl add ix).rules.Perm (ix.rules ++ added) := by
  induction added generalizing ix with
  | nil => rw [List.foldl_nil, List.append_nil]
  | cons rule added ih =>
    rw [List.foldl_cons]
    refine ((ih _).trans ((ix.rules_add rule).append_right _)).trans ?_
    rw [List.append_assoc]
    exact List.Perm.refl _

/-- An index holds each rule as often as it was added. -/
theorem rules_ofRules (added : List Rule) : (ofRules added).rules.Perm added :=
  rules_foldl_add empty added

/-! ## What is found -/

/-- Adding a rule adds it to what is found if it matches, and changes nothing else. -/
theorem collect_add (ix : Index) (rule : Rule) (name : List Char) :
    ((ix.add rule).collect name).Perm
      (ix.collect name ++ if rule.Matches name then [rule] else []) := by
  -- the new rule stands at the end of its bucket, not of the list: occurrences are counted
  refine List.perm_iff_count.mpr fun r => ?_
  have hsuffixes {key : List Char} (hkey : key ≠ []) (buckets : Buckets) (text : List Char) :=
    List.perm_iff_count.mp (buckets.rulesOfSuffixes_add rule hkey text) r
  cases hkind : rule.kind with
  | literal =>
    cases hcase : rule.caseSensitive <;>
      simp only [add, collect, hkind, hcase, Rule.Matches, Buckets.rulesOf_add, List.count_append,
        eq_comm (b := name), eq_comm (b := Text.fold name)] <;>
      omega
  | extension =>
    have hkey : rule.suffix ≠ [] := Rule.suffix_ne_nil hkind
    have hfolded : Text.fold rule.suffix ≠ [] := mt (Text.fold_eq_nil_iff _).mp hkey
    cases hcase : rule.caseSensitive <;>
      simp only [add, collect, hkind, hcase, Rule.Matches, List.count_append, hsuffixes hkey,
        hsuffixes hfolded] <;>
      omega
  | generic =>
    have haccepts := accepts_iff_fits rule.pattern.toList rule.caseSensitive name
    simp only [add, collect, hkind, Rule.Matches, List.filter_append, List.map_append,
      List.count_append, List.filter_cons, List.filter_nil, haccepts]
    split
    next => simp; omega
    next => simp

theorem collect_empty (name : List Char) : empty.collect name = [] := by
  simp [collect, empty, Buckets.rulesOf, Buckets.rulesOfSuffixes_empty]

/-- The rules that are collected from an index are those that match among the rules added to it. -/
theorem collect_foldl_add (ix : Index) (rules : List Rule) (name : List Char) :
    ((rules.foldl add ix).collect name).Perm
      (ix.collect name ++ rules.filter (·.Matches name)) := by
  induction rules generalizing ix with
  | nil => simp
  | cons rule rules ih =>
    rw [List.foldl_cons]
    refine ((ih _).trans ((ix.collect_add rule name).append_right _)).trans ?_
    rw [List.append_assoc, List.filter_cons]
    by_cases h : rule.Matches name <;> simp [h]

/-- What is found are the rules that match. -/
theorem collect_ofRules (rules : List Rule) (name : List Char) :
    ((ofRules rules).collect name).Perm (rules.filter (·.Matches name)) := by
  have h := collect_foldl_add empty rules name
  rwa [collect_empty, List.nil_append] at h

/-- A folded name may end with a suffix that is longer than the name. -/
example :
    let rule : Rule := ⟨"*.sss", ⟨none, "text/x-note"⟩, 50, false, 0⟩
    (ofRules [rule]).collect ['.', 'ß', 's'] = [rule] := by
  decide +kernel

end Index

/-! ## The order -/

/-- The comparison of keys is the lexicographic order. -/
theorem keyLe_iff (as bs : List Int) : keyLe as bs = true ↔ as ≤ bs := by
  rw [← not_lt]
  induction as generalizing bs with
  | nil => simp [keyLe]
  | cons a as ih =>
    cases bs with
    | nil => simp [keyLe]
    | cons b bs =>
      simp only [keyLe, Bool.or_eq_true, Bool.and_eq_true, decide_eq_true_eq, beq_iff_eq, ih,
        List.cons_lt_cons_iff]
      rcases lt_trichotomy a b with h | rfl | h
      · simp [h, h.le, h.ne']
      · simp
      · simp [h, h.le, h.ne']

theorem Rule.le_iff (a b : Rule) : a.le b = true ↔ a.sortKey ≤ b.sortKey := keyLe_iff _ _

/-- The key of a rule tells its place in the order of registration. -/
theorem Rule.order_eq_of_sortKey_eq {a b : Rule} (h : a.sortKey = b.sortKey) :
    a.order = b.order := by
  have hlast := congrArg List.getLast? h
  simpa [sortKey] using hlast

/-- Rules in order have ranks in order. -/
theorem Rule.rank_le_of_sortKey_le {a b : Rule} (h : a.sortKey ≤ b.sortKey) :
    a.rank ≤ b.rank := by
  rw [← not_lt] at h ⊢
  simp only [sortKey, rank, List.cons_append, List.nil_append, List.cons_lt_cons_iff, lt_irrefl,
    and_false, or_false] at h ⊢
  omega

/-- Of two rules of one rank, the one that was registered first comes first. -/
theorem Rule.sortKey_lt_of_rank_eq {a b : Rule} (hrank : a.rank = b.rank)
    (horder : a.order < b.order) : a.sortKey < b.sortKey := by
  rw [sortKey, sortKey, hrank]
  exact List.append_left_lt (List.cons_lt_cons_iff.mpr (Or.inl horder))

/-- Of two rules in order, the one that was registered later has the better rank. -/
theorem Rule.rank_lt_of_sortKey_le {a b : Rule} (hle : a.sortKey ≤ b.sortKey)
    (horder : b.order < a.order) : a.rank < b.rank := by
  refine lt_of_le_of_ne (rank_le_of_sortKey_le hle) fun hrank => ?_
  exact absurd hle (not_le_of_gt (sortKey_lt_of_rank_eq hrank.symm horder))

/-- Rules whose keys increase strictly cannot be arranged in another such way. -/
theorem eq_of_perm_of_pairwise_lt {found other : List Rule} (hperm : other.Perm found)
    (hother : other.Pairwise fun a b => a.sortKey < b.sortKey)
    (hfound : found.Pairwise fun a b => a.sortKey < b.sortKey) : other = found :=
  List.Perm.eq_of_pairwise (fun _ _ _ _ hab hba => absurd hba (lt_asymm hab)) hother hfound hperm

/-- Sorted rules with different places in the order of registration have different keys. -/
theorem pairwise_lt_of_nodup {found : List Rule}
    (hsorted : found.Pairwise fun a b => a.sortKey ≤ b.sortKey)
    (hnodup : (found.map (·.order)).Nodup) :
    found.Pairwise fun a b => a.sortKey < b.sortKey := by
  refine hsorted.imp₂ (fun a b hle hne => ?_) (List.pairwise_map.mp hnodup)
  exact lt_of_le_of_ne hle fun h => hne (Rule.order_eq_of_sortKey_eq h)

/-! ## Registration -/

/-- Rules with their places in the order in which they are given. -/
def register (rules : List Rule) : List Rule := rules.mapIdx fun i r => { r with order := i }

/-- Registered rules are numbered upwards. -/
theorem pairwise_order_register (added : List Rule) :
    (register added).Pairwise fun a b => a.order < b.order := by
  refine List.pairwise_iff_getElem.mpr fun i j hi hj hij => ?_
  simp only [register, List.getElem_mapIdx]
  omega

/-- No two registered rules have the same number. -/
theorem nodup_order_register (added : List Rule) :
    ((register added).map (·.order)).Nodup :=
  List.pairwise_map.mpr ((pairwise_order_register added).imp ne_of_lt)

/-- The rules of a database are registered in the order of their records. -/
theorem register_recordGlobs (resolve : String → MediaType) (sets : List RecordSet) :
    register (Database.recordGlobs resolve sets) = Database.recordGlobs resolve sets := by
  refine List.ext_getElem (List.length_mapIdx ..) fun i hi hi' => ?_
  simp only [register, Database.recordGlobs, Rule.make, List.getElem_mapIdx]

/-- A database gives each of its rules a place of its own. -/
theorem nodup_order_recordGlobs (resolve : String → MediaType) (sets : List RecordSet) :
    ((Database.recordGlobs resolve sets).map (·.order)).Nodup := by
  rw [← register_recordGlobs]
  exact nodup_order_register _

/-! ## Candidates -/

namespace Index

/-- The candidates are what is collected for the normalized name, in order. -/
theorem candidates_eq (ix : Index) (file : String) :
    ix.candidates file =
      if (FileName.normalize file).toList = [] then []
      else (ix.collect (FileName.normalize file).toList).mergeSort Rule.le := by
  simp [candidates]

/-- A path without a name has no candidates. -/
theorem candidates_of_eq_nil (ix : Index) {file : String}
    (h : (FileName.normalize file).toList = []) : ix.candidates file = [] := by
  rw [candidates_eq, if_pos h]

theorem candidates_perm (ix : Index) {file : String} (h : (FileName.normalize file).toList ≠ []) :
    (ix.candidates file).Perm (ix.collect (FileName.normalize file).toList) := by
  rw [candidates_eq, if_neg h]
  exact List.mergeSort_perm _ _

/-- The candidates of an index of rules are the rules that match, in some order. -/
theorem candidates_ofRules_perm (added : List Rule) {file : String}
    (h : (FileName.normalize file).toList ≠ []) : ((ofRules added).candidates file).Perm
      (added.filter (·.Matches (FileName.normalize file).toList)) :=
  (candidates_perm _ h).trans (collect_ofRules added _)

/-- What is found are the rules that match. -/
theorem mem_candidates_iff {rules : List Rule} {file : String} {rule : Rule} :
    rule ∈ (ofRules rules).candidates file ↔ rule ∈ rules ∧ rule.MatchesFile file := by
  by_cases hname : (FileName.normalize file).toList = []
  · rw [candidates_of_eq_nil _ hname]
    exact iff_of_false List.not_mem_nil fun h => h.2.1 hname
  · rw [(candidates_ofRules_perm rules hname).mem_iff, List.mem_filter, decide_eq_true_iff,
      Rule.MatchesFile, and_iff_right hname]

/-- Candidates come in the order of their keys. -/
theorem sorted_candidates (ix : Index) (file : String) :
    (ix.candidates file).Pairwise fun a b => a.sortKey ≤ b.sortKey := by
  rw [candidates_eq]
  split
  next => exact List.Pairwise.nil
  next =>
    have htrans (a b c : Rule) (hab : a.le b) (hbc : b.le c) : a.le c := keyLe_trans _ _ _ hab hbc
    have htotal (a b : Rule) : a.le b || b.le a := keyLe_total _ _
    exact (List.pairwise_mergeSort htrans htotal _).imp fun h => (Rule.le_iff _ _).mp h

/-- What is found has different places in the order of registration if the rules have. -/
theorem nodup_order_candidates {rules : List Rule} (hnodup : (rules.map (·.order)).Nodup)
    (file : String) : (((ofRules rules).candidates file).map (·.order)).Nodup := by
  by_cases h : (FileName.normalize file).toList = []
  · rw [candidates_of_eq_nil _ h]
    exact List.nodup_nil
  · exact ((candidates_ofRules_perm rules h).map _).nodup_iff.mpr
      (hnodup.sublist (List.filter_sublist.map _))

/-- No two candidates have the same key if no two rules have the same number. -/
theorem pairwise_lt_candidates {added : List Rule} (hnodup : (added.map (·.order)).Nodup)
    (file : String) :
    ((ofRules added).candidates file).Pairwise fun a b => a.sortKey < b.sortKey :=
  pairwise_lt_of_nodup (sorted_candidates _ file) (nodup_order_candidates hnodup file)

/-- **The index equals a walk over all rules.** An empty name has no candidates. Any other name has
the rules that match it, each as often as it was added, from the least key to the greatest. If the
rules have different places in the order of registration, as those of a database have, this is the
only arrangement in which the keys increase strictly. -/
theorem candidates_ofRules (rules : List Rule) (file : String) :
    let name := (FileName.normalize file).toList
    let found := (ofRules rules).candidates file
    (name = [] → found = []) ∧
      (name ≠ [] → found.Perm (rules.filter (·.Matches name))) ∧
      (found.Pairwise fun a b => a.sortKey ≤ b.sortKey) ∧
      ((rules.map (·.order)).Nodup →
        (found.Pairwise fun a b => a.sortKey < b.sortKey) ∧
          ∀ other : List Rule, other.Perm found →
            (other.Pairwise fun a b => a.sortKey < b.sortKey) → other = found) ∧
      ∀ (sets : List RecordSet) (settings : DatabaseSettings), ∃ resolve,
        (Database.build sets settings).globs = ofRules (Database.recordGlobs resolve sets) ∧
          ((Database.recordGlobs resolve sets).map (·.order)).Nodup := by
  intro name found
  have hsorted := sorted_candidates (ofRules rules) file
  refine ⟨candidates_of_eq_nil _, fun h => ?_, hsorted, fun hnodup => ?_, fun sets settings => ?_⟩
  · exact (candidates_perm _ h).trans (collect_ofRules rules name)
  · have hstrict := pairwise_lt_of_nodup hsorted (nodup_order_candidates hnodup file)
    exact ⟨hstrict, fun other hother hlt => eq_of_perm_of_pairwise_lt hother hlt hstrict⟩
  · exact ⟨_, rfl, nodup_order_recordGlobs _ _⟩

end Index

end MimeDatabase.Glob
