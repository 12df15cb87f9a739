import MimeDatabase.Proofs.FileName
import MimeDatabase.Proofs.Glob.Literal

/-!
# Which patterns match the names that they spell

Names are brought into composed form before they are looked up, patterns are compared as they are
written. So a literal rule is found by its own text if and only if composing leaves of the text what
the rule compares (`Rule.key`), and a suffix rule by a name that ends with its suffix if and only if
this still holds of the composed name (`mem_candidates_spelled`).

A pattern in composed form spells names that it matches. For a suffix this takes that it starts
afresh: a combining mark at its start would be absorbed by the character before it. A pattern with a
separate accent is matched by no name at all where case counts, not even by its own text
(`notMem_candidates_spelled`).
-/

namespace MimeDatabase.Glob

open Text (IsSeparator StartsAfresh compose)

namespace Rule

/-- What a rule compares of a text. -/
def key (r : Rule) (text : List Char) : List Char :=
  if r.caseSensitive then text else Text.fold text

variable {r : Rule} {name : List Char}

/-- A literal matches the names with the same key. -/
theorem matches_iff_key_eq (hkind : r.kind = .literal) :
    r.Matches name ↔ r.key name = r.key r.pattern.toList := by
  cases hcase : r.caseSensitive <;> simp [Matches, key, hkind, hcase, eq_comm]

/-- An extension matches the names whose keys end as its own. -/
theorem matches_iff_key_suffix (hkind : r.kind = .extension) :
    r.Matches name ↔ r.key r.suffix <:+ r.key name := by
  cases hcase : r.caseSensitive <;> simp [Matches, key, hkind, hcase]

theorem key_append (r : Rule) (front text : List Char) :
    r.key (front ++ text) = r.key front ++ r.key text := by
  unfold key
  split
  next => rfl
  next => exact Text.fold_append front text

end Rule

/-- A text without wildcards and slashes holds no separator. -/
theorem not_isSeparator_of_forall {text : List Char} (hwild : ∀ c ∈ text, isWildcard c = false)
    (hslash : '/' ∉ text) : ∀ c ∈ text, ¬ IsSeparator c := by
  rintro c hc (rfl | rfl)
  · exact hslash hc
  · exact absurd (hwild _ hc) (by decide)

/-- A name without separators is matched in composed form. -/
theorem Rule.matchesFile_iff {r : Rule} {name : List Char} (hne : name ≠ [])
    (h : ∀ c ∈ name, ¬ IsSeparator c) :
    r.MatchesFile (String.ofList name) ↔ r.Matches (compose name) := by
  have hnormal : (FileName.normalize (String.ofList name)).toList = compose name := by
    rw [FileName.normalize_of_forall (by rwa [String.toList_ofList]), String.toList_ofList,
      String.toList_ofList]
  rw [MatchesFile, hnormal]
  exact and_iff_right (mt Text.compose_eq_nil_iff.mp hne)

/-- **Which patterns match the names that they spell.** A literal rule is found by its own text if
and only if it compares the same of the text and of its composed form; a suffix rule is found by a
name that ends with its suffix if and only if what it compares of the suffix ends what it compares
of the composed name. For patterns in composed form this is so, if a suffix starts afresh. -/
theorem mem_candidates_spelled {rules : List Rule} {rule : Rule} (hrule : rule ∈ rules)
    (hslash : '/' ∉ rule.pattern.toList) :
    (rule.kind = .literal → rule.pattern ≠ "" →
      (rule ∈ (Index.ofRules rules).candidates rule.pattern ↔
        rule.key (compose rule.pattern.toList) = rule.key rule.pattern.toList) ∧
      (compose rule.pattern.toList = rule.pattern.toList →
        rule ∈ (Index.ofRules rules).candidates rule.pattern)) ∧
    (rule.kind = .extension → ∀ front : List Char, (∀ c ∈ front, ¬ IsSeparator c) →
      (rule ∈ (Index.ofRules rules).candidates (String.ofList (front ++ rule.suffix)) ↔
        rule.key rule.suffix <:+ rule.key (compose (front ++ rule.suffix))) ∧
      (compose rule.suffix = rule.suffix → StartsAfresh rule.suffix →
        rule ∈ (Index.ofRules rules).candidates (String.ofList (front ++ rule.suffix)))) := by
  constructor
  · intro hkind hne
    have hiff : rule ∈ (Index.ofRules rules).candidates rule.pattern ↔
        rule.key (compose rule.pattern.toList) = rule.key rule.pattern.toList := by
      rw [Index.mem_candidates_iff, and_iff_right hrule, ← Rule.matches_iff_key_eq hkind]
      have hfile := Rule.matchesFile_iff (r := rule) (mt String.toList_eq_nil_iff.mp hne)
        (not_isSeparator_of_forall (Kind.forall_of_literal hkind) hslash)
      rwa [String.ofList_toList] at hfile
    exact ⟨hiff, fun hcomposed => hiff.mpr (by rw [hcomposed])⟩
  · intro hkind front hfront
    have hsuffix : ∀ c ∈ rule.suffix, ¬ IsSeparator c :=
      not_isSeparator_of_forall (Kind.forall_of_extension hkind).2
        fun hmem => hslash (List.mem_of_mem_drop hmem)
    have hname : ∀ c ∈ front ++ rule.suffix, ¬ IsSeparator c :=
      List.forall_mem_append.mpr ⟨hfront, hsuffix⟩
    have hne : front ++ rule.suffix ≠ [] :=
      List.append_ne_nil_of_right_ne_nil front (Rule.suffix_ne_nil hkind)
    have hiff : rule ∈ (Index.ofRules rules).candidates (String.ofList (front ++ rule.suffix)) ↔
        rule.key rule.suffix <:+ rule.key (compose (front ++ rule.suffix)) := by
      rw [Index.mem_candidates_iff, and_iff_right hrule, ← Rule.matches_iff_key_suffix hkind]
      exact Rule.matchesFile_iff hne hname
    refine ⟨hiff, fun hcomposed hfresh => hiff.mpr ?_⟩
    rw [Text.compose_append hfresh, hcomposed, Rule.key_append]
    exact List.suffix_append _ _

/-- A rule for names that end in a composed suffix, with regard to case. -/
def menuSuffix : Rule := ⟨"*.caf\u00e9", ⟨some 2, "text/x-menu"⟩, 50, true, 0⟩

/-- A name in which no accent is composed ends with the suffix all the same. -/
theorem mem_candidates_spelled_menuSuffix :
    menuSuffix ∈ [menuSuffix] ∧ '/' ∉ menuSuffix.pattern.toList ∧ menuSuffix.kind = .extension ∧
      compose menuSuffix.suffix = menuSuffix.suffix ∧ StartsAfresh menuSuffix.suffix ∧
      menuSuffix ∈ (Index.ofRules [menuSuffix]).candidates
        (String.ofList ("re\u0301sume\u0301".toList ++ menuSuffix.suffix)) := by
  have hrule : menuSuffix ∈ [menuSuffix] := List.mem_cons_self
  have hslash : '/' ∉ menuSuffix.pattern.toList := by decide +kernel
  have hkind : menuSuffix.kind = .extension := by decide +kernel
  have hcomposed : compose menuSuffix.suffix = menuSuffix.suffix := by decide +kernel
  have hfresh : StartsAfresh menuSuffix.suffix := by
    have hsuffix : menuSuffix.suffix = '.' :: ['c', 'a', 'f', 'é'] := by decide +kernel
    rw [hsuffix]
    exact Text.startsAfresh_of_lt (by decide) _
  have hfront : ("re\u0301sume\u0301".toList.all fun c => decide ¬ IsSeparator c) = true := by
    decide +kernel
  refine ⟨hrule, hslash, hkind, hcomposed, hfresh, ?_⟩
  exact ((mem_candidates_spelled hrule hslash).2 hkind _ fun c hc =>
    of_decide_eq_true (List.all_eq_true.mp hfront c hc)).2 hcomposed hfresh

/-- A rule whose pattern has a separate accent. -/
def decomposedMenu : Rule := ⟨"cafe\u0301.txt", ⟨some 2, "text/x-menu"⟩, 50, false, 0⟩

/-- A rule whose suffix starts with a combining mark. -/
def markedSuffix : Rule := ⟨"*\u0301.txt", ⟨some 2, "text/x-menu"⟩, 50, false, 0⟩

/-- A literal pattern with a separate accent is not matched by its own text, nor is a suffix pattern
that starts with a combining mark by a letter and its suffix. -/
theorem notMem_candidates_spelled :
    (decomposedMenu.kind = .literal ∧ decomposedMenu.pattern ≠ "" ∧
      '/' ∉ decomposedMenu.pattern.toList ∧
      decomposedMenu ∉ (Index.ofRules [decomposedMenu]).candidates decomposedMenu.pattern) ∧
    markedSuffix.kind = .extension ∧ '/' ∉ markedSuffix.pattern.toList ∧ ¬ IsSeparator 'e' ∧
      markedSuffix ∉ (Index.ofRules [markedSuffix]).candidates
        (String.ofList ('e' :: markedSuffix.suffix)) := by
  decide +kernel

end MimeDatabase.Glob
