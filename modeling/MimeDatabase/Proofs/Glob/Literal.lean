import Mathlib.Data.List.Infix
import MimeDatabase.Proofs.Glob.Candidates

/-!
# Look-up agrees with matching

A literal rule and a suffix rule are found by their texts, and yet their patterns are patterns like
others. Within the limits of ASCII it makes no difference which way is taken
(`mem_candidates_iff_accepts`): a pattern without wildcards fits the texts that have its letters one
by one (`fits_map_one_iff`), and for ASCII letters being the same when case is ignored means to have
the same small letter, as in folded texts (`sameFolded_iff_of_ascii`).

Beyond ASCII the two ways differ for rules that ignore case. Folding may make a letter longer, while
matching compares letter by letter.
-/

namespace MimeDatabase

/-! ## ASCII -/

namespace Text

/-- A text of ASCII characters. -/
def IsAscii (cs : List Char) : Prop := ∀ c ∈ cs, c.toNat < 0x80

instance (cs : List Char) : Decidable (IsAscii cs) :=
  List.decidableBAll (fun c : Char => c.toNat < 0x80) cs

/-- ASCII text is folded character by character. -/
theorem fold_of_isAscii {cs : List Char} (h : IsAscii cs) : fold cs = cs.map Char.toLower := by
  induction cs with
  | nil => rfl
  | cons c cs ih =>
    obtain ⟨hc, hcs⟩ := List.forall_mem_cons.mp h
    rw [List.map_cons, ← ih hcs, fold, fold, List.flatMap_cons, foldChar, if_pos hc]
    rfl

/-- A small ASCII letter may have siblings, but none in ASCII. -/
theorem siblings_ascii : ∀ n < 0x80, (Char.ofNat n).toLower.toNat < 0x80 ∧
    (siblings (Char.ofNat n).toLower).filter (·.toNat < 0x80) = [(Char.ofNat n).toLower] := by
  decide +kernel

theorem simpleLower_of_ascii {c : Char} (h : c.toNat < 0x80) : simpleLower c = c.toLower := by
  rw [simpleLower, lowerChar, if_pos h]

end Text

namespace Glob

open Text (IsAscii)

/-- ASCII characters are the same up to case if their lower cases are. -/
theorem sameFolded_iff_of_ascii {c d : Char} (hc : c.toNat < 0x80) (hd : d.toNat < 0x80) :
    sameFolded c d = true ↔ d.toLower = c.toLower := by
  have hlower := (Text.siblings_ascii c.toNat hc).1
  have hsiblings := (Text.siblings_ascii d.toNat hd).2
  rw [Char.ofNat_toNat] at hlower hsiblings
  rw [sameFolded, Text.simpleLower_of_ascii hc, Text.simpleLower_of_ascii hd, List.contains_iff_mem,
    eq_comm, ← List.mem_singleton, ← hsiblings, List.mem_filter, and_iff_left]
  exact decide_eq_true hlower

/-! ## Patterns without wildcards -/

/-- A pattern without wildcards is translated character by character. -/
theorem elements_of_literal {text : List Char} (h : ∀ c ∈ text, isWildcard c = false) :
    elements text = text.map fun c => some (.one false c) := by
  induction text with
  | nil => rw [elements, List.map_nil]
  | cons c text ih =>
    obtain ⟨hc, htext⟩ := List.forall_mem_cons.mp h
    simp only [isWildcard, Bool.or_eq_false_iff, beq_eq_false_iff_ne] at hc
    obtain ⟨⟨⟨hstar, hany⟩, hset⟩, -⟩ := hc
    rw [elements, if_neg hstar, if_neg hany, if_neg hset, ih htext, List.map_cons]

/-- Let two letters pass as the same if they have the same image. Then a text passes as another one
if these have the same images. -/
theorem fits_map_one_iff {caseSensitive : Bool} {image : Char → Char} {text name : List Char}
    (hpasses : ∀ d ∈ text, ∀ c ∈ name,
      (CharTest.one false d).passes caseSensitive c = true ↔ image d = image c) :
    Fits caseSensitive (text.map fun c => some (.one false c)) name ↔
      text.map image = name.map image := by
  induction text generalizing name with
  | nil => rw [List.map_nil, fits_nil_iff, List.map_nil, List.nil_eq, List.map_eq_nil_iff]
  | cons d text ih =>
    cases name with
    | nil => exact iff_of_false (fun h => nomatch h) (List.cons_ne_nil _ _)
    | cons c name =>
      have hhead := hpasses d List.mem_cons_self c List.mem_cons_self
      have htail := ih fun d' hd c' hc =>
        hpasses d' (List.mem_cons_of_mem d hd) c' (List.mem_cons_of_mem c hc)
      rw [List.map_cons, List.map_cons, List.map_cons, List.cons.injEq, ← hhead, ← htail]
      constructor
      · intro h
        cases h with
        | test passes fits => exact ⟨passes, fits⟩
      · intro ⟨passes, fits⟩
        exact .test passes fits

/-- Behind a star, the images of a text have to end those of the name. -/
theorem fits_star_map_one_iff {caseSensitive : Bool} {image : Char → Char} {text name : List Char}
    (hpasses : ∀ d ∈ text, ∀ c ∈ name,
      (CharTest.one false d).passes caseSensitive c = true ↔ image d = image c) :
    Fits caseSensitive (none :: text.map fun c => some (.one false c)) name ↔
      text.map image <:+ name.map image := by
  rw [fits_star_iff, List.suffix_map_iff]
  refine exists_congr fun tail => and_congr_right fun htail => ?_
  exact fits_map_one_iff fun d hd c hc => hpasses d hd c (htail.mem hc)

/-! ## Kinds -/

/-- A literal has no wildcard. -/
theorem Kind.forall_of_literal {pattern : List Char} (h : Kind.of pattern = .literal) :
    ∀ c ∈ pattern, isWildcard c = false := by
  unfold Kind.of at h
  split at h
  next => split at h <;> cases h
  next =>
    split at h
    next => cases h
    next hnone => simpa using hnone

/-- An extension has a star in front and no other wildcard. -/
theorem Kind.forall_of_extension {pattern : List Char} (h : Kind.of pattern = .extension) :
    pattern = '*' :: pattern.drop 1 ∧ ∀ c ∈ pattern.drop 1, isWildcard c = false := by
  unfold Kind.of at h
  split at h
  next c rest =>
    split at h
    next => cases h
    next hnone => exact ⟨rfl, by simpa using hnone⟩
  next => split at h <;> cases h

/-! ## Rules -/

section

variable {text name : List Char}

theorem passes_one_iff_of_caseSensitive (d c : Char) :
    (CharTest.one false d).passes true c = true ↔ id d = id c := by
  show (false != (c == d)) = true ↔ d = c
  rw [Bool.false_bne, beq_iff_eq, eq_comm]

/-- With ASCII characters a single test ignores the case only. -/
theorem passes_one_iff_of_isAscii (htext : IsAscii text) (hname : IsAscii name) :
    ∀ d ∈ text, ∀ c ∈ name,
      (CharTest.one false d).passes false c = true ↔ d.toLower = c.toLower := by
  intro d hd c hc
  rw [← sameFolded_iff_of_ascii (hname c hc) (htext d hd)]
  simp [CharTest.passes]

end

/-- A rule without wildcards in its text matches a name if and only if its pattern fits it. -/
theorem Rule.matches_iff_fits {rule : Rule} {name : List Char} (hkind : rule.kind ≠ .generic)
    (hcase : rule.caseSensitive = true ∨ IsAscii rule.pattern.toList ∧ IsAscii name) :
    rule.Matches name ↔ Fits rule.caseSensitive (elements rule.pattern.toList) name := by
  cases hk : rule.kind with
  | generic => exact absurd hk hkind
  | literal =>
    rw [elements_of_literal (Kind.forall_of_literal hk)]
    cases hc : rule.caseSensitive with
    | true =>
      rw [fits_map_one_iff fun d _ c _ => passes_one_iff_of_caseSensitive d c, List.map_id,
        List.map_id]
      simp only [Matches, hk, hc]
    | false =>
      obtain ⟨hpattern, hname⟩ := hcase.resolve_left (by simp [hc])
      rw [fits_map_one_iff (passes_one_iff_of_isAscii hpattern hname),
        ← Text.fold_of_isAscii hpattern, ← Text.fold_of_isAscii hname]
      simp only [Matches, hk, hc]
  | extension =>
    obtain ⟨hstar, hliteral⟩ := Kind.forall_of_extension hk
    have helements : elements rule.pattern.toList =
        none :: rule.suffix.map fun c => some (.one false c) := by
      rw [hstar, elements, if_pos rfl, elements_of_literal hliteral]
      rfl
    rw [helements]
    cases hc : rule.caseSensitive with
    | true =>
      rw [fits_star_map_one_iff fun d _ c _ => passes_one_iff_of_caseSensitive d c, List.map_id,
        List.map_id]
      simp only [Matches, hk, hc]
    | false =>
      obtain ⟨hpattern, hname⟩ := hcase.resolve_left (by simp [hc])
      have hsuffix : IsAscii rule.suffix := fun c hc => hpattern c (List.mem_of_mem_drop hc)
      rw [fits_star_map_one_iff (passes_one_iff_of_isAscii hsuffix hname),
        ← Text.fold_of_isAscii hsuffix, ← Text.fold_of_isAscii hname]
      simp only [Matches, hk, hc]

/-- **Look-up agrees with matching.** A literal or suffix rule is looked up by its text, and is not
compared with the name as a pattern. For every name that is not empty it is found if and only if its
pattern accepts the name, with regard to case as the rule says: if the rule respects case for any
characters, else for a pattern and a name in ASCII. -/
theorem mem_candidates_iff_accepts {rules : List Rule} {rule : Rule} (hrule : rule ∈ rules)
    (hkind : rule.kind ≠ .generic) {file : String}
    (hname : (FileName.normalize file).toList ≠ [])
    (hcase : rule.caseSensitive = true ∨
      IsAscii rule.pattern.toList ∧ IsAscii (FileName.normalize file).toList) :
    rule ∈ (Index.ofRules rules).candidates file ↔
      (Pattern.ofText rule.pattern.toList).accepts rule.caseSensitive
        (FileName.normalize file).toList = true := by
  rw [Index.mem_candidates_iff, and_iff_right hrule, Rule.MatchesFile, and_iff_right hname,
    Rule.matches_iff_fits hkind hcase, accepts_iff_fits]

/-- A rule for names that end in a text, in capitals or not. -/
def tarball : Rule := ⟨"*.tar.gz", ⟨some 2, "application/x-tarball"⟩, 50, false, 0⟩

/-- A name in capitals is found by its folded suffix, just as the pattern accepts it; in the bare
suffix the star stands for nothing. -/
theorem mem_candidates_iff_accepts_tarball :
    tarball ∈ (Index.ofRules [tarball]).candidates "old/A.TAR.GZ" ∧
      tarball ∈ (Index.ofRules [tarball]).candidates ".tar.gz" ∧
      tarball ∉ (Index.ofRules [tarball]).candidates "A.TAR.GZ.old" := by
  have hiff (file : String) (hname : (FileName.normalize file).toList ≠ [])
      (hascii : IsAscii (FileName.normalize file).toList) :=
    mem_candidates_iff_accepts (show tarball ∈ [tarball] from List.mem_cons_self) (by decide)
      hname (Or.inr ⟨by decide, hascii⟩)
  refine ⟨(hiff _ (by decide +kernel) (by decide +kernel)).mpr (by decide +kernel), ?_, ?_⟩
  · exact (hiff _ (by decide +kernel) (by decide +kernel)).mpr (by decide +kernel)
  · exact mt (hiff _ (by decide +kernel) (by decide +kernel)).mp (by decide +kernel)

/-- A name may be found though the pattern does not accept it: folding makes two letters of one. -/
example :
    let rule : Rule := ⟨"strasse", ⟨some 2, "text/x-street"⟩, 50, false, 0⟩
    rule.Matches "straße".toList ∧
      (Pattern.ofText rule.pattern.toList).accepts false "straße".toList = false := by
  decide +kernel

end Glob

end MimeDatabase
