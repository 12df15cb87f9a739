import MimeDatabase.Glob.Index
import MimeDatabase.Proofs.Text.Composed
import MimeDatabase.Proofs.Text.Cut

/-!
# Only the base name counts

A name in normal form holds no separator and is its own normal form (`normalize_normalize`), and a
name behind a directory has the normal form that it has by itself (`normalize_join`), whatever the
directory is called and whichever separator stands between them. So globs never see a directory.
The last component is cut off before the name is composed; this is no matter, since composing brings
no separator into a name.
-/

namespace MimeDatabase.FileName

open Text (IsSeparator)

/-! ## The last component -/

/-- A path with one kind of separator. -/
def slashed (path : List Char) : List Char := path.map fun c => if c = '\\' then '/' else c

theorem toList_normalize (path : String) :
    (normalize path).toList = Text.compose (lastComponent (slashed path.toList)) := by
  rw [normalize, String.toList_ofList]
  rfl

theorem backslash_notMem_slashed (path : List Char) : '\\' ∉ slashed path := by
  intro hmem
  obtain ⟨c, -, hc⟩ := List.mem_map.mp hmem
  split at hc
  next => exact absurd hc (by decide)
  next hne => exact hne hc

/-- The last component of a path holds nothing but characters of the path, and no slash. -/
theorem of_mem_lastComponent {path : List Char} {c : Char} (hc : c ∈ lastComponent path) :
    c ∈ path ∧ c ≠ '/' := by
  unfold lastComponent at hc
  split at hc
  next =>
    cases hlast : (components path).getLast? with
    | none =>
      rw [hlast] at hc
      exact absurd hc List.not_mem_nil
    | some piece =>
      rw [hlast] at hc
      have hpiece : piece ∈ Text.splitAt '/' path :=
        List.mem_of_mem_filter (List.mem_of_getLast? hlast)
      obtain ⟨hmem, hsep⟩ := Text.forall_of_mem_splitBy hpiece c hc
      exact ⟨hmem, by simpa using hsep⟩
  next hnone =>
    refine ⟨hc, ?_⟩
    rintro rfl
    exact hnone (List.contains_iff_mem.mpr hc)

theorem slashed_of_forall {name : List Char} (h : ∀ c ∈ name, ¬ IsSeparator c) :
    slashed name = name := by
  refine (List.map_congr_left fun c hc => ?_).trans (List.map_id name)
  exact if_neg fun heq => h c hc (Or.inr heq)

/-- A name without separators is its own last component. -/
theorem lastComponent_slashed_of_forall {name : List Char} (h : ∀ c ∈ name, ¬ IsSeparator c) :
    lastComponent (slashed name) = name := by
  rw [slashed_of_forall h, lastComponent, if_neg]
  intro hslash
  exact h '/' (List.contains_iff_mem.mp hslash) (Or.inl rfl)

/-- Behind a directory, a name is the last component; empty names and dots are passed over. -/
theorem lastComponent_slashed_join (dir : List Char) {sep : Char} (hsep : IsSeparator sep)
    {name : List Char} (hne : name ≠ []) (hdot : name ≠ ['.']) (h : ∀ c ∈ name, ¬ IsSeparator c) :
    lastComponent (slashed (dir ++ sep :: name)) = name := by
  have hslash : (if sep = '\\' then '/' else sep) = '/' := by
    rcases hsep with rfl | rfl
    · rfl
    · rfl
  have hjoin : slashed (dir ++ sep :: name) = slashed dir ++ '/' :: name := by
    rw [slashed, List.map_append, List.map_cons, hslash]
    exact congrArg (slashed dir ++ '/' :: ·) (slashed_of_forall h)
  have hpieces : Text.splitAt '/' (slashed dir ++ '/' :: name) =
      Text.splitAt '/' (slashed dir) ++ [name] := by
    have hwhole : Text.splitBy (· == '/') name = [name] :=
      Text.splitBy_of_forall fun c hc => beq_eq_false_iff_ne.mpr fun heq => h c hc (Or.inl heq)
    rw [Text.splitAt, Text.splitBy_append_cons (p := (· == '/')) (beq_self_eq_true '/'), hwhole]
    rfl
  have hkept : (!name.isEmpty && name != ['.']) = true := by
    simp [hne, hdot]
  rw [hjoin, lastComponent, if_pos (by simp), components, hpieces, List.filter_append,
    List.filter_cons_of_pos (p := fun c => !c.isEmpty && c != ['.']) hkept, List.filter_nil,
    List.getLast?_concat]
  rfl

/-! ## Normal forms -/

/-- A name in normal form holds no separator. -/
theorem not_isSeparator_of_mem_normalize {path : String} {c : Char}
    (hc : c ∈ (normalize path).toList) : ¬ IsSeparator c := by
  intro hsep
  rw [toList_normalize] at hc
  obtain ⟨hmem, hslash⟩ := of_mem_lastComponent (Text.mem_of_separator_mem_compose hsep hc)
  rcases hsep with rfl | rfl
  · exact hslash rfl
  · exact backslash_notMem_slashed path.toList hmem

/-- A name without separators is only composed. -/
theorem normalize_of_forall {name : String} (h : ∀ c ∈ name.toList, ¬ IsSeparator c) :
    normalize name = String.ofList (Text.compose name.toList) := by
  rw [← String.toList_inj, toList_normalize, lastComponent_slashed_of_forall h,
    String.toList_ofList]

/-- A normalized name is its own normal form. -/
theorem normalize_normalize (path : String) : normalize (normalize path) = normalize path := by
  rw [normalize_of_forall fun c hc => not_isSeparator_of_mem_normalize hc, ← String.toList_inj,
    String.toList_ofList, toList_normalize, Text.compose_compose]

/-- Behind a directory, a name has the normal form that it has by itself. -/
theorem normalize_join (dir : String) {sep : Char} (hsep : IsSeparator sep) {name : String}
    (hne : name ≠ "") (hdot : name ≠ ".") (h : ∀ c ∈ name.toList, ¬ IsSeparator c) :
    normalize (dir ++ String.singleton sep ++ name) = normalize name := by
  have hne' : name.toList ≠ [] := mt String.toList_eq_nil_iff.mp hne
  have hdot' : name.toList ≠ ['.'] := by
    intro hlist
    exact hdot (String.toList_inj.mp hlist)
  rw [normalize_of_forall h, ← String.toList_inj, toList_normalize, String.toList_append,
    String.toList_append, String.toList_singleton, List.append_assoc, List.singleton_append,
    lastComponent_slashed_join dir.toList hsep hne' hdot' h, String.toList_ofList]

/-- **Only the base name counts.** A name in normal form holds no separator and is its own normal
form; and a name behind a directory is matched by the same globs as by itself, in any index. -/
theorem baseName_only :
    (∀ path : String, (∀ c ∈ (normalize path).toList, ¬ IsSeparator c) ∧
      normalize (normalize path) = normalize path) ∧
    ∀ (dir name : String) (sep : Char), IsSeparator sep → name ≠ "" → name ≠ "." →
      (∀ c ∈ name.toList, ¬ IsSeparator c) →
      ∀ ix : Glob.Index, ix.candidates (dir ++ String.singleton sep ++ name) =
        ix.candidates name := by
  refine ⟨fun path => ⟨fun c hc => not_isSeparator_of_mem_normalize hc, normalize_normalize path⟩,
    fun dir name sep hsep hne hdot h ix => ?_⟩
  rw [Glob.Index.candidates, Glob.Index.candidates, normalize_join dir hsep hne hdot h]

/-- A rule for names that end in a text with an accent. -/
def accented : Glob.Rule := ⟨"*.caf\u00e9", ⟨some 2, "text/x-menu"⟩, 50, false, 0⟩

/-- Behind components of dots and both separators, a name with a separate accent is found as it is
by itself. -/
theorem baseName_only_accented :
    IsSeparator '\\' ∧ "Old.Cafe\u0301" ≠ "" ∧ "Old.Cafe\u0301" ≠ "." ∧
      (∀ c ∈ "Old.Cafe\u0301".toList, ¬ IsSeparator c) ∧
      (Glob.Index.ofRules [accented]).candidates
          ("../a//." ++ String.singleton '\\' ++ "Old.Cafe\u0301") = [accented] := by
  have hne : "Old.Cafe\u0301" ≠ "" := by decide
  have hdot : "Old.Cafe\u0301" ≠ "." := by decide +kernel
  have hall : ("Old.Cafe\u0301".toList.all fun c => decide ¬ IsSeparator c) = true := by
    decide +kernel
  have hname : ∀ c ∈ "Old.Cafe\u0301".toList, ¬ IsSeparator c := fun c hc =>
    of_decide_eq_true (List.all_eq_true.mp hall c hc)
  refine ⟨Or.inr rfl, hne, hdot, hname, ?_⟩
  rw [baseName_only.2 "../a//." "Old.Cafe\u0301" '\\' (Or.inr rfl) hne hdot hname]
  decide +kernel

end MimeDatabase.FileName
