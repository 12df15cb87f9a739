import Mathlib.Data.Set.Finite.Basic
import Mathlib.Data.Finset.Dedup
import MimeDatabase.Proofs.Text.Lower
import MimeDatabase.TypeName

/-!
# Type names in normal form

The normal form of a name is its own normal form (`normalize_normalize`): trimming leaves a text
that lower-casing keeps trimmed, and lower case is kept by lower-casing. Names of small letters and
punctuation are in normal form, so there are more of them than any database knows.
-/

namespace MimeDatabase.TypeName

/-- A name that looks like a type name and is in normal form. -/
structure WellFormed (name : String) : Prop where
  valid : isValid name = true
  normal : normalize name = name

instance (name : String) : Decidable (WellFormed name) :=
  decidable_of_iff (isValid name = true ∧ normalize name = name)
    ⟨fun ⟨hv, hn⟩ => ⟨hv, hn⟩, fun ⟨hv, hn⟩ => ⟨hv, hn⟩⟩

/-- A normalized name is its own normal form. -/
theorem normalize_normalize (name : String) : normalize (normalize name) = normalize name := by
  have htrimmed := (Text.isTrimmed_trim name.toList).lower
  unfold normalize
  rw [String.toList_ofList, htrimmed.trim_eq_self, Text.lower_lower]

/-- Lower-case characters without white space are a name in normal form. -/
theorem normalize_eq_self {cs : List Char}
    (h : ∀ c ∈ cs, Text.lowerChar c = [c] ∧ Text.isBlank c = false) :
    normalize (String.ofList cs) = String.ofList cs := by
  have htrimmed : Text.IsTrimmed cs :=
    ⟨fun c hc => (h c (List.mem_of_mem_head? hc)).2,
      fun c hc => (h c (List.mem_of_mem_getLast? hc)).2⟩
  unfold normalize
  rw [String.toList_ofList, htrimmed.trim_eq_self]
  exact congrArg String.ofList (Text.lowerAfter_eq_self (fun c hc => (h c hc).1) false)

/-- The media part ends before the first slash. -/
theorem media_ofList {media : List Char} (h : '/' ∉ media) (subtype : List Char) :
    TypeName.media (String.ofList (media ++ '/' :: subtype)) = String.ofList media := by
  rw [TypeName.media, String.toList_ofList, Text.cutAt_append h]

/-- A name without a slash has no media part. -/
theorem media_of_notMem {name : String} (h : '/' ∉ name.toList) : media name = "" := by
  rw [media, Text.cutAt_of_notMem h]

/-- Dashes stand exactly where slashes stood, and everything else is kept in its place. -/
theorem getElem?_dashed (name : String) (i : Nat) :
    (dashed name).toList[i]? = name.toList[i]?.map fun c => if c = '/' then '-' else c := by
  rw [dashed, String.toList_ofList, List.getElem?_map]

/-- A name with a media part is that part and the subtype. -/
theorem eq_media_subtype {name : String} (h : media name ≠ "") :
    name = media name ++ "/" ++ subtype name := by
  unfold media subtype at *
  split at h
  · next before after hcut =>
    rw [← String.toList_inj, Text.eq_of_cutAt hcut]
    simp
  · exact absurd rfl h

/-- Of each media part there are more names in normal form than any list holds. -/
theorem exists_fresh {media : List Char} (h : media.all Char.isLower = true)
    (names : List String) :
    ∃ name ∉ names, normalize name = name ∧ TypeName.media name = String.ofList media := by
  rw [List.all_eq_true] at h
  let numbered (k : Nat) : List Char := media ++ '/' :: List.replicate k 'x'
  have hinjective : Function.Injective fun k => String.ofList (numbered k) := by
    intro k l hkl
    have hlength := congrArg List.length (String.ofList_injective hkl)
    simpa [numbered] using hlength
  obtain ⟨name, ⟨k, rfl⟩, hnew⟩ :=
    (Set.infinite_range_of_injective hinjective).exists_notMem_finset names.toFinset
  refine ⟨_, fun hmem => hnew (List.mem_toFinset.mpr hmem), normalize_eq_self fun c hc => ?_,
    media_ofList (fun hslash => absurd (h '/' hslash) (by decide)) _⟩
  rcases List.mem_append.mp hc with hmedia | hrest
  · exact Text.lowerChar_of_isLower (h c hmedia)
  · rcases List.mem_cons.mp hrest with rfl | hx
    · exact ⟨by decide +kernel, by decide⟩
    · exact Text.lowerChar_of_isLower (by rw [List.eq_of_mem_replicate hx]; decide)

/-! The base types have names that records could have. -/

theorem wellFormed_octetStream : WellFormed octetStream := by decide +kernel

theorem wellFormed_textPlain : WellFormed textPlain := by decide +kernel

end MimeDatabase.TypeName
