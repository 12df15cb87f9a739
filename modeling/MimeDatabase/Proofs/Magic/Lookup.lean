import Mathlib.Data.List.Find
import MimeDatabase.Magic.Lookup

/-!
# Looking up is an exhaustive search

A matcher sorts its rules once and looks at no more bytes than the greatest extent of a rule.
Neither is visible: what is found is the first registered one of the best rules that the data
satisfies, up to the ceiling alone (`lookup_ofRules`).

An extent covers all bytes that can matter to an entry and to the entries below it, so an entry does
not see whether data is cut off behind its extent (`Entry.holds_take`). The extent of a matcher is
no less than that of each of its rules. Sorting by priority is stable; `decides_of_find?` follows a
rule that is registered before the others to its place among the sorted ones.
-/

namespace MimeDatabase.Magic

/-! ## Signatures -/

/-- Swapped words are as many bytes as before. -/
theorem length_swapWords (size : Nat) (bytes : List UInt8) :
    (swapWords size bytes).length = bytes.length := by
  induction bytes using swapWords.induct size with
  | case1 bytes h => rw [swapWords, dif_pos h]
  | case2 bytes h ih =>
    rw [swapWords, dif_neg h, List.length_append, List.length_reverse, ih, ← List.length_append,
      List.take_append_drop]

namespace Signature

theorem length_stored (s : Signature) (order : ByteOrder) (bytes : List UInt8) :
    (s.stored order bytes).length = bytes.length := by
  unfold stored
  split
  · exact length_swapWords _ _
  · rfl

theorem length_probe_le (s : Signature) (order : ByteOrder) :
    (s.probe order).length ≤ s.value.length := by
  rw [probe, List.length_zipWith, s.length_stored order s.value]
  exact Nat.min_le_right _ _

/-- A probe sees as many bytes as it has itself. -/
theorem fits_take {probe : List (UInt8 × UInt8)} {n : Nat} (h : probe.length ≤ n)
    (data : List UInt8) : fits probe (data.take n) = fits probe data := by
  induction probe generalizing n data with
  | nil => rfl
  | cons p probe ih =>
    cases n with
    | zero => exact absurd h (Nat.not_succ_le_zero _)
    | succ n =>
      cases data with
      | nil => rfl
      | cons b bs => rw [List.take_succ_cons, fits, fits, ih (Nat.le_of_succ_le_succ h)]

/-- The last of `count` positions is `count - 1` bytes behind the first. -/
theorem fitsWithin_take {probe : List (UInt8 × UInt8)} {count n : Nat}
    (h : count + probe.length ≤ n + 1) (data : List UInt8) :
    fitsWithin probe count (data.take n) = fitsWithin probe count data := by
  induction count generalizing n data with
  | zero => rfl
  | succ count ih =>
    cases data with
    | nil => rw [List.take_nil]
    | cons b bs =>
      cases n with
      | zero =>
        -- only an empty probe at a single position needs no bytes
        have hprobe : probe = [] := List.length_eq_zero_iff.mp (by omega)
        rw [hprobe]
        rfl
      | succ n =>
        rw [List.take_succ_cons, fitsWithin, fitsWithin, ih (by omega), ← List.take_succ_cons,
          fits_take (by omega)]

/-- Data that reaches past the last position is as good as all data. -/
theorem isFoundFrom_take (s : Signature) (order : ByteOrder) {start count n : Nat}
    (h : start + count + s.value.length ≤ n) (data : List UInt8) :
    s.isFoundFrom order (data.take n) start count = s.isFoundFrom order data start count := by
  have hprobe := s.length_probe_le order
  have hstart : start ≤ (data.take n).length ↔ start ≤ data.length := by
    rw [List.length_take]
    omega
  unfold isFoundFrom
  rw [List.drop_take, fitsWithin_take (by omega), decide_eq_decide.mpr hstart]

/-- A signature that counts from the front does not see what is cut off behind its extent. -/
theorem isFound_take (s : Signature) (order : ByteOrder) (hstart : 0 ≤ s.start) {n : Nat}
    (h : s.extent ≤ n) (data : List UInt8) :
    s.isFound order (data.take n) = s.isFound order data := by
  unfold extent at h
  unfold isFound
  cases hs : s.start with
  | ofNat start =>
    rw [hs, Int.ofNat_eq_natCast] at h
    exact s.isFoundFrom_take order (by omega) data
  | negSucc k => omega

end Signature

/-! ## Entries and rules -/

namespace Entry

mutual

/-- Whether an entry and all entries below it count their positions from the front of the data. -/
def countsFromFront : Entry → Bool
  | node s cs => 0 ≤ s.start && forestCountsFromFront cs

/-- Whether all entries of a forest count their positions from the front of the data. -/
def forestCountsFromFront : List Entry → Bool
  | [] => true
  | e :: es => e.countsFromFront && forestCountsFromFront es

end

/-- The extent of a forest is at least what it begins with. -/
theorem le_forestExtent (least : Int) (es : List Entry) : least ≤ forestExtent least es := by
  induction es with
  | nil => exact Int.le_refl least
  | cons e es ih => exact Int.le_trans ih (Int.le_max_right _ _)

mutual

/-- An entry does not see what is cut off behind its extent. -/
theorem holds_take (order : ByteOrder) (data : List UInt8) {n : Nat} :
    ∀ e : Entry, e.countsFromFront = true → e.extent ≤ n →
      e.holds order (data.take n) = e.holds order data
  | node s cs, hfront, hext => by
    rw [countsFromFront, Bool.and_eq_true, decide_eq_true_eq] at hfront
    rw [extent] at hext
    rw [holds, holds, s.isFound_take order hfront.1 (Int.le_trans (le_forestExtent _ cs) hext),
      anyHolds_take order data cs hfront.2 hext]

/-- A forest holds of as much data as its extent if and only if it holds of all data. -/
theorem anyHolds_take (order : ByteOrder) (data : List UInt8) {n : Nat} {least : Int} :
    ∀ es : List Entry, forestCountsFromFront es = true → forestExtent least es ≤ n →
      anyHolds order (data.take n) es = anyHolds order data es
  | [], _, _ => by rw [anyHolds, anyHolds]
  | e :: es, hfront, hext => by
    rw [forestCountsFromFront, Bool.and_eq_true] at hfront
    rw [forestExtent, Int.max_le] at hext
    rw [anyHolds, anyHolds, holds_take order data e hfront.1 hext.1,
      anyHolds_take order data es hfront.2 hext.2]

end

/-- An entry whose starts count from the front has no negative extent. -/
theorem extent_nonneg {e : Entry} (h : e.countsFromFront = true) : 0 ≤ e.extent := by
  obtain ⟨s, cs⟩ := e
  rw [countsFromFront, Bool.and_eq_true, decide_eq_true_eq] at h
  have hown : 0 ≤ s.extent := by
    unfold Signature.extent
    omega
  exact Int.le_trans hown (le_forestExtent _ cs)

end Entry

namespace Rule

/-- Whether all entries of a rule count their positions from the front of the data. -/
def countsFromFront (r : Rule) : Bool := Entry.forestCountsFromFront r.entries

/-- A rule does not see what is cut off behind its extent. -/
theorem holds_take {r : Rule} (hfront : r.countsFromFront = true) {n : Nat} (hext : r.extent ≤ n)
    (order : ByteOrder) (data : List UInt8) :
    r.holds order (data.take n) = r.holds order data := by
  unfold countsFromFront at hfront
  unfold extent at hext
  unfold holds
  cases hes : r.entries with
  | nil => rw [Entry.anyHolds, Entry.anyHolds]
  | cons e es =>
    rw [hes] at hfront hext
    simp only at hext
    have hall : Entry.forestExtent e.extent (e :: es) ≤ n :=
      Int.max_le.mpr ⟨Int.le_trans (Entry.le_forestExtent _ es) hext, hext⟩
    exact Entry.anyHolds_take order data _ hfront hall

/-- An entry whose starts count from the front has no negative extent. -/
theorem extent_nonneg {r : Rule} (h : r.countsFromFront = true) : 0 ≤ r.extent := by
  unfold countsFromFront at h
  unfold extent
  cases hes : r.entries with
  | nil => exact Int.le_refl 0
  | cons e es =>
    rw [hes, Entry.forestCountsFromFront, Bool.and_eq_true] at h
    exact Int.le_trans (Entry.extent_nonneg h.1) (Entry.le_forestExtent _ es)

end Rule

namespace Matcher

/-! ## The bytes that are looked at -/

theorem extent_le_greatestExtent {rules : List TypedRule} {r : TypedRule} (h : r ∈ rules) :
    r.2.extent ≤ greatestExtent rules := by
  cases rules with
  | nil => exact absurd h List.not_mem_nil
  | cons first rest =>
    rw [greatestExtent]
    induction rest with
    | nil =>
      rw [List.mem_singleton.mp h]
      exact Int.le_refl _
    | cons q rest ih =>
      rw [List.foldr_cons]
      rcases List.mem_cons.mp h with hfirst | hrest
      · exact Int.le_trans (ih (hfirst ▸ List.mem_cons_self)) (Int.le_max_right _ _)
      · rcases List.mem_cons.mp hrest with hq | hrest
        · rw [hq]
          exact Int.le_max_left _ _
        · exact Int.le_trans (ih (List.mem_cons_of_mem _ hrest)) (Int.le_max_right _ _)

/-- The bytes that a matcher looks at tell as much about its rules as all up to the ceiling do. -/
theorem holds_leading {rules : List TypedRule} {r : TypedRule} (hr : r ∈ rules)
    (hfront : r.2.countsFromFront = true) (limit : Nat) (order : ByteOrder) (data : List UInt8) :
    r.2.holds order (leading (ofRules rules limit).maxExtent data) =
      r.2.holds order (data.take limit) := by
  have hext := extent_le_greatestExtent hr
  have hnonneg := Rule.extent_nonneg hfront
  show r.2.holds order (leading (min (greatestExtent rules) limit) data) = _
  rcases Int.le_total limit (greatestExtent rules) with hle | hle
  · rw [Int.min_eq_right hle]
    rfl
  · -- the greatest extent lies below the ceiling, where the rule sees nothing more
    obtain ⟨n, hn⟩ := Int.eq_ofNat_of_zero_le (Int.le_trans hnonneg hext)
    have hnl : min n limit = n := by omega
    have hcut : leading (min (greatestExtent rules) limit) data = (data.take limit).take n := by
      rw [Int.min_eq_left hle, hn, List.take_take, hnl]
      rfl
    rw [hcut, Rule.holds_take hfront (by omega)]

/-! ## The rule that decides -/

/-- Whether a rule decides among those that pass a test: it passes, those registered before it that
pass have a lesser priority, and those after it no greater one. -/
def Decides (passes : TypedRule → Bool) (rules : List TypedRule) (r : TypedRule) : Prop :=
  ∃ before after, rules = before ++ r :: after ∧ passes r = true ∧
    (∀ b ∈ before, passes b = true → b.2.priority < r.2.priority) ∧
    ∀ a ∈ after, passes a = true → a.2.priority ≤ r.2.priority

theorem notAfter_trans (a b c : TypedRule) (hab : notAfter a b = true) (hbc : notAfter b c = true) :
    notAfter a c = true := by
  unfold notAfter at *
  rw [decide_eq_true_eq] at *
  exact Nat.le_trans hbc hab

theorem notAfter_total (a b : TypedRule) : (notAfter a b || notAfter b a) = true := by
  unfold notAfter
  rw [Bool.or_eq_true, decide_eq_true_eq, decide_eq_true_eq]
  exact Nat.le_total _ _

section Decides

variable {passes : TypedRule → Bool} {rules : List TypedRule} {r r' : TypedRule}

/-- A rule that decides still does if one is registered before it that fails the test or has a
lesser priority. -/
theorem Decides.cons (h : Decides passes rules r) {first : TypedRule}
    (hfirst : passes first = true → first.2.priority < r.2.priority) :
    Decides passes (first :: rules) r := by
  obtain ⟨before, after, hsplit, hpass, hbefore, hafter⟩ := h
  refine ⟨first :: before, after, by rw [hsplit]; rfl, hpass, ?_, hafter⟩
  intro b hb hbpass
  rcases List.mem_cons.mp hb with rfl | hb
  · exact hfirst hbpass
  · exact hbefore b hb hbpass

/-- The first sorted rule that passes decides. A rule that is registered before all others is sorted
in front of those of no greater priority. -/
theorem decides_of_find? (h : (rules.mergeSort notAfter).find? passes = some r) :
    Decides passes rules r := by
  induction rules generalizing r with
  | nil => exact absurd h (by simp)
  | cons first rules ih =>
    obtain ⟨better, others, hsort, hrest, hbetter⟩ :=
      List.mergeSort_cons notAfter_trans notAfter_total first rules
    have hsorted := List.pairwise_mergeSort notAfter_trans notAfter_total (first :: rules)
    rw [hsort] at h hsorted
    rw [hrest, List.find?_append] at ih
    rw [List.find?_append] at h
    cases hfind : better.find? passes with
    | some b =>
      -- a rule of greater priority decides as it does without the first rule
      rw [hfind, Option.some_or] at ih h
      have hb : b ∈ better := List.mem_of_find?_eq_some hfind
      have hlt : first.2.priority < b.2.priority := by simpa [notAfter] using hbetter b hb
      exact (ih h).cons fun _ => Option.some.inj h ▸ hlt
    | none =>
      rw [hfind, Option.none_or] at ih h
      rw [List.find?_cons] at h
      split at h
      next hpass =>
        obtain rfl := Option.some.inj h
        refine ⟨[], rules, rfl, hpass, fun b hb => absurd hb List.not_mem_nil, ?_⟩
        intro a ha hapass
        have hmem : a ∈ better ++ others := by
          rw [← hrest]
          exact List.mem_mergeSort.mpr ha
        rcases List.mem_append.mp hmem with hin | hin
        · exact absurd hapass (List.find?_eq_none.mp hfind a hin)
        · have hrel := (List.pairwise_cons.mp (List.pairwise_append.mp hsorted).2.1).1 a hin
          exact of_decide_eq_true hrel
      next hpass =>
        exact (ih h).cons fun hfirst => absurd hfirst (by rw [hpass]; exact Bool.false_ne_true)

/-- Of two deciding rules, none comes before the other. -/
theorem Decides.eq_of_append {before before' between after after' : List TypedRule}
    (hbefore : before' = before ++ between) (hrest : r :: after = between ++ r' :: after')
    (hpass : passes r = true) (hpass' : passes r' = true)
    (hafter : ∀ a ∈ after, passes a = true → a.2.priority ≤ r.2.priority)
    (hbefore' : ∀ b ∈ before', passes b = true → b.2.priority < r'.2.priority) : r = r' := by
  cases between with
  | nil => exact (List.cons.inj hrest).1
  | cons q between =>
    obtain ⟨rfl, htail⟩ := List.cons.inj hrest
    have hlt := hbefore' r (by rw [hbefore]; simp) hpass
    have hle := hafter r' (by rw [htail]; simp) hpass'
    omega

/-- At most one rule decides. -/
theorem Decides.unique (h : Decides passes rules r) (h' : Decides passes rules r') : r = r' := by
  obtain ⟨before, after, hsplit, hpass, hbefore, hafter⟩ := h
  obtain ⟨before', after', hsplit', hpass', hbefore', hafter'⟩ := h'
  rcases List.append_eq_append_iff.mp (hsplit.symm.trans hsplit') with
    ⟨between, hb, hrest⟩ | ⟨between, hb, hrest⟩
  · exact eq_of_append hb hrest hpass hpass' hafter hbefore'
  · exact (eq_of_append hb hrest hpass' hpass hafter' hbefore).symm

/-- The first sorted rule that passes is the one that decides. -/
theorem find?_mergeSort_eq_some_iff :
    (rules.mergeSort notAfter).find? passes = some r ↔ Decides passes rules r := by
  refine ⟨decides_of_find?, fun h => ?_⟩
  cases hfind : (rules.mergeSort notAfter).find? passes with
  | some r' => rw [(decides_of_find? hfind).unique h]
  | none =>
    obtain ⟨before, after, hsplit, hpass, -⟩ := h
    have hmem : r ∈ rules.mergeSort notAfter :=
      List.mem_mergeSort.mpr (by rw [hsplit]; simp)
    exact absurd hpass (List.find?_eq_none.mp hfind r hmem)

end Decides

/-! ## Looking up -/

/-- **Looking up is an exhaustive search.** Which rules hold of the bytes that a matcher looks at
does not change if they are all bytes up to the ceiling. So nothing is found if and only if no rule
holds of these, and what is found are the type and the priority of the rule that decides among those
that hold: of greatest priority, and the first registered of them. -/
theorem lookup_ofRules (rules : List TypedRule) (limit : Nat) (order : ByteOrder)
    (data : List UInt8) (hfront : ∀ r ∈ rules, r.2.countsFromFront = true) (hdata : data ≠ []) :
    (∀ r ∈ rules, r.2.holds order (leading (ofRules rules limit).maxExtent data) =
        r.2.holds order (data.take limit)) ∧
      ((ofRules rules limit).lookup order data = none ↔
        ∀ r ∈ rules, r.2.holds order (data.take limit) = false) ∧
      ∀ found, (ofRules rules limit).lookup order data = some found ↔
        ∃ r, Decides (fun r => r.2.holds order (data.take limit)) rules r ∧
          found = ⟨r.1, r.2.priority⟩ := by
  have hsame : ∀ r ∈ rules, r.2.holds order (leading (ofRules rules limit).maxExtent data) =
      r.2.holds order (data.take limit) :=
    fun r hr => holds_leading hr (hfront r hr) limit order data
  have hlookup : (ofRules rules limit).lookup order data =
      ((rules.mergeSort notAfter).find? fun r => r.2.holds order (data.take limit)).map fun r =>
        ⟨r.1, r.2.priority⟩ := by
    rw [lookup, if_neg (by rwa [List.isEmpty_iff])]
    exact congrArg _ (List.find?_congr fun r hr => hsame r (List.mem_mergeSort.mp hr))
  refine ⟨hsame, ?_, fun found => ?_⟩
  · rw [hlookup, Option.map_eq_none_iff, List.find?_eq_none]
    simp only [List.mem_mergeSort, Bool.not_eq_true]
  · rw [hlookup, Option.map_eq_some_iff]
    simp only [find?_mergeSort_eq_some_iff]
    constructor
    · rintro ⟨r, hr, rfl⟩
      exact ⟨r, hr, rfl⟩
    · rintro ⟨r, hr, rfl⟩
      exact ⟨r, hr, rfl⟩

/-- Two rules of one priority and a better one. The first has a condition that ends where its extent
does, the second compares words under a mask, and the better one looks beyond the ceiling. -/
def tiedRules : List TypedRule :=
  [(⟨some 2, "image/x-a"⟩, ⟨"image/x-a", 50,
      [.node ⟨0, 1, [0x41], none, 1⟩ [.node ⟨2, 2, [0x43, 0x44], none, 1⟩ []]]⟩),
    (⟨some 3, "image/x-b"⟩, ⟨"image/x-b", 50,
      [.node ⟨0, 1, [0x42, 0x41], some [0xFF, 0xDF], 2⟩ []]⟩),
    (⟨some 4, "image/x-c"⟩, ⟨"image/x-c", 90, [.node ⟨4, 9, [0x45], none, 1⟩ []]⟩)]

/-- Of the rules that hold of the first four bytes, the first registered one is found. -/
theorem lookup_ofRules_tiedRules :
    (∀ r ∈ tiedRules, r.2.countsFromFront = true) ∧
      [0x41, 0x42, 0x43, 0x44, 0x45] ≠ ([] : List UInt8) ∧
      (ofRules tiedRules (4 : Nat)).lookup .little [0x41, 0x42, 0x43, 0x44, 0x45] =
        some ⟨⟨some 2, "image/x-a"⟩, 50⟩ := by
  have hfront : ∀ r ∈ tiedRules, r.2.countsFromFront = true := by decide
  have hdata : [0x41, 0x42, 0x43, 0x44, 0x45] ≠ ([] : List UInt8) := by decide
  refine ⟨hfront, hdata, ?_⟩
  refine ((lookup_ofRules tiedRules 4 .little _ hfront hdata).2.2 _).mpr ⟨tiedRules[0], ?_, rfl⟩
  exact ⟨[], tiedRules.drop 1, rfl, by decide +kernel, by decide, by decide +kernel⟩

end Matcher

end MimeDatabase.Magic
