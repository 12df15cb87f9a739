import MimeDatabase.Proofs.Magic.Deciding
import MimeDatabase.Proofs.Magic.Meaning

/-!
# More content

A matcher may be asked again when more of a content is known. The answer never gets weaker
(`Matcher.lookup_append`): if some rule was found, then a rule is found again, of a greater priority
or of the same priority and registered no later.

All that a signature asks for stands at places of the data that are still there when data is
appended, since positions count from the front. Whatever a matcher cuts off, it looks at no less of
the longer content (`Matcher.leading_prefix_append`). So the rules that hold of the longer content
are at least those that hold of the shorter one, and `DecidesAt.priority_lt_or_le` says what that
means for the rule that decides.
-/

namespace MimeDatabase.Magic

namespace Signature

variable {data : List UInt8}

/-- More data after it takes nothing from a match. -/
theorem fits_of_append {probe : List (UInt8 × UInt8)} (h : fits probe data = true)
    (more : List UInt8) : fits probe (data ++ more) = true := by
  rw [fits_iff] at h ⊢
  intro i m v hprobe
  obtain ⟨b, hb, heq⟩ := h i m v hprobe
  have hi : i < data.length := (List.getElem?_eq_some_iff.mp hb).1
  exact ⟨b, by rw [List.getElem?_append_left hi, hb], heq⟩

/-- A signature that counts from the front is still found when data is appended. -/
theorem isFound_of_append {s : Signature} {order : ByteOrder} (hstart : 0 ≤ s.start)
    (h : s.isFound order data = true) (more : List UInt8) :
    s.isFound order (data ++ more) = true := by
  unfold isFound at h ⊢
  cases hs : s.start with
  | ofNat start =>
    simp only [hs, isFoundFrom_iff] at h ⊢
    obtain ⟨p, hfirst, hlast, hle, hfits⟩ := h
    refine ⟨p, hfirst, hlast, by rw [List.length_append]; omega, ?_⟩
    rw [List.drop_append_of_le_length hle]
    exact fits_of_append hfits more
  | negSucc n => omega

end Signature

namespace Entry

mutual

/-- An entry still holds when data is appended. -/
theorem holds_of_append (order : ByteOrder) (data more : List UInt8) :
    ∀ e : Entry, e.countsFromFront = true → e.holds order data = true →
      e.holds order (data ++ more) = true
  | node s cs, hfront, h => by
    rw [countsFromFront, Bool.and_eq_true, decide_eq_true_eq] at hfront
    rw [holds, Bool.and_eq_true, Bool.or_eq_true] at h ⊢
    refine ⟨Signature.isFound_of_append hfront.1 h.1 more, ?_⟩
    rcases h.2 with hnone | hsome
    · exact Or.inl hnone
    · exact Or.inr (anyHolds_of_append order data more cs hfront.2 hsome)

/-- A forest that holds of some data holds of more data, too. -/
theorem anyHolds_of_append (order : ByteOrder) (data more : List UInt8) :
    ∀ es : List Entry, forestCountsFromFront es = true → anyHolds order data es = true →
      anyHolds order (data ++ more) es = true
  | [], _, h => h
  | e :: es, hfront, h => by
    rw [forestCountsFromFront, Bool.and_eq_true] at hfront
    rw [anyHolds, Bool.or_eq_true] at h ⊢
    rcases h with hfirst | hrest
    · exact Or.inl (holds_of_append order data more e hfront.1 hfirst)
    · exact Or.inr (anyHolds_of_append order data more es hfront.2 hrest)

end

end Entry

/-- A rule that holds of data holds of all data that starts with it. -/
theorem Rule.holds_of_longer {r : Rule} {order : ByteOrder} {data longer : List UInt8}
    (hfront : r.countsFromFront = true) (hlonger : data <+: longer)
    (h : r.holds order data = true) : r.holds order longer = true := by
  obtain ⟨more, rfl⟩ := hlonger
  exact Entry.anyHolds_of_append order data more r.entries hfront h

namespace Matcher

/-- Of a longer content no less is looked at, also if an extent leaves out so many last bytes. -/
theorem leading_prefix_append (extent : Int) (data more : List UInt8) :
    leading extent data <+: leading extent (data ++ more) := by
  cases extent with
  | ofNat n => exact ⟨more.take (n - data.length), List.take_append.symm⟩
  | negSucc n =>
    show data.take (data.length - (n + 1)) <+:
      (data ++ more).take ((data ++ more).length - (n + 1))
    have hshorter : data.length - (n + 1) ≤ (data ++ more).length - (n + 1) := by
      rw [List.length_append]
      omega
    have hcut : data.take (data.length - (n + 1)) = (data ++ more).take (data.length - (n + 1)) :=
      (List.take_append_of_le_length (Nat.sub_le data.length (n + 1))).symm
    rw [hcut]
    exact List.take_prefix_take_left hshorter

section Append

variable {rules : List TypedRule} {limit : Int} {order : ByteOrder} {data : List UInt8}

/-- If a rule decides about data, then some rule decides about all data that starts with it. -/
theorem DecidedAt.exists_of_append {i : Nat} {r : TypedRule}
    (hfront : r.2.countsFromFront = true) (h : DecidedAt rules limit order data i r)
    (more : List UInt8) : ∃ j q, DecidedAt rules limit order (data ++ more) j q := by
  cases hfound : (ofRules rules limit).lookup order (data ++ more) with
  | some found =>
    obtain ⟨j, q, hq, -⟩ := lookup_eq_some_iff.mp hfound
    exact ⟨j, q, hq⟩
  | none =>
    exfalso
    have hdata : ¬ (data ++ more).isEmpty = true := by simp [h.nonempty]
    rw [lookup, if_neg hdata, Option.map_eq_none_iff, List.find?_eq_none] at hfound
    have hmem : r ∈ (ofRules rules limit).rules :=
      List.mem_mergeSort.mpr (List.mem_of_getElem? h.here)
    have hprefix := leading_prefix_append (ofRules rules limit).maxExtent data more
    exact hfound r hmem (Rule.holds_of_longer hfront hprefix h.decides.pass)

end Append

/-- **More content never weakens a signature.** What is found are the type and the priority of the
rule that decides. If a rule decides about data, then one decides about all data that starts with
it, of a greater priority or of the same priority and registered no later; and if nothing is found
in the longer data, nothing is found in the shorter. -/
theorem lookup_append (rules : List TypedRule) (limit : Int) (order : ByteOrder)
    (data more : List UInt8) (hfront : ∀ r ∈ rules, r.2.countsFromFront = true) :
    (∀ content found, (ofRules rules limit).lookup order content = some found ↔
        ∃ i r, DecidedAt rules limit order content i r ∧ found = ⟨r.1, r.2.priority⟩) ∧
      (∀ i r, DecidedAt rules limit order data i r →
        ∃ j q, DecidedAt rules limit order (data ++ more) j q ∧
          (r.2.priority < q.2.priority ∨ (r.2.priority = q.2.priority ∧ j ≤ i))) ∧
      ((ofRules rules limit).lookup order (data ++ more) = none →
        (ofRules rules limit).lookup order data = none) := by
  refine ⟨fun content found => lookup_eq_some_iff, fun i r h => ?_, fun hnone => ?_⟩
  · have hr := hfront r (List.mem_of_getElem? h.here)
    obtain ⟨j, q, hq⟩ := h.exists_of_append hr more
    exact ⟨j, q, hq, h.decides.priority_lt_or_le hq.decides
      (Rule.holds_of_longer hr (leading_prefix_append _ data more))⟩
  · cases hfound : (ofRules rules limit).lookup order data with
    | none => rfl
    | some found =>
      obtain ⟨i, r, h, -⟩ := lookup_eq_some_iff.mp hfound
      obtain ⟨j, q, hq⟩ :=
        h.exists_of_append (hfront r (List.mem_of_getElem? h.here)) more
      rw [lookup_eq_some_iff.mpr ⟨j, q, hq, rfl⟩] at hnone
      cases hnone

/-- Of the tied rules, the second one holds of the first two bytes. With two bytes more, the first
one holds as well, and it was registered before. -/
theorem lookup_append_tiedRules :
    (∀ r ∈ tiedRules, r.2.countsFromFront = true) ∧
      (ofRules tiedRules 4).lookup .little [0x41, 0x42] = some ⟨⟨some 3, "image/x-b"⟩, 50⟩ ∧
      ∃ j q, DecidedAt tiedRules 4 .little ([0x41, 0x42] ++ [0x43, 0x44]) j q ∧ 50 ≤ q.2.priority ∧
        (q.2.priority = 50 → j ≤ 1) := by
  have hfront : ∀ r ∈ tiedRules, r.2.countsFromFront = true := by decide
  obtain ⟨hfound, hmore, -⟩ := lookup_append tiedRules 4 .little [0x41, 0x42] [0x43, 0x44] hfront
  have hfirst : DecidedAt tiedRules 4 .little [0x41, 0x42] 1 tiedRules[1] :=
    ⟨by decide, rfl, .of_split [tiedRules[0].2] [tiedRules[2].2] (by decide +kernel)
      (by decide +kernel) (by decide +kernel)⟩
  refine ⟨hfront, (hfound _ _).mpr ⟨1, _, hfirst, rfl⟩, ?_⟩
  obtain ⟨j, q, hq, hlt | ⟨heq, hj⟩⟩ := hmore 1 _ hfirst
  · exact ⟨j, q, hq, Nat.le_of_lt hlt, fun h => absurd hlt (by rw [h]; decide)⟩
  · exact ⟨j, q, hq, Nat.le_of_eq heq, fun _ => hj⟩

end Matcher

end MimeDatabase.Magic
