import MimeDatabase.Proofs.Magic.Lookup

/-!
# The place of the rule that decides

Rules may be alike in type, priority and entries, so which of them decides is told by the place at
which it is registered (`DecidesAt`). A look-up answers with the type and the priority of the rule
whose place that is (`Matcher.lookup_eq_some_iff`).

If a second test is passed by at least the rules that pass a first one, then the rule that decides
for the second has a greater priority than the one that decides for the first, or the same priority
and no later place (`DecidesAt.priority_lt_or_le`).
-/

namespace MimeDatabase.Magic

/-- The rule at a place decides among those that pass a test: it passes, those before it that pass
have a lesser priority, and those after it no greater one. -/
structure DecidesAt (passes : Rule → Bool) (rules : List Rule) (i : Nat) (r : Rule) : Prop where
  here : rules[i]? = some r
  pass : passes r = true
  earlier : ∀ j q, j < i → rules[j]? = some q → passes q = true → q.priority < r.priority
  later : ∀ j q, i < j → rules[j]? = some q → passes q = true → q.priority ≤ r.priority

/-- A rule decides if those before it that pass have a lower priority, and those after it no higher
one. -/
theorem DecidesAt.of_split {passes : Rule → Bool} (front back : List Rule) {r : Rule}
    (hpass : passes r = true) (hfront : ∀ q ∈ front, passes q = true → q.priority < r.priority)
    (hback : ∀ q ∈ back, passes q = true → q.priority ≤ r.priority) :
    DecidesAt passes (front ++ r :: back) front.length r := by
  refine ⟨by simp, hpass, fun j q hj hq hqpass => ?_, fun j q hj hq hqpass => ?_⟩
  · rw [List.getElem?_append_left hj] at hq
    exact hfront q (List.mem_of_getElem? hq) hqpass
  · rw [List.getElem?_append_right (Nat.le_of_lt hj)] at hq
    obtain ⟨k, hk⟩ : ∃ k, j - front.length = k + 1 := ⟨j - front.length - 1, by omega⟩
    rw [hk, List.getElem?_cons_succ] at hq
    exact hback q (List.mem_of_getElem? hq) hqpass

/-- If more rules pass, what decides is better, or as good and registered no later. -/
theorem DecidesAt.priority_lt_or_le {passes passes' : Rule → Bool} {rules : List Rule} {i j : Nat}
    {r q : Rule} (h : DecidesAt passes rules i r) (h' : DecidesAt passes' rules j q)
    (hmore : passes r = true → passes' r = true) :
    r.priority < q.priority ∨ (r.priority = q.priority ∧ j ≤ i) := by
  have hpass := hmore h.pass
  rcases Nat.lt_trichotomy i j with hij | rfl | hji
  · exact Or.inl (h'.earlier i r hij h.here hpass)
  · obtain rfl : r = q := Option.some.inj (h.here.symm.trans h'.here)
    exact Or.inr ⟨rfl, Nat.le_refl i⟩
  · have hle := h'.later i r hji h.here hpass
    rcases Nat.lt_or_eq_of_le hle with hlt | heq
    · exact Or.inl hlt
    · exact Or.inr ⟨heq, Nat.le_of_lt hji⟩

namespace Matcher

/-- A typed rule decides if and only if its rule does at its place. -/
theorem decides_iff_decidesAt (passes : Rule → Bool) {rules : List TypedRule} {p : TypedRule} :
    Decides (fun q => passes q.2) rules p ↔
      ∃ i, rules[i]? = some p ∧ DecidesAt passes (rules.map (·.2)) i p.2 := by
  constructor
  · rintro ⟨before, after, rfl, hpass, hbefore, hafter⟩
    have hplace : before.length = (before.map (·.2)).length := List.length_map _ |>.symm
    refine ⟨before.length, by simp, ?_⟩
    rw [List.map_append, List.map_cons, hplace]
    refine .of_split _ _ hpass (fun q hq => ?_) fun q hq => ?_
    · obtain ⟨b, hb, rfl⟩ := List.mem_map.mp hq
      exact hbefore b hb
    · obtain ⟨a, ha, rfl⟩ := List.mem_map.mp hq
      exact hafter a ha
  · rintro ⟨i, hp, h⟩
    -- the rules are split at the place of the one that decides
    obtain ⟨hi, rfl⟩ := List.getElem?_eq_some_iff.mp hp
    have hrule : ∀ {j}, (hj : j < rules.length) → (rules.map (·.2))[j]? = some rules[j].2 :=
      fun hj => by rw [List.getElem?_map, List.getElem?_eq_getElem hj, Option.map_some]
    refine ⟨rules.take i, rules.drop (i + 1), ?_, h.pass, ?_, ?_⟩
    · rw [← List.drop_eq_getElem_cons hi, List.take_append_drop]
    · intro b hb hbpass
      obtain ⟨j, hj, rfl⟩ := List.mem_take_iff_getElem.mp hb
      exact h.earlier j _ (by omega) (hrule (by omega)) hbpass
    · intro a ha hapass
      obtain ⟨j, hj, rfl⟩ := List.mem_drop_iff_getElem.mp ha
      exact h.later (i + 1 + j) _ (by omega) (hrule (by omega)) hapass

/-- The rule that is registered at a place decides about data, of which a matcher looks at the
leading bytes. Nothing decides about empty data. -/
structure DecidedAt (rules : List TypedRule) (limit : Int) (order : ByteOrder) (data : List UInt8)
    (i : Nat) (r : TypedRule) : Prop where
  nonempty : data ≠ []
  here : rules[i]? = some r
  decides : DecidesAt (fun q => q.holds order (leading (ofRules rules limit).maxExtent data))
    (rules.map (·.2)) i r.2

/-- What is found are the type and the priority of the rule that decides. -/
theorem lookup_eq_some_iff {rules : List TypedRule} {limit : Int} {order : ByteOrder}
    {data : List UInt8} {found : Match} :
    (ofRules rules limit).lookup order data = some found ↔
      ∃ i r, DecidedAt rules limit order data i r ∧ found = ⟨r.1, r.2.priority⟩ := by
  unfold lookup
  by_cases hdata : data = []
  · rw [if_pos (List.isEmpty_iff.mpr hdata)]
    refine iff_of_false (fun h => by cases h) ?_
    rintro ⟨i, r, h, -⟩
    exact h.nonempty hdata
  · rw [if_neg (by rwa [List.isEmpty_iff]), Option.map_eq_some_iff]
    have hdecides : ∀ r, (ofRules rules limit).rules.find? (fun q => q.2.holds order
        (leading (ofRules rules limit).maxExtent data)) = some r ↔
          ∃ i, DecidedAt rules limit order data i r := by
      intro r
      refine find?_mergeSort_eq_some_iff.trans ((decides_iff_decidesAt fun q =>
        q.holds order (leading (ofRules rules limit).maxExtent data)).trans ?_)
      exact exists_congr fun i =>
        ⟨fun ⟨hhere, h⟩ => ⟨hdata, hhere, h⟩, fun h => ⟨h.here, h.decides⟩⟩
    constructor
    · rintro ⟨r, hr, rfl⟩
      obtain ⟨i, h⟩ := (hdecides r).mp hr
      exact ⟨i, r, h, rfl⟩
    · rintro ⟨i, r, h, rfl⟩
      exact ⟨r, (hdecides r).mpr ⟨i, h⟩, rfl⟩

end Matcher

end MimeDatabase.Magic
