import MimeDatabase.Registry

/-!
# What a registry holds

Interning only ever appends (`names_prefix_insertAll`), so a type keeps its number, and the two base
types keep the first two numbers in every registry that grows from the empty one. A name that is
interned is looked up as a type that the registry holds, and all larger registries agree. Any other
name is looked up as a type that is `Foreign`, in the registry and in larger ones, whether it has
got a number there or not (`lookup_eq_or_foreign`).
-/

namespace MimeDatabase.Registry

/-- A type is interned under the number that it bears. -/
def Holds (r : Registry) (t : MediaType) : Prop := ∃ i, r.byId? i = some t

instance (r : Registry) (t : MediaType) : Decidable (r.Holds t) :=
  decidable_of_iff (∃ i < r.names.length, r.byId? i = some t) <| by
    constructor
    · rintro ⟨i, _, hi⟩
      exact ⟨i, hi⟩
    · rintro ⟨i, hi⟩
      obtain ⟨name, hname, _⟩ := Option.map_eq_some_iff.mp hi
      exact ⟨i, (List.getElem?_eq_some_iff.mp hname).1, hi⟩

/-- Names are interned behind those that are there. -/
theorem names_prefix_insert (r : Registry) (name : String) : r.names <+: (r.insert name).names := by
  unfold insert
  split
  · exact List.prefix_rfl
  · exact List.prefix_append _ _

theorem names_prefix_insertAll (r : Registry) (names : List String) :
    r.names <+: (r.insertAll names).names := by
  unfold insertAll
  induction names generalizing r with
  | nil => exact List.prefix_rfl
  | cons name names ih => exact (r.names_prefix_insert name).trans (ih (r.insert name))

/-- Interned names keep their numbers. -/
theorem byId?_of_grown {r r' : Registry} (hp : r.names <+: r'.names) {i : Nat} {t : MediaType}
    (h : r.byId? i = some t) : r'.byId? i = some t := by
  obtain ⟨name, hname, ht⟩ := Option.map_eq_some_iff.mp h
  obtain ⟨rest, hrest⟩ := hp
  have hi : i < r.names.length := (List.getElem?_eq_some_iff.mp hname).1
  unfold byId?
  rw [← hrest, List.getElem?_append_left hi, hname, ← ht]
  rfl

theorem byId?_insertAll {r : Registry} {i : Nat} {t : MediaType} (h : r.byId? i = some t)
    (names : List String) : (r.insertAll names).byId? i = some t :=
  byId?_of_grown (r.names_prefix_insertAll names) h

/-- A registry that has grown still holds its types. -/
theorem Holds.of_grown {r r' : Registry} (hp : r.names <+: r'.names) {t : MediaType}
    (h : r.Holds t) : r'.Holds t := by
  obtain ⟨i, hi⟩ := h
  exact ⟨i, byId?_of_grown hp hi⟩

/-- The type with a number has that number. -/
theorem byId?_id {r : Registry} {i : Nat} {t : MediaType} (h : r.byId? i = some t) :
    t.id = some i := by
  obtain ⟨name, _, ht⟩ := Option.map_eq_some_iff.mp h
  rw [← ht]

/-- The number alone tells a type. -/
theorem Holds.eq_of_id {r : Registry} {t u : MediaType} (ht : r.Holds t) (hu : r.Holds u)
    (hid : t.id = u.id) : t = u := by
  obtain ⟨i, hi⟩ := ht
  obtain ⟨j, hj⟩ := hu
  rw [byId?_id hi, byId?_id hj, Option.some.injEq] at hid
  rw [hid, hj] at hi
  exact (Option.some.inj hi).symm

/-- The root type is always interned. -/
theorem holds_octetStream (names : List String) : (empty.insertAll names).Holds .octetStream :=
  ⟨0, byId?_insertAll rfl names⟩

theorem holds_textPlain (names : List String) : (empty.insertAll names).Holds .textPlain :=
  ⟨1, byId?_insertAll rfl names⟩

/-! ## Looking names up -/

/-- A type has no number, or one that the registry has not given away. -/
def Foreign (r : Registry) (t : MediaType) : Prop := ∀ i, t.id = some i → r.names.length ≤ i

theorem Foreign.not_holds {r : Registry} {t : MediaType} (h : r.Foreign t) : ¬ r.Holds t := by
  rintro ⟨i, hi⟩
  obtain ⟨name, hname, -⟩ := Option.map_eq_some_iff.mp hi
  have hlt := (List.getElem?_eq_some_iff.mp hname).1
  have hle := h i (byId?_id hi)
  omega

/-- No held type has the number of a foreign one. -/
theorem Foreign.id_ne {r : Registry} {t u : MediaType} (ht : r.Foreign t) (hu : r.Holds u) :
    t.id ≠ u.id := by
  obtain ⟨i, hi⟩ := hu
  obtain ⟨name, hname, -⟩ := Option.map_eq_some_iff.mp hi
  have hlt := (List.getElem?_eq_some_iff.mp hname).1
  intro hid
  have hle := ht i (hid.trans (byId?_id hi))
  omega

/-- A name is known if its normal form is interned. -/
theorem contains_iff {r : Registry} {name : String} :
    r.contains name = true ↔ TypeName.normalize name ∈ r.names := List.contains_iff_mem

theorem lookup_name (r : Registry) (name : String) :
    (r.lookup name).name = TypeName.normalize name := by
  unfold lookup find?
  dsimp only
  cases r.names.idxOf? (TypeName.normalize name) with
  | none => rfl
  | some i => rfl

theorem holds_lookup {r : Registry} {name : String} (h : r.contains name = true) :
    r.Holds (r.lookup name) := by
  unfold lookup find?
  dsimp only
  cases hi : r.names.idxOf? (TypeName.normalize name) with
  | none => exact absurd (contains_iff.mp h) (List.idxOf?_eq_none_iff.mp hi)
  | some i =>
    obtain ⟨hlt, hname, -⟩ := List.idxOf?_eq_some_iff.mp hi
    refine ⟨i, ?_⟩
    rw [byId?, List.getElem?_eq_getElem hlt, hname]
    rfl

/-- How a name is spelled does not matter. -/
theorem lookup_congr (r : Registry) {a b : String}
    (h : TypeName.normalize a = TypeName.normalize b) : r.lookup a = r.lookup b := by
  unfold lookup find?
  rw [h]

/-- Two names are looked up as one type only if they are one name. -/
theorem lookup_eq_iff (r : Registry) {a b : String} :
    r.lookup a = r.lookup b ↔ TypeName.normalize a = TypeName.normalize b := by
  constructor
  · intro h
    rw [← r.lookup_name a, h, r.lookup_name b]
  · exact r.lookup_congr

/-- The number alone tells a held type from whatever is looked up, with or without a number. -/
theorem Holds.id_eq_lookup_iff {r : Registry} {t : MediaType} (ht : r.Holds t) (name : String) :
    t.id = (r.lookup name).id ↔ t = r.lookup name := by
  constructor
  · intro hid
    by_cases hname : r.contains name = true
    · exact ht.eq_of_id (holds_lookup hname) hid
    · obtain ⟨i, hi⟩ := ht
      have hnone : r.names.idxOf? (TypeName.normalize name) = none :=
        List.idxOf?_eq_none_iff.mpr fun hmem => hname (contains_iff.mpr hmem)
      rw [byId?_id hi, lookup, find?, hnone] at hid
      cases hid
  · exact congrArg MediaType.id

section Larger

variable {r r' : Registry}

/-- A larger registry looks a name up as before, or the name is new to the smaller one. -/
theorem lookup_eq_or_foreign (hp : r.names <+: r'.names) (name : String) :
    (r.contains name = true ∧ r'.lookup name = r.lookup name) ∨
      (r.Foreign (r.lookup name) ∧ r.Foreign (r'.lookup name)) := by
  obtain ⟨more, hmore⟩ := hp
  have hindex : r'.names.idxOf? (TypeName.normalize name) =
      (r.names.idxOf? (TypeName.normalize name)).or
        ((more.idxOf? (TypeName.normalize name)).map fun i => i + r.names.length) := by
    rw [← hmore]
    exact List.findIdx?_append
  unfold lookup find?
  dsimp only
  cases hi : r.names.idxOf? (TypeName.normalize name) with
  | some i =>
    left
    rw [hindex, hi]
    refine ⟨contains_iff.mpr ?_, rfl⟩
    obtain ⟨hlt, hname, -⟩ := List.idxOf?_eq_some_iff.mp hi
    rw [← hname]
    exact List.getElem_mem hlt
  | none =>
    right
    rw [hindex, hi, Option.none_or]
    refine ⟨fun i hid => ?_, fun i hid => ?_⟩
    · cases hid
    · cases hj : more.idxOf? (TypeName.normalize name) with
      | none =>
        rw [hj] at hid
        cases hid
      | some j =>
        rw [hj] at hid
        cases hid
        exact Nat.le_add_left r.names.length j

theorem contains_of_grown (hp : r.names <+: r'.names) {name : String}
    (h : r.contains name = true) : r'.contains name = true :=
  contains_iff.mpr (hp.subset (contains_iff.mp h))

/-- A registry that has grown looks a known name up as before. -/
theorem lookup_of_contains (hp : r.names <+: r'.names) {name : String}
    (h : r.contains name = true) : r'.lookup name = r.lookup name := by
  rcases lookup_eq_or_foreign hp name with ⟨-, heq⟩ | ⟨hforeign, -⟩
  · exact heq
  · exact absurd (holds_lookup h) hforeign.not_holds

end Larger

/-! ## The base types -/

/-- The names of the base types are the first two of a registry that holds them. -/
theorem names_empty_prefix_of_holds {r : Registry} (hroot : r.Holds .octetStream)
    (htext : r.Holds .textPlain) : empty.names <+: r.names := by
  have hname : ∀ {i : Nat} {t : MediaType}, r.Holds t → t.id = some i → r.names[i]? = some t.name := by
    rintro i t ⟨j, hj⟩ hid
    obtain rfl : j = i := Option.some.inj ((byId?_id hj).symm.trans hid)
    obtain ⟨name, hname, ht⟩ := Option.map_eq_some_iff.mp hj
    rw [hname, ← ht]
  have hfirst := hname hroot rfl
  have hsecond := hname htext rfl
  cases hnames : r.names with
  | nil =>
    rw [hnames] at hfirst
    cases hfirst
  | cons first rest =>
    cases rest with
    | nil =>
      rw [hnames] at hsecond
      cases hsecond
    | cons second rest =>
      rw [hnames] at hfirst hsecond
      cases hfirst
      cases hsecond
      exact List.prefix_append _ rest

/-- The base types are known under their names. -/
theorem lookup_base {r : Registry} (hp : empty.names <+: r.names) {t : MediaType}
    (hbase : t = .octetStream ∨ t = .textPlain) :
    r.contains t.name = true ∧ r.lookup t.name = t := by
  have hempty : empty.contains t.name = true ∧ empty.lookup t.name = t := by
    rcases hbase with rfl | rfl <;> decide +kernel
  exact ⟨contains_of_grown hp hempty.1, (lookup_of_contains hp hempty.1).trans hempty.2⟩

/-- The first two numbers tell the base types from all other types of a registry. -/
theorem Holds.isGeneric_iff {r : Registry} {t : MediaType} (ht : r.Holds t)
    (hroot : r.Holds .octetStream) (htext : r.Holds .textPlain) :
    t.isGeneric = true ↔ t ∈ [MediaType.octetStream, MediaType.textPlain] := by
  rw [MediaType.isGeneric, Bool.or_eq_true, beq_iff_eq, beq_iff_eq, List.mem_cons,
    List.mem_singleton]
  constructor
  · exact Or.imp (fun hid => ht.eq_of_id hroot hid) fun hid => ht.eq_of_id htext hid
  · exact Or.imp (fun heq => heq ▸ rfl) fun heq => heq ▸ rfl

theorem contains_insert (r : Registry) (name : String) : (r.insert name).contains name = true := by
  unfold insert
  split
  · next h => exact h
  · exact contains_iff.mpr (List.mem_append_right _ (List.mem_singleton.mpr rfl))

/-- All names that were interned are known. -/
theorem contains_insertAll {r : Registry} {names : List String} {name : String}
    (h : name ∈ names) : (r.insertAll names).contains name = true := by
  induction names generalizing r with
  | nil => exact absurd h List.not_mem_nil
  | cons first names ih =>
    rcases List.mem_cons.mp h with rfl | hrest
    · exact contains_of_grown ((r.insert name).names_prefix_insertAll names)
        (r.contains_insert name)
    · exact ih hrest

end MimeDatabase.Registry
