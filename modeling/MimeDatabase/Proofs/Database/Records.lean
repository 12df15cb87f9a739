import MimeDatabase.Proofs.Database.Queries
import MimeDatabase.Proofs.Glob.Candidates
import MimeDatabase.Proofs.Hierarchy.Foreign

/-!
# Tables and the registry

When a database is built, the names of all records are resolved and interned before any table is
made, so the tables speak of types of the registry only: the ends of edges, the types of icons, and
the names that aliases stand for. That is kept by calls (`IsOver.after`), since the registry only
grows, and it is all that queries need to give the same answers for good.
-/

namespace MimeDatabase.Database

/-- The tables of a database speak of types of a registry, which its own registry extends. -/
structure IsOver (db : Database) (r : Registry) : Prop where
  grown : r.names <+: db.registry.names
  hierarchy : db.hierarchy.IsOver r
  icons : db.icons.IsOver r
  aliases : db.aliases.Normal
  target : ∀ name target, db.aliases.unalias? name = some target → r.contains target = true
  resolved : ∀ t p, p ∈ db.hierarchy.parents t →
    db.aliases.resolveName t.name = t.name ∧ db.aliases.resolveName p.name = p.name

variable {sets : List RecordSet} {settings : DatabaseSettings}

/-! ## What is built -/

section Build

variable (sets settings)

/-- The registry is filled with the names of all records, resolved. -/
theorem registry_build : (build sets settings).registry =
    Registry.empty.insertAll ((recordNames sets).map (build sets settings).aliases.resolveName) :=
  rfl

theorem hierarchy_build : (build sets settings).hierarchy =
    Hierarchy.ofEdges (recordEdges (build sets settings).lookup sets) := rfl

theorem globs_build : (build sets settings).globs =
    Glob.Index.ofRules (recordGlobs (build sets settings).lookup sets) := rfl

theorem magic_build : (build sets settings).magic =
    Magic.Matcher.ofRules (recordRules (build sets settings).lookup sets)
      settings.maxSniffBytes := rfl

theorem icons_build : (build sets settings).icons =
    { icons := recordIcons (build sets settings).lookup (sets.flatMap (·.icons))
      genericIcons := recordIcons (build sets settings).lookup (sets.flatMap (·.genericIcons))
      fallback := settings.defaultGenericIcon } := rfl

end Build

/-! ## Names of records -/

/-- The names of the records, kind by kind. -/
theorem mem_recordNames {name : String} : name ∈ recordNames sets ↔
    (∃ a ∈ sets.flatMap (·.aliases), a.name = name) ∨
    (∃ s ∈ sets.flatMap (·.subclasses), name = s.typeName ∨ name = s.parent) ∨
    (∃ g ∈ sets.flatMap (·.globs), g.typeName = name) ∨
    (∃ m ∈ sets.flatMap (·.magic), m.typeName = name) ∨
    (∃ i ∈ sets.flatMap (·.icons), i.typeName = name) ∨
    (∃ i ∈ sets.flatMap (·.genericIcons), i.typeName = name) := by
  simp only [recordNames, List.mem_append, List.mem_map, List.mem_flatMap, List.mem_cons,
    List.not_mem_nil, or_false, or_assoc]

/-- The name of a record is interned as what it stands for. -/
theorem contains_resolveName {name : String} (h : name ∈ recordNames sets) :
    (build sets settings).registry.contains ((build sets settings).aliases.resolveName name) =
      true :=
  Registry.contains_insertAll (List.mem_map_of_mem h)

/-- The type of a recorded name is interned when the database is built. -/
theorem holds_lookup {name : String} (h : name ∈ recordNames sets) :
    (build sets settings).registry.Holds ((build sets settings).lookup name) :=
  Registry.holds_lookup (contains_resolveName h)

/-- A type is what the name of some record stands for. -/
def IsRecorded (sets : List RecordSet) (settings : DatabaseSettings) (t : MediaType) : Prop :=
  ∃ name ∈ recordNames sets, t = (build sets settings).lookup name

theorem IsRecorded.holds {t : MediaType} (h : IsRecorded sets settings t) :
    (build sets settings).registry.Holds t := by
  obtain ⟨name, hname, rfl⟩ := h
  exact holds_lookup hname

/-- No record is about a type whose name stands for another one. -/
theorem IsRecorded.resolveName_name {t : MediaType} (h : IsRecorded sets settings t) :
    (build sets settings).aliases.resolveName t.name = t.name := by
  obtain ⟨name, -, rfl⟩ := h
  have hnormal : (build sets settings).aliases.Normal := AliasTable.normal_ofPairs _ _
  rw [lookup_name hnormal, AliasTable.resolveName_resolveName hnormal]

/-- Both ends of an edge are types of records. -/
theorem isRecorded_of_mem_parents {t p : MediaType}
    (hp : p ∈ (build sets settings).hierarchy.parents t) :
    IsRecorded sets settings t ∧ IsRecorded sets settings p := by
  rw [hierarchy_build] at hp
  obtain ⟨s, hs, he⟩ :=
    List.mem_map.mp (Hierarchy.mem_ofEdges_iff.mp (Hierarchy.mem_parents_iff.mp hp)).1
  obtain ⟨rfl, rfl⟩ := Prod.mk.inj he
  exact ⟨⟨s.typeName, mem_recordNames.mpr (Or.inr (Or.inl ⟨s, hs, Or.inl rfl⟩)), rfl⟩,
    ⟨s.parent, mem_recordNames.mpr (Or.inr (Or.inl ⟨s, hs, Or.inr rfl⟩)), rfl⟩⟩

/-- Every glob rule is made of the glob record at its place. -/
theorem exists_record_of_mem_recordGlobs {rule : Glob.Rule}
    (h : rule ∈ recordGlobs (build sets settings).lookup sets) :
    ∃ (i : Nat) (g : Record.Glob), (sets.flatMap (·.globs))[i]? = some g ∧
      rule = Glob.Rule.make g.pattern ((build sets settings).lookup g.typeName) g.weight
        g.caseSensitive i := by
  obtain ⟨i, hi, rfl⟩ := List.mem_mapIdx.mp h
  exact ⟨i, _, List.getElem?_eq_getElem hi, rfl⟩

/-- The types of glob rules are recorded. -/
theorem isRecorded_of_mem_recordGlobs {rule : Glob.Rule}
    (h : rule ∈ recordGlobs (build sets settings).lookup sets) :
    IsRecorded sets settings rule.type := by
  obtain ⟨i, g, hg, rfl⟩ := exists_record_of_mem_recordGlobs h
  have hmem : g ∈ sets.flatMap (·.globs) := List.mem_of_getElem? hg
  exact ⟨_, mem_recordNames.mpr (Or.inr (Or.inr (Or.inl ⟨g, hmem, rfl⟩))), rfl⟩

/-- What is found for a file name are rules of glob records. -/
theorem mem_recordGlobs_of_mem_candidates {file : String} {rule : Glob.Rule}
    (h : rule ∈ (build sets settings).globs.candidates file) :
    rule ∈ recordGlobs (build sets settings).lookup sets := by
  rw [globs_build] at h
  exact (Glob.Index.mem_candidates_iff.mp h).1

theorem isRecorded_of_mem_candidates {file : String} {rule : Glob.Rule}
    (h : rule ∈ (build sets settings).globs.candidates file) :
    IsRecorded sets settings rule.type :=
  isRecorded_of_mem_recordGlobs (mem_recordGlobs_of_mem_candidates h)

/-- Every magic rule is about the type of a magic record. -/
theorem isRecorded_of_mem_rules {rule : Magic.TypedRule}
    (h : rule ∈ (build sets settings).magic.rules) : IsRecorded sets settings rule.1 := by
  obtain ⟨m, hm, rfl⟩ := List.mem_map.mp (List.mem_mergeSort.mp h)
  exact ⟨m.typeName, mem_recordNames.mpr (Or.inr (Or.inr (Or.inr (Or.inl ⟨m, hm, rfl⟩)))), rfl⟩

/-- What is found for a content is the type of a magic record. -/
theorem isRecorded_of_lookup {order : Magic.ByteOrder} {content : List UInt8} {m : Magic.Match}
    (h : (build sets settings).magic.lookup order content = some m) :
    IsRecorded sets settings m.type := by
  unfold Magic.Matcher.lookup at h
  split at h
  · cases h
  · obtain ⟨found, hfound, rfl⟩ := Option.map_eq_some_iff.mp h
    exact isRecorded_of_mem_rules (List.mem_of_find?_eq_some hfound)

/-- An alias that stands for another name is one of the records, so that name is interned. -/
theorem contains_of_unalias? {name target : String}
    (h : (build sets settings).aliases.unalias? name = some target) :
    (build sets settings).registry.contains target = true := by
  let aliases := aliasTable sets settings
  have htarget : aliases.resolveName name ≠ TypeName.normalize name ∧
      aliases.resolveName name = target := by
    change aliases.unalias? name = some target at h
    rw [AliasTable.unalias?_eq] at h
    split at h
    · cases h
    · next hne => exact ⟨hne, Option.some.inj h⟩
  -- a name that is no alias would stand for itself
  obtain ⟨next, hnext⟩ : ∃ next, aliases.target? (TypeName.normalize name) = some next := by
    rw [← Option.ne_none_iff_exists']
    intro hnone
    exact htarget.1 (AliasTable.resolveName_of_ends (AliasTable.chase_eq_ends hnone))
  rcases AliasTable.mem_foldl_define (AliasTable.mem_entries_of_target? hnext) with
    hnil | ⟨pair, hpair, heq⟩
  · exact absurd hnil List.not_mem_nil
  · obtain ⟨a, ha, rfl⟩ := List.mem_map.mp hpair
    have hname : aliases.resolveName a.name = target := by
      rw [← htarget.2, ← AliasTable.resolveName_normalize, ← AliasTable.resolveName_normalize name,
        (Prod.mk.inj heq).1]
    rw [← hname]
    exact contains_resolveName (mem_recordNames.mpr (Or.inl ⟨a, ha, rfl⟩))

/-! ## From the building on -/

/-- The tables of a built database speak of types of its registry. -/
theorem isOver_build (sets : List RecordSet) (settings : DatabaseSettings) :
    (build sets settings).IsOver (build sets settings).registry where
  grown := List.prefix_rfl
  hierarchy :=
    { octetStream := Registry.holds_octetStream _
      textPlain := Registry.holds_textPlain _
      child := fun _ _ hp => (isRecorded_of_mem_parents hp).1.holds
      parent := fun _ _ hp => (isRecorded_of_mem_parents hp).2.holds }
  icons :=
    { icons := fun e he => by
        obtain ⟨i, hi, rfl⟩ := List.mem_map.mp he
        have hname : ∃ i' ∈ sets.flatMap (·.icons), i'.typeName = i.typeName := ⟨i, hi, rfl⟩
        exact holds_lookup (mem_recordNames.mpr (by simp only [hname, true_or, or_true]))
      genericIcons := fun e he => by
        obtain ⟨i, hi, rfl⟩ := List.mem_map.mp he
        have hname : ∃ i' ∈ sets.flatMap (·.genericIcons), i'.typeName = i.typeName := ⟨i, hi, rfl⟩
        exact holds_lookup (mem_recordNames.mpr (by simp only [hname, or_true])) }
  aliases := AliasTable.normal_ofPairs _ _
  target := fun _ _ h => contains_of_unalias? h
  resolved := fun _ _ hp =>
    ⟨(isRecorded_of_mem_parents hp).1.resolveName_name,
      (isRecorded_of_mem_parents hp).2.resolveName_name⟩

variable {db : Database} {r : Registry}

theorem IsOver.call (h : db.IsOver r) (c : Call) : (db.call c).2.IsOver r := by
  rw [call_eq]
  exact { h with grown := h.grown.trans (db.registry.names_prefix_insert _) }

/-- A database stays over the registry that it was built with, whatever is called. -/
theorem IsOver.after (h : db.IsOver r) (calls : List Call) : (db.after calls).IsOver r := by
  unfold Database.after
  induction calls generalizing db with
  | nil => exact h
  | cons c calls ih => exact ih (h.call c)

end MimeDatabase.Database
