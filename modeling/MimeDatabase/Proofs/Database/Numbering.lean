import MimeDatabase.Proofs.Database.Records

/-!
# Types keep their numbers

The registry of a database numbers types from the building on, and for good
(`numbered_for_good`): the numbers are dense, a number never changes its type, and each name has one
number however it is spelled. All of this rests on names being in the registry once and in normal
form (`Registry.WellFormed`), which interning a name keeps, since it only appends a name in normal
form that was not there. Normalizing is idempotent, so the name of a registered type leads back to
that type.

Building interns what the names of all records stand for before a table is made, so the tables hold
registered types only (`TablesIn`). Calls leave the tables alone and let the registry grow, hence
that stays true.
-/

namespace MimeDatabase

namespace Registry

/-- Every name is there once and in normal form. -/
structure WellFormed (r : Registry) : Prop where
  distinct : r.names.Nodup
  normal : ∀ name ∈ r.names, TypeName.normalize name = name

/-- The registry of the two base types is well formed. -/
theorem wellFormed_empty : empty.WellFormed where
  distinct := by decide
  normal := by
    intro name hname
    rcases List.mem_cons.mp hname with rfl | hrest
    · exact TypeName.wellFormed_octetStream.normal
    · rw [List.mem_singleton.mp hrest]
      exact TypeName.wellFormed_textPlain.normal

/-- Interning a name keeps a registry well formed. -/
theorem WellFormed.insert {r : Registry} (h : r.WellFormed) (name : String) :
    (r.insert name).WellFormed := by
  unfold Registry.insert
  split
  · exact h
  · next hnew =>
    rw [contains_iff] at hnew
    refine ⟨List.nodup_append.mpr ⟨h.distinct, List.nodup_singleton _, ?_⟩, ?_⟩
    · rintro a ha b hb rfl
      exact hnew (List.mem_singleton.mp hb ▸ ha)
    · intro other hother
      rcases List.mem_append.mp hother with hold | hadded
      · exact h.normal other hold
      · rw [List.mem_singleton.mp hadded]
        exact TypeName.normalize_normalize name

theorem WellFormed.insertAll {r : Registry} (h : r.WellFormed) (names : List String) :
    (r.insertAll names).WellFormed := by
  unfold Registry.insertAll
  induction names generalizing r with
  | nil => exact h
  | cons name names ih => exact ih (h.insert name)

/-- What is interned after one more name. -/
theorem mem_names_insert {r : Registry} {name other : String} :
    other ∈ (r.insert name).names ↔ other ∈ r.names ∨ other = TypeName.normalize name := by
  unfold insert
  split
  · next hknown =>
    rw [contains_iff] at hknown
    exact ⟨Or.inl, fun h => h.elim id fun heq => heq ▸ hknown⟩
  · rw [List.mem_append, List.mem_singleton]

/-- The registered names are the old ones and those that were interned. -/
theorem mem_names_insertAll {r : Registry} {names : List String} {other : String} :
    other ∈ (r.insertAll names).names ↔
      other ∈ r.names ∨ ∃ name ∈ names, TypeName.normalize name = other := by
  unfold insertAll
  induction names generalizing r with
  | nil => simp
  | cons name names ih =>
    rw [List.foldl_cons, ih, mem_names_insert, or_assoc, List.exists_mem_cons_iff,
      eq_comm (a := other)]

/-- Every number below the size has a type, and that type bears the number. -/
theorem exists_byId? {r : Registry} {i : Nat} (h : i < r.size) :
    ∃ t, r.byId? i = some t ∧ t.id = some i := by
  refine ⟨⟨some i, r.names[i]⟩, ?_, rfl⟩
  rw [byId?, List.getElem?_eq_getElem h]
  rfl

/-- The name of a registered type leads back to it. -/
theorem WellFormed.lookup_name {r : Registry} (h : r.WellFormed) {i : Nat} {t : MediaType}
    (ht : r.byId? i = some t) : r.contains t.name = true ∧ r.lookup t.name = t := by
  obtain ⟨name, hname, rfl⟩ := Option.map_eq_some_iff.mp ht
  have hmem : name ∈ r.names := List.mem_of_getElem? hname
  have hknown : r.contains name = true := by
    rw [contains_iff, h.normal name hmem]
    exact hmem
  refine ⟨hknown, ?_⟩
  -- both are registered under this name, which is there only once
  obtain ⟨j, hj⟩ := holds_lookup hknown
  obtain ⟨other, hother, heq⟩ := Option.map_eq_some_iff.mp hj
  have hsame : other = name := by
    have hlookup := r.lookup_name name
    rwa [← heq, h.normal name hmem] at hlookup
  subst hsame
  obtain ⟨hjlt, hjname⟩ := List.getElem?_eq_some_iff.mp hother
  obtain ⟨hilt, hiname⟩ := List.getElem?_eq_some_iff.mp hname
  have hij : j = i := (List.Nodup.getElem_inj_iff h.distinct).mp (hjname.trans hiname.symm)
  rw [← heq, hij]

/-- Interning a name that is known changes nothing. -/
theorem insert_of_contains {r : Registry} {name : String} (h : r.contains name = true) :
    r.insert name = r := by
  rw [insert, if_pos h]

/-- Two names are interned as one type only if they are one name, even if other names are interned
in between. -/
theorem lookup_insert_eq_iff {r r' : Registry} {a b : String}
    (hp : (r.insert a).names <+: r'.names) :
    (r.insert a).lookup a = (r'.insert b).lookup b ↔
      TypeName.normalize a = TypeName.normalize b := by
  have hgrown := hp.trans (r'.names_prefix_insert b)
  rw [← lookup_of_contains hgrown (r.contains_insert a), lookup_eq_iff]

end Registry

/-- The names that are registered for the records of a set: the names of its aliases, and the types
of all other records. -/
def RecordSet.typeNames (s : RecordSet) : List String :=
  s.aliases.map (·.name) ++ s.subclasses.flatMap (fun c => [c.typeName, c.parent]) ++
    s.globs.map (·.typeName) ++ s.magic.map (·.typeName) ++ s.icons.map (·.typeName) ++
    s.genericIcons.map (·.typeName)

namespace Database

/-- A registry holds every type in the tables of a database under the number that the type has
there. -/
structure TablesIn (db : Database) (r : Registry) : Prop where
  edges : ∀ e ∈ db.hierarchy.edges, r.Holds e.1 ∧ r.Holds e.2
  globs : ∀ rule ∈ db.globs.rules, r.Holds rule.type
  magic : ∀ rule ∈ db.magic.rules, r.Holds rule.1
  icons : ∀ e ∈ db.icons.icons, r.Holds e.1
  genericIcons : ∀ e ∈ db.icons.genericIcons, r.Holds e.1

variable {sets : List RecordSet} {settings : DatabaseSettings}

/-- The names of all records are those of each record set. -/
theorem mem_recordNames_iff {name : String} :
    name ∈ recordNames sets ↔ ∃ s ∈ sets, name ∈ s.typeNames := by
  rw [mem_recordNames]
  simp only [RecordSet.typeNames, List.mem_append, List.mem_map, List.mem_flatMap, List.mem_cons,
    List.not_mem_nil, or_false]
  grind

/-- Right after the building, the registered names are the base types and what the names of records
stand for. -/
theorem mem_names_build {name : String} : name ∈ (build sets settings).registry.names ↔
    name = TypeName.octetStream ∨ name = TypeName.textPlain ∨
      ∃ s ∈ sets, ∃ n ∈ s.typeNames, (build sets settings).aliases.resolveName n = name := by
  have hnormal : (build sets settings).aliases.Normal := AliasTable.normal_ofPairs _ _
  have hbase : name ∈ Registry.empty.names ↔
      name = TypeName.octetStream ∨ name = TypeName.textPlain := by
    simp [Registry.empty]
  rw [registry_build, Registry.mem_names_insertAll, hbase, or_assoc]
  simp only [List.mem_map, exists_exists_and_eq_and, AliasTable.normalize_resolveName hnormal,
    mem_recordNames_iff]
  grind

/-- The tables of a built database hold types of its registry only. -/
theorem tablesIn_build (sets : List RecordSet) (settings : DatabaseSettings) :
    (build sets settings).TablesIn (build sets settings).registry where
  edges := fun e he => by
    have hparent : e.2 ∈ (build sets settings).hierarchy.parents e.1 :=
      Hierarchy.mem_parents_iff.mpr he
    obtain ⟨hchild, hparent⟩ := isRecorded_of_mem_parents hparent
    exact ⟨hchild.holds, hparent.holds⟩
  globs := fun rule hrule => by
    rw [globs_build] at hrule
    have hrecord := (Glob.Index.rules_ofRules _).mem_iff.mp hrule
    exact (isRecorded_of_mem_recordGlobs hrecord).holds
  magic := fun rule hrule => (isRecorded_of_mem_rules hrule).holds
  icons := (isOver_build sets settings).icons.icons
  genericIcons := (isOver_build sets settings).icons.genericIcons

/-- Calls change the registry and nothing else. -/
theorem registry_after (db : Database) (calls : List Call) : (db.after calls).registry =
    db.registry.insertAll (calls.map (·.interned db.aliases)) := by
  rw [after_eq]

/-- Calls intern names behind those that are there. -/
theorem names_prefix_after (db : Database) (calls : List Call) :
    db.registry.names <+: (db.after calls).registry.names := by
  rw [registry_after]
  exact db.registry.names_prefix_insertAll _

/-- The registry of a built database is well formed after all calls. -/
theorem wellFormed_registry_after (sets : List RecordSet) (settings : DatabaseSettings)
    (calls : List Call) : ((build sets settings).after calls).registry.WellFormed := by
  rw [registry_after, registry_build]
  exact (Registry.wellFormed_empty.insertAll _).insertAll _

/-- Calls keep the tables within the registry. -/
theorem TablesIn.after {db : Database} (h : db.TablesIn db.registry) (calls : List Call) :
    (db.after calls).TablesIn (db.after calls).registry := by
  have hgrown := db.names_prefix_after calls
  have hheld : db.TablesIn (db.after calls).registry :=
    { edges := fun e he => ⟨(h.edges e he).1.of_grown hgrown, (h.edges e he).2.of_grown hgrown⟩
      globs := fun rule hrule => (h.globs rule hrule).of_grown hgrown
      magic := fun rule hrule => (h.magic rule hrule).of_grown hgrown
      icons := fun e he => (h.icons e he).of_grown hgrown
      genericIcons := fun e he => (h.genericIcons e he).of_grown hgrown }
  rw [after_eq] at hheld ⊢
  exact ⟨hheld.edges, hheld.globs, hheld.magic, hheld.icons, hheld.genericIcons⟩

/-- An alias never stands for a type that is not registered. -/
theorem IsOver.holds_of_unalias {db : Database} {r : Registry} (h : db.IsOver r) {name : String}
    {t : MediaType} (ht : db.unalias name = some t) : db.registry.Holds t := by
  obtain ⟨target, htarget, rfl⟩ := Option.map_eq_some_iff.mp ht
  exact Registry.holds_lookup (Registry.contains_of_grown h.grown (h.target name target htarget))

/-- What a call returns is registered from then on. -/
theorem holds_call (db : Database) (c : Call) : (db.call c).2.registry.Holds (db.call c).1 := by
  rw [call_eq]
  exact Registry.holds_lookup (db.registry.contains_insert _)

/-- Interning the name of a registered type returns the type and changes nothing. -/
theorem intern_name {db : Database} (h : db.registry.WellFormed) {i : Nat} {t : MediaType}
    (ht : db.registry.byId? i = some t) : db.intern t.name = (t, db) := by
  obtain ⟨hknown, hlookup⟩ := h.lookup_name ht
  show ((db.registry.insert t.name).lookup t.name,
    { db with registry := db.registry.insert t.name }) = _
  rw [Registry.insert_of_contains hknown, hlookup]

/-- **Types keep their numbers**, from the building on and whatever calls follow. At any time
(after `calls`) every number below the size of the registry has a type, which bears the number and
keeps it (after `later`); no name is registered twice or in another than its normal form. What a
call returns is registered, a registered type is interned as itself, and two names are interned as
one type, at once or later, if and only if they have one normal form. Building registers exactly
the base types and what the names of all records stand for. And no table holds a type that is not
registered under its number, nor does an alias stand for one. -/
theorem numbered_for_good (sets : List RecordSet) (settings : DatabaseSettings)
    (calls later : List Call) :
    let built := build sets settings
    let db := built.after calls
    (∀ i < db.registry.size, ∃ t, db.registry.byId? i = some t ∧ t.id = some i ∧
        (db.after later).registry.byId? i = some t) ∧
      db.registry.WellFormed ∧
      (∀ c, (db.call c).2.registry.Holds (db.call c).1) ∧
      (∀ i t, db.registry.byId? i = some t → db.intern t.name = (t, db)) ∧
      (∀ a b, (db.intern a).1 = (((db.intern a).2.after later).intern b).1 ↔
        TypeName.normalize a = TypeName.normalize b) ∧
      (∀ name, name ∈ built.registry.names ↔
        name = TypeName.octetStream ∨ name = TypeName.textPlain ∨
          ∃ s ∈ sets, ∃ n ∈ s.typeNames, built.aliases.resolveName n = name) ∧
      db.TablesIn db.registry ∧
      ∀ name t, db.unalias name = some t → db.registry.Holds t := by
  intro built db
  have hwell : db.registry.WellFormed := wellFormed_registry_after sets settings calls
  have hover : db.IsOver built.registry := (isOver_build sets settings).after calls
  refine ⟨fun i hi => ?_, hwell, db.holds_call, fun i t ht => intern_name hwell ht, fun a b => ?_,
    fun name => mem_names_build, (tablesIn_build sets settings).after calls,
    fun name t ht => hover.holds_of_unalias ht⟩
  · obtain ⟨t, ht, hid⟩ := Registry.exists_byId? hi
    exact ⟨t, ht, hid, Registry.byId?_of_grown (db.names_prefix_after later) ht⟩
  · exact Registry.lookup_insert_eq_iff ((db.intern a).2.names_prefix_after later)

end Database

end MimeDatabase
