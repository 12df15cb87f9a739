import MimeDatabase.Proofs.Database.Records

/-!
# Roots that are aliases

Every type is meant to inherit from `application/octet-stream`, every text type from `text/plain`,
and what is detected is meant to be a type that stands for itself. All of this holds as long as the
aliases leave the two base types alone. The hierarchy and the shape of contents know the base types
as such, though, while queries resolve the names of both, so an alias record for a base type sets
the two views apart. `roots_iff` says exactly when:

* The root of all types survives only an alias to `application/*`, a wildcard that covers the root
  itself. No record is about an aliased type, so the root has no recorded parents then and nothing
  else can lie above all types.
* The root of text types survives an alias to `text/*` for the same reason, and one to a type that
  `application/octet-stream` inherits from, and so does every type.
* A detected type stands for itself unless it is one of the base types and an alias.
-/

namespace MimeDatabase

/-- A wildcard is its media part and a star. -/
theorem MediaType.name_of_wildcard {t : MediaType} {media : String} (hne : media ≠ "")
    (hmedia : t.media = media) (hwild : t.subtype = "*") : t.name = media ++ "/" ++ "*" := by
  subst hmedia
  rw [TypeName.eq_media_subtype hne]
  exact congrArg (t.media ++ "/" ++ ·) hwild

/-- The evidence points to the best match of the name, to the type of the content, or to nothing. -/
theorem Detection.reconcile_of_forall {P : MediaType → Prop} {glob : Option Glob.Match}
    {content : Option MediaType} (hnone : P .octetStream) (hglob : ∀ m, glob = some m → P m.best)
    (hcontent : ∀ t, content = some t → P t) : P (reconcile glob content) := by
  cases glob with
  | none =>
    cases content with
    | none => exact hnone
    | some t => exact hcontent t rfl
  | some m =>
    cases content with
    | none => exact hglob m rfl
    | some t =>
      rw [reconcile]
      split
      · exact hcontent t rfl
      · split
        · exact hglob m rfl
        · exact hcontent t rfl

namespace Database

variable {db : Database} {r : Registry}

/-- What an alias stands for is interned. -/
theorem IsOver.holds_lookup_of_ne (h : db.IsOver r) {name : String}
    (hne : db.aliases.resolveName name ≠ TypeName.normalize name) : r.Holds (db.lookup name) := by
  have hknown : r.contains (db.aliases.resolveName name) = true := by
    apply h.target name
    rw [AliasTable.unalias?_eq, if_neg hne]
  rw [lookup, AliasTable.lookup, Registry.lookup_of_contains h.grown hknown]
  exact Registry.holds_lookup hknown

/-- No record is about an alias. -/
theorem IsOver.parents_of_resolveName_ne (h : db.IsOver r) {t : MediaType}
    (hne : db.aliases.resolveName t.name ≠ t.name) : db.hierarchy.parents t = [] := by
  rw [List.eq_nil_iff_forall_not_mem]
  exact fun p hp => hne (h.resolved t p hp).1

/-- Of each media part there are types that no record knows. -/
theorem IsOver.exists_foreign (h : db.IsOver r) (media : List Char)
    (hmedia : media.all Char.isLower = true) :
    ∃ name, r.Foreign (db.lookup name) ∧ (db.lookup name).media = String.ofList media := by
  obtain ⟨name, hnew, hnormal, hpart⟩ :=
    TypeName.exists_fresh hmedia (r.names ++ db.aliases.entries.map (·.1))
  rw [List.mem_append, not_or] at hnew
  have hnone : db.aliases.target? (TypeName.normalize name) = none := by
    rw [Option.eq_none_iff_forall_ne_some]
    intro target htarget
    rw [hnormal] at htarget
    exact hnew.2 (List.mem_map_of_mem (AliasTable.mem_entries_of_target? htarget))
  have hself : db.aliases.resolveName name = name :=
    (AliasTable.resolveName_of_ends (AliasTable.chase_eq_ends hnone)).trans hnormal
  refine ⟨name, ?_, ?_⟩
  · rw [lookup, AliasTable.lookup, hself]
    rcases Registry.lookup_eq_or_foreign h.grown name with ⟨hknown, -⟩ | ⟨-, hforeign⟩
    · rw [Registry.contains_iff, hnormal] at hknown
      exact absurd hknown hnew.1
    · exact hforeign
  · rw [MediaType.media, lookup_name h.aliases, hself, hpart]

/-! ## Base types as names -/

variable {t : MediaType}

/-- The registry knows the base types under their names. -/
theorem IsOver.lookup_base (h : db.IsOver r) (hbase : t = .octetStream ∨ t = .textPlain) :
    db.registry.contains t.name = true ∧ db.registry.lookup t.name = t := by
  have hempty :=
    Registry.names_empty_prefix_of_holds h.hierarchy.octetStream h.hierarchy.textPlain
  exact Registry.lookup_base (hempty.trans h.grown) hbase

/-- What the name of a base type stands for is a type of the tables' registry, and the base type
itself only if the name is no alias. -/
theorem IsOver.holds_lookup_base (h : db.IsOver r) (hbase : t = .octetStream ∨ t = .textPlain) :
    r.Holds (db.lookup t.name) ∧
      (db.lookup t.name = t ↔ db.aliases.resolveName t.name = t.name) := by
  have hfound := (h.lookup_base hbase).2
  have hnormal : TypeName.normalize t.name = t.name := by
    rw [← Registry.lookup_name db.registry, hfound]
  have hiff : db.lookup t.name = t ↔ db.aliases.resolveName t.name = t.name := by
    constructor
    · intro heq
      rw [← lookup_name h.aliases, heq]
    · intro hself
      rw [lookup, AliasTable.lookup, hself, hfound]
  refine ⟨?_, hiff⟩
  by_cases hself : db.aliases.resolveName t.name = t.name
  · rw [hiff.mpr hself]
    rcases hbase with rfl | rfl
    · exact h.hierarchy.octetStream
    · exact h.hierarchy.textPlain
  · exact h.holds_lookup_of_ne (hnormal.symm ▸ hself)

/-- An aliased base type reaches nothing but itself. -/
theorem IsOver.reaches_base_iff (h : db.IsOver r) {x : MediaType}
    (hne : db.aliases.resolveName t.name ≠ t.name) : db.hierarchy.Reaches t x ↔ x = t :=
  Hierarchy.reaches_iff_of_parents_eq_nil (h.parents_of_resolveName_ne hne)

/-- What a base type stands for covers it only as the type itself or as the wildcard of its media
part. -/
theorem IsOver.standsFor_base_iff (h : db.IsOver r) (hbase : t = .octetStream ∨ t = .textPlain) :
    Hierarchy.StandsFor (db.lookup t.name) t ↔
      db.aliases.resolveName t.name = t.name ∨
        db.aliases.resolveName t.name = t.media ++ "/" ++ "*" := by
  have hself : t = db.lookup t.name ↔ db.aliases.resolveName t.name = t.name :=
    eq_comm.trans (h.holds_lookup_base hbase).2
  rw [Hierarchy.StandsFor, hself, ← lookup_name h.aliases]
  refine or_congr_right ⟨fun ⟨hwild, hmedia⟩ => ?_, fun hwild => ?_⟩
  · have hne : t.media ≠ "" := by rcases hbase with rfl | rfl <;> decide
    exact MediaType.name_of_wildcard hne hmedia.symm hwild
  · have hpart : (db.lookup t.name).media = TypeName.media (t.media ++ "/" ++ "*") :=
      congrArg TypeName.media hwild
    have hsub : (db.lookup t.name).subtype = TypeName.subtype (t.media ++ "/" ++ "*") :=
      congrArg TypeName.subtype hwild
    rw [hpart, hsub]
    rcases hbase with rfl | rfl <;> decide

/-- A type that no record knows inherits from the two roots only. -/
theorem IsOver.isSubtype_iff_of_foreign (h : db.IsOver r) {name base : String}
    (hname : r.Foreign (db.lookup name)) (hbase : r.Holds (db.lookup base)) :
    db.isSubtype name base = true ↔
      ((db.lookup base).subtype = "*" ∧ (db.lookup name).media = (db.lookup base).media) ∨
      ((db.lookup name).media = "text" ∧ ∃ x, db.hierarchy.Reaches .textPlain x ∧
        Hierarchy.StandsFor (db.lookup base) x) ∨
      ∃ x, db.hierarchy.Reaches .octetStream x ∧ Hierarchy.StandsFor (db.lookup base) x := by
  have hself : Hierarchy.StandsFor (db.lookup base) (db.lookup name) ↔
      (db.lookup base).subtype = "*" ∧ (db.lookup name).media = (db.lookup base).media := by
    refine or_iff_right fun heq => hname.not_holds ?_
    rw [heq]
    exact hbase
  rw [isSubtype, Hierarchy.isSubtype_iff h.hierarchy hbase, ← hself]
  simp only [Hierarchy.above_iff_of_parents_eq_nil (h.hierarchy.parents_of_foreign hname),
    or_and_right, exists_or, exists_eq_left, and_assoc, exists_and_left]

/-! ## The two roots -/

/-- All types inherit from what `application/octet-stream` stands for only if that covers it. -/
theorem IsOver.isSubtype_octetStream_iff (h : db.IsOver r) :
    (∀ name, db.isSubtype name MediaType.octetStream.name = true) ↔
      Hierarchy.StandsFor (db.lookup MediaType.octetStream.name) .octetStream := by
  let root := db.lookup MediaType.octetStream.name
  obtain ⟨hheld, hiff⟩ := h.holds_lookup_base (t := .octetStream) (Or.inl rfl)
  constructor
  · intro hall
    by_cases hself :
        db.aliases.resolveName MediaType.octetStream.name = MediaType.octetStream.name
    · exact Or.inl (hiff.mpr hself).symm
    -- a type that no record knows, of a media part that neither text nor the root has
    obtain ⟨name, hforeign, htext, hpart⟩ : ∃ name, r.Foreign (db.lookup name) ∧
        (db.lookup name).media ≠ "text" ∧ (db.lookup name).media ≠ root.media := by
      by_cases ha : root.media = "a"
      · obtain ⟨name, hforeign, hmedia⟩ := h.exists_foreign ['b'] (by decide)
        exact ⟨name, hforeign, by rw [hmedia]; decide, by rw [hmedia, ha]; decide⟩
      · obtain ⟨name, hforeign, hmedia⟩ := h.exists_foreign ['a'] (by decide)
        exact ⟨name, hforeign, by rw [hmedia]; decide, by rw [hmedia]; exact Ne.symm ha⟩
    rcases (h.isSubtype_iff_of_foreign hforeign hheld).mp (hall name) with
      ⟨-, hmedia⟩ | ⟨hmedia, -⟩ | ⟨x, hpath, hstands⟩
    · exact absurd hmedia hpart
    · exact absurd hmedia htext
    · rw [h.reaches_base_iff hself] at hpath
      subst hpath
      exact hstands
  · intro hstands name
    rw [isSubtype, Hierarchy.isSubtype_iff h.hierarchy hheld]
    exact ⟨.octetStream, .octetStream _ _, hstands⟩

/-- All text types inherit from what `text/plain` stands for only if that covers it or lies above
all types anyway. -/
theorem IsOver.isSubtype_textPlain_iff (h : db.IsOver r) :
    (∀ name, (db.lookup name).media = "text" →
      db.isSubtype name MediaType.textPlain.name = true) ↔
      Hierarchy.StandsFor (db.lookup MediaType.textPlain.name) .textPlain ∨
        db.hierarchy.isSubtype .octetStream (db.lookup MediaType.textPlain.name) = true := by
  obtain ⟨hheld, hiff⟩ := h.holds_lookup_base (t := .textPlain) (Or.inr rfl)
  rw [Hierarchy.isSubtype_iff h.hierarchy hheld]
  constructor
  · intro hall
    by_cases hself : db.aliases.resolveName MediaType.textPlain.name = MediaType.textPlain.name
    · exact Or.inl (Or.inl (hiff.mpr hself).symm)
    obtain ⟨name, hforeign, htext⟩ := h.exists_foreign ['t', 'e', 'x', 't'] (by decide)
    rcases (h.isSubtype_iff_of_foreign hforeign hheld).mp (hall name htext) with
      ⟨hwild, hmedia⟩ | ⟨-, x, hpath, hstands⟩ | ⟨x, hpath, hstands⟩
    · exact Or.inl (Or.inr ⟨hwild, htext.symm.trans hmedia⟩)
    · rw [h.reaches_base_iff hself] at hpath
      subst hpath
      exact Or.inl hstands
    · exact Or.inr ⟨x, Or.inl hpath, hstands⟩
  · intro hroot name htext
    have hsees : db.hierarchy.SeesText (db.lookup name) := ⟨_, .refl, htext⟩
    rw [isSubtype, Hierarchy.isSubtype_iff h.hierarchy hheld]
    rcases hroot with hstands | ⟨x, habove, hstands⟩
    · exact ⟨.textPlain, Or.inr (Or.inl ⟨hsees, .refl⟩), hstands⟩
    · refine ⟨x, ?_, hstands⟩
      rcases habove with hpath | ⟨-, hpath⟩ | hpath
      · exact Or.inr (Or.inr hpath)
      · exact Or.inr (Or.inl ⟨hsees, hpath⟩)
      · exact Or.inr (Or.inr hpath)

/-! ## Detected types -/

/-- A type stands for itself. -/
def IsCanonical (db : Database) (t : MediaType) : Prop := (db.resolveAlias t.name).1 = t

theorem isCanonical_iff (h : db.IsOver r) (hknown : db.registry.contains t.name = true)
    (hfound : db.registry.lookup t.name = t) :
    db.IsCanonical t ↔ db.aliases.resolveName t.name = t.name := by
  have hcall : (db.resolveAlias t.name).1 =
      (db.registry.insert (db.aliases.resolveName t.name)).lookup
        (db.aliases.resolveName t.name) := rfl
  rw [IsCanonical, hcall]
  constructor
  · intro heq
    rw [← AliasTable.normalize_resolveName h.aliases, ← Registry.lookup_name, heq]
  · intro hself
    rw [hself, Registry.insert, if_pos hknown, hfound]

variable {sets : List RecordSet} {settings : DatabaseSettings}

/-- Records are about types that stand for themselves. -/
theorem IsRecorded.isCanonical (ht : IsRecorded sets settings t) (calls : List Call) :
    ((build sets settings).after calls).IsCanonical t := by
  have hover := (isOver_build sets settings).after calls
  have haliases : ((build sets settings).after calls).aliases = (build sets settings).aliases := by
    rw [after_eq]
  have hself := ht.resolveName_name
  obtain ⟨name, hname, rfl⟩ := ht
  have htarget := lookup_name (isOver_build sets settings).aliases name
  have hknown : (build sets settings).registry.contains
      ((build sets settings).lookup name).name = true := by
    rw [htarget]
    exact contains_resolveName hname
  refine (isCanonical_iff hover (Registry.contains_of_grown hover.grown hknown) ?_).mpr ?_
  · rw [Registry.lookup_of_contains hover.grown hknown, htarget]
    rfl
  · rw [haliases, hself]

/-- What is detected is the type of a record or one of the base types. -/
theorem isRecorded_or_base_detect (sets : List RecordSet) (settings : DatabaseSettings)
    (file : Option String) (content : Option (List UInt8)) (order : Magic.ByteOrder) :
    let t := (build sets settings).detect file content order
    IsRecorded sets settings t ∨ t = .octetStream ∨ t = .textPlain := by
  have hname : ∀ m, (build sets settings).nameEvidence file = some m →
      IsRecorded sets settings m.best := by
    intro m hm
    unfold nameEvidence at hm
    split at hm
    · cases hm
    · next name =>
      split at hm
      · cases hm
      · unfold Glob.Index.best? at hm
        cases hfound : (build sets settings).globs.candidates name with
        | nil =>
          rw [hfound] at hm
          cases hm
        | cons top rest =>
          rw [hfound] at hm
          cases hm
          exact isRecorded_of_mem_candidates (hfound ▸ List.mem_cons_self)
  have hcontent : ∀ t, (build sets settings).contentEvidence order content = some t →
      IsRecorded sets settings t ∨ t = .octetStream ∨ t = .textPlain := by
    intro t ht
    obtain ⟨data, -, rfl⟩ := Option.map_eq_some_iff.mp ht
    split
    · next found hfound => exact Or.inl (isRecorded_of_lookup hfound)
    · unfold Detection.shapeType
      split
      · exact Or.inr (Or.inr rfl)
      · exact Or.inr (Or.inl rfl)
  exact Detection.reconcile_of_forall (Or.inr (Or.inl rfl)) (fun m hm => Or.inl (hname m hm)) hcontent

/-- **When the implicit roots hold**, for any records and after any calls: all types inherit from
`application/octet-stream` unless it is an alias, or an alias to a wildcard that covers it; so do
all text types from `text/plain`, or it is an alias to what lies above all types anyway; and what is
detected stands for itself unless it is a base type that is an alias. -/
theorem roots_iff (sets : List RecordSet) (settings : DatabaseSettings) (calls : List Call) :
    let db := (build sets settings).after calls
    ((∀ name, db.isSubtype name TypeName.octetStream = true) ↔
      db.aliases.resolveName TypeName.octetStream = TypeName.octetStream ∨
        db.aliases.resolveName TypeName.octetStream = "application/*") ∧
    ((∀ name, (db.lookup name).media = "text" → db.isSubtype name TypeName.textPlain = true) ↔
      (db.aliases.resolveName TypeName.textPlain = TypeName.textPlain ∨
        db.aliases.resolveName TypeName.textPlain = "text/*") ∨
        db.hierarchy.isSubtype .octetStream (db.lookup TypeName.textPlain) = true) ∧
    ∀ file content order,
      let t := db.detect file content order
      db.IsCanonical t ↔
        (t = .octetStream ∨ t = .textPlain → db.aliases.resolveName t.name = t.name) := by
  intro db
  have hover : db.IsOver (build sets settings).registry := (isOver_build sets settings).after calls
  have hroot := hover.standsFor_base_iff (t := .octetStream) (Or.inl rfl)
  have htext := hover.standsFor_base_iff (t := .textPlain) (Or.inr rfl)
  refine ⟨hover.isSubtype_octetStream_iff.trans hroot,
    hover.isSubtype_textPlain_iff.trans (or_congr_left htext), fun file content order => ?_⟩
  intro t
  have hdetect : t = (build sets settings).detect file content order := by
    show db.detect file content order = _
    rw [show db = _ from after_eq _ _]
    rfl
  have hbaseIff : t = .octetStream ∨ t = .textPlain →
      (db.IsCanonical t ↔ db.aliases.resolveName t.name = t.name) := fun hbase =>
    isCanonical_iff hover (hover.lookup_base hbase).1 (hover.lookup_base hbase).2
  constructor
  · exact fun hcanonical hbase => (hbaseIff hbase).mp hcanonical
  · intro hself
    rcases isRecorded_or_base_detect sets settings file content order with hrecorded | hbase
    · exact hdetect ▸ hrecorded.isCanonical calls
    · rw [← hdetect] at hbase
      exact (hbaseIff hbase).mpr (hself hbase)

/-- An alias record for the root is enough. -/
example :
    (build [{ RecordSet.empty "memory" with
      aliases := [⟨"application/octet-stream", "application/x-binary"⟩] }] .default).isSubtype
        "image/png" "application/octet-stream" = false := by
  decide +kernel

end Database

end MimeDatabase
