import MimeDatabase.Proofs.Database.Numbering
import MimeDatabase.Proofs.Hierarchy.LastAncestor

/-!
# Icons follow the records

The icon of a type is that of the first record about it, in the order of the sources, and the
generic icon is the first recorded one or is inherited from an ancestor (`icons_follow_records`).
Both the record and the question may name a type by an alias, and names may have been interned since
the database was built. All of them are resolved to types, and types are what is compared.

Which ancestor an icon is inherited from is said twice. It is the first one in the order in which
the ancestors are yielded; and if it is reached over recorded edges, then no ancestor that is fewer
edges away has a generic icon. The second follows from the first because an ancestor that is nearer
stands further in front, however the recorded edges run (`mem_front_of_nearer`).
-/

namespace MimeDatabase

/-- Before an ancestor stand all ancestors that are fewer recorded edges away. -/
theorem Hierarchy.mem_front_of_nearer {edges : List (MediaType × MediaType)} {t x y : MediaType}
    {front back : List MediaType} (hsplit : (ofEdges edges).ancestors t = front ++ y :: back)
    (hx : x ∈ (ofEdges edges).ancestors t) (hxy : Nearer edges t x y) : x ∈ front := by
  have hsorted := (ofEdges edges).pairwise_precedes_ancestors t
  rw [hsplit] at hsorted hx
  rcases List.mem_append.mp hx with hfront | hrest
  · exact hfront
  rcases List.mem_cons.mp hrest with heq | hback
  · exact absurd heq.symm hxy.ne
  · -- what stands behind an ancestor is not met sooner
    have htail := (List.pairwise_append.mp hsorted).2.1
    exact absurd ((List.pairwise_cons.mp htail).1 x hback).explicit hxy.not_sooner

namespace IconTable

/-! ## Generic icons -/

/-- What the generic icon of a type has to be, where `icon?` is what is recorded for types: its own;
without that, the icon of an ancestor; without any, what is called after the media part. The
ancestor is the first one with an icon, and if it is reached over recorded edges, then no ancestor
that is nearer has one. -/
inductive IsGenericIcon (icon? : MediaType → Option String) (edges : List (MediaType × MediaType))
    (ancestors : List MediaType) (fallback : String) (t : MediaType) : String → Prop
  | own {icon : String} (hicon : icon? t = some icon) :
      IsGenericIcon icon? edges ancestors fallback t icon
  | inherited {front back : List MediaType} {a : MediaType} {icon : String}
      (hown : icon? t = none) (hsplit : ancestors = front ++ a :: back)
      (hicon : icon? a = some icon) (hfirst : ∀ b ∈ front, icon? b = none)
      (hnearest : Hierarchy.RecordedPath edges t a →
        ∀ b ∈ ancestors, Hierarchy.Nearer edges t b a → icon? b = none) :
      IsGenericIcon icon? edges ancestors fallback t icon
  | ofMedia (hnone : ∀ a ∈ t :: ancestors, icon? a = none) (hmedia : t.media ≠ "") :
      IsGenericIcon icon? edges ancestors fallback t (t.media ++ "-x-generic")
  | ofLastResort (hnone : ∀ a ∈ t :: ancestors, icon? a = none) (hmedia : t.media = "") :
      IsGenericIcon icon? edges ancestors fallback t fallback

section Generic

variable (table : IconTable) (edges : List (MediaType × MediaType)) (t : MediaType)

/-- What the icon table answers is the generic icon. -/
theorem isGenericIcon_genericIconName :
    IsGenericIcon (fun a => table.genericIcons.lookup a) edges
      ((Hierarchy.ofEdges edges).ancestors t) table.fallback t
      (table.genericIconName (.ofEdges edges) t) := by
  unfold genericIconName
  split
  next icon hfound =>
    obtain ⟨front, a, back, hsplit, hicon, hfirst⟩ := List.findSome?_eq_some_iff.mp hfound
    cases front with
    | nil =>
      obtain ⟨rfl, -⟩ := List.cons.inj hsplit
      exact .own hicon
    | cons _ front =>
      obtain ⟨rfl, hrest⟩ := List.cons.inj hsplit
      rw [List.forall_mem_cons] at hfirst
      exact .inherited hfirst.1 hrest hicon hfirst.2 fun _ b hb hnearer =>
        hfirst.2 b (Hierarchy.mem_front_of_nearer hrest hb hnearer)
  next hnone =>
    rw [List.findSome?_eq_none_iff] at hnone
    split
    next hmedia => exact .ofLastResort hnone hmedia
    next hmedia => exact .ofMedia hnone hmedia

/-- There is one generic icon. -/
theorem isGenericIcon_iff {icon : String} :
    IsGenericIcon (fun a => table.genericIcons.lookup a) edges
      ((Hierarchy.ofEdges edges).ancestors t) table.fallback t icon ↔
      table.genericIconName (.ofEdges edges) t = icon := by
  constructor
  · intro h
    cases h with
    | own hicon =>
      rw [genericIconName, List.findSome?_cons, hicon]
    | inherited hown hsplit hicon hfirst _ =>
      exact Hierarchy.genericIconName_of_ancestors hown hsplit hfirst hicon
    | ofMedia hnone hmedia =>
      rw [genericIconName, List.findSome?_eq_none_iff.mpr hnone]
      exact if_neg hmedia
    | ofLastResort hnone hmedia =>
      rw [genericIconName, List.findSome?_eq_none_iff.mpr hnone]
      exact if_pos hmedia
  · rintro rfl
    exact table.isGenericIcon_genericIconName edges t

end Generic

/-! ## All icons of a type -/

theorem mem_addName {names : List String} {name x : String} :
    x ∈ addName names name ↔ x ∈ names ∨ x = name := by
  unfold addName
  split
  next hmem =>
    refine (or_iff_left_of_imp fun heq => ?_).symm
    exact heq ▸ List.contains_iff_mem.mp hmem
  next => rw [List.mem_append, List.mem_singleton]

/-- A name is added once only. -/
theorem nodup_addName {names : List String} (h : names.Nodup) (name : String) :
    (addName names name).Nodup := by
  unfold addName
  split
  next => exact h
  next hnew =>
    rw [List.contains_iff_mem] at hnew
    refine List.nodup_append.mpr ⟨h, List.nodup_singleton name, fun a ha b hb heq => hnew ?_⟩
    rw [← List.mem_singleton.mp hb, ← heq]
    exact ha

theorem prefix_addName (names : List String) (name : String) : names <+: addName names name := by
  unfold addName
  split
  next => exact List.prefix_rfl
  next => exact List.prefix_append names [name]

theorem addName_sublist (names : List String) (name : String) :
    (addName names name).Sublist (names ++ [name]) := by
  unfold addName
  split
  next => exact List.sublist_append_left names [name]
  next => exact List.Sublist.refl _

/-- The recorded icon and the one that is called after the type, of which the first holds. -/
def ownNames (table : IconTable) (t : MediaType) : List String :=
  addName (table.icons.lookup t).toList (TypeName.dashed t.name)

/-- The names of a type itself: its icon, and then the name derived from its own. -/
theorem ownNames_ordered (table : IconTable) (t : MediaType) :
    (table.ownNames t).Nodup ∧ (table.ownNames t).head? = some (table.iconName t) ∧
      TypeName.dashed t.name ∈ table.ownNames t ∧
      (table.ownNames t).Sublist [table.iconName t, TypeName.dashed t.name] := by
  unfold ownNames iconName
  cases table.icons.lookup t with
  | none =>
    have hown : addName [] (TypeName.dashed t.name) = [TypeName.dashed t.name] := rfl
    rw [Option.toList_none, hown]
    exact ⟨List.nodup_singleton _, rfl, List.mem_singleton.mpr rfl,
      List.singleton_sublist.mpr List.mem_cons_self⟩
  | some icon =>
    obtain ⟨rest, hrest⟩ := prefix_addName [icon] (TypeName.dashed t.name)
    have hhead : (addName [icon] (TypeName.dashed t.name)).head? = some icon := by
      rw [← hrest]
      rfl
    exact ⟨nodup_addName (List.nodup_singleton icon) _, hhead, mem_addName.mpr (Or.inr rfl),
      addName_sublist [icon] _⟩

/-- All icons of a type, each once: the one that holds, the one that is called after the type, and
the generic one. -/
theorem iconNames_ordered (table : IconTable) (h : Hierarchy) (t : MediaType) :
    (table.iconNames h t).Nodup ∧ (table.iconNames h t).head? = some (table.iconName t) ∧
      TypeName.dashed t.name ∈ table.iconNames h t ∧
      table.genericIconName h t ∈ table.iconNames h t ∧
      (table.iconNames h t).Sublist
        [table.iconName t, TypeName.dashed t.name, table.genericIconName h t] := by
  have heq : table.iconNames h t = addName (table.ownNames t) (table.genericIconName h t) := rfl
  obtain ⟨hnodup, hhead, hdashed, hsublist⟩ := table.ownNames_ordered t
  rw [heq]
  refine ⟨nodup_addName hnodup _, ?_, mem_addName.mpr (Or.inl hdashed),
    mem_addName.mpr (Or.inr rfl), ?_⟩
  · obtain ⟨rest, hrest⟩ := prefix_addName (table.ownNames t) (table.genericIconName h t)
    rw [← hrest, List.head?_append, hhead]
    rfl
  · exact (addName_sublist _ _).trans (hsublist.append_right [table.genericIconName h t])

end IconTable

namespace Database

/-! ## Records -/

/-- The icon of the first of some records whose name stands for a type. -/
def recordedIcon? (db : Database) (records : List Record.Icon) (t : MediaType) : Option String :=
  (records.find? fun i => db.lookup i.typeName = t).map (·.icon)

/-- The icon of a type is that of the first record whose type resolves to it. -/
theorem lookup_recordIcons (resolve : String → MediaType) (records : List Record.Icon)
    (t : MediaType) : (recordIcons resolve records).lookup t =
      (records.find? fun i => resolve i.typeName = t).map (·.icon) := by
  unfold recordIcons
  induction records with
  | nil => rfl
  | cons i records ih =>
    rw [List.map_cons, List.lookup_cons, List.find?_cons]
    by_cases heq : resolve i.typeName = t
    · rw [heq, beq_self_eq_true, decide_eq_true rfl]
      rfl
    · rw [beq_eq_false_iff_ne.mpr (Ne.symm heq), decide_eq_false heq]
      exact ih

variable {sets : List RecordSet} {settings : DatabaseSettings}

/-- A name of a record is looked up as when the database was built. -/
theorem lookup_after {name : String} (h : name ∈ recordNames sets) (calls : List Call) :
    ((build sets settings).after calls).lookup name = (build sets settings).lookup name := by
  have haliases : ((build sets settings).after calls).aliases = (build sets settings).aliases := by
    rw [after_eq]
  unfold lookup
  rw [haliases]
  exact Registry.lookup_of_contains (names_prefix_after _ calls) (contains_resolveName h)

/-- Calls do not change what the subclass records stand for. -/
theorem recordEdges_after (calls : List Call) :
    recordEdges ((build sets settings).after calls).lookup sets =
      recordEdges (build sets settings).lookup sets := by
  refine List.map_congr_left fun s hs => ?_
  have hname : ∀ name, name = s.typeName ∨ name = s.parent → name ∈ recordNames sets :=
    fun name h => mem_recordNames.mpr (Or.inr (Or.inl ⟨s, hs, h⟩))
  rw [lookup_after (hname _ (Or.inl rfl)), lookup_after (hname _ (Or.inr rfl))]

/-- Calls do not change what the icon records stand for. -/
theorem recordIcons_after {records : List Record.Icon}
    (h : ∀ i ∈ records, i.typeName ∈ recordNames sets) (calls : List Call) :
    recordIcons ((build sets settings).after calls).lookup records =
      recordIcons (build sets settings).lookup records := by
  refine List.map_congr_left fun i hi => ?_
  rw [lookup_after (h i hi)]

/-- **Icons follow the records.** Let a database be built and names be interned, and let a name
stand for a type. The name with a dash in the place of every slash is derived from it, and its media
part is what stands before its first slash. The icon of the name is that of the first record, source
by source, whose name stands for the type too, or the derived name. The generic icon is that of the
first generic record for the type, that of the first ancestor with such a record, which is a nearest
one, or what is called after the media part. All icons together are these, the one that holds in
front and the generic one behind, each once. -/
theorem icons_follow_records (sets : List RecordSet) (settings : DatabaseSettings)
    (calls : List Call) (name : String) :
    let db := (build sets settings).after calls
    let t := db.lookup name
    let derived := TypeName.dashed t.name
    (∀ i : Nat, derived.toList[i]? =
        t.name.toList[i]?.map fun c => if c = '/' then '-' else c) ∧
      (∀ front back, '/' ∉ front → t.name = String.ofList (front ++ '/' :: back) →
        t.media = String.ofList front) ∧
      ('/' ∉ t.name.toList → t.media = "") ∧
      db.iconName name = (db.recordedIcon? (sets.flatMap (·.icons)) t).getD derived ∧
      (∀ icon, db.genericIconName name = icon ↔
        IconTable.IsGenericIcon (db.recordedIcon? (sets.flatMap (·.genericIcons)))
          (recordEdges db.lookup sets) (db.ancestors name) settings.defaultGenericIcon t icon) ∧
      (db.iconNames name).Nodup ∧ (db.iconNames name).head? = some (db.iconName name) ∧
      derived ∈ db.iconNames name ∧ db.genericIconName name ∈ db.iconNames name ∧
      (db.iconNames name).Sublist [db.iconName name, derived, db.genericIconName name] := by
  intro db t derived
  have hhierarchy : db.hierarchy = .ofEdges (recordEdges db.lookup sets) := by
    rw [recordEdges_after, ← hierarchy_build]
    simp only [db, after_eq]
  have hicons : db.icons =
      { icons := recordIcons db.lookup (sets.flatMap (·.icons))
        genericIcons := recordIcons db.lookup (sets.flatMap (·.genericIcons))
        fallback := settings.defaultGenericIcon } := by
    rw [recordIcons_after fun i hi => ?_, recordIcons_after fun i hi => ?_, ← icons_build]
    · simp only [db, after_eq]
    · simp only [mem_recordNames]
      exact Or.inr (Or.inr (Or.inr (Or.inr (Or.inr ⟨i, hi, rfl⟩))))
    · simp only [mem_recordNames]
      exact Or.inr (Or.inr (Or.inr (Or.inr (Or.inl ⟨i, hi, rfl⟩))))
  refine ⟨TypeName.getElem?_dashed t.name, fun front back hfront hname => ?_,
    TypeName.media_of_notMem, ?_, fun icon => ?_, db.icons.iconNames_ordered db.hierarchy t⟩
  · rw [MediaType.media, hname, TypeName.media_ofList hfront]
  · rw [iconName, IconTable.iconName, hicons, lookup_recordIcons]
    rfl
  · have hrecorded : db.recordedIcon? (sets.flatMap (·.genericIcons)) =
        fun a => db.icons.genericIcons.lookup a := by
      funext a
      rw [hicons, lookup_recordIcons]
      rfl
    have hfallback : settings.defaultGenericIcon = db.icons.fallback := by rw [hicons]
    rw [genericIconName, ancestors, hhierarchy, hrecorded, hfallback]
    exact (db.icons.isGenericIcon_iff _ t).symm

end Database

end MimeDatabase
