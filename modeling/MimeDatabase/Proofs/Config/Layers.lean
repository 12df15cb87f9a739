import Mathlib.Data.List.ReduceOption
import MimeDatabase.Config.Layers
import MimeDatabase.Proofs.Config.Toml.Keys
import MimeDatabase.Proofs.Text.Cut

/-!
# Every leaf of a layered configuration

Where each leaf of a configuration comes from. The files are layers in the sense of
`Table.isLeaf_foldl_over_iff`, because documents have each key once, which is all that is asked of
the services (`Services.ReadsProper`). The variables of an application are layers too, which is the
idea here: a variable that sets a key of a section is a table with that one leaf, laid over what is
there (`Environment.overrideAll_eq`). It is an empty table if the section holds something that is no
table. Whether a section can take keys at all is settled before the first variable, since no
variable changes it (`Environment.isOpen_over_patch`).
-/

namespace MimeDatabase

/-! ## Services -/

namespace Services

/-- A document is read as a table that has each key once, on every level. -/
def ReadsProper (services : Services) : Prop :=
  ∀ text, Ensures Table.Proper (services.readDocument text)

theorem standard_readsProper : standard.ReadsProper := Toml.readDocument_proper

end Services

/-! ## Files -/

namespace Config

variable {services : Services} {files : FileTree} {path : Path} {paths : List Path}
  {layers : List (Option Table)}

/-- The layers of files are laid over a table if all of them can be read; else the first fault is
reported. -/
theorem layered_eq (services : Services) (files : FileTree) (below : Table) (paths : List Path) :
    layered services files below paths =
      (paths.mapM (layer? services files)).map fun layers =>
        layers.reduceOption.foldl Table.over below := by
  induction paths generalizing below with
  | nil => rfl
  | cons path paths ih =>
    rw [layered, List.mapM_cons]
    cases layer? services files path with
    | error fault => rfl
    | ok upper? =>
      cases upper? with
      | none =>
        refine (ih below).trans ?_
        cases paths.mapM (layer? services files) <;> rfl
      | some upper =>
        refine (ih (Table.over below upper)).trans ?_
        cases paths.mapM (layer? services files) <;> rfl

/-- Files that are not there lay nothing over a table. -/
theorem layered_absent (h : ∀ path ∈ paths, files.isFile path = .ok false) (below : Table) :
    layered services files below paths = .ok below := by
  induction paths with
  | nil => rfl
  | cons path paths ih =>
    rw [List.forall_mem_cons] at h
    rw [layered, layer?, h.1]
    exact ih h.2

/-- What the files and the variables come to is read as settings. -/
theorem load_of_layered {env : Environment} {defaults? : Option Path} {table : Table}
    (h : layered services files [] (layerFiles services env defaults?) = .ok table) :
    load services files env defaults? =
      (services.readSettings (env.overrideAll appName table)).mapError (.invalid appName) := by
  rw [load, h]
  dsimp only [bind, Except.bind]
  cases services.readSettings (env.overrideAll appName table) <;> rfl

/-- The table of a file has each key once. -/
theorem readLayer_proper (hservices : services.ReadsProper) (path : Path) (content : List UInt8) :
    Ensures Table.Proper (readLayer services path content) := by
  rw [readLayer]
  split
  · exact .error _
  · split
    · exact .error _
    · exact .error _
    · next table hread =>
      exact .ok (hservices _ table hread)

theorem layer?_proper (hservices : services.ReadsProper) (files : FileTree) (path : Path) :
    Ensures (fun upper? => ∀ t ∈ upper?, Table.Proper t) (layer? services files path) := by
  have hnone : ∀ t ∈ (none : Option Table), t.Proper := fun _ ht => by cases ht
  rw [layer?]
  split
  · exact .error _
  · exact .ok hnone
  · split
    · refine .map (readLayer_proper hservices path _) fun table htable t ht => ?_
      rw [← Option.mem_some.mp ht]
      exact htable
    · exact .error _
    · exact .ok hnone

/-- If all layers can be read, all of them have each key once. -/
theorem layers_proper (hservices : services.ReadsProper)
    (h : paths.mapM (layer? services files) = .ok layers) :
    ∀ t ∈ layers.reduceOption, Table.Proper t := fun t ht =>
  Ensures.mapM (layer?_proper hservices files) paths layers h _ (List.reduceOption_mem_iff.mp ht) t
    rfl

end Config

/-! ## Variables -/

namespace Environment

/-- A variable sets a key of a section: its name is the prefix of the application and then, in any
case, the section, the first underscore that follows and the key. -/
def Sets (app name group key : String) : Prop :=
  ∃ rest, name.toList = prefixOf app ++ rest ∧
    Text.lower rest = group.toList ++ '_' :: key.toList ∧ '_' ∉ group.toList ∧ key ≠ ""

/-- Whether a section can take keys: it is missing or a table. -/
def isOpen (config : Table) (group : String) : Bool := (config.get? group).all Value.isTable

/-- The layer that a variable is over a configuration. -/
def patch (app : String) (config : Table) (v : String × String) : Table :=
  match target? app v.1 with
  | none => []
  | some (group, key) => if isOpen config group then [(group, .table [(key, convert v.2)])] else []

variable {app name group key : String} {config : Table} {env : Environment} {v : String × String}
  {path : List String} {w : Value}

theorem dropBeginning?_eq_some_iff {front cs rest : List Char} :
    dropBeginning? front cs = some rest ↔ cs = front ++ rest := by
  induction front generalizing cs with
  | nil => exact Option.some.injEq cs rest ▸ Iff.rfl
  | cons b front ih =>
    cases cs with
    | nil => exact iff_of_false (fun h => by cases h) fun h => by cases h
    | cons c cs =>
      rw [dropBeginning?, List.cons_append, List.cons.injEq]
      by_cases hb : b = c
      · rw [if_pos hb, ih, and_iff_right hb.symm]
      · exact iff_of_false (by rw [if_neg hb]; exact fun h => by cases h) fun h => hb h.1.symm

theorem target?_eq_some_iff : target? app name = some (group, key) ↔ Sets app name group key := by
  have hkey : key ≠ "" ↔ key.toList ≠ [] := not_congr String.toList_eq_nil_iff.symm
  constructor
  · intro h
    rw [target?] at h
    cases hrest : dropBeginning? (prefixOf app) name.toList with
    | none =>
      rw [hrest] at h
      cases h
    | some rest =>
      rw [hrest] at h
      dsimp only at h
      rcases hcut : Text.cutAt '_' (Text.lower rest) with ⟨front, _ | _ | ⟨c, back⟩⟩ <;>
        rw [hcut] at h <;> cases h
      obtain ⟨hlower, hfront⟩ := Text.cutAt_eq_some_iff.mp hcut
      refine ⟨rest, dropBeginning?_eq_some_iff.mp hrest, ?_, ?_, ?_⟩
      · rw [String.toList_ofList, String.toList_ofList]
        exact hlower
      · rw [String.toList_ofList]
        exact hfront
      · rw [hkey, String.toList_ofList]
        exact List.cons_ne_nil c back
  · rintro ⟨rest, hname, hlower, hgroup, hne⟩
    rw [target?, dropBeginning?_eq_some_iff.mpr hname]
    dsimp only
    rw [hlower, Text.cutAt_append hgroup]
    cases hback : key.toList with
    | nil => exact absurd hback (hkey.mp hne)
    | cons c back =>
      dsimp only
      rw [String.ofList_toList, ← hback, String.ofList_toList]

/-! ### Variables as layers -/

/-- The value of a variable becomes a truth value, a number, a list or, if it reads as none of
these, the text that it is. -/
theorem convert_cases (value : String) :
    (∃ b, convert value = .bool b) ∨ (∃ n, convert value = .int n) ∨
      (∃ x, convert value = .float x) ∨ (∃ items, convert value = .list items) ∨
      (convert value = .text value ∧ truth? value.toList = none ∧
        number? value.toList = none ∧ list? value.toList = none) := by
  rw [convert]
  cases htruth : truth? value.toList with
  | some b => exact Or.inl ⟨b, rfl⟩
  | none =>
    cases hnumber : number? value.toList with
    | some n =>
      rw [number?] at hnumber
      split at hnumber
      · obtain ⟨d, -, rfl⟩ := Option.map_eq_some_iff.mp hnumber
        exact Or.inr (Or.inr (Or.inl ⟨_, rfl⟩))
      · obtain ⟨i, -, rfl⟩ := Option.map_eq_some_iff.mp hnumber
        exact Or.inr (Or.inl ⟨i, rfl⟩)
    | none =>
      cases hlist : list? value.toList with
      | some l =>
        have hitems : ∃ items, l = .list items := by
          rw [list?] at hlist
          split_ifs at hlist <;> exact ⟨_, (Option.some.inj hlist).symm⟩
        obtain ⟨items, rfl⟩ := hitems
        exact Or.inr (Or.inr (Or.inr (Or.inl ⟨items, rfl⟩)))
      | none => exact Or.inr (Or.inr (Or.inr (Or.inr ⟨rfl, rfl, rfl, rfl⟩)))

theorem convert_not_table (value : String) : (convert value).isTable = false := by
  rcases convert_cases value with ⟨_, h⟩ | ⟨_, h⟩ | ⟨_, h⟩ | ⟨_, h⟩ | ⟨h, -⟩ <;> rw [h] <;> rfl

/-- The layer of a variable that sets a key is a table with this leaf, if the section can take
it. -/
theorem patch_eq (h : Sets app v.1 group key) : patch app config v =
    if isOpen config group then [(group, .table [(key, convert v.2)])] else [] := by
  rw [patch, target?_eq_some_iff.mpr h]

/-- The layer of a variable has each key once. -/
theorem patch_proper (app : String) (config : Table) (v : String × String) :
    (patch app config v).Proper := by
  have hsingle : ∀ (key : String) (w : Value), w.keysDistinct = true → Table.Proper [(key, w)] :=
    fun key w hw => Table.proper_nil.put hw
  rw [patch]
  split
  · exact Table.proper_nil
  · split
    · refine hsingle _ _ (Table.keysDistinct_iff.mpr (hsingle _ _ ?_))
      exact Value.keysDistinct_of_not_table (convert_not_table v.2)
    · exact Table.proper_nil

/-- To override a configuration with a variable is to lay its layer over it. -/
theorem override_eq (app : String) (config : Table) (v : String × String) :
    override app config v = Table.over config (patch app config v) := by
  have hkept : Table.over config [] = config := by rw [Table.over]
  rw [override, patch]
  cases target? app v.1 with
  | none => exact hkept.symm
  | some target =>
    obtain ⟨group, key⟩ := target
    dsimp only
    rw [putIn, isOpen]
    cases hgroup : Table.get? config group with
    | none =>
      rw [Option.all_none, if_pos rfl, Table.over_single, hgroup]
      rfl
    | some u =>
      rw [Option.all_some]
      cases hu : u.isTable with
      | false =>
        rw [if_neg Bool.false_ne_true, hkept]
        cases u <;> first | rfl | cases hu
      | true =>
        obtain ⟨fields, rfl⟩ := Value.exists_table hu
        rw [if_pos rfl, Table.over_single, hgroup, Option.map_some, Option.getD_some,
          Value.table_over_table, Table.over_single_of_not_table (convert_not_table v.2)]

/-- No variable changes which sections can take keys. -/
theorem isOpen_over_patch (app : String) (config : Table) (v : String × String) (group : String) :
    isOpen (Table.over config (patch app config v)) group = isOpen config group := by
  rw [isOpen, Table.get?_over (patch_proper app config v).nodup]
  cases hpatch : Table.get? (patch app config v) group with
  | none => rfl
  | some u =>
    have hu : u.isTable = true ∧ isOpen config group = true := by
      rw [patch] at hpatch
      split at hpatch
      · cases hpatch
      · split at hpatch
        next hopen =>
          obtain ⟨rfl, rfl⟩ := Table.get?_single_eq_some_iff.mp hpatch
          exact ⟨rfl, hopen⟩
        next => cases hpatch
    -- What a variable puts in place of a section is a table, whatever it is laid over.
    obtain ⟨fields, rfl⟩ := Value.exists_table hu.1
    rw [hu.2]
    dsimp only
    cases Table.get? config group with
    | none => rfl
    | some lower => cases lower <;> simp [Value.over, Value.isTable]

/-- Only which sections can take keys counts for the layer of a variable. -/
theorem patch_congr {other : Table} (h : ∀ group, isOpen other group = isOpen config group)
    (app : String) (v : String × String) : patch app other v = patch app config v := by
  simp only [patch, h]

/-- Overriding is to lay one layer for each variable over the configuration. -/
theorem overrideAll_eq (env : Environment) (app : String) (config : Table) :
    overrideAll env app config = (env.map (patch app config)).foldl Table.over config := by
  -- The sections that can take keys are those of the beginning, however far the fold has come.
  have hfold : ∀ current : Table, (∀ group, isOpen current group = isOpen config group) →
      env.foldl (override app) current = (env.map (patch app config)).foldl Table.over current := by
    induction env with
    | nil => exact fun current _ => rfl
    | cons v env ih =>
      intro current h
      rw [List.foldl_cons, List.map_cons, List.foldl_cons, override_eq, patch_congr h]
      refine ih _ fun group => ?_
      rw [← patch_congr h, isOpen_over_patch, h]
  exact hfold config fun _ => rfl

/-- The layer of a variable has at most one leaf: the key that it sets, with the converted value. -/
theorem isLeaf_patch_iff : (patch app config v).IsLeaf path w ↔ ∃ group key,
    Sets app v.1 group key ∧ isOpen config group = true ∧ path = [group, key] ∧
      w = convert v.2 := by
  have hconvert := convert_not_table v.2
  constructor
  · intro h
    rw [patch] at h
    split at h
    · exact absurd h Table.not_isLeaf_nil
    next group key htarget =>
      split at h
      next hopen =>
        obtain ⟨rest, rfl, hrest⟩ := Table.isLeaf_single_iff.mp h
        obtain ⟨last, rfl, hlast⟩ := Table.isLeaf_single_iff.mp hrest
        obtain ⟨rfl, hw⟩ := (Value.isLeaf_iff_of_not_table hconvert).mp hlast
        exact ⟨group, key, target?_eq_some_iff.mp htarget, hopen, rfl, hw⟩
      next => exact absurd h Table.not_isLeaf_nil
  · rintro ⟨group, key, hsets, hopen, rfl, rfl⟩
    rw [patch_eq hsets, if_pos hopen]
    exact Table.isLeaf_single_iff.mpr ⟨_, rfl, Table.isLeaf_single_iff.mpr
      ⟨_, rfl, (Value.isLeaf_iff_of_not_table hconvert).mpr ⟨rfl, rfl⟩⟩⟩

theorem determines_patch_cons_iff : (patch app config v).Determines (group :: path) ↔
    ∃ key, Sets app v.1 group key ∧ isOpen config group = true ∧
      Table.Determines [(key, convert v.2)] path := by
  constructor
  · intro h
    rw [patch] at h
    split at h
    · exact absurd h Table.not_determines_nil
    next g key htarget =>
      split at h
      next hopen =>
        obtain ⟨rfl, hrest⟩ := Table.determines_single_cons_iff.mp h
        exact ⟨key, target?_eq_some_iff.mp htarget, hopen, hrest⟩
      next => exact absurd h Table.not_determines_nil
  · rintro ⟨key, hsets, hopen, hrest⟩
    rw [patch_eq hsets, if_pos hopen]
    exact Table.determines_single_cons_iff.mpr ⟨rfl, hrest⟩

/-- A variable determines the key that it sets and all below it. -/
theorem determines_patch_iff : (patch app config v).Determines (group :: key :: path) ↔
    Sets app v.1 group key ∧ isOpen config group = true := by
  rw [determines_patch_cons_iff]
  constructor
  · rintro ⟨k, hsets, hopen, hrest⟩
    obtain ⟨rfl, -⟩ := Table.determines_single_cons_iff.mp hrest
    exact ⟨hsets, hopen⟩
  · rintro ⟨hsets, hopen⟩
    exact ⟨key, hsets, hopen, Table.determines_single_cons_iff.mpr
      ⟨rfl, Value.determines_of_not_table (convert_not_table v.2) path⟩⟩

/-- The section of a leaf can take keys if and only if the leaf is not the section itself. -/
theorem isOpen_of_isLeaf (h : config.IsLeaf (group :: path) w) :
    isOpen config group = true ↔ path ≠ [] := by
  obtain ⟨u, hu, hleaf⟩ := Value.isLeaf_table_cons_iff.mp h
  rw [isOpen, hu, Option.all_some]
  cases path with
  | nil =>
    obtain ⟨rfl, hplain⟩ := Value.isLeaf_nil_iff.mp hleaf
    rw [hplain]
    exact iff_of_false Bool.false_ne_true fun h => h rfl
  | cons key path =>
    refine iff_of_true ?_ (List.cons_ne_nil key path)
    by_contra hu
    exact Value.not_isLeaf_cons (Bool.not_eq_true _ ▸ hu) hleaf

/-- A variable keeps the leaves of a configuration that are neither what it sets nor below that. -/
theorem not_determines_patch_iff (h : config.IsLeaf path w) :
    ¬ (patch app config v).Determines path ↔
      ∀ group key, Sets app v.1 group key → ¬ [group, key] <+: path := by
  match path, h with
  | [], h =>
    obtain ⟨rfl, ⟨⟩⟩ := Value.isLeaf_nil_iff.mp h
  | [group], h =>
    -- The section itself is the leaf: no variable finds it open, and no path of a key is so short.
    refine iff_of_true (fun hdet => ?_) fun g k _ hprefix => ?_
    · obtain ⟨key, -, hopen, -⟩ := determines_patch_cons_iff.mp hdet
      exact (isOpen_of_isLeaf h).mp hopen rfl
    · exact absurd hprefix.length_le (by simp)
  | group :: key :: path, h =>
    have hopen := (isOpen_of_isLeaf h).mpr (List.cons_ne_nil key path)
    rw [determines_patch_iff, and_iff_left hopen]
    constructor
    · rintro hnot g k hsets hprefix
      simp only [List.cons_prefix_cons, List.nil_prefix, and_true] at hprefix
      obtain ⟨rfl, rfl⟩ := hprefix
      exact hnot hsets
    · exact fun hnot hsets => hnot group key hsets ⟨path, rfl⟩

/-- The leaves of a configuration under the variables of an application: the keys that variables
set, each with the value of the last of them, and the leaves neither at nor below such a key. -/
theorem isLeaf_overrideAll_iff : (overrideAll env app config).IsLeaf path w ↔
    (∃ before v after group key, env = before ++ v :: after ∧ Sets app v.1 group key ∧
      isOpen config group = true ∧ path = [group, key] ∧ w = convert v.2 ∧
      ∀ u ∈ after, ¬ Sets app u.1 group key) ∨
    (config.IsLeaf path w ∧
      ∀ u ∈ env, ∀ group key, Sets app u.1 group key → ¬ [group, key] <+: path) := by
  have hproper : ∀ t ∈ env.map (patch app config), t.Proper :=
    List.forall_mem_map.mpr fun v _ => patch_proper app config v
  rw [overrideAll_eq, Table.isLeaf_foldl_over_iff hproper, Table.lastLeaf_map_iff,
    List.forall_mem_map]
  refine or_congr ?_ (and_congr_right fun hleaf =>
    forall₂_congr fun u _ => not_determines_patch_iff hleaf)
  constructor
  · rintro ⟨before, v, after, hsplit, hleaf, hlast⟩
    obtain ⟨group, key, hsets, hopen, rfl, rfl⟩ := isLeaf_patch_iff.mp hleaf
    exact ⟨before, v, after, group, key, hsplit, hsets, hopen, rfl, rfl,
      fun u hu hother => hlast u hu (determines_patch_iff.mpr ⟨hother, hopen⟩)⟩
  · rintro ⟨before, v, after, group, key, hsplit, hsets, hopen, rfl, rfl, hlast⟩
    exact ⟨before, v, after, hsplit, isLeaf_patch_iff.mpr ⟨group, key, hsets, hopen, rfl, rfl⟩,
      fun u hu hdet => hlast u hu (determines_patch_iff.mp hdet).1⟩

end Environment

/-! ## All layers -/

namespace Config

/-- **Layering is exact at every leaf.** A leaf of one table over another is one of the upper, or
one of the lower whose path the upper does not determine. So a leaf of all files together is that of
the last file that determines its path. The variables of an application add a leaf for each key that
one of them sets in a section that is missing or a table, and the last such variable gives its
value; all other leaves are those of the configuration that lie neither at nor below such a key. -/
theorem leaves_layered :
    (∀ base upper : Table, upper.Proper → ∀ path w,
      Table.IsLeaf (Table.over base upper) path w ↔
        upper.IsLeaf path w ∨ (base.IsLeaf path w ∧ ¬ upper.Determines path)) ∧
    (∀ services : Services, services.ReadsProper → ∀ files env defaults? layers,
      (defaults?.toList ++ services.configFiles env appName).mapM (layer? services files) =
        .ok layers →
      ∃ table, layered services files [] (layerFiles services env defaults?) = .ok table ∧
        ∀ path w, table.IsLeaf path w ↔ Table.LastLeaf layers.reduceOption path w) ∧
    (∀ env app config path w,
      (Environment.overrideAll env app config).IsLeaf path w ↔
        (∃ before v after group key, env = before ++ v :: after ∧
          Environment.Sets app v.1 group key ∧ Environment.isOpen config group = true ∧
          path = [group, key] ∧ w = Environment.convert v.2 ∧
          ∀ u ∈ after, ¬ Environment.Sets app u.1 group key) ∨
        (config.IsLeaf path w ∧ ∀ u ∈ env, ∀ group key,
          Environment.Sets app u.1 group key → ¬ [group, key] <+: path)) := by
  refine ⟨fun base upper hupper path w => Table.isLeaf_over_iff hupper, ?_,
    fun env app config path w => Environment.isLeaf_overrideAll_iff⟩
  intro services hservices files env defaults? layers hread
  refine ⟨layers.reduceOption.foldl Table.over [], ?_, fun path w => ?_⟩
  · rw [layered_eq, layerFiles, hread]
    rfl
  · rw [Table.isLeaf_foldl_over_iff (layers_proper hservices hread)]
    exact or_iff_left fun h => Table.not_isLeaf_nil h.1

/-- Files of which the second sets again what the first sets. -/
def twoFiles : FileTree where
  nodes := [(["defaults.toml"], .file [97, 61, 49]), (["etc"], .directory),
    (["etc", "shared-mime"], .directory),
    (["etc", "shared-mime", "config.toml"], .file [97, 61, 50])]
  workingDirectory := []

theorem leaves_layered_twoFiles :
    Table.Proper [("a", .int 2)] ∧
    Table.IsLeaf (Table.over [("a", .int 1)] [("a", .int 2)]) ["a"] (.int 2) ∧
    ((some ⟨"/", ["defaults.toml"]⟩ : Option Path).toList ++
        Services.standard.configFiles [] appName).mapM (layer? .standard twoFiles) =
      .ok [some [("a", .int 1)], some [("a", .int 2)], none] ∧
    ∃ table, layered .standard twoFiles []
        (layerFiles .standard [] (some ⟨"/", ["defaults.toml"]⟩)) = .ok table ∧
      table.IsLeaf ["a"] (.int 2) := by
  have hproper : Table.Proper [("a", .int 2)] := Table.keysDistinct_iff.mp rfl
  have hleaf : Table.IsLeaf [("a", .int 2)] ["a"] (.int 2) := ⟨rfl, rfl⟩
  have htext : Text.utf8? [97, 61, 49] = .ok ['a', '=', '1'] ∧
      Text.utf8? [97, 61, 50] = .ok ['a', '=', '2'] := by
    simp [Text.utf8?, Text.decodeUtf8, Text.scanUtf8, Text.firstUtf8, Text.lead?,
      Text.readFollowing, Text.firstFault?]
  have hdefaults : layer? .standard twoFiles ⟨"/", ["defaults.toml"]⟩ =
      .ok (some [("a", .int 1)]) := by
    show (readLayer .standard _ [97, 61, 49]).map some = _
    rw [readLayer, htext.1]
    rfl
  have hsystem : layer? .standard twoFiles ⟨"/", ["etc", "shared-mime", "config.toml"]⟩ =
      .ok (some [("a", .int 2)]) := by
    show (readLayer .standard _ [97, 61, 50]).map some = _
    rw [readLayer, htext.2]
    rfl
  have huser : layer? .standard twoFiles
      ⟨"/", ["root", ".config", "shared-mime", "config.toml"]⟩ = .ok none := rfl
  have hread : ((some ⟨"/", ["defaults.toml"]⟩ : Option Path).toList ++
      Services.standard.configFiles [] appName).mapM (layer? .standard twoFiles) =
      .ok [some [("a", .int 1)], some [("a", .int 2)], none] := by
    show [(⟨"/", ["defaults.toml"]⟩ : Path), ⟨"/", ["etc", "shared-mime", "config.toml"]⟩,
      ⟨"/", ["root", ".config", "shared-mime", "config.toml"]⟩].mapM
        (layer? .standard twoFiles) = _
    rw [List.mapM_cons, List.mapM_cons, List.mapM_cons, hdefaults, hsystem, huser]
    rfl
  obtain ⟨table, htable, hiff⟩ := leaves_layered.2.1 .standard Services.standard_readsProper
    twoFiles [] _ _ hread
  exact ⟨hproper, (leaves_layered.1 _ _ hproper _ _).mpr (Or.inl hleaf), hread, table, htable,
    (hiff _ _).mpr ⟨[[("a", .int 1)]], _, [], rfl, hleaf, fun v hv => absurd hv List.not_mem_nil⟩⟩

end Config
end MimeDatabase
